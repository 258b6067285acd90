import SpriteStage.Proofs.Performance.Ensemble

/-! # Invariants of a performance

What the steps of some sprites keep, and the time that goes by, a performance of these sprites keeps
as a whole, in whatever order they take their turns.

* `Session.Keeps` — a property is kept
* `Session.Keeps.performAll` — it holds when the last sprite has finished
-/

namespace SpriteStage

set_option autoImplicit false

/-- Every performer is one of the given sprites. -/
def AllOf (cast : List SpriteId) (ps : List Performer) : Prop :=
  ∀ p ∈ ps, p.sprite ∈ cast

theorem AllOf.append {cast : List SpriteId} {ps qs : List Performer} (h₁ : AllOf cast ps)
    (h₂ : AllOf cast qs) : AllOf cast (ps ++ qs) :=
  fun p mem => (List.mem_append.mp mem).elim (h₁ p) (h₂ p)

theorem AllOf.perm {cast : List SpriteId} {ps qs : List Performer} (h : AllOf cast ps)
    (perm : ps.Perm qs) : AllOf cast qs :=
  fun p mem => h p (perm.mem_iff.mpr mem)

namespace Session

/-- The steps of some sprites keep a property, and so does the time that goes by. -/
structure Keeps (cast : List SpriteId) (P : Session → Prop) : Prop where
  step : ∀ {s : Session} {id : SpriteId} (step : Step), P s → id ∈ cast → P (s.performStep id step)
  time : ∀ {s : Session} {time : Nat}, P s → s.now ≤ time → P (s.advanceTo time)

namespace Keeps

variable {cast : List SpriteId} {P : Session → Prop}

theorem takeSteps (h : Keeps cast P) {sprite : SpriteId} (member : sprite ∈ cast) (place : Nat)
    (allowance : Allowance) (deadline : Option Nat) (steps : List Step) {s : Session} (holds : P s) :
    P (Performer.takeSteps sprite place allowance deadline steps s).session := by
  fun_induction Performer.takeSteps sprite place allowance deadline steps s with
  | case1 => exact holds
  | case2 allowance deadline ms rest s time ended ih => exact ih holds
  | case3 => exact holds
  | case4 allowance deadline step rest s other ih => exact ih (h.step step holds member)

theorem round (h : Keeps cast P) (allowance : Allowance) {ps : List Performer} {s : Session}
    (all : AllOf cast ps) (notOverdue : ∀ p ∈ ps, p.NotOverdue s.now) (holds : P s) :
    P (Session.round allowance ps s).session ∧
      AllOf cast ((Session.round allowance ps s).heldUp ++ (Session.round allowance ps s).waiting) := by
  induction ps generalizing allowance s with
  | nil => exact ⟨holds, List.forall_mem_nil _⟩
  | cons p rest ih =>
    have now : (p.goOn allowance s).session.now = s.now := Performer.now_takeSteps _ _ _ _ _ _
    have member : p.sprite ∈ cast := all p List.mem_cons_self
    have first : P (p.goOn allowance s).session := h.takeSteps member _ _ _ _ holds
    obtain ⟨others, theirs⟩ := ih (p.goOn allowance s).allowance
      (fun q mem => all q (List.mem_cons_of_mem p mem))
      (fun q mem => now ▸ notOverdue q (List.mem_cons_of_mem p mem)) first
    have own : AllOf cast (p.goOn allowance s).rest.toList := by
      intro q mem
      obtain ⟨same, -⟩ := Performer.rest_takeSteps (notOverdue p List.mem_cons_self)
        (Option.mem_toList.mp mem)
      exact same ▸ member
    rw [Session.round, Round.session_withTurn]
    exact ⟨others, (theirs.append own).perm (Round.withTurn_perm _ _).symm⟩

theorem rounds (h : Keeps cast P) (order : TurnOrder) (limit : Option Nat)
    {waiting ps : List Performer} {s : Session} (all : AllOf cast (ps ++ waiting))
    (notOverdue : ∀ p ∈ ps, p.NotOverdue s.now) (holds : P s) :
    P (Session.rounds order limit waiting ps s).1 ∧
      AllOf cast (Session.rounds order limit waiting ps s).2 := by
  fun_induction Session.rounds order limit waiting ps s with
  | case1 => exact ⟨holds, all⟩
  | case2 waiting p rest s r ih =>
    have turns : AllOf cast (p :: rest) := fun q mem => all q (List.mem_append_left _ mem)
    obtain ⟨after, theirs⟩ := h.round (roundAllowance limit) turns notOverdue holds
    have others : AllOf cast waiting := fun q mem => all q (List.mem_append_right _ mem)
    have regrouped := (theirs.append others).perm (regroup_perm order r.heldUp r.waiting waiting)
    exact ih regrouped (notOverdue_afterHoldUp order limit notOverdue) after

theorem perform (h : Keeps cast P) (order : TurnOrder) (limit : Option Nat)
    {waiting : List Performer} {s : Session} (all : AllOf cast waiting)
    (waits : ∀ p ∈ waiting, p.WaitsFrom s.now) (holds : P s) :
    P (Session.perform order limit waiting s) := by
  fun_induction Session.perform order limit waiting s with
  | case1 => exact holds
  | case2 waiting s time next due after ih =>
    have split : waiting.Perm (due ++ notDueAt time waiting) := perm_arrange order time waiting
    have notOverdue : ∀ p ∈ due, p.NotOverdue time := notOverdue_arrange order time waiting
    obtain ⟨later, allLater⟩ := h.rounds order limit (s := s.advanceTo time) (all.perm split)
      notOverdue (h.time holds (le_nextTime? waits next))
    have now : after.1.now = time := now_rounds _ _ _ _ _
    have waitsOn : ∀ q ∈ after.2, q.WaitsFrom (time + 1) :=
      waits_rounds order limit (s := s.advanceTo time) (waits_notDueAt waits next) notOverdue
    exact ih allLater (fun q mem => now ▸ (waitsOn q mem).mono (Nat.le_succ time)) later

/-- What holds at the beginning of a performance holds at its end. -/
theorem performAll (h : Keeps cast P) (order : TurnOrder) (limit : Option Nat)
    {ps : List Performer} {s : Session} (all : AllOf cast ps)
    (begin : ∀ p ∈ ps, p.deadline = none) (holds : P s) :
    P (Session.performAll order limit ps s) := by
  have notOverdue := notOverdue_of_begin begin s.now
  have everyone : AllOf cast (ps ++ []) := (List.append_nil ps).symm ▸ all
  have nobody : ∀ q ∈ ([] : List Performer), q.WaitsFrom (s.now + 1) := List.forall_mem_nil _
  obtain ⟨after, allAfter⟩ := h.rounds order limit everyone notOverdue holds
  have waitsOn := waits_rounds order limit nobody notOverdue
  refine h.perform order limit allAfter (fun q mem => ?_) after
  rw [now_rounds]
  exact (waitsOn q mem).mono (Nat.le_succ _)

end Keeps

end Session

end SpriteStage
