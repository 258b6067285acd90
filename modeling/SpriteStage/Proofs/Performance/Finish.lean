import SpriteStage.Proofs.Performance.Ensemble
import SpriteStage.Proofs.Performance.Total

/-! # When performers finish

A performer that goes on from some time finishes when all its steps have lasted. Turns of others do
not put this off, so that a performance of several ends when the last of them has finished.

* `endTime`, `Performer.endTime` — when some steps are done, and when a performer has finished
* `finish` — when the last of several performers has finished
* `Session.now_performAll`, `Session.now_performAlone` — a performance ends at that time
-/

namespace SpriteStage

set_option autoImplicit false

/-! ## One performer -/

/--
When some steps are done, if they are come to at time `now`. If they are waited in front of already,
`deadline` is the end of this wait.
-/
def endTime : Nat → Option Nat → List Step → Nat
  | now, _, [] => now
  | now, deadline, .wait ms :: rest => endTime (deadline.getD (now + delayLength ms)) none rest
  | now, _, _ :: rest => endTime now none rest

theorem endTime_none (now : Nat) (steps : List Step) :
    endTime now none steps = now + total Step.duration steps := by
  induction steps generalizing now with
  | nil => rfl
  | cons step rest ih =>
    cases step with
    | wait ms =>
      have lasts : Step.duration (.wait ms) = delayLength ms := rfl
      rw [endTime, ih, Option.getD_none, total_cons, lasts]
      omega
    | _ => simp [endTime, ih, Step.duration]

namespace Performer

/-- When a performer has finished who goes on from time `now`. -/
def endTime (p : Performer) (now : Nat) : Nat :=
  SpriteStage.endTime now p.deadline p.steps

theorem WaitsFrom.endTime_eq {time : Nat} {p : Performer} (h : p.WaitsFrom time) (now later : Nat) :
    p.endTime now = p.endTime later := by
  obtain ⟨due, ms, rest, deadline, _, steps⟩ := h
  simp only [endTime, deadline, steps, SpriteStage.endTime, Option.getD_some]

theorem WaitsFrom.le_endTime {time : Nat} {p : Performer} (h : p.WaitsFrom time) (now : Nat) :
    time ≤ p.endTime now := by
  obtain ⟨due, ms, rest, deadline, later, steps⟩ := h
  have ends : p.endTime now = due + total Step.duration rest := by
    rw [endTime, deadline, steps, SpriteStage.endTime, Option.getD_some, endTime_none]
  omega

end Performer

/-! ## Several performers -/

/-- When the last of several performers has finished who go on from time `now`. -/
def finish (now : Nat) (ps : List Performer) : Nat :=
  (ps.map fun p => p.endTime now).foldr max now

theorem finish_cons (now : Nat) (p : Performer) (rest : List Performer) :
    finish now (p :: rest) = max (p.endTime now) (finish now rest) := rfl

theorem le_finish (now : Nat) (ps : List Performer) : now ≤ finish now ps := by
  induction ps with
  | nil => exact Nat.le_refl _
  | cons p rest ih =>
    rw [finish_cons]
    omega

theorem finish_append (now : Nat) (ps qs : List Performer) :
    finish now (ps ++ qs) = max (finish now ps) (finish now qs) := by
  induction ps with
  | nil =>
    have least := le_finish now qs
    have nobody : finish now [] = now := rfl
    rw [List.nil_append, nobody]
    omega
  | cons p rest ih =>
    rw [List.cons_append, finish_cons, finish_cons, ih]
    omega

theorem finish_perm {ps qs : List Performer} (h : ps.Perm qs) (now : Nat) :
    finish now ps = finish now qs := by
  induction h with
  | nil => rfl
  | cons p _ ih => rw [finish_cons, finish_cons, ih]
  | swap p q rest =>
    simp only [finish_cons]
    omega
  | trans _ _ first later => exact first.trans later

/-- Performers who all wait until `late` or longer can as well be looked at from then on. -/
theorem finish_of_waits {ps : List Performer} {early late : Nat} (le : early ≤ late)
    (waits : ∀ p ∈ ps, p.WaitsFrom late) : finish late ps = max late (finish early ps) := by
  induction ps with
  | nil =>
    have nobody : ∀ now, finish now [] = now := fun _ => rfl
    rw [nobody, nobody]
    omega
  | cons p rest ih =>
    have own : p.endTime late = p.endTime early := (waits p List.mem_cons_self).endTime_eq _ _
    have others := ih fun q mem => waits q (List.mem_cons_of_mem p mem)
    rw [finish_cons, finish_cons, own, others]
    omega

theorem le_finish_of_mem {ps : List Performer} {p : Performer} (mem : p ∈ ps) (now : Nat) :
    p.endTime now ≤ finish now ps := by
  induction ps with
  | nil => cases mem
  | cons q rest ih =>
    rw [finish_cons]
    rcases List.mem_cons.mp mem with rfl | later
    · omega
    · have := ih later
      omega

/-! ## Turns and rounds -/

theorem Performer.endTime_takeSteps (sprite : SpriteId) (place : Nat) (allowance : Allowance)
    {deadline : Option Nat} (steps : List Step) {s : Session}
    (notOverdue : ∀ due ∈ deadline, s.now ≤ due) :
    SpriteStage.endTime s.now deadline steps =
      finish s.now (takeSteps sprite place allowance deadline steps s).rest.toList := by
  fun_induction takeSteps sprite place allowance deadline steps s with
  | case1 => simp [SpriteStage.endTime, finish]
  | case2 allowance deadline ms rest s time ended ih =>
    -- a wait that is over ends just now
    have later : s.now ≤ time := by
      cases deadline with
      | none => exact Nat.le_add_right _ _
      | some due => exact notOverdue due rfl
    have now : time = s.now := Nat.le_antisymm ended.2 later
    have goesOn : SpriteStage.endTime s.now deadline (.wait ms :: rest) =
        SpriteStage.endTime time none rest := by rw [SpriteStage.endTime]
    rw [goesOn, now]
    exact ih (by simp)
  | case3 allowance deadline ms rest s time ended =>
    have later : s.now ≤ time := by
      cases deadline with
      | none => exact Nat.le_add_right _ _
      | some due => exact notOverdue due rfl
    have waits : WaitsFrom s.now ⟨sprite, place, some time, .wait ms :: rest⟩ :=
      ⟨time, ms, rest, rfl, later, rfl⟩
    have least := waits.le_endTime s.now
    have goesOn : SpriteStage.endTime s.now deadline (.wait ms :: rest) =
        endTime ⟨sprite, place, some time, .wait ms :: rest⟩ s.now := by
      simp [endTime, SpriteStage.endTime, time]
    have nobody : finish s.now [] = s.now := rfl
    rw [Option.toList_some, finish_cons, nobody, goesOn]
    omega
  | case4 allowance deadline step rest s other ih =>
    have goesOn : SpriteStage.endTime s.now deadline (step :: rest) =
        SpriteStage.endTime s.now none rest := by
      rw [SpriteStage.endTime]
      exact other
    rw [Session.now_performStep] at ih
    rw [goesOn]
    exact ih (by simp)

namespace Session

theorem finish_round (allowance : Allowance) {ps : List Performer} {s : Session}
    (notOverdue : ∀ p ∈ ps, p.NotOverdue s.now) :
    finish s.now ps =
      finish s.now ((round allowance ps s).heldUp ++ (round allowance ps s).waiting) := by
  induction ps generalizing allowance s with
  | nil => rfl
  | cons p rest ih =>
    have now : (p.goOn allowance s).session.now = s.now := Performer.now_takeSteps _ _ _ _ _ _
    have own : p.endTime s.now = finish s.now (p.goOn allowance s).rest.toList :=
      Performer.endTime_takeSteps p.sprite p.place allowance p.steps
        (notOverdue p List.mem_cons_self)
    have others := ih (p.goOn allowance s).allowance (s := (p.goOn allowance s).session)
      fun q mem => now ▸ notOverdue q (List.mem_cons_of_mem p mem)
    rw [now] at others
    rw [round, finish_perm (Round.withTurn_perm _ _), finish_append, ← others, ← own, finish_cons]
    omega

theorem finish_rounds (order : TurnOrder) (limit : Option Nat) (waiting : List Performer)
    {ps : List Performer} {s : Session} (notOverdue : ∀ p ∈ ps, p.NotOverdue s.now) :
    finish s.now (ps ++ waiting) = finish s.now (rounds order limit waiting ps s).2 := by
  fun_induction rounds order limit waiting ps s with
  | case1 => rfl
  | case2 waiting p rest s r ih =>
    have now : r.session.now = s.now := now_round _ _ _
    have first := finish_round (roundAllowance limit) notOverdue
    have later := ih (notOverdue_afterHoldUp order limit notOverdue)
    have regrouped := finish_perm (regroup_perm order r.heldUp r.waiting waiting) s.now
    rw [now] at later
    rw [← later, ← regrouped, finish_append, finish_append s.now (r.heldUp ++ r.waiting), first]

/-! ## Whole performances -/

theorem now_perform (order : TurnOrder) (limit : Option Nat) {waiting : List Performer}
    {s : Session} (waits : ∀ p ∈ waiting, p.WaitsFrom s.now) :
    (perform order limit waiting s).now = finish s.now waiting := by
  fun_induction perform order limit waiting s with
  | case1 waiting s nobody =>
    rw [nextTime?_eq_none waits nobody]
    rfl
  | case2 waiting s time next due after ih =>
    have split : waiting.Perm (due ++ notDueAt time waiting) := perm_arrange order time waiting
    have notOverdue : ∀ p ∈ due, p.NotOverdue time := notOverdue_arrange order time waiting
    have now : after.1.now = time := now_rounds _ _ _ _ _
    have waitsOn : ∀ q ∈ after.2, q.WaitsFrom (time + 1) :=
      waits_rounds order limit (s := s.advanceTo time) (waits_notDueAt waits next) notOverdue
    -- nobody finishes before the clock has moved on to the next time
    have waitsAll : ∀ p ∈ waiting, p.WaitsFrom time := by
      intro p mem
      obtain ⟨late, ms, rest, deadline, -, steps⟩ := waits p mem
      exact ⟨late, ms, rest, deadline, le_deadline_of_nextTime? next mem deadline, steps⟩
    have moved := finish_of_waits (le_nextTime? waits next) waitsAll
    obtain ⟨first, mem⟩ := List.exists_mem_of_ne_nil _ (dueAt_ne_nil next)
    have someone : first ∈ waiting := (List.mem_filter.mp mem).1
    have least := (waitsAll first someone).le_endTime s.now
    have within := le_finish_of_mem someone s.now
    have turns := finish_rounds order limit (notDueAt time waiting) (s := s.advanceTo time) notOverdue
    rw [now_advanceTo] at turns
    have rest := ih fun q mem => now ▸ (waitsOn q mem).mono (Nat.le_succ time)
    rw [now] at rest
    rw [rest, ← turns, ← finish_perm split, moved]
    omega

/-- A performance ends when the last of its performers has finished. -/
theorem now_performAll (order : TurnOrder) (limit : Option Nat) {ps : List Performer} {s : Session}
    (begin : ∀ p ∈ ps, p.deadline = none) :
    (performAll order limit ps s).now = finish s.now ps := by
  have notOverdue := notOverdue_of_begin begin s.now
  have nobody : ∀ q ∈ ([] : List Performer), q.WaitsFrom (s.now + 1) := List.forall_mem_nil _
  have waitsOn := waits_rounds order limit nobody notOverdue
  have now : (rounds order limit [] ps s).1.now = s.now := now_rounds _ _ _ _ _
  have waits : ∀ q ∈ (rounds order limit [] ps s).2, q.WaitsFrom (rounds order limit [] ps s).1.now :=
    fun q mem => now ▸ (waitsOn q mem).mono (Nat.le_succ _)
  have later := now_perform order limit waits
  have turns := finish_rounds order limit [] notOverdue
  rw [List.append_nil] at turns
  rw [now, ← turns] at later
  exact later

/-- Who performs alone takes the time that the blocks take. -/
theorem now_performAlone (s : Session) (id : SpriteId) (delay : Int64) (blocks : List Block)
    (pose : Pose) :
    (s.performAlone id delay blocks pose).1.now = s.now + playingTime delay blocks := by
  have begin : ∀ p ∈ [(⟨id, 0, none, (performance delay blocks pose).1⟩ : Performer)],
      p.deadline = none := by
    intro p mem
    rw [List.mem_singleton.mp mem]
  have ends : (s.performAlone id delay blocks pose).1.now =
      max (endTime s.now none (performance delay blocks pose).1) s.now :=
    now_performAll (.ofCount 1) none begin
  rw [ends, endTime_none, total_duration_performance]
  omega

end Session

end SpriteStage
