import Mathlib.Data.List.TakeWhile
import SpriteStage.Proofs.Performance.StepByStep
import SpriteStage.Proofs.Session.Journal
import SpriteStage.Proofs.Session.Visits

/-! # What onlookers see

An onlooker comes at some time of a run, and the run comes first at any time. So what is seen of a
sprite that performs alone follows from the steps that it has done by that time.

* `doneBy` — the steps done by some time
* `Session.Tracks` — what a view shows follows from the steps of a sprite
* `Session.map_sights_foldl_carryOut` — what each onlooker sees of such a view
-/

namespace SpriteStage

set_option autoImplicit false

/-! ## Steps that have been done -/

/-- The steps that a sprite has done by some time, if it comes to them at time `now`. -/
def doneBy (time : Nat) : Nat → List Step → List Step
  | _, [] => []
  | now, .wait ms :: rest =>
    if time < now + delayLength ms then [] else .wait ms :: doneBy time (now + delayLength ms) rest
  | now, step :: rest => step :: doneBy time now rest

theorem doneBy_of_quick (time now : Nat) {step : Step} (quick : ∀ ms, step ≠ .wait ms)
    (rest : List Step) : doneBy time now (step :: rest) = step :: doneBy time now rest := by
  cases step with
  | wait ms => exact absurd rfl (quick ms)
  | _ => rfl

/-! ## Visits in the order of their times -/

theorem time_lt_of_mem_arrivals {visits : List Visit} {time : Nat} {visit : Visit}
    (come : visit ∈ arrivals time visits) : visit.time < time :=
  of_decide_eq_true (List.mem_takeWhile_imp (p := fun visit : Visit => decide (visit.time < time)) come)

theorem le_time_of_mem_remaining {visits : List Visit}
    (sorted : visits.Pairwise fun a b => a.time ≤ b.time) {time : Nat} {visit : Visit}
    (left : visit ∈ remaining time visits) : time ≤ visit.time := by
  induction visits with
  | nil => cases left
  | cons first rest ih =>
    obtain ⟨least, restSorted⟩ := List.pairwise_cons.mp sorted
    rw [remaining, List.dropWhile_cons] at left
    split at left
    · exact ih restSorted left
    · next notBefore =>
      have late : time ≤ first.time := Nat.le_of_not_lt (mt decide_eq_true notBefore)
      rcases List.mem_cons.mp left with rfl | later
      · exact late
      · exact Nat.le_trans late (least visit later)

/-- Those who come before a wait is over find what had been done before it. -/
theorem map_doneBy_wait {α : Type} {next : α → Step → α} {a : α} {ms : Int64}
    (idle : next a (.wait ms) = a) {visits : List Visit}
    (sorted : visits.Pairwise fun a b => a.time ≤ b.time) (now : Nat) (rest : List Step) :
    visits.map (fun visit => (doneBy visit.time now (.wait ms :: rest)).foldl next a) =
      (arrivals (now + delayLength ms) visits).map (fun _ => a) ++
        (remaining (now + delayLength ms) visits).map fun visit =>
          (doneBy visit.time (now + delayLength ms) rest).foldl next a := by
  let time := now + delayLength ms
  have early : (arrivals time visits).map (fun visit =>
      (doneBy visit.time now (.wait ms :: rest)).foldl next a) =
      (arrivals time visits).map fun _ => a := by
    refine List.map_congr_left fun visit come => ?_
    rw [doneBy, if_pos (time_lt_of_mem_arrivals come), List.foldl_nil]
  have late : (remaining time visits).map (fun visit =>
      (doneBy visit.time now (.wait ms :: rest)).foldl next a) =
      (remaining time visits).map fun visit => (doneBy visit.time time rest).foldl next a := by
    refine List.map_congr_left fun visit left => ?_
    rw [doneBy, if_neg (Nat.not_lt.mpr (le_time_of_mem_remaining sorted left)), List.foldl_cons, idle]
  have all : arrivals time visits ++ remaining time visits = visits :=
    List.takeWhile_append_dropWhile
  rw [← early, ← late, ← List.map_append, all]

/-! ## Views -/

namespace Session

/-- What a visitor would find now. -/
def sight (s : Session) : Sight :=
  ⟨s.store, s.states⟩

theorem visits_performStep (s : Session) (id : SpriteId) (step : Step) :
    (s.performStep id step).visits = s.visits := by
  cases step <;> rfl

theorem sights_performStep (s : Session) (id : SpriteId) (step : Step) :
    (s.performStep id step).sights = s.sights := by
  cases step <;> rfl

variable {α : Type}

/-- What a view shows changes with the steps of one sprite in a way that follows from it alone. -/
def Tracks (id : SpriteId) (view : Sight → α) (next : α → Step → α) : Prop :=
  ∀ (s : Session) (step : Step), view (s.performStep id step).sight = next (view s.sight) step

/-- A visit changes nothing of what a view shows. -/
def Unnoticed (view : Sight → α) (visit : Visit) : Prop :=
  ∀ s : Session, view (s.receive visit).sight = view s.sight

variable {id : SpriteId} {view : Sight → α} {next : α → Step → α}

theorem view_foldl_receive {visits : List Visit} (unnoticed : ∀ visit ∈ visits, Unnoticed view visit)
    (s : Session) :
    view (visits.foldl receive s).sight = view s.sight ∧
      (visits.foldl receive s).sights.toList.map view =
        s.sights.toList.map view ++ visits.map fun _ => view s.sight := by
  induction visits generalizing s with
  | nil => exact ⟨rfl, (List.append_nil _).symm⟩
  | cons visit rest ih =>
    have own : view (s.receive visit).sight = view s.sight := unnoticed visit List.mem_cons_self s
    obtain ⟨last, seen⟩ := ih (fun later mem => unnoticed later (List.mem_cons_of_mem _ mem))
      (s.receive visit)
    have pushed : (s.receive visit).sights.toList = s.sights.toList ++ [s.sight] :=
      Array.toList_push
    rw [List.foldl_cons, last, seen, own, pushed, List.map_append, List.append_assoc]
    exact ⟨rfl, rfl⟩

theorem view_advanceTo {s : Session} (unnoticed : ∀ visit ∈ s.visits, Unnoticed view visit)
    (time : Nat) :
    view (s.advanceTo time).sight = view s.sight ∧
      (s.advanceTo time).sights.toList.map view =
        s.sights.toList.map view ++ (arrivals time s.visits).map fun _ => view s.sight := by
  have come : ∀ visit ∈ arrivals time s.visits, Unnoticed view visit := fun visit mem =>
    unnoticed visit ((List.takeWhile_sublist _).subset mem)
  exact view_foldl_receive come { s with visits := remaining time s.visits }

/-- Every onlooker sees what the steps that have been done by then have come to. -/
theorem map_sights_foldl_carryOut (tracks : Tracks id view next) (steps : List Step) {s : Session}
    (sorted : s.visits.Pairwise fun a b => a.time ≤ b.time)
    (late : ∀ visit ∈ s.visits, s.now ≤ visit.time)
    (unnoticed : ∀ visit ∈ s.visits, Unnoticed view visit) :
    (steps.foldl (carryOut id) s).settle.sights.toList.map view = s.sights.toList.map view ++
      s.visits.map fun visit => (doneBy visit.time s.now steps).foldl next (view s.sight) := by
  induction steps using Step.induction generalizing s with
  | nil => exact (view_foldl_receive unnoticed { s with visits := [] }).2
  | wait ms rest ih =>
    have idle : next (view s.sight) (.wait ms) = view s.sight := (tracks s (.wait ms)).symm
    rw [List.foldl_cons, carryOut, pause]
    by_cases nothing : delayLength ms = 0
    · rw [if_pos nothing, ih sorted late unnoticed]
      refine congrArg _ (List.map_congr_left fun visit mem => ?_)
      have now := late visit mem
      rw [doneBy, if_neg (by omega), List.foldl_cons, idle, nothing, Nat.add_zero]
    · rw [if_neg nothing]
      let time := s.now + delayLength ms
      have left : (s.advanceTo time).visits = remaining time s.visits := s.visits_advanceTo time
      have stayed : (remaining time s.visits).Sublist s.visits := List.dropWhile_sublist _
      obtain ⟨same, seen⟩ := view_advanceTo unnoticed time
      have later := ih (s := s.advanceTo time) (left ▸ sorted.sublist stayed)
        (left ▸ fun visit mem => le_time_of_mem_remaining sorted mem)
        (left ▸ fun visit mem => unnoticed visit (stayed.subset mem))
      rw [later, left, same, seen, s.now_advanceTo, List.append_assoc, map_doneBy_wait idle sorted]
  | quick step rest quick ih =>
    have visits := s.visits_performStep id step
    rw [List.foldl_cons, carryOut_of_quick id s quick, ih (visits ▸ sorted)
      (s.now_performStep id step ▸ visits ▸ late) (visits ▸ unnoticed), visits,
      s.sights_performStep, s.now_performStep, tracks]
    simp only [doneBy_of_quick _ _ quick, List.foldl_cons]

/-- So each visit has a sight, which shows what the steps done by then have come to. -/
theorem view_sight (tracks : Tracks id view next) (steps : List Step) (store : Store)
    {visits : List Visit} (sorted : visits.Pairwise fun a b => a.time ≤ b.time)
    (unnoticed : ∀ visit ∈ visits, Unnoticed view visit) {k : Nat} {visit : Visit}
    (there : visits[k]? = some visit) :
    (steps.foldl (carryOut id) (start store visits)).settle.sights.toList[k]?.map view =
      some ((doneBy visit.time 0 steps).foldl next (view ⟨store, []⟩)) := by
  have all := map_sights_foldl_carryOut tracks steps (s := start store visits) sorted
    (fun _ _ => Nat.zero_le _) unnoticed
  have nobody : (start store visits).sights.toList.map view = [] := rfl
  have coming : (start store visits).visits = visits := rfl
  rw [nobody, List.nil_append, coming] at all
  rw [← List.getElem?_map, all, List.getElem?_map, there]
  rfl

end Session

end SpriteStage
