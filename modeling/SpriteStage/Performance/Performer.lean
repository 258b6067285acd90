import SpriteStage.Performance.Step
import SpriteStage.Session

/-! # Performers

A performer is a sprite together with the steps that it still has to do. It does them one after the
other until it has to wait. How many waits may be got past at one go is limited by an allowance: a
small one sees to it that no performer, with however many waits of no length, keeps all others from
their turns.

* `Performer` — a sprite, its place in the roster, and what it still has to do
* `Session.performStep` — one step, waiting apart
* `Performer.goOn` — a performer goes on until it has to wait
* `workload` — how much is left to do
-/

namespace SpriteStage

set_option autoImplicit false

/-- A sprite that performs. -/
structure Performer where
  sprite : SpriteId
  /-- How many others stand before it in the roster. -/
  place : Nat
  /-- The end of the wait in front of the steps, once it has begun. -/
  deadline : Option Nat
  /-- What it still has to do. -/
  steps : List Step
deriving DecidableEq

/-- Does one step of a sprite. Waiting is left to the caller. -/
def Session.performStep (s : Session) (id : SpriteId) : Step → Session
  | .enter state => s.enter id state
  | .showBubble bubble time =>
    let s := s.changeStore fun store => store.setBubble id (some bubble)
    s.emit (.messageShown id bubble.kind bubble.text s.elapsed (.ofDelay time))
  | .clearBubble =>
    let s := s.changeStore fun store => store.setBubble id none
    s.emit (.messageCleared id s.elapsed)
  | .commit pose =>
    let s := s.changeStore fun store => store.commitPose id pose
    s.emit (.poseCommitted id pose s.elapsed)
  | .wait _ => s

/-! ## Turns -/

/-- How many waits may be got past: any number of them if there is no limit. -/
abbrev Allowance : Type :=
  Option Nat

/-- What a turn of a performer comes to. -/
structure Turn where
  session : Session
  /-- How many waits may still be got past. -/
  allowance : Allowance
  /-- The performer as it waits, unless it has finished. -/
  rest : Option Performer

namespace Performer

/--
The performer does its steps until it has to wait. A wait that is over by now counts against the
allowance; with the allowance used up the performer stops in front of it as well.
-/
def takeSteps (sprite : SpriteId) (place : Nat) :
    Allowance → Option Nat → List Step → Session → Turn
  | allowance, _, [], s => ⟨s, allowance, none⟩
  | allowance, deadline, .wait ms :: rest, s =>
    let time := deadline.getD (s.now + delayLength ms)
    if allowance ≠ some 0 ∧ time ≤ s.now then
      takeSteps sprite place (allowance.map Nat.pred) none rest s
    else ⟨s, allowance, some ⟨sprite, place, some time, .wait ms :: rest⟩⟩
  | allowance, _, step :: rest, s =>
    takeSteps sprite place allowance none rest (s.performStep sprite step)

/-- The performer goes on until it has to wait. -/
def goOn (p : Performer) (allowance : Allowance) (s : Session) : Turn :=
  takeSteps p.sprite p.place allowance p.deadline p.steps s

theorem length_takeSteps {sprite : SpriteId} {place : Nat} {allowance : Allowance}
    {deadline : Option Nat} {steps : List Step} {s : Session} {q : Performer}
    (h : (takeSteps sprite place allowance deadline steps s).rest = some q) :
    q.steps.length ≤ steps.length := by
  fun_induction takeSteps sprite place allowance deadline steps s with
  | case1 => cases h
  | case2 allowance deadline ms rest s time ended ih => exact Nat.le_succ_of_le (ih h)
  | case3 =>
    cases h
    exact Nat.le_refl _
  | case4 allowance deadline step rest s other ih => exact Nat.le_succ_of_le (ih h)

/-- A turn that uses an allowance up takes steps. -/
theorem length_takeSteps_of_used {sprite : SpriteId} {place : Nat} {allowance : Allowance}
    {deadline : Option Nat} {steps : List Step} {s : Session} {q : Performer}
    (left : allowance ≠ some 0)
    (used : (takeSteps sprite place allowance deadline steps s).allowance = some 0)
    (h : (takeSteps sprite place allowance deadline steps s).rest = some q) :
    q.steps.length < steps.length := by
  fun_induction takeSteps sprite place allowance deadline steps s with
  | case1 => cases h
  | case2 => exact Nat.lt_succ_of_le (length_takeSteps h)
  | case3 => exact absurd used left
  | case4 => exact Nat.lt_succ_of_le (length_takeSteps h)

theorem allowance_takeSteps_none (sprite : SpriteId) (place : Nat) (deadline : Option Nat)
    (steps : List Step) (s : Session) :
    (takeSteps sprite place none deadline steps s).allowance = none := by
  induction steps generalizing deadline s with
  | nil => rfl
  | cons step rest ih =>
    cases step with
    | wait ms =>
      rw [takeSteps]
      split
      · exact ih none s
      · rfl
    | enter state => exact ih none _
    | showBubble bubble ms => exact ih none _
    | clearBubble => exact ih none _
    | commit pose => exact ih none _

end Performer

/-! ## Workload -/

/-- How much several performers have left to do: their steps, and one more for each of them. -/
def workload : List Performer → Nat
  | [] => 0
  | p :: rest => p.steps.length + 1 + workload rest

theorem workload_append (ps qs : List Performer) :
    workload (ps ++ qs) = workload ps + workload qs := by
  induction ps with
  | nil => simp [workload]
  | cons p rest ih =>
    simp only [List.cons_append, workload, ih]
    omega

theorem workload_perm {ps qs : List Performer} (h : ps.Perm qs) : workload ps = workload qs := by
  induction h with
  | nil => rfl
  | cons p _ ih => simp only [workload, ih]
  | swap p q rest =>
    simp only [workload]
    omega
  | trans _ _ first second => exact first.trans second

namespace Performer

theorem workload_goOn_le (p : Performer) (allowance : Allowance) (s : Session) :
    workload (p.goOn allowance s).rest.toList ≤ workload [p] := by
  cases eq : (p.goOn allowance s).rest with
  | none => exact Nat.zero_le _
  | some q =>
    have := length_takeSteps eq
    simp only [Option.toList_some, workload]
    omega

/-- A turn that uses an allowance up leaves less to do. -/
theorem workload_goOn_lt_of_used {p : Performer} {allowance : Allowance} {s : Session}
    (left : allowance ≠ some 0) (used : (p.goOn allowance s).allowance = some 0) :
    workload (p.goOn allowance s).rest.toList < workload [p] := by
  cases eq : (p.goOn allowance s).rest with
  | none => exact Nat.succ_pos _
  | some q =>
    have := length_takeSteps_of_used left used eq
    simp only [Option.toList_some, workload]
    omega

theorem workload_goOn_lt {p : Performer} {allowance : Allowance} {time : Nat} {s : Session}
    (left : allowance ≠ some 0) (due : p.deadline = some time) (now : time ≤ s.now) :
    workload (p.goOn allowance s).rest.toList < workload [p] := by
  obtain ⟨sprite, place, deadline, steps⟩ := p
  subst due
  cases eq : (goOn ⟨sprite, place, some time, steps⟩ allowance s).rest with
  | none => exact Nat.succ_pos _
  | some q =>
    unfold goOn at eq
    cases steps with
    | nil => cases eq
    | cons step rest =>
      have : q.steps.length ≤ rest.length := by
        cases step with
        | wait ms =>
          rw [takeSteps, Option.getD_some, if_pos ⟨left, now⟩] at eq
          exact length_takeSteps eq
        | enter state => exact length_takeSteps eq
        | showBubble bubble ms => exact length_takeSteps eq
        | clearBubble => exact length_takeSteps eq
        | commit pose => exact length_takeSteps eq
      simp only [Option.toList_some, workload, List.length_cons]
      omega

end Performer

end SpriteStage
