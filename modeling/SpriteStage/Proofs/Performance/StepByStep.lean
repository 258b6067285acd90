import SpriteStage.Performance.Ensemble

/-! # Performing alone, step by step

A sprite that performs with nobody else takes one step after the other, and at a wait it lets the time
go by. Turns, rounds and allowances come to nothing more than that.

* `Step.induction` — steps are waits, and others that take no time
* `Session.carryOut` — one step, waiting included
* `Session.performAlone_eq_foldl` — a performance alone is its steps, carried out in order
-/

namespace SpriteStage

set_option autoImplicit false

/-- What is shown of several steps is shown of a wait in front, and of any other step alike. -/
theorem Step.induction {motive : List Step → Prop} (nil : motive [])
    (wait : ∀ ms rest, motive rest → motive (.wait ms :: rest))
    (quick : ∀ step rest, (∀ ms, step ≠ .wait ms) → motive rest → motive (step :: rest))
    (steps : List Step) : motive steps := by
  induction steps with
  | nil => exact nil
  | cons step rest ih =>
    cases step with
    | wait ms => exact wait ms rest ih
    | _ => exact quick _ rest (fun _ same => by cases same) ih

namespace Session

/-- Carries out one step of a sprite; a wait lets the time go by. -/
def carryOut (id : SpriteId) (s : Session) : Step → Session
  | .wait ms => s.pause ms
  | step => s.performStep id step

theorem carryOut_of_quick (id : SpriteId) (s : Session) {step : Step} (quick : ∀ ms, step ≠ .wait ms) :
    carryOut id s step = s.performStep id step := by
  cases step with
  | wait ms => exact absurd rfl (quick ms)
  | _ => rfl

variable (order : TurnOrder)

/-- Rounds of one performer who is never held up are one turn. -/
theorem rounds_single (p : Performer) (s : Session) :
    rounds order none [] [p] s = ((p.goOn none s).session, (p.goOn none s).rest.toList) := by
  have left : (p.goOn none s).allowance = none := Performer.allowance_takeSteps_none _ _ _ _ _
  rw [rounds_none, List.nil_append, round, Round.withTurn, left]
  cases (p.goOn none s).rest <;> rfl

theorem arrange_single (p : Performer) : order.arrange [p] = [p] := by
  cases order with
  | byRoster => exact List.mergeSort_singleton p
  | byArrival => rfl

/-- The only performer goes on as soon as its wait is over. -/
theorem perform_single (p : Performer) {time : Nat} (waits : p.deadline = some time) (s : Session) :
    perform order none [p] s =
      perform order none (p.goOn none (s.advanceTo time)).rest.toList
        (p.goOn none (s.advanceTo time)).session := by
  have next : nextTime? [p] = some time := by simp [nextTime?, waits, List.min?]
  have due : dueAt time [p] = [p] := by simp [dueAt, waits]
  have nobody : notDueAt time [p] = [] := by simp [notDueAt, waits]
  rw [perform]
  split
  · next none => cases next.symm.trans none
  · next other same =>
    obtain rfl := Option.some.inj (next.symm.trans same)
    rw [due, nobody, arrange_single]
    dsimp only
    rw [rounds_single]

theorem perform_takeSteps (id : SpriteId) (place : Nat) (steps : List Step) (s : Session) :
    perform order none (Performer.takeSteps id place none none steps s).rest.toList
        (Performer.takeSteps id place none none steps s).session =
      steps.foldl (carryOut id) s := by
  induction steps generalizing s with
  | nil =>
    rw [Performer.takeSteps, perform]
    rfl
  | cons step rest ih =>
    cases step with
    | wait ms =>
      rw [List.foldl_cons, ← ih, carryOut, pause, Performer.takeSteps, Option.getD_none]
      by_cases nothing : delayLength ms = 0
      · rw [if_pos nothing, if_pos ⟨(Option.some_ne_none 0).symm, by omega⟩]
        rfl
      · rw [if_neg nothing, if_neg (by omega)]
        -- the wait that has been reached is over when its time has come
        have resumed : Performer.goOn ⟨id, place, some (s.now + delayLength ms), .wait ms :: rest⟩ none
            (s.advanceTo (s.now + delayLength ms)) =
            Performer.takeSteps id place none none rest (s.advanceTo (s.now + delayLength ms)) := by
          rw [Performer.goOn, Performer.takeSteps, Option.getD_some,
            if_pos ⟨(Option.some_ne_none 0).symm, Nat.le_refl _⟩]
          rfl
        rw [← resumed]
        exact perform_single order _ rfl s
    | _ => exact ih _

/-- A performance alone is its steps, carried out in order. -/
theorem performAlone_eq_foldl (s : Session) (id : SpriteId) (delay : Int64) (blocks : List Block)
    (pose : Pose) :
    (s.performAlone id delay blocks pose).1 =
      (performance delay blocks pose).1.foldl (carryOut id) s := by
  let p : Performer := ⟨id, 0, none, (performance delay blocks pose).1⟩
  change (s.rounds _ none [] [p]).1.perform _ none (s.rounds _ none [] [p]).2 = _
  rw [rounds_single]
  exact perform_takeSteps _ id 0 _ s

end Session

end SpriteStage
