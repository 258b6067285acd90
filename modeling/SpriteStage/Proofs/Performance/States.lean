import SpriteStage.Proofs.Performance.Phrases
import SpriteStage.Proofs.Performance.Total
import SpriteStage.Proofs.Session.Sights

/-! # The states of a performer

Every wait of a sprite is a suspension, before which it runs and after which it runs again. A wait of no
length is one as well, but nobody comes in time to see it.

* `pauseCount` — how often a sprite is suspended when it performs a list of blocks
* `Session.passed`, `Session.passed_performance` — the states that it passes through
* `Session.tracks_state`, `state_doneBy_performance` — the state in which it is seen
-/

namespace SpriteStage

set_option autoImplicit false

/-! ## How often a sprite is suspended -/

/-- A block that shows a bubble. -/
def Block.isBubble : Block → Bool
  | bubble _ _ _ => true
  | _ => false

/--
How often a sprite is suspended: in front of each round, and with all bubbles, once and again in each
round.
-/
def pauseCount (blocks : List Block) : Nat :=
  repetitions blocks + (1 + repetitions blocks) * blocks.countP Block.isBubble

/-- How often a step suspends the sprite. -/
def Step.pauses : Step → Nat
  | enter .suspended => 1
  | _ => 0

theorem total_pauses_sequence (delay : Int64) (blocks : List Block) (pose : Pose) :
    total Step.pauses (sequence delay blocks pose).1 = pauseCount blocks := by
  have commits : ∀ pose, Step.pauses (.commit pose) = 0 := fun _ => rfl
  have once : ∀ ms, total Step.pauses (suspension ms) = 1 := fun _ => rfl
  have bubbles : totalDisplay Step.pauses blocks = blocks.countP Block.isBubble := by
    unfold totalDisplay
    induction blocks with
    | nil => rfl
    | cons block rest ih =>
      rw [List.map_cons, List.sum_cons, ih, List.countP_cons, Nat.add_comm]
      cases block <;> rfl
  rw [total_sequence commits, once, bubbles, pauseCount]
  ring

/-! ## States of steps -/

/-- The state that a sprite is in after a step. -/
def Step.stateAfter (state : PerformerState) : Step → PerformerState
  | enter next => next
  | _ => state

/-- The states that some steps lead through from one state, without repeating any in a row. -/
def statesFrom (state : PerformerState) : List Step → List PerformerState
  | [] => [state]
  | step :: rest =>
    if step.stateAfter state = state then statesFrom (step.stateAfter state) rest
    else state :: statesFrom (step.stateAfter state) rest

theorem Phrases.statesFrom_completed {steps : List Step} (h : Phrases steps) :
    statesFrom .running (steps ++ [.enter .completed]) =
      (List.replicate (total Step.pauses steps) [PerformerState.running, .suspended]).flatten ++
        [.running, .completed] := by
  induction h with
  | nil => rfl
  | pose pose _ ih => simpa [statesFrom, Step.stateAfter, Step.pauses] using ih
  | pause ms _ ih =>
    simpa [statesFrom, Step.stateAfter, Step.pauses, suspension, Nat.add_comm 1, List.replicate_succ]
      using ih
  | bubble bubble time pose later ih =>
    simpa [statesFrom, Step.stateAfter, Step.pauses, suspension, Nat.add_comm 1, List.replicate_succ]
      using ih

theorem flatten_replicate_pair {α : Type} (a b : α) (rest : List α) (count : Nat) :
    (List.replicate count [a, b]).flatten ++ a :: rest =
      a :: ((List.replicate count [b, a]).flatten ++ rest) := by
  induction count with
  | zero => rfl
  | succ count ih => simp [List.replicate_succ, ih]

/-- A performance, from the state of who has not begun. -/
theorem statesFrom_performance (delay : Int64) (blocks : List Block) (pose : Pose) :
    statesFrom .idle (performance delay blocks pose).1 =
      .idle :: .running ::
        ((List.replicate (pauseCount blocks) [PerformerState.suspended, .running]).flatten ++
          [.completed]) := by
  have inner := (phrases_sequence delay blocks pose).statesFrom_completed
  rw [total_pauses_sequence, flatten_replicate_pair] at inner
  exact congrArg (PerformerState.idle :: ·) inner

/-- The steps of a performance after its first one. -/
theorem performance_eq (delay : Int64) (blocks : List Block) (pose : Pose) :
    (performance delay blocks pose).1 =
      .enter .running :: ((sequence delay blocks pose).1 ++ [.enter .completed]) :=
  rfl

/-! ### As they are in a session -/

/-- The state in which a sprite is seen. -/
def Sight.stateOf (sight : Sight) (id : SpriteId) : PerformerState :=
  (sight.states.lookup id).getD .idle

namespace Session

theorem stateOf_performStep (s : Session) (id : SpriteId) (step : Step) :
    (s.performStep id step).stateOf id = step.stateAfter (s.stateOf id) := by
  cases step with
  | enter state => simp [performStep, enter, stateOf, Step.stateAfter]
  | _ => rfl

theorem tracks_state (id : SpriteId) : Tracks id (fun sight => sight.stateOf id) Step.stateAfter :=
  fun s step => s.stateOf_performStep id step

theorem unnoticed_state (id : SpriteId) (visit : Visit) :
    Unnoticed (fun sight => sight.stateOf id) visit :=
  fun _ => rfl

theorem stateOf_pause (s : Session) (id : SpriteId) (ms : Int64) :
    (s.pause ms).stateOf id = s.stateOf id := by
  unfold pause
  split
  · rfl
  · exact (view_advanceTo (fun visit _ => unnoticed_state id visit) _).1

theorem stateOf_carryOut (s : Session) (id : SpriteId) (step : Step) :
    (s.carryOut id step).stateOf id = step.stateAfter (s.stateOf id) := by
  cases step with
  | wait ms => exact s.stateOf_pause id ms
  | _ => exact s.stateOf_performStep id _

/-- The states that a sprite passes through with some steps, without repeating any in a row. -/
def passed (id : SpriteId) (s : Session) : List Step → List PerformerState
  | [] => [s.stateOf id]
  | step :: rest =>
    if (s.carryOut id step).stateOf id = s.stateOf id then passed id (s.carryOut id step) rest
    else s.stateOf id :: passed id (s.carryOut id step) rest

theorem passed_eq (id : SpriteId) (s : Session) (steps : List Step) :
    s.passed id steps = statesFrom (s.stateOf id) steps := by
  induction steps generalizing s with
  | nil => rfl
  | cons step rest ih => rw [passed, statesFrom, ih, stateOf_carryOut]

end Session

/-! ## The state in which a sprite is seen -/

theorem state_doneBy_suspension (time now : Nat) (ms : Int64) (rest : List Step) :
    (doneBy time now (suspension ms ++ rest)).foldl Step.stateAfter .running =
      if time < now + delayLength ms then .suspended
      else (doneBy time (now + delayLength ms) rest).foldl Step.stateAfter .running := by
  have begins : doneBy time now (suspension ms ++ rest) =
      .enter .suspended :: if time < now + delayLength ms then []
        else .wait ms :: .enter .running :: doneBy time (now + delayLength ms) rest := rfl
  rw [begins]
  split <;> rfl

/-- As long as a performance lasts, its sprite is suspended whenever it is seen. -/
theorem Phrases.state_doneBy {steps : List Step} (h : Phrases steps) {now time : Nat}
    (later : now ≤ time) :
    (doneBy time now (steps ++ [.enter .completed])).foldl Step.stateAfter .running =
      if time < now + total Step.duration steps then .suspended else .completed := by
  induction h generalizing now with
  | nil =>
    rw [total_nil, if_neg (by omega)]
    rfl
  | pose pose _ ih => simpa [doneBy, Step.stateAfter, Step.duration] using ih later
  | pause ms _ ih =>
    rw [List.append_assoc, state_doneBy_suspension, total_append, total_duration_suspension]
    split
    · rw [if_pos (by omega)]
    · next ended => rw [ih (Nat.le_of_not_lt ended), Nat.add_assoc]
  | @bubble bubble ms pose rest _ ih =>
    have begins : doneBy time now (.showBubble bubble ms :: suspension ms ++
        (.clearBubble :: .commit pose :: rest) ++ [.enter .completed]) =
        .showBubble bubble ms :: doneBy time now (suspension ms ++
          (.clearBubble :: .commit pose :: (rest ++ [.enter .completed]))) := rfl
    have lasts : total Step.duration (.showBubble bubble ms :: suspension ms ++
        (.clearBubble :: .commit pose :: rest)) = delayLength ms + total Step.duration rest := by
      simp [total_duration_suspension, Step.duration]
    have shown : Step.stateAfter .running (.showBubble bubble ms) = .running := rfl
    rw [begins, List.foldl_cons, shown, state_doneBy_suspension, lasts]
    split
    · rw [if_pos (by omega)]
    · next ended =>
      have after := ih (Nat.le_of_not_lt ended)
      rw [Nat.add_assoc] at after
      exact after

theorem state_doneBy_performance (time : Nat) (delay : Int64) (blocks : List Block) (pose : Pose) :
    (doneBy time 0 (performance delay blocks pose).1).foldl Step.stateAfter .idle =
      if time < playingTime delay blocks then .suspended else .completed := by
  have lasts : total Step.duration (sequence delay blocks pose).1 = playingTime delay blocks := by
    have quiet : ∀ state, Step.duration (.enter state) = 0 := fun _ => rfl
    have all := total_duration_performance delay blocks pose
    rw [performance_eq, total_cons, total_append, total_cons, total_nil, quiet, quiet] at all
    omega
  have inner := (phrases_sequence delay blocks pose).state_doneBy (Nat.zero_le time)
  rw [lasts, Nat.zero_add] at inner
  exact inner

end SpriteStage
