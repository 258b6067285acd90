import SpriteStage.Proofs.Performance.Calls
import SpriteStage.Proofs.Performance.Solo
import SpriteStage.Proofs.Performance.Units

/-! # Performances written out

A performance can be written out as one row of cues that knows of no rounds: each round stands there
with its delay and its blocks, as often as it is gone through. What a sprite announces follows from
this row, one cue after the other.

* `Cue`, `score` — the cues, and the row of them that a list of blocks is written out to
* `announced` — the events of a row of cues, each with its time
* `Renders` — steps that come to the same as some cues
* `Session.performAlone_score` — a performance alone is its score
-/

namespace SpriteStage

set_option autoImplicit false

/-! ## Cues -/

/-- One thing after the other that a sprite does. -/
inductive Cue where
  /-- Lets a delay go by. -/
  | rest (ms : Int64)
  /-- Performs a block, which does something itself, and makes the pose known. -/
  | play (block : Block)
  /-- Makes the pose known. -/
  | hold
deriving DecidableEq

namespace Cue

/-- How long a cue lasts, in milliseconds. -/
def duration : Cue → Nat
  | rest ms => delayLength ms
  | play block => block.bubbleTime
  | hold => 0

/-- What a cue does to the pose of the sprite. -/
def effect (pose : Pose) : Cue → Pose
  | play (.move steps) =>
    { pose with position := { pose.position with x := pose.position.x + floatOfInt64 steps } }
  | play (.turn degrees) => { pose with angle := pose.angle + floatOfInt64 degrees }
  | play (.goTo x y) => { pose with position := ⟨floatOfInt64 x, floatOfInt64 y⟩ }
  | _ => pose

/-- What a sprite announces with a cue that it comes to at time `now`, in some pose. -/
def events (id : SpriteId) (now : Nat) (pose : Pose) : Cue → List Event
  | rest _ => []
  | play (.bubble kind text time) =>
    [.messageShown id kind text (.ofMillis now) (.ofDelay time),
      .messageCleared id (.ofMillis (now + delayLength time)),
      .poseCommitted id pose (.ofMillis (now + delayLength time))]
  | cue => [.poseCommitted id (cue.effect pose) (.ofMillis now)]

end Cue

/--
The cues of a block of a list with some body. A block that goes through others again is so many
rounds of the body with a delay in front of each, and makes the pose known when they are over.
-/
def Block.cues (delay : Int64) (body : List Block) : Block → List Cue
  | again times =>
    (List.replicate times.toInt.toNat (.rest delay :: body.map .play)).flatten ++ [.hold]
  | block => [.play block]

/-- A list of blocks, written out. -/
def score (delay : Int64) (blocks : List Block) : List Cue :=
  blocks.flatMap fun block => block.cues delay (blocks.filter fun other => !other.isAgain)

/-- The events of some cues when a sprite comes to them at time `now` and in some pose. -/
def announced (id : SpriteId) : Nat → Pose → List Cue → List Event
  | _, _, [] => []
  | now, pose, cue :: rest =>
    cue.events id now pose ++ announced id (now + cue.duration) (cue.effect pose) rest

/-! ## Rows of cues -/

/-- How long some cues last together. -/
def lasting (cues : List Cue) : Nat :=
  (cues.map Cue.duration).sum

theorem announced_append (id : SpriteId) (now : Nat) (pose : Pose) (first later : List Cue) :
    announced id now pose (first ++ later) = announced id now pose first ++
      announced id (now + lasting first) (first.foldl Cue.effect pose) later := by
  induction first generalizing now pose with
  | nil => rfl
  | cons cue rest ih =>
    simp only [List.cons_append, announced, ih, lasting, List.map_cons, List.sum_cons,
      List.foldl_cons, List.append_assoc, Nat.add_assoc]

/-! ## Steps that come to the same -/

/-- From a pose on, some steps come to the same events, time and last pose as some cues. -/
structure Renders (cues : List Cue) (pose : Pose) (result : List Step × Pose) : Prop where
  events : ∀ id now, trace id now none result.1 = announced id now pose cues
  duration : total Step.duration result.1 = lasting cues
  last : result.2 = cues.foldl Cue.effect pose

theorem renders_nil (pose : Pose) : Renders [] pose ([], pose) :=
  ⟨fun _ _ => rfl, rfl, rfl⟩

theorem Renders.append {first later : List Cue} {pose middle last : Pose} {steps more : List Step}
    (h₁ : Renders first pose (steps, middle)) (h₂ : Renders later middle (more, last)) :
    Renders (first ++ later) pose (steps ++ more, last) := by
  refine ⟨fun id now => ?_, ?_, ?_⟩
  · have own : first.foldl Cue.effect pose = middle := h₁.last.symm
    rw [trace_append, endTime_none, h₁.duration, h₁.events, h₂.events, announced_append, own]
  · rw [total_append, h₁.duration, h₂.duration, lasting, lasting, lasting, List.map_append,
      List.sum_append]
  · rw [List.foldl_append, ← h₁.last]
    exact h₂.last

theorem renders_rest (delay : Int64) (pose : Pose) :
    Renders [.rest delay] pose (suspension delay, pose) :=
  ⟨fun _ _ => rfl, total_duration_suspension delay, rfl⟩

theorem renders_hold (pose : Pose) : Renders [.hold] pose ([.commit pose], pose) :=
  ⟨fun _ _ => rfl, rfl, rfl⟩

/-- A block that does something itself does and shows what its cue says. -/
theorem renders_play {block : Block} (itself : block.isAgain = false) (pose : Pose) :
    Renders [.play block] pose
      (block.display ++ [.commit (block.effect pose)], block.effect pose) := by
  cases block with
  | again times => cases itself
  | bubble kind text time =>
    refine ⟨fun _ _ => rfl, ?_, rfl⟩
    simp [Block.display, total_duration_suspension, Step.duration, lasting, Cue.duration,
      Block.bubbleTime]
  | _ => exact ⟨fun _ _ => rfl, rfl, rfl⟩

/-! ### Sequences -/

section Rounds

variable (delay : Int64) {core : List Cue} {round : Pose → List Step × Pose}
  (own : ∀ pose, Renders core pose (round pose))
include own

theorem renders_rounds (count : Nat) (pose : Pose) :
    Renders (List.replicate count (.rest delay :: core)).flatten pose
      (rounds delay round count pose) := by
  induction count generalizing pose with
  | zero => exact renders_nil pose
  | succ count ih =>
    have first : Renders (.rest delay :: core) pose
        (suspension delay ++ (round pose).1, (round pose).2) :=
      (renders_rest delay pose).append (own pose)
    rw [List.replicate_succ, List.flatten_cons]
    exact first.append (ih _)

end Rounds

/-- Blocks that do something themselves are their own score. -/
theorem renders_walk_plain {blocks : List Block} (plain : ∀ block ∈ blocks, block.isAgain = false)
    (delay : Int64) (round : Pose → List Step × Pose) (pose : Pose) :
    Renders (blocks.map .play) pose (walk delay round blocks pose) := by
  induction blocks generalizing pose with
  | nil => exact renders_nil pose
  | cons block rest ih =>
    have itself := plain block List.mem_cons_self
    have later := ih (fun other mem => plain other (List.mem_cons_of_mem block mem))
      (block.effect pose)
    simp only [walk, blockSteps_of_not_again itself]
    exact (renders_play itself pose).append later

theorem renders_body (delay : Int64) (blocks : List Block) (pose : Pose) :
    Renders ((body blocks).map .play) pose (sequence delay (body blocks) pose) := by
  rw [sequence_eq_walk]
  exact renders_walk_plain (fun _ mem => isAgain_of_mem_body mem) delay _ pose

theorem renders_walk (delay : Int64) (blocks left : List Block) (pose : Pose) :
    Renders (left.flatMap (Block.cues delay (body blocks))) pose
      (walk delay (sequence delay (body blocks)) left pose) := by
  induction left generalizing pose with
  | nil => exact renders_nil pose
  | cons block rest ih =>
    rw [List.flatMap_cons]
    have own : Renders (block.cues delay (body blocks)) pose
        (blockSteps delay (sequence delay (body blocks)) block pose) := by
      cases block with
      | again times =>
        exact (renders_rounds delay (renders_body delay blocks) _ pose).append (renders_hold _)
      | _ => exact renders_play rfl pose
    exact own.append (ih _)

theorem renders_sequence (delay : Int64) (blocks : List Block) (pose : Pose) :
    Renders (score delay blocks) pose (sequence delay blocks pose) := by
  rw [sequence_eq_walk]
  exact renders_walk delay blocks blocks pose

/-! ## Performing alone -/

theorem trace_performance (id : SpriteId) (now : Nat) (delay : Int64) (blocks : List Block)
    (pose : Pose) :
    trace id now none (performance delay blocks pose).1 =
      announced id now pose (score delay blocks) := by
  rw [trace_performance_eq, (renders_sequence delay blocks pose).events]

theorem duration_performance (delay : Int64) (blocks : List Block) (pose : Pose) :
    total Step.duration (performance delay blocks pose).1 = lasting (score delay blocks) := by
  have begins : total Step.duration (performance delay blocks pose).1 =
      0 + total Step.duration ((sequence delay blocks pose).1 ++ [.enter .completed]) :=
    total_cons _ _ _
  have ends : total Step.duration [.enter .completed] = 0 := rfl
  rw [begins, total_append, ends, (renders_sequence delay blocks pose).duration, Nat.zero_add,
    Nat.add_zero]

/--
A sprite that performs alone announces its score, each event when the cues before it are over, and
ends in the pose to which the score comes, when all of it is over. Interpreting the list by
recursion comes to the same: the body, which goes through nothing again, is interpreted once for
each round, and nothing is further down than that.
-/
theorem Session.performAlone_score (s : Session) (id : SpriteId) (delay : Int64)
    (blocks : List Block) (pose : Pose) :
    let run := s.performAlone id delay blocks pose
    run.1.events = s.events ++ announced id s.now pose (score delay blocks) ∧
    run.2 = (score delay blocks).foldl Cue.effect pose ∧
    run.1.now = s.now + ((score delay blocks).map Cue.duration).sum ∧
    (∀ block ∈ body blocks, block.isAgain = false) ∧
    ∀ steps last calls, Interprets delay 0 (.list blocks) pose steps last calls ↔
      performance delay blocks pose = (.enter .running :: steps ++ [.enter .completed], last) ∧
      calls = (0, blocks) :: List.replicate (blocks.map Block.times).sum (1, body blocks) := by
  intro run
  refine ⟨?_, ?_, ?_, fun block mem => isAgain_of_mem_body mem, fun steps last calls => ?_⟩
  · rw [← trace_performance]
    exact s.events_performAlone id delay blocks pose
  · exact (renders_sequence delay blocks pose).last
  · have ends := s.now_performAlone id delay blocks pose
    rwa [← total_duration_performance delay blocks pose, duration_performance] at ends
  · rw [interprets_list_iff]
    refine and_congr_left fun _ => ?_
    constructor
    · intro result
      rw [performance, result]
    · intro result
      obtain ⟨same, lastSame⟩ := Prod.ext_iff.mp result
      have inner := List.append_cancel_right (List.cons.inj same).2
      exact Prod.ext inner lastSame

/-- A walk behind a block that goes through it twice again is taken three times in all. -/
example : score 50 [.again 2, .move 1, .bubble .thought "Home" 10] =
    [.rest 50, .play (.move 1), .play (.bubble .thought "Home" 10),
      .rest 50, .play (.move 1), .play (.bubble .thought "Home" 10), .hold,
      .play (.move 1), .play (.bubble .thought "Home" 10)] := by
  decide

end SpriteStage
