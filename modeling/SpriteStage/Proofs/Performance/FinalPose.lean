import SpriteStage.Proofs.Performance.Trace

/-! # The pose in which a performance ends

Every block makes its pose known when it is done, so that the last pose that a sprite has made known
is the one in which its performance ends.

* `Event.poseAfter` — the pose of a sprite after an event of its own
* `poseAfter_performance` — the pose after a whole performance
-/

namespace SpriteStage

set_option autoImplicit false

/-- The pose that a sprite is in after a step. -/
def Step.poseAfter (pose : Pose) : Step → Pose
  | commit next => next
  | _ => pose

/-- The pose that a sprite is in after an event of its own. -/
def Event.poseAfter (pose : Pose) : Event → Pose
  | poseCommitted _ next _ => next
  | _ => pose

theorem Step.poseAfter_event? (id : SpriteId) (now : Nat) (pose : Pose) (step : Step) :
    (step.event? id now).toList.foldl Event.poseAfter pose = step.poseAfter pose := by
  cases step <;> rfl

theorem poseAfter_trace (id : SpriteId) (now : Nat) (deadline : Option Nat) (steps : List Step)
    (pose : Pose) :
    (trace id now deadline steps).foldl Event.poseAfter pose = steps.foldl Step.poseAfter pose := by
  fun_induction trace id now deadline steps generalizing pose with
  | case1 => rfl
  | case2 now deadline ms rest ih => exact ih pose
  | case3 now deadline step rest other ih =>
    rw [List.foldl_append, Step.poseAfter_event?, ih, List.foldl_cons]

/-! ## Blocks -/

theorem poseAfter_blockSteps (delay : Int64) (round : Pose → List Step × Pose) (block : Block)
    (pose start : Pose) :
    (blockSteps delay round block pose).1.foldl Step.poseAfter start =
      (blockSteps delay round block pose).2 := by
  cases block <;> simp only [blockSteps, List.foldl_append, List.foldl_cons, List.foldl_nil,
    Step.poseAfter]

theorem poseAfter_walk (delay : Int64) (round : Pose → List Step × Pose) (blocks : List Block)
    (pose : Pose) :
    (walk delay round blocks pose).1.foldl Step.poseAfter pose = (walk delay round blocks pose).2 := by
  induction blocks generalizing pose with
  | nil => rfl
  | cons block rest ih =>
    simp only [walk, List.foldl_append, poseAfter_blockSteps]
    exact ih _

theorem poseAfter_sequence (delay : Int64) (blocks : List Block) (pose : Pose) :
    (sequence delay blocks pose).1.foldl Step.poseAfter pose = (sequence delay blocks pose).2 := by
  rw [sequence]
  split
  · exact poseAfter_walk _ _ _ _
  · exact poseAfter_walk _ _ _ _

/-- A performance ends in the pose made known last, or where it began if none was. -/
theorem poseAfter_performance (delay : Int64) (blocks : List Block) (pose : Pose) :
    (performance delay blocks pose).1.foldl Step.poseAfter pose =
      (performance delay blocks pose).2 := by
  have last := poseAfter_sequence delay blocks pose
  simpa only [performance, List.cons_append, List.foldl_cons, List.foldl_append, List.foldl_nil,
    Step.poseAfter] using last

end SpriteStage
