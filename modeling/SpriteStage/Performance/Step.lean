import SpriteStage.Block.Basic
import SpriteStage.Performance.State

/-! # The steps of a performance

Performing a list of blocks comes down to steps: what the sprite shows, where it is, and how long it
waits. The steps follow from the blocks and the first pose alone.

* `Step` — the steps
* `Block.effect` — what a block does to the pose
* `sequence` — the steps of a list of blocks, and the pose they end in
* `performance` — the same as a performance of its own, from its beginning to its completion
-/

namespace SpriteStage

set_option autoImplicit false

/-- One step of a performance. -/
inductive Step where
  /-- The performer comes into another state. -/
  | enter (state : PerformerState)
  /-- A bubble appears, to stay for so many milliseconds. -/
  | showBubble (bubble : Bubble) (time : Int64)
  /-- The bubble disappears. -/
  | clearBubble
  /-- The pose becomes known. -/
  | commit (pose : Pose)
  /-- Nothing happens for so many milliseconds. -/
  | wait (ms : Int64)
deriving DecidableEq

/-- Waits, and is suspended as long. -/
def suspension (ms : Int64) : List Step :=
  [.enter .suspended, .wait ms, .enter .running]

namespace Block

/-- What a block does to the pose of the sprite. -/
def effect : Block → Pose → Pose
  | move steps, pose =>
    { pose with position := { pose.position with x := pose.position.x + floatOfInt64 steps } }
  | turn degrees, pose => { pose with angle := pose.angle + floatOfInt64 degrees }
  | goTo x y, pose => { pose with position := ⟨floatOfInt64 x, floatOfInt64 y⟩ }
  | again _, pose => pose
  | bubble _ _ _, pose => pose

/-- What a block shows before its pose becomes known. -/
def display : Block → List Step
  | bubble kind text time => .showBubble ⟨kind, text⟩ time :: suspension time ++ [.clearBubble]
  | _ => []

end Block

/-! ## Sequences -/

/-- So many rounds, each after a delay, from one pose to the next. -/
def rounds (delay : Int64) (round : Pose → List Step × Pose) : Nat → Pose → List Step × Pose
  | 0, pose => ([], pose)
  | count + 1, pose =>
    let (steps, pose) := round pose
    let (more, last) := rounds delay round count pose
    (suspension delay ++ steps ++ more, last)

/-- The steps of one block, given what a round of a block that goes through others again does. -/
def blockSteps (delay : Int64) (round : Pose → List Step × Pose) (block : Block) (pose : Pose) :
    List Step × Pose :=
  match block with
  | .again times =>
    let (steps, pose) := rounds delay round times.toInt.toNat pose
    (steps ++ [.commit pose], pose)
  | _ => (block.display ++ [.commit (block.effect pose)], block.effect pose)

theorem blockSteps_of_not_again {block : Block} (itself : block.isAgain = false) (delay : Int64)
    (round : Pose → List Step × Pose) (pose : Pose) :
    blockSteps delay round block pose =
      (block.display ++ [.commit (block.effect pose)], block.effect pose) := by
  cases block with
  | again times => cases itself
  | _ => rfl

/-- The steps of several blocks, one after the other. -/
def walk (delay : Int64) (round : Pose → List Step × Pose) :
    List Block → Pose → List Step × Pose
  | [], pose => ([], pose)
  | block :: rest, pose =>
    let (steps, pose) := blockSteps delay round block pose
    let (more, last) := walk delay round rest pose
    (steps ++ more, last)

/-- The blocks of a list that do something themselves. -/
def body (blocks : List Block) : List Block :=
  blocks.filter fun block => !block.isAgain

/-- The number of blocks that go through others again. -/
def againCount (blocks : List Block) : Nat :=
  blocks.countP Block.isAgain

/-- The body of a list goes through nothing again. -/
theorem againCount_body (blocks : List Block) : againCount (body blocks) = 0 := by
  simp [againCount, body, List.countP_eq_zero]

/--
The steps of a list of blocks, and the pose they end in. A block that goes through others again has
none of its own: each of its rounds is a sequence of all the other blocks of the list it stands in,
before it and behind it.
-/
def sequence (delay : Int64) (blocks : List Block) (pose : Pose) : List Step × Pose :=
  if againCount blocks = 0 then walk delay (fun pose => ([], pose)) blocks pose
  else walk delay (sequence delay (body blocks)) blocks pose
termination_by againCount blocks
decreasing_by rw [againCount_body]; omega

/-- A performance, from its beginning to its completion. -/
def performance (delay : Int64) (blocks : List Block) (pose : Pose) : List Step × Pose :=
  let (steps, pose) := sequence delay blocks pose
  (.enter .running :: steps ++ [.enter .completed], pose)

end SpriteStage
