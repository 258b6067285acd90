import Mathlib.Algebra.BigOperators.Group.List.Basic
import Mathlib.Tactic.Ring
import SpriteStage.Performance.Step
import SpriteStage.Session

/-! # What a sequence adds up to

Let each step count for something. Then what a list of blocks counts for depends on how often its
blocks go through the others again, and not on where in the list these blocks stand.

* `repetitions`, `bubbleTime` — rounds and bubbles of all blocks of a list together
* `total`, `total_sequence` — what the steps of a sequence count for
* `playingTime`, `total_duration_performance` — how long a performance lasts
* `poseCount`, `total_poses_performance` — how many poses it makes known
-/

namespace SpriteStage

set_option autoImplicit false

/-! ## Blocks -/

namespace Block

/-- How often a block goes through the others again. -/
def times : Block → Nat
  | again times => times.toInt.toNat
  | _ => 0

/-- How long the bubble of a block is shown. -/
def bubbleTime : Block → Nat
  | bubble _ _ time => delayLength time
  | _ => 0

end Block

/-- How often the blocks of a list go through the others again. -/
def repetitions (blocks : List Block) : Nat :=
  (blocks.map Block.times).sum

/-- How long the bubbles of a list of blocks are shown when each of them is shown once. -/
def bubbleTime (blocks : List Block) : Nat :=
  (blocks.map Block.bubbleTime).sum

theorem repetitions_of_againCount {blocks : List Block} (none : againCount blocks = 0) :
    repetitions blocks = 0 := by
  rw [againCount, List.countP_eq_zero] at none
  apply List.sum_eq_zero
  intro times mem
  obtain ⟨block, there, rfl⟩ := List.mem_map.mp mem
  have own := none block there
  cases block with
  | again times => exact absurd rfl own
  | _ => rfl

theorem length_body (blocks : List Block) :
    blocks.length = (body blocks).length + againCount blocks := by
  rw [body, againCount, ← List.countP_eq_length_filter]
  induction blocks with
  | nil => rfl
  | cons block rest ih =>
    rw [List.length_cons, List.countP_cons, List.countP_cons, ih]
    cases block.isAgain <;> simp <;> omega

/-! ## Steps -/

/-- What some steps count for together. -/
def total (weight : Step → Nat) (steps : List Step) : Nat :=
  (steps.map weight).sum

section Total

variable (weight : Step → Nat)

@[simp] theorem total_nil : total weight [] = 0 := rfl

@[simp] theorem total_cons (step : Step) (rest : List Step) :
    total weight (step :: rest) = weight step + total weight rest := by
  simp [total]

@[simp] theorem total_append (first later : List Step) :
    total weight (first ++ later) = total weight first + total weight later := by
  simp [total]

/-- What the bubbles of a list of blocks count for when each of them is shown once. -/
def totalDisplay (blocks : List Block) : Nat :=
  (blocks.map fun block => total weight block.display).sum

/-- A block that goes through others again shows nothing itself. -/
theorem totalDisplay_body (blocks : List Block) :
    totalDisplay weight (body blocks) = totalDisplay weight blocks := by
  unfold totalDisplay body
  induction blocks with
  | nil => rfl
  | cons block rest ih =>
    cases block with
    | again times =>
      have quiet : total weight (Block.again times).display = 0 := rfl
      rw [List.filter_cons_of_neg (by simp [Block.isAgain]), List.map_cons, List.sum_cons, ih, quiet,
        Nat.zero_add]
    | _ => rw [List.filter_cons_of_pos (by rfl), List.map_cons, List.map_cons, List.sum_cons,
        List.sum_cons, ih]

variable {weight} {each : Nat}

theorem total_rounds (delay : Int64) {round : Pose → List Step × Pose} {own : Nat}
    (same : ∀ pose, total weight (round pose).1 = own) (count : Nat) (pose : Pose) :
    total weight (rounds delay round count pose).1 =
      count * (total weight (suspension delay) + own) := by
  induction count generalizing pose with
  | zero => simp [rounds]
  | succ count ih =>
    simp only [rounds, total_append, same, ih]
    ring

variable (commits : ∀ pose, weight (.commit pose) = each)
include commits

theorem total_blockSteps (delay : Int64) {round : Pose → List Step × Pose} {own : Nat}
    (same : ∀ pose, total weight (round pose).1 = own) (block : Block) (pose : Pose) :
    total weight (blockSteps delay round block pose).1 =
      block.times * (total weight (suspension delay) + own) + total weight block.display + each := by
  cases block with
  | again times =>
    have rounds := total_rounds delay same times.toInt.toNat pose
    simp only [blockSteps, total_append, total_cons, total_nil, rounds, commits, Block.times,
      Block.display, Nat.add_zero]
  | _ => simp [blockSteps, commits, Block.times]

theorem total_walk (delay : Int64) {round : Pose → List Step × Pose} {own : Nat}
    (same : ∀ pose, total weight (round pose).1 = own) (blocks : List Block) (pose : Pose) :
    total weight (walk delay round blocks pose).1 =
      repetitions blocks * (total weight (suspension delay) + own) +
        totalDisplay weight blocks + blocks.length * each := by
  induction blocks generalizing pose with
  | nil => simp [walk, repetitions, totalDisplay]
  | cons block rest ih =>
    have first := total_blockSteps commits delay same block pose
    simp only [walk, total_append, first, ih, repetitions, totalDisplay, List.map_cons, List.sum_cons,
      List.length_cons]
    ring

/-- A sequence whose blocks all make their poses known, wherever the rounds begin. -/
theorem total_sequence (delay : Int64) (blocks : List Block) (pose : Pose) :
    total weight (sequence delay blocks pose).1 =
      repetitions blocks * (total weight (suspension delay) +
        (totalDisplay weight blocks + (body blocks).length * each)) +
      totalDisplay weight blocks + blocks.length * each := by
  -- a list that goes through nothing again is its own body
  have flat : ∀ (list : List Block) (pose : Pose), againCount list = 0 →
      total weight (sequence delay list pose).1 =
        totalDisplay weight list + list.length * each := by
    intro list pose none
    have nothing : ∀ pose : Pose, total weight (([], pose) : List Step × Pose).1 = 0 := fun _ => rfl
    rw [sequence, if_pos none, total_walk commits delay nothing, repetitions_of_againCount none]
    omega
  by_cases none : againCount blocks = 0
  · rw [flat blocks pose none, repetitions_of_againCount none]
    omega
  · have round : ∀ pose, total weight (sequence delay (body blocks) pose).1 =
        totalDisplay weight blocks + (body blocks).length * each := by
      intro pose
      rw [flat (body blocks) pose (againCount_body blocks), totalDisplay_body]
    rw [sequence, if_neg none, total_walk commits delay round]

end Total

/-! ## How long a performance lasts -/

/-- How long a step lasts, in milliseconds. -/
def Step.duration : Step → Nat
  | wait ms => delayLength ms
  | _ => 0

/--
The milliseconds that a list of blocks takes: a delay in front of each round, and all bubbles, once
and again in each round.
-/
def playingTime (delay : Int64) (blocks : List Block) : Nat :=
  repetitions blocks * delayLength delay + (1 + repetitions blocks) * bubbleTime blocks

theorem total_duration_suspension (ms : Int64) :
    total Step.duration (suspension ms) = delayLength ms := by
  simp [suspension, Step.duration]

theorem totalDisplay_duration (blocks : List Block) :
    totalDisplay Step.duration blocks = bubbleTime blocks := by
  have own : ∀ block : Block, total Step.duration block.display = block.bubbleTime := by
    intro block
    cases block with
    | bubble kind text time =>
      simp [Block.display, total_duration_suspension, Step.duration, Block.bubbleTime]
    | _ => rfl
  simp only [totalDisplay, own, bubbleTime]

theorem total_duration_performance (delay : Int64) (blocks : List Block) (pose : Pose) :
    total Step.duration (performance delay blocks pose).1 = playingTime delay blocks := by
  have commits : ∀ pose, Step.duration (.commit pose) = 0 := fun _ => rfl
  have steps := total_sequence commits delay blocks pose
  have ends : ∀ state, Step.duration (.enter state) = 0 := fun _ => rfl
  simp only [performance, total_append, total_cons, total_nil, ends, steps,
    total_duration_suspension, totalDisplay_duration, playingTime]
  ring

/-! ## How many poses it makes known -/

/-- How many poses a step makes known. -/
def Step.poses : Step → Nat
  | commit _ => 1
  | _ => 0

/--
How many poses a list of blocks makes known: one for each block that does something itself, once and
again in each round, and one for each block that goes through the others again.
-/
def poseCount (blocks : List Block) : Nat :=
  (body blocks).length * (1 + repetitions blocks) + againCount blocks

theorem total_poses_performance (delay : Int64) (blocks : List Block) (pose : Pose) :
    total Step.poses (performance delay blocks pose).1 = poseCount blocks := by
  have commits : ∀ pose, Step.poses (.commit pose) = 1 := fun _ => rfl
  have steps := total_sequence commits delay blocks pose
  have pauses : total Step.poses (suspension delay) = 0 := by simp [suspension, Step.poses]
  have bubbles : totalDisplay Step.poses blocks = 0 := by
    apply List.sum_eq_zero
    intro count mem
    obtain ⟨block, -, rfl⟩ := List.mem_map.mp mem
    cases block with
    | bubble kind text time => simp [Block.display, suspension, Step.poses]
    | _ => rfl
  have ends : ∀ state, Step.poses (.enter state) = 0 := fun _ => rfl
  simp only [performance, total_append, total_cons, total_nil, ends, steps, pauses, bubbles,
    poseCount, length_body blocks]
  ring

end SpriteStage
