import SpriteStage.Performance.Step

/-! # The phrases of a performance

However its blocks go through each other again, the steps of a sequence fall into phrases of three
kinds. What is said of all steps of a performance needs to be said of these phrases only.

* `Phrases` — steps in phrases
* `phrases_sequence` — the steps of a sequence are
-/

namespace SpriteStage

set_option autoImplicit false

/--
Steps in phrases: a pose made known, a suspension, or a bubble with its suspension and then a pose.
-/
inductive Phrases : List Step → Prop where
  | nil : Phrases []
  | pose (pose : Pose) {rest : List Step} (later : Phrases rest) : Phrases (.commit pose :: rest)
  | pause (ms : Int64) {rest : List Step} (later : Phrases rest) : Phrases (suspension ms ++ rest)
  | bubble (bubble : Bubble) (time : Int64) (pose : Pose) {rest : List Step} (later : Phrases rest) :
      Phrases (.showBubble bubble time :: suspension time ++ (.clearBubble :: .commit pose :: rest))

theorem Phrases.append {first later : List Step} (h₁ : Phrases first) (h₂ : Phrases later) :
    Phrases (first ++ later) := by
  induction h₁ with
  | nil => exact h₂
  | pose pose _ ih => exact .pose pose ih
  | pause ms _ ih => exact .pause ms ih
  | bubble bubble time pose _ ih => exact .bubble bubble time pose ih

theorem phrases_display (block : Block) (pose : Pose) : Phrases (block.display ++ [.commit pose]) := by
  cases block with
  | bubble kind text time => exact .bubble ⟨kind, text⟩ time pose .nil
  | _ => exact .pose pose .nil

section Rounds

variable (delay : Int64) {round : Pose → List Step × Pose} (own : ∀ pose, Phrases (round pose).1)
include own

theorem phrases_rounds (count : Nat) (pose : Pose) : Phrases (rounds delay round count pose).1 := by
  induction count generalizing pose with
  | zero => exact .nil
  | succ count ih => exact (Phrases.pause delay (own pose)).append (ih _)

theorem phrases_blockSteps (block : Block) (pose : Pose) :
    Phrases (blockSteps delay round block pose).1 := by
  cases block with
  | again times => exact (phrases_rounds delay own _ pose).append (.pose _ .nil)
  | _ => exact phrases_display _ _

theorem phrases_walk (blocks : List Block) (pose : Pose) :
    Phrases (walk delay round blocks pose).1 := by
  induction blocks generalizing pose with
  | nil => exact .nil
  | cons block rest ih => exact (phrases_blockSteps delay own block pose).append (ih _)

end Rounds

theorem phrases_sequence (delay : Int64) (blocks : List Block) (pose : Pose) :
    Phrases (sequence delay blocks pose).1 := by
  have flat : ∀ (list : List Block) (pose : Pose), againCount list = 0 →
      Phrases (sequence delay list pose).1 := by
    intro list pose none
    rw [sequence, if_pos none]
    exact phrases_walk delay (fun _ => .nil) list pose
  by_cases none : againCount blocks = 0
  · exact flat blocks pose none
  · rw [sequence, if_neg none]
    exact phrases_walk delay (fun pose => flat _ pose (againCount_body blocks)) blocks pose

end SpriteStage
