import Mathlib.Data.List.Forall2
import SpriteStage.Proofs.Session.View

/-! # Blocks that look alike

What a block adds to an angle makes no difference to someone who looks at positions alone, and where
it puts a sprite makes none to someone who looks at angles.

* `View.block` — what is seen of a block
* `View.performance` — sprites that look alike and perform blocks that look alike do so alike
* `BlockInstance.AlikeIn` — the difference it makes to a program
-/

namespace SpriteStage

set_option autoImplicit false

namespace View

variable (view : View)

/-! ## Blocks -/

/-- A block without the parameters that make no difference. -/
def block : View → Block → Block
  | positions, .turn _ => .turn 0
  | angles, .move _ => .move 0
  | angles, .goTo _ _ => .goTo 0 0
  | _, block => block

theorem pose_effect (b : Block) (p : Pose) :
    view.pose (b.effect p) = view.pose ((view.block b).effect (view.pose p)) := by
  cases view <;> cases b <;> rfl

theorem isAgain_block (b : Block) : (view.block b).isAgain = b.isAgain := by
  cases view <;> cases b <;> rfl

theorem display_block (b : Block) : (view.block b).display = b.display := by
  cases view <;> cases b <;> rfl

theorem block_eq_again {b : Block} {times : Int64} (h : view.block b = .again times) :
    b = .again times := by
  cases view <;> cases b <;> first | exact h | cases h

/-! ## Sequences -/

/-- What is seen of some steps, and of the pose they end in. -/
def outcome (r : List Step × Pose) : List Step × Pose :=
  (r.1.map view.step, view.pose r.2)

/-- From poses that look alike, two ways to perform look alike. -/
def Alike (f g : Pose → List Step × Pose) : Prop :=
  ∀ p q, view.pose p = view.pose q → view.outcome (f p) = view.outcome (g q)

variable {view} {f g : Pose → List Step × Pose}

theorem Alike.rounds (h : view.Alike f g) (delay : Int64) (count : Nat) :
    view.Alike (rounds delay f count) (rounds delay g count) := by
  induction count with
  | zero => exact fun p q same => Prod.ext rfl same
  | succ count ih =>
    intro p q same
    obtain ⟨steps, pose⟩ := Prod.ext_iff.mp (h p q same)
    obtain ⟨more, last⟩ := Prod.ext_iff.mp (ih _ _ pose)
    refine Prod.ext ?_ last
    simp only [outcome] at steps more
    simp only [outcome, SpriteStage.rounds, List.map_append, steps, more]

theorem Alike.blockSteps (h : view.Alike f g) (delay : Int64) {b c : Block}
    (same : view.block b = view.block c) :
    view.Alike (blockSteps delay f b) (blockSteps delay g c) := by
  intro p q poses
  cases again : b.isAgain with
  | true =>
    obtain ⟨times, rfl⟩ : ∃ times, b = .again times := by cases b <;> cases again; exact ⟨_, rfl⟩
    obtain rfl : c = .again times := view.block_eq_again (same.symm.trans (by cases view <;> rfl))
    obtain ⟨steps, pose⟩ := Prod.ext_iff.mp (h.rounds delay times.toInt.toNat p q poses)
    refine Prod.ext ?_ pose
    simp only [outcome] at steps pose
    simp only [outcome, SpriteStage.blockSteps, List.map_append, steps, List.map_cons, step, pose]
  | false =>
    have again' : c.isAgain = false := by rw [← isAgain_block, ← same, isAgain_block, again]
    have effect : view.pose (b.effect p) = view.pose (c.effect q) := by
      rw [pose_effect, same, poses, ← pose_effect]
    have display : b.display = c.display := by rw [← view.display_block, same, display_block]
    rw [blockSteps_of_not_again again, blockSteps_of_not_again again']
    refine Prod.ext ?_ effect
    simp only [outcome, List.map_append, display, List.map_cons, step, effect]

theorem Alike.walk (h : view.Alike f g) (delay : Int64) {bs cs : List Block}
    (same : bs.map view.block = cs.map view.block) :
    view.Alike (walk delay f bs) (walk delay g cs) := by
  induction bs generalizing cs with
  | nil =>
    obtain rfl := List.map_eq_nil_iff.mp same.symm
    exact fun p q poses => Prod.ext rfl poses
  | cons b rest ih =>
    obtain ⟨c, others, rfl, first, later⟩ := List.map_eq_cons_iff.mp same.symm
    intro p q poses
    obtain ⟨steps, pose⟩ := Prod.ext_iff.mp (h.blockSteps delay first.symm p q poses)
    obtain ⟨more, last⟩ := Prod.ext_iff.mp (ih later.symm _ _ pose)
    refine Prod.ext ?_ last
    simp only [outcome] at steps more
    simp only [outcome, SpriteStage.walk, List.map_append, steps, more]

theorem body_map (bs : List Block) : body (bs.map view.block) = (body bs).map view.block := by
  simp only [body, List.filter_map, Function.comp_def, isAgain_block]

theorem againCount_map (bs : List Block) : againCount (bs.map view.block) = againCount bs := by
  simp only [againCount, List.countP_map, Function.comp_def, isAgain_block]

theorem alike_sequence (delay : Int64) {bs cs : List Block}
    (same : bs.map view.block = cs.map view.block) :
    view.Alike (sequence delay bs) (sequence delay cs) := by
  have counts : againCount bs = againCount cs := by
    have := congrArg againCount same
    rwa [againCount_map, againCount_map] at this
  intro p q poses
  rw [sequence, sequence]
  by_cases none : againCount bs = 0
  · have still : view.Alike (fun pose => ([], pose)) (fun pose => ([], pose)) :=
      fun _ _ poses => Prod.ext rfl poses
    rw [if_pos none, if_pos (counts ▸ none)]
    exact still.walk delay same p q poses
  · -- a body has no repetitions, and is performed like a sequence of its own
    have bodies : (body bs).map view.block = (body cs).map view.block := by
      rw [← body_map, same, body_map]
    rw [if_neg none, if_neg (counts ▸ none)]
    exact Alike.walk (alike_sequence delay bodies) delay same p q poses
termination_by againCount bs
decreasing_by
  rw [againCount_body]
  omega

theorem alike_performance (delay : Int64) {bs cs : List Block}
    (same : bs.map view.block = cs.map view.block) :
    view.Alike (performance delay bs) (performance delay cs) := by
  intro p q poses
  obtain ⟨steps, pose⟩ := Prod.ext_iff.mp (alike_sequence delay same p q poses)
  refine Prod.ext ?_ pose
  simp only [outcome] at steps
  simp only [outcome, performance, List.map_append, List.map_cons, steps]

/-! ## Instances -/

/-- The parameters that make no difference. -/
def leavesOut : View → BlockKind → String → Prop
  | positions, kind, name => kind = .turn ∧ name = "degrees"
  | angles, kind, name => kind = .move ∧ name = "steps" ∨ kind = .goTo ∧ (name = "x" ∨ name = "y")

end View

/-- Two blocks of one kind that differ at most in parameters that are left out. -/
structure BlockInstance.AlikeIn (view : View) (a b : BlockInstance) : Prop where
  kind : a.kind = b.kind
  values : ∀ name, ¬view.leavesOut a.kind name → a.value? name = b.value? name

theorem BlockInstance.AlikeIn.refl (view : View) (a : BlockInstance) : a.AlikeIn view a :=
  ⟨rfl, fun _ _ => rfl⟩

/-- Two programs with the same blocks but for parameters that are left out. -/
def ActionList.AlikeIn (view : View) (a b : ActionList) : Prop :=
  List.Forall₂ (BlockInstance.AlikeIn view) a.blocks b.blocks

namespace View

variable {view : View}

theorem block_ofInstance {a b : BlockInstance} (h : a.AlikeIn view b) :
    view.block (.ofInstance a) = view.block (.ofInstance b) := by
  obtain ⟨kind, values⟩ := h
  rw [Block.ofInstance, Block.ofInstance, ← kind]
  cases view <;> cases known : a.kind <;>
    simp [block, Block.bubbleOfInstance, Block.integerValue, values, leavesOut, known]

theorem block_compile {a b : ActionList} (h : a.AlikeIn view b) :
    a.compile.map view.block = b.compile.map view.block := by
  rw [ActionList.compile, ActionList.compile, List.map_map, List.map_map]
  exact List.forall₂_eq_eq_eq ▸ List.forall₂_map_left_iff.mpr (List.forall₂_map_right_iff.mpr
    (h.imp fun _ _ alike => block_ofInstance alike))

end View

end SpriteStage
