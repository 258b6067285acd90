import Mathlib.Data.List.Basic
import SpriteStage.Block.Basic
import SpriteStage.Proofs.Block.Param

/-! # The parameters in the catalog

The names of the parameters stand in the catalog and again where a block is made from what has been
entered. The two agree: a block depends on every parameter that the catalog names, and on nothing
else. So a value may as well be entered after a block has been made.

* `Values.get?_insert` — the values after one has been put under a name
* `mem_catalog_iff` — the catalog has one entry for every kind
* `Block.ofInstance_congr` — no other values count
* `Block.withParameter`, `Block.ofInstance_withValue` — a value entered into a block
* `Block.ofInstance_withValue_iff` — what counts of an integer parameter
* `Block.ofInstance_withValue_ne` — every parameter in the catalog counts
-/

namespace SpriteStage

set_option autoImplicit false

/-! ## Values by name -/

namespace Values

theorem find?_insertEntry (name : String) (value : Param) (entries : List (String × Param))
    (other : String) :
    (insertEntry name value entries).find? (fun entry => entry.1 == other) =
      if name = other then some (name, value)
      else entries.find? fun entry => entry.1 == other := by
  induction entries with
  | nil =>
    by_cases same : name = other <;> simp [insertEntry, same]
  | cons entry rest ih =>
    rw [insertEntry]
    split
    · by_cases same : name = other <;> simp [same]
    split
    next replaced =>
      by_cases same : name = other <;> simp [← replaced, same]
    next different =>
      rw [List.find?_cons, List.find?_cons, ih]
      by_cases same : name = other
      · have skipped : (entry.1 == other) = false := by simp [← same, Ne.symm different]
        rw [skipped, if_pos same]
      · rw [if_neg same, if_neg same]

theorem get?_insert (values : Values) (name : String) (value : Param) (other : String) :
    (values.insert name value).get? other =
      if name = other then some value else values.get? other := by
  rw [get?, insert, find?_insertEntry]
  split <;> rfl

end Values

theorem BlockInstance.value?_withValue (block : BlockInstance) (name : String) (value : Param)
    (other : String) :
    (block.withValue name value).value? other =
      if name = other then some value else block.value? other :=
  block.values.get?_insert name value other

/-! ## Entries of the catalog -/

namespace BlockKind

theorem mem_all (kind : BlockKind) : kind ∈ all := by
  cases kind <;> decide

theorem kind_blockType (kind : BlockKind) : kind.blockType.kind = kind := by
  cases kind <;> rfl

/-- The parameters of a kind that are integers; only the text of a bubble is none. -/
def integerParameters : BlockKind → List String
  | .move => ["steps"]
  | .turn => ["degrees"]
  | .goTo => ["x", "y"]
  | .again => ["times"]
  | .speak | .think => ["time"]

end BlockKind

theorem mem_catalog_iff (kind : BlockKind) (entry : BlockType) :
    entry ∈ catalog ∧ entry.kind = kind ↔ entry = kind.blockType := by
  constructor
  · rintro ⟨mem, rfl⟩
    obtain ⟨kind, -, rfl⟩ := List.mem_map.mp mem
    rw [kind.kind_blockType]
  · rintro rfl
    exact ⟨List.mem_map_of_mem kind.mem_all, kind.kind_blockType⟩

/-! ## What a block depends on -/

namespace Block

variable {block first second : BlockInstance} {name : String}

theorem integerValue_congr (agree : first.value? name = second.value? name) (default : Int64) :
    integerValue first name default = integerValue second name default :=
  congrArg (integerOr · default) agree

theorem bubbleOfInstance_congr (kind : BubbleKind) (text : first.value? "text" = second.value? "text")
    (time : first.value? "time" = second.value? "time") :
    bubbleOfInstance kind first = bubbleOfInstance kind second := by
  rw [bubbleOfInstance, bubbleOfInstance, text, integerValue_congr time]

/-- Values under other names than those in the catalog do not count. -/
theorem ofInstance_congr (same : first.kind = second.kind)
    (agree : ∀ name ∈ first.kind.blockType.parameters, first.value? name = second.value? name) :
    ofInstance first = ofInstance second := by
  unfold ofInstance
  rw [← same]
  cases kind : first.kind with rw [kind] at agree
  | move => exact congrArg move (integerValue_congr (agree "steps" (by decide)) 0)
  | turn => exact congrArg turn (integerValue_congr (agree "degrees" (by decide)) 0)
  | goTo =>
    exact congrArg₂ goTo (integerValue_congr (agree "x" (by decide)) 0)
      (integerValue_congr (agree "y" (by decide)) 0)
  | again => exact congrArg again (integerValue_congr (agree "times" (by decide)) 0)
  | speak =>
    exact bubbleOfInstance_congr .speech (agree "text" (by decide)) (agree "time" (by decide))
  | think =>
    exact bubbleOfInstance_congr .thought (agree "text" (by decide)) (agree "time" (by decide))

theorem ofInstance_withValue_of_not_mem (unnamed : name ∉ block.kind.blockType.parameters)
    (value : Param) : ofInstance (block.withValue name value) = ofInstance block := by
  refine ofInstance_congr rfl fun other named => ?_
  have different : name ≠ other := fun same => unnamed (same ▸ named)
  rw [BlockInstance.value?_withValue, if_neg different]

theorem kind_ofInstance (block : BlockInstance) : (ofInstance block).kind = block.kind := by
  unfold ofInstance
  cases block.kind <;> rfl

/-! ## Values entered into a block -/

/-- An integer parameter after a value has been entered under some name. -/
def enter (name : String) (value : Param) (parameter : String) (default old : Int64) : Int64 :=
  if name = parameter then integerOr (some value) default else old

/-- A block after a value has been entered under some name. -/
def withParameter (name : String) (value : Param) : Block → Block
  | move steps => move (enter name value "steps" 0 steps)
  | turn degrees => turn (enter name value "degrees" 0 degrees)
  | goTo x y => goTo (enter name value "x" 0 x) (enter name value "y" 0 y)
  | again times => again (enter name value "times" 0 times)
  | bubble kind text time =>
    bubble kind (if name = "text" then value.display else text)
      (enter name value "time" defaultTime time)

theorem integerValue_withValue (block : BlockInstance) (name : String) (value : Param)
    (parameter : String) (default : Int64) :
    integerValue (block.withValue name value) parameter default =
      enter name value parameter default (integerValue block parameter default) := by
  rw [integerValue, BlockInstance.value?_withValue, enter]
  split <;> rfl

theorem bubbleOfInstance_withValue (kind : BubbleKind) (block : BlockInstance) (name : String)
    (value : Param) :
    bubbleOfInstance kind (block.withValue name value) =
      (bubbleOfInstance kind block).withParameter name value := by
  rw [bubbleOfInstance, integerValue_withValue, BlockInstance.value?_withValue, bubbleOfInstance,
    withParameter]
  split <;> rfl

/-- It makes no difference whether a value is entered before or after a block is made. -/
theorem ofInstance_withValue (block : BlockInstance) (name : String) (value : Param) :
    ofInstance (block.withValue name value) = (ofInstance block).withParameter name value := by
  have integer := integerValue_withValue block name value
  unfold ofInstance
  rw [show (block.withValue name value).kind = block.kind from rfl]
  cases block.kind with
  | move => exact congrArg move (integer "steps" 0)
  | turn => exact congrArg turn (integer "degrees" 0)
  | goTo => exact congrArg₂ goTo (integer "x" 0) (integer "y" 0)
  | again => exact congrArg again (integer "times" 0)
  | speak => exact bubbleOfInstance_withValue .speech block name value
  | think => exact bubbleOfInstance_withValue .thought block name value

end Block

/-! ## What counts of a parameter -/

namespace Param

variable {value : Param} {n : Int64}

/-- A value denotes an integer, so that no default takes its place. -/
def Denotes (value : Param) (n : Int64) : Prop :=
  value.toInteger? = some n

theorem Denotes.integerOr (denotes : value.Denotes n) (default : Int64) :
    integerOr (some value) default = n := by
  cases value with
  | number x => rw [SpriteStage.integerOr, if_neg (by simp [isEmpty]), denotes, Option.getD_some]
  | text s => rw [integerOr_text, denotes, Option.getD_some]

theorem Denotes.enter (denotes : value.Denotes n) (name : String) (default old : Int64) :
    Block.enter name value name default old = n := by
  rw [Block.enter, if_pos rfl, denotes.integerOr]

theorem denotes_toString (n : Int64) : (text (toString n.toInt)).Denotes n :=
  toInteger?_toString n

end Param

namespace Block

variable {block : BlockInstance} {name : String} {p q : Param} {a b : Int64}

theorem withParameter_iff (block : Block) (integer : name ∈ block.kind.integerParameters)
    (left : p.Denotes a) (right : q.Denotes b) :
    block.withParameter name p = block.withParameter name q ↔ a = b := by
  cases block with
  | move steps =>
    obtain rfl : name = "steps" := List.mem_singleton.mp integer
    rw [withParameter, withParameter, left.enter, right.enter, move.injEq]
  | turn degrees =>
    obtain rfl : name = "degrees" := List.mem_singleton.mp integer
    rw [withParameter, withParameter, left.enter, right.enter, turn.injEq]
  | goTo x y =>
    -- The value is entered for one of the two; the other is the same on both sides.
    obtain rfl | rfl : name = "x" ∨ name = "y" := List.mem_pair.mp integer
    · rw [withParameter, withParameter, left.enter, right.enter, goTo.injEq]
      exact and_iff_left rfl
    · rw [withParameter, withParameter, left.enter, right.enter, goTo.injEq]
      exact and_iff_right rfl
  | again times =>
    obtain rfl : name = "times" := List.mem_singleton.mp integer
    rw [withParameter, withParameter, left.enter, right.enter, again.injEq]
  | bubble kind text time =>
    have integer : name ∈ ["time"] := by cases kind <;> exact integer
    obtain rfl : name = "time" := List.mem_singleton.mp integer
    rw [withParameter, withParameter, left.enter, right.enter, bubble.injEq]
    exact ⟨fun same => same.2.2, fun same => ⟨rfl, rfl, same⟩⟩

/-- An integer parameter matters, and nothing about it but the integer that it denotes. -/
theorem ofInstance_withValue_iff (integer : name ∈ block.kind.integerParameters)
    (left : p.Denotes a) (right : q.Denotes b) :
    ofInstance (block.withValue name p) = ofInstance (block.withValue name q) ↔ a = b := by
  rw [ofInstance_withValue, ofInstance_withValue]
  exact withParameter_iff (ofInstance block) (by rwa [kind_ofInstance]) left right

/-- Nought and one make a difference, also as the texts of a bubble. -/
theorem withParameter_ne (block : Block) (named : name ∈ block.kind.blockType.parameters) :
    block.withParameter name (.text "0") ≠ block.withParameter name (.text "1") := by
  have zero : (Param.text "0").Denotes 0 := Param.denotes_toString 0
  have one : (Param.text "1").Denotes 1 := Param.denotes_toString 1
  cases block with
  | bubble kind text time =>
    have named : name ∈ ["text", "time"] := by cases kind <;> exact named
    obtain rfl | rfl : name = "text" ∨ name = "time" := List.mem_pair.mp named
    · intro same
      have texts := (bubble.inj same).2.1
      rw [if_pos rfl, if_pos rfl] at texts
      exact absurd texts (by decide)
    · have integer : "time" ∈ (bubble kind text time).kind.integerParameters := by
        cases kind <;> exact List.mem_singleton.mpr rfl
      exact mt (withParameter_iff _ integer zero one).mp (by decide)
  | _ => exact mt (withParameter_iff _ named zero one).mp (by decide)

theorem ofInstance_withValue_ne (named : name ∈ block.kind.blockType.parameters) :
    ofInstance (block.withValue name (.text "0")) ≠ ofInstance (block.withValue name (.text "1")) := by
  rw [ofInstance_withValue, ofInstance_withValue]
  exact withParameter_ne (ofInstance block) (by rwa [kind_ofInstance])

end Block

end SpriteStage
