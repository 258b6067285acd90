import SpriteStage.Proofs.Block.Parameters
import SpriteStage.Proofs.Number.Nearest

/-! # The two forms of an integer

An integer parameter may be entered as a number or as a text. A number is a double, so an integer is
entered as the double nearest to it; a text keeps all digits. The two forms make the same block if
the integer is a double, or if it is the greatest of 64 bits, to which the next double comes back.

* `Param.denotes_ofInt64` — the integer that an integer entered as a number denotes
* `Block.ofInstance_ofInt64` — when the two forms make the same block
-/

namespace SpriteStage

set_option autoImplicit false

/-! ## Integers entered as numbers -/

namespace Param

/-- What an integer is taken for when it is entered as a number. -/
def readBack (n : Int64) : Int64 :=
  clampInt64 (Binary64.nearestInt n.toInt)

theorem denotes_ofInt64 (n : Int64) : (ofInt64 n).Denotes (readBack n) := by
  have finite := (Binary64.isNearest_floatOfInt64 n).isFinite
  rw [Denotes, ofInt64, toInteger?, if_pos finite, Binary64.truncate_floatOfInt64]
  rfl

/-- The greatest integer becomes a double beyond 64 bits, and is moved back to where it was. -/
theorem readBack_eq_iff (n : Int64) :
    readBack n = n ↔ Binary64.nearestInt n.toInt = n.toInt ∨ n.toInt = greatestInt64 := by
  rw [← Int64.toInt_inj, readBack, toInt_clampInt64]
  have least : leastInt64 ≤ n.toInt := n.le_toInt
  have greatest : n.toInt < greatestInt64 + 1 := n.toInt_lt
  have lowest : Binary64.nearestInt leastInt64 = leastInt64 := by decide +kernel
  have highest : Binary64.nearestInt greatestInt64 = greatestInt64 + 1 := by decide +kernel
  constructor
  · intro same
    by_cases below : Binary64.nearestInt n.toInt < leastInt64
    · have : n.toInt = leastInt64 := by omega
      rw [this] at below
      omega
    · omega
  · rintro (same | same)
    · omega
    · rw [same, highest]
      omega

end Param

namespace Block

variable {block : BlockInstance} {name : String}

/--
An integer parameter that is entered as a number. The number is the double nearest to the integer,
and the block is that of the text of what remains of the integer. So it is the block of the text of
the integer itself if that is a double, as it is up to 53 binary digits, or the greatest of all.
-/
theorem ofInstance_ofInt64 (integer : name ∈ block.kind.integerParameters) (n : Int64) :
    let entered (value : Param) : Block := ofInstance (block.withValue name value)
    let decimal (k : Int64) : Param := .text (toString k.toInt)
    let nearest := Binary64.nearestInt n.toInt
    (∃ x, Param.ofInt64 n = .number x ∧ Binary64.IsNearest n.toInt x ∧
      Binary64.truncate x = nearest) ∧
    entered (.ofInt64 n) = entered (decimal (clampInt64 nearest)) ∧
    (entered (.ofInt64 n) = entered (decimal n) ↔ nearest = n.toInt ∨ n.toInt = greatestInt64) ∧
    (n.toInt.natAbs ≤ 2 ^ 53 → entered (.ofInt64 n) = entered (decimal n)) := by
  intro entered decimal nearest
  have number := Param.denotes_ofInt64 n
  have same : entered (.ofInt64 n) = entered (decimal n) ↔ _ :=
    (ofInstance_withValue_iff integer number (Param.denotes_toString n)).trans
      (Param.readBack_eq_iff n)
  refine ⟨⟨_, rfl, Binary64.isNearest_floatOfInt64 n, Binary64.truncate_floatOfInt64 n⟩, ?_, same,
    fun small => same.mpr (.inl (Binary64.nearestInt_of_le small))⟩
  exact (ofInstance_withValue_iff integer number (Param.denotes_toString _)).mpr rfl

/-- Halfway between two doubles the even one is taken, whatever else has been entered. -/
theorem ofInstance_ofInt64_halfway :
    let block := (BlockInstance.ofKind .goTo).withValue "y" (.text "5")
    "x" ∈ block.kind.integerParameters ∧
      ofInstance (block.withValue "x" (.ofInt64 (-9007199254740993))) =
        ofInstance (block.withValue "x" (.text "-9007199254740992")) := by
  intro block
  have integer : "x" ∈ block.kind.integerParameters := by decide
  have forms := (ofInstance_ofInt64 integer (-9007199254740993)).2.1
  refine ⟨integer, forms.trans ?_⟩
  decide +kernel

/-- The first integer that is no double: entered as a number it loses its last digit. -/
theorem ofInstance_forms_differ :
    let n : Int64 := 9007199254740993
    let entered := fun value => ofInstance ((BlockInstance.ofKind .move).withValue "steps" value)
    "steps" ∈ BlockKind.integerParameters .move ∧
      entered (.ofInt64 n) = .move 9007199254740992 ∧
      entered (.text (toString n.toInt)) = .move 9007199254740993 ∧
      entered (.ofInt64 n) ≠ entered (.text (toString n.toInt)) := by
  decide +kernel

end Block

end SpriteStage
