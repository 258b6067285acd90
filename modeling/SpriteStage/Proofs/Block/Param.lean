import SpriteStage.Block.Param
import SpriteStage.Proofs.Text.Slices

/-! # Texts as integer parameters

* `spells_toString` — the decimal text of an integer spells that integer
* `Param.toInteger?_text` — what a text denotes as a parameter, for every text
-/

namespace SpriteStage

set_option autoImplicit false

theorem decimalValue_toDigits (n : Nat) : decimalValue (Nat.toDigits 10 n) = n :=
  Nat.ofDigitChars_ten_toDigits

/-- A decimal text has no blanks and no rest, and a sign if it needs one. -/
theorem spells_toString (n : Int) :
    ∃ sign digits, Spells (toString n) [] sign digits [] ∧
      writtenInteger sign.isMinus digits = n := by
  have digit (k : Nat) : ∀ c ∈ Nat.toDigits 10 k, c.isDigit = true :=
    fun c mem => Nat.isDigit_of_mem_toDigits (by decide) (by decide) mem
  cases n with
  | ofNat k =>
    refine ⟨.absent, Nat.toDigits 10 k, ⟨?_, by simp, digit k, Nat.toDigits_ne_nil⟩, ?_⟩
    · simp [toString, Int.repr, Nat.repr, WrittenSign.chars]
    · simp [writtenInteger, WrittenSign.isMinus, decimalValue_toDigits]
  | negSucc k =>
    refine ⟨.minus, Nat.toDigits 10 (k + 1), ⟨?_, by simp, digit _, Nat.toDigits_ne_nil⟩, ?_⟩
    · simp [toString, Int.repr, Nat.repr, WrittenSign.chars]
    · simp [writtenInteger, WrittenSign.isMinus, decimalValue_toDigits]
      omega

namespace Param

theorem toInteger?_toString (n : Int64) : (text (toString n.toInt)).toInteger? = some n := by
  obtain ⟨sign, digits, spells, written⟩ := spells_toString n.toInt
  have read := spells.leadingInteger?_eq (fun c mem => by cases mem)
  rwa [written, clampInt64_toInt] at read

/-- An empty text denotes nothing, so that it makes no difference whether it is looked for. -/
theorem integerOr_text (s : String) (default : Int64) :
    integerOr (some (text s)) default = (text s).toInteger?.getD default := by
  by_cases empty : s.isEmpty = true
  · have nothing : s = "" := by simpa using empty
    subst nothing
    rfl
  · exact if_neg empty

/--
A text denotes an integer when it is made of blanks, at most one sign, at least one digit and a
rest. The integer is the one that the sign and the longest row of digits write, moved into 64 bits.
All other texts give way to the default, the decimal text of an integer denotes that integer, and a
reader that works on bytes gets through with the same result.
-/
theorem toInteger?_text (s : String) (default : Int64) :
    ((text s).toInteger?.isSome = true ↔ ∃ blanks sign digits rest,
      Spells s blanks sign digits rest) ∧
    (∀ blanks sign digits rest, Spells s blanks sign digits rest → EndsDigits rest →
      ∃ n, (text s).toInteger? = some n ∧ integerOr (some (text s)) default = n ∧
        n.toInt = max leastInt64 (min greatestInt64 (writtenInteger sign.isMinus digits))) ∧
    ((¬∃ blanks sign digits rest, Spells s blanks sign digits rest) →
      integerOr (some (text s)) default = default) ∧
    (∀ n : Int64, (text (toString n.toInt)).toInteger? = some n) ∧
    slicedInteger? s = some (text s).toInteger? := by
  have whether := isSome_leadingInteger? s
  refine ⟨whether, ?_, ?_, toInteger?_toString, slicedInteger?_eq s⟩
  · intro blanks sign digits rest spells ends
    have read : (text s).toInteger? = _ := spells.leadingInteger?_eq ends
    refine ⟨_, read, ?_, toInt_clampInt64 _⟩
    rw [integerOr_text, read]
    rfl
  · intro never
    have read : (text s).toInteger? = none := by
      rw [← Option.not_isSome_iff_eq_none]
      exact mt whether.mp never
    rw [integerOr_text, read]
    rfl

example : (text "  -0012abc").toInteger? = some (-12) := by decide +kernel

end Param

end SpriteStage
