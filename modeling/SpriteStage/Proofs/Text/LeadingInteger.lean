import Mathlib.Data.List.TakeWhile
import SpriteStage.Text.Integer

/-! # Which texts denote an integer

A text denotes an integer when it spells one: blanks, at most one sign, at least one digit, and then
anything. The integer is the one that the sign and all of the digits write, moved into 64 bits once;
that the reader moves it there at every digit makes no difference, since it only ever grows away
from zero.

* `Spells` — the parts of a text that spells an integer
* `writtenInteger` — the integer that a sign and some digits write
* `foldl_appendDigit` — reading digit by digit
* `Spells.leadingInteger?_eq`, `isSome_leadingInteger?` — what a text denotes, and when
-/

namespace SpriteStage

set_option autoImplicit false

/-! ## Moving into 64 bits -/

theorem toInt_clampInt64 (n : Int) :
    (clampInt64 n).toInt = max leastInt64 (min greatestInt64 n) := by
  unfold clampInt64 leastInt64 greatestInt64
  apply Int64.toInt_ofInt_of_le <;> omega

theorem clampInt64_toInt (n : Int64) : clampInt64 n.toInt = n := by
  have least : leastInt64 ≤ n.toInt := n.le_toInt
  have greatest : n.toInt < greatestInt64 + 1 := n.toInt_lt
  have same : max leastInt64 (min greatestInt64 n.toInt) = n.toInt := by omega
  rw [clampInt64, same, Int64.ofInt_toInt]

/-! ## Digit by digit -/

/-- The integer that a sign and some digits write. -/
def writtenInteger (negative : Bool) (digits : List Char) : Int :=
  if negative then -(decimalValue digits : Int) else decimalValue digits

theorem decimalValue_concat (digits : List Char) (c : Char) :
    decimalValue (digits ++ [c]) = 10 * decimalValue digits + digitValue c := by
  simp [decimalValue]

/-- Whatever the digits before it, a digit may be appended to what has been moved into 64 bits. -/
theorem clampInt64_append {negative : Bool} (read : List Char) (c : Char) :
    clampInt64 (10 * (clampInt64 (writtenInteger negative read)).toInt +
      if negative then -(digitValue c : Int) else digitValue c) =
      clampInt64 (writtenInteger negative (read ++ [c])) := by
  rw [toInt_clampInt64]
  unfold writtenInteger clampInt64 leastInt64 greatestInt64
  rw [decimalValue_concat]
  congr 1
  cases negative <;> simp <;> omega

theorem foldl_appendDigit_from (negative : Bool) (digits read : List Char) :
    digits.foldl (appendDigit negative) (clampInt64 (writtenInteger negative read)) =
      clampInt64 (writtenInteger negative (read ++ digits)) := by
  induction digits generalizing read with
  | nil => rw [List.append_nil]; rfl
  | cons c digits ih =>
    have step : appendDigit negative (clampInt64 (writtenInteger negative read)) c =
        clampInt64 (writtenInteger negative (read ++ [c])) := clampInt64_append read c
    rw [List.foldl_cons, step, ih, List.append_assoc]
    rfl

theorem foldl_appendDigit (negative : Bool) (digits : List Char) :
    digits.foldl (appendDigit negative) 0 = clampInt64 (writtenInteger negative digits) := by
  have zero : clampInt64 (writtenInteger negative []) = 0 := by
    cases negative <;> decide
  rw [← zero]
  exact foldl_appendDigit_from negative digits []

/-! ## Spelling -/

/-- At most one sign. -/
inductive WrittenSign where
  | absent
  | plus
  | minus

def WrittenSign.chars : WrittenSign → List Char
  | absent => []
  | plus => ['+']
  | minus => ['-']

def WrittenSign.isMinus : WrittenSign → Bool
  | minus => true
  | _ => false

/-- A text is made of blanks, at most one sign, at least one digit, and a rest. -/
structure Spells (text : String) (blanks : List Char) (sign : WrittenSign)
    (digits rest : List Char) : Prop where
  parts : text.toList = blanks ++ (sign.chars ++ (digits ++ rest))
  blank : ∀ c ∈ blanks, isBlank c = true
  digit : ∀ c ∈ digits, c.isDigit = true
  nonempty : digits ≠ []

/-- No further digit follows. -/
def EndsDigits (rest : List Char) : Prop :=
  ∀ c ∈ rest.head?, c.isDigit = false

theorem takeWhile_isDigit {digits rest : List Char} (all : ∀ c ∈ digits, c.isDigit = true)
    (ends : EndsDigits rest) : (digits ++ rest).takeWhile Char.isDigit = digits := by
  rw [List.takeWhile_append_of_pos all]
  cases rest with
  | nil => simp
  | cons c rest => rw [List.takeWhile_cons_of_neg (by simp [ends c rfl]), List.append_nil]

theorem endsDigits_dropWhile (cs : List Char) : EndsDigits (cs.dropWhile Char.isDigit) := by
  intro c first
  have := List.head?_dropWhile_not Char.isDigit cs
  rw [Option.mem_def.mp first] at this
  simpa using this

theorem toNat_of_isDigit {c : Char} (digit : c.isDigit = true) : 48 ≤ c.toNat ∧ c.toNat ≤ 57 :=
  Char.isDigit_iff_toNat.mp digit

theorem isBlank_eq_false_of_isDigit {c : Char} (digit : c.isDigit = true) : isBlank c = false := by
  have range := toNat_of_isDigit digit
  simp [isBlank, inRanges, blankRanges]
  omega

variable {text : String} {blanks digits rest : List Char} {sign : WrittenSign}

theorem leadingDigits?_append (negative : Bool) (all : ∀ c ∈ digits, c.isDigit = true)
    (nonempty : digits ≠ []) (ends : EndsDigits rest) :
    leadingDigits? negative (digits ++ rest) =
      some (clampInt64 (writtenInteger negative digits)) := by
  rw [leadingDigits?, takeWhile_isDigit all ends, ← foldl_appendDigit]
  cases digits with
  | nil => exact absurd rfl nonempty
  | cons c digits => rfl

namespace Spells

variable (h : Spells text blanks sign digits rest)

include h

theorem trimmed : text.toList.dropWhile isBlank = sign.chars ++ (digits ++ rest) := by
  rw [h.parts, List.dropWhile_append_of_pos h.blank]
  obtain ⟨c, more, rfl⟩ := List.exists_cons_of_ne_nil h.nonempty
  have first : isBlank c = false := isBlank_eq_false_of_isDigit (h.digit c List.mem_cons_self)
  cases sign with
  | absent => exact List.dropWhile_cons_of_neg (by simp [first])
  | plus => rfl
  | minus => rfl

/-- The digits of a spelling may be all that there are. -/
theorem extend : Spells text blanks sign (digits ++ rest.takeWhile Char.isDigit)
    (rest.dropWhile Char.isDigit) := by
  refine ⟨?_, h.blank, ?_, by simp [h.nonempty]⟩
  · rw [h.parts, List.append_assoc digits, List.takeWhile_append_dropWhile]
  · intro c mem
    obtain early | late := List.mem_append.mp mem
    · exact h.digit c early
    · exact List.mem_takeWhile_imp late

/-- What is spelled is denoted: the sign and all digits, moved into 64 bits. -/
theorem leadingInteger?_eq (ends : EndsDigits rest) :
    leadingInteger? text = some (clampInt64 (writtenInteger sign.isMinus digits)) := by
  have read := leadingDigits?_append sign.isMinus h.digit h.nonempty ends
  rw [leadingInteger?, h.trimmed]
  cases sign with
  | minus => exact read
  | plus => exact read
  | absent =>
    -- the first digit is neither of the signs
    obtain ⟨c, more, rfl⟩ := List.exists_cons_of_ne_nil h.nonempty
    have digit := h.digit c List.mem_cons_self
    have front : WrittenSign.absent.chars ++ (c :: more ++ rest) = c :: (more ++ rest) := rfl
    rw [front]
    split
    next same => cases same; cases digit
    next same => cases same; cases digit
    next => exact read

end Spells

/-! ## When a text denotes an integer -/

theorem spells_of_trimmed {cs : List Char}
    (trimmed : text.toList.dropWhile isBlank = sign.chars ++ cs)
    (some : cs.takeWhile Char.isDigit ≠ []) :
    Spells text (text.toList.takeWhile isBlank) sign (cs.takeWhile Char.isDigit)
      (cs.dropWhile Char.isDigit) := by
  refine ⟨?_, fun c mem => List.mem_takeWhile_imp mem, fun c mem => List.mem_takeWhile_imp mem,
    some⟩
  rw [List.takeWhile_append_dropWhile, ← trimmed, List.takeWhile_append_dropWhile]

theorem isSome_leadingDigits? {negative : Bool} {cs : List Char}
    (read : (leadingDigits? negative cs).isSome = true) : cs.takeWhile Char.isDigit ≠ [] := by
  intro none
  rw [leadingDigits?, none] at read
  cases read

theorem isSome_leadingInteger? (text : String) :
    (leadingInteger? text).isSome = true ↔
      ∃ blanks sign digits rest, Spells text blanks sign digits rest := by
  constructor
  · intro read
    rw [leadingInteger?] at read
    split at read
    next rest trimmed =>
      exact ⟨_, .minus, _, _, spells_of_trimmed trimmed (isSome_leadingDigits? read)⟩
    next rest trimmed =>
      exact ⟨_, .plus, _, _, spells_of_trimmed trimmed (isSome_leadingDigits? read)⟩
    next =>
      exact ⟨_, .absent, _, _, spells_of_trimmed rfl (isSome_leadingDigits? read)⟩
  · rintro ⟨blanks, sign, digits, rest, spells⟩
    rw [spells.extend.leadingInteger?_eq (endsDigits_dropWhile rest)]
    rfl

end SpriteStage
