import Mathlib.Tactic.Ring
import SpriteStage.Json.Token

/-! # Literals, written and read

A literal that stands at the front of a text is read back whole, and the reader stops where the
literal ends. A string says itself where that is; a number ends with the first character that could
not go on with it.

* `readUnits_escapeChar` — one character of a string
* `readLiteral_literalChars` — a string between its quotes
* `readNumeral_numeralChars` — a number with a sign, a point or an exponent
-/

namespace SpriteStage.Json

set_option autoImplicit false

/-! ## Strings -/

theorem hexValue?_digitChar {d : Nat} (small : d < 16) : hexValue? (Nat.digitChar d) = some d := by
  revert d
  decide

/-- Puts a code unit in front of those that have been read. -/
def addUnit (unit : Nat) : List Nat × List Char → List Nat × List Char
  | (units, rest) => (unit :: units, rest)

theorem readUnits_hexDigits {n : Nat} (small : n < 0x10000) (rest : List Char) :
    readUnits ('\\' :: 'u' :: (hexDigits 4 n ++ rest)) = (readUnits rest).map (addUnit n) := by
  have digit (m : Nat) : hexValue? (Nat.digitChar (m % 16)) = some (m % 16) :=
    hexValue?_digitChar (Nat.mod_lt m (by decide))
  have value : ((n / 16 / 16 / 16 % 16 * 16 + n / 16 / 16 % 16) * 256 + n / 16 % 16 * 16 + n % 16)
      = n := by
    omega
  simp only [hexDigits, List.nil_append, List.cons_append, readUnits, hexValue4?, digit,
    Option.bind_eq_bind, Option.bind_some, Option.pure_def, value]
  cases readUnits rest <;> rfl

theorem readUnits_shortEscape {e c : Char} (short : shortEscape? e = some c) (rest : List Char) :
    readUnits ('\\' :: e :: rest) = (readUnits rest).map (addUnit c.toNat) := by
  have other : e ≠ 'u' := by
    rintro rfl
    cases short
  rw [readUnits]
  · rw [short]
    cases readUnits rest <;> rfl
  · intro _ _ _ _ _ same _
    exact other same

theorem readUnits_plain {c : Char} (quote : c ≠ '"') (backslash : c ≠ '\\')
    (visible : ¬ c.toNat < 0x20) (rest : List Char) :
    readUnits (c :: rest) = (readUnits rest).map (addUnit c.toNat) := by
  rw [readUnits, if_neg visible]
  · cases readUnits rest <;> rfl
  · exact quote
  · intro _ _ _ _ _ same _
    exact backslash same
  · intro _ _ same _
    exact backslash same

/-- Whatever a character is written as, it is read as the one code unit that is its code point. -/
theorem readUnits_escapeChar (c : Char) (rest : List Char) :
    readUnits (escapeChar c ++ rest) = (readUnits rest).map (addUnit c.toNat) := by
  unfold escapeChar
  -- seven characters have escapes of their own, other control characters are written by their code
  iterate 7
    split
    · next same =>
      subst same
      exact readUnits_shortEscape rfl rest
  split
  · next control => exact readUnits_hexDigits (Nat.lt_trans control (by decide)) rest
  · next quote backslash _ _ _ _ _ visible => exact readUnits_plain quote backslash visible rest

theorem readUnits_escaped (cs rest : List Char) :
    readUnits (cs.flatMap escapeChar ++ '"' :: rest) = some (cs.map Char.toNat, rest) := by
  induction cs with
  | nil => rfl
  | cons c cs ih =>
    rw [List.flatMap_cons, List.append_assoc, readUnits_escapeChar, ih]
    rfl

/-- A character is no half of a surrogate pair. -/
theorem not_surrogate (c : Char) :
    isHighSurrogate c.toNat = false ∧ isLowSurrogate c.toNat = false := by
  have valid : c.toNat < 0xD800 ∨ 0xDFFF < c.toNat ∧ c.toNat < 0x110000 := c.valid
  simp only [isHighSurrogate, isLowSurrogate, Bool.and_eq_false_iff, decide_eq_false_iff_not]
  omega

theorem joinUnits_toNat (cs : List Char) : joinUnits (cs.map Char.toNat) = some cs := by
  induction cs with
  | nil => rfl
  | cons c cs ih =>
    have ⟨high, low⟩ := not_surrogate c
    cases cs with
    | nil => simp [joinUnits, high, low, Char.ofNat_toNat]
    | cons d cs =>
      rw [List.map_cons] at ih
      simp [joinUnits, high, low, ih, Char.ofNat_toNat]

theorem readLiteral_literalChars (s : Literal) (rest : List Char) :
    ∃ cs, literalChars s ++ rest = '"' :: cs ∧ readLiteral cs = some (s, rest) := by
  cases s with
  | none =>
    -- half a surrogate pair stands for all strings that no text spells
    have half : hexValue4? 'd' '8' '0' '0' = some 0xD800 := by decide
    refine ⟨_, rfl, ?_⟩
    simp [readLiteral, readUnits, half, joinUnits, isHighSurrogate]
  | some s =>
    refine ⟨s.toList.flatMap escapeChar ++ '"' :: rest, by simp [literalChars], ?_⟩
    simp [readLiteral, readUnits_escaped, joinUnits_toNat]

/-! ## Digits -/

/-- A text that does not begin with a digit. -/
def NoDigit (cs : List Char) : Prop :=
  ∀ c ∈ cs.head?, c.isDigit = false

/-- The digit that a character of a number is. -/
def digitOf (c : Char) : Fin 10 :=
  Decimal.lastDigit (digitValue c)

theorem digit?_of_isDigit {c : Char} (isDigit : c.isDigit = true) : digit? c = some (digitOf c) :=
  if_pos isDigit

theorem digitValue_lt {c : Char} (isDigit : c.isDigit = true) : digitValue c < 10 := by
  have ⟨_, upper⟩ : 48 ≤ c.toNat ∧ c.toNat ≤ 57 := by
    simpa [Char.isDigit, UInt32.le_iff_toNat_le] using isDigit
  show c.toNat - 48 < 10
  omega

theorem isDigit_digitChar (d : Fin 10) : (digitChar d).isDigit = true := by
  rw [digitChar, Nat.isDigit_digitChar, decide_eq_true d.isLt]

theorem digitOf_digitChar (d : Fin 10) : digitOf (digitChar d) = d := by
  revert d
  decide

theorem spanDigits_of_noDigit {rest : List Char} (no : NoDigit rest) :
    spanDigits rest = ([], rest) := by
  cases rest with
  | nil => rfl
  | cons c rest =>
    have : c.isDigit = false := no c rfl
    simp [spanDigits, digit?, this]

theorem spanDigits_append {cs rest : List Char} (digits : ∀ c ∈ cs, c.isDigit = true)
    (no : NoDigit rest) : spanDigits (cs ++ rest) = (cs.map digitOf, rest) := by
  induction cs with
  | nil => exact spanDigits_of_noDigit no
  | cons c cs ih =>
    rw [List.cons_append, spanDigits, digit?_of_isDigit (digits c List.mem_cons_self)]
    dsimp only
    rw [ih fun d member => digits d (List.mem_cons_of_mem c member)]
    rfl

theorem spanDigits_digitChars (digits : List (Fin 10)) {rest : List Char} (no : NoDigit rest) :
    spanDigits (digits.map digitChar ++ rest) = (digits, rest) := by
  have all : ∀ c ∈ digits.map digitChar, c.isDigit = true := by
    intro c member
    obtain ⟨d, -, rfl⟩ := List.mem_map.mp member
    exact isDigit_digitChar d
  rw [spanDigits_append all no, List.map_map]
  congr 1
  exact List.map_id'' digitOf_digitChar digits

theorem extend_digitOf {cs : List Char} (digits : ∀ c ∈ cs, c.isDigit = true) (n : Nat) :
    Numeral.extend n (cs.map digitOf) = Nat.ofDigitChars 10 cs n := by
  induction cs generalizing n with
  | nil => rfl
  | cons c cs ih =>
    have small := digitValue_lt (digits c List.mem_cons_self)
    have value : (digitOf c).val = digitValue c := Nat.mod_eq_of_lt small
    rw [List.map_cons, Numeral.extend, List.foldl_cons, value]
    exact ih (fun d member => digits d (List.mem_cons_of_mem c member)) _

/-! ## Numbers -/

theorem isDigit_of_mem_toDigits {n : Nat} : ∀ c ∈ Nat.toDigits 10 n, c.isDigit = true :=
  fun _ member => Nat.isDigit_of_mem_toDigits (by decide) (by decide) member

/-- The decimal digits of a number begin with a zero only if the number is zero. -/
theorem toDigits_eq_cons (n : Nat) :
    ∃ c cs, Nat.toDigits 10 n = c :: cs ∧ (n = 0 → cs = []) ∧ ((digitOf c).val = 0 → n = 0) := by
  induction n using Nat.strongRecOn with
  | ind n ih =>
    rcases Nat.lt_or_ge n 10 with small | large
    · refine ⟨_, [], Nat.toDigits_of_lt_base small, fun _ => rfl, fun zero => ?_⟩
      have : digitOf (Nat.digitChar n) = ⟨n, small⟩ := digitOf_digitChar ⟨n, small⟩
      rw [this] at zero
      exact zero
    · obtain ⟨c, cs, front, -, leading⟩ := ih (n / 10) (by omega)
      refine ⟨c, cs ++ [Nat.digitChar (n % 10)], ?_, by omega, fun zero => ?_⟩
      · rw [Nat.toDigits_of_base_le (by decide) large, front, List.cons_append]
      · have := leading zero
        omega

theorem toDigits_first (n : Nat) : ∃ c cs, Nat.toDigits 10 n = c :: cs ∧ c.isDigit = true := by
  obtain ⟨c, cs, digits, -, -⟩ := toDigits_eq_cons n
  exact ⟨c, cs, digits, isDigit_of_mem_toDigits (n := n) c (digits ▸ List.mem_cons_self)⟩

theorem extend_toDigits (n : Nat) :
    Numeral.extend 0 ((Nat.toDigits 10 n).map digitOf) = n := by
  rw [extend_digitOf isDigit_of_mem_toDigits, Nat.ofDigitChars_ten_toDigits]

theorem readWhole_toDigits (n : Nat) {rest : List Char} (no : NoDigit rest) :
    readWhole (Nat.toDigits 10 n ++ rest) = some (n, rest) := by
  obtain ⟨c, cs, digits, single, leading⟩ := toDigits_eq_cons n
  have value := extend_toDigits n
  have span := spanDigits_append (isDigit_of_mem_toDigits (n := n)) no
  rw [digits, List.map_cons] at value span
  rw [readWhole, digits, span]
  dsimp only
  split
  · next zero =>
    -- a row that starts with a zero ends there, as the only row that is written so does
    obtain rfl := leading zero
    obtain rfl := single rfl
    rfl
  · rw [value]

theorem readPower_toDigits (negative : Bool) (n : Nat) {rest : List Char} (no : NoDigit rest) :
    readPower negative (Nat.toDigits 10 n ++ rest) =
      some (some (if negative then -(n : Int) else n), rest) := by
  obtain ⟨c, cs, digits, -⟩ := toDigits_first n
  have value := extend_toDigits n
  have span := spanDigits_append (isDigit_of_mem_toDigits (n := n)) no
  rw [digits, List.map_cons] at value span
  rw [readPower, digits, span]
  dsimp only
  rw [value]

/-- A text whose first character could not go on with a number. -/
def EndsNumeral (cs : List Char) : Prop :=
  ∀ c ∈ cs.head?, c.isDigit = false ∧ c ≠ '.' ∧ c ≠ 'e' ∧ c ≠ 'E'

theorem EndsNumeral.noDigit {cs : List Char} (ends : EndsNumeral cs) : NoDigit cs :=
  fun c first => (ends c first).1

theorem readExponent_exponentChars (e : Option Int) {rest : List Char} (ends : EndsNumeral rest) :
    readExponent (exponentChars e ++ rest) = some (e, rest) := by
  cases e with
  | none =>
    cases rest with
    | nil => rfl
    | cons c rest =>
      have ⟨_, _, small, large⟩ := ends c rfl
      exact if_neg fun either => either.elim small large
  | some e =>
    rcases Int.lt_or_le e 0 with negative | positive
    · have value : -(e.natAbs : Int) = e := by omega
      rw [exponentChars, if_pos negative]
      show readPower true (Nat.toDigits 10 e.natAbs ++ rest) = _
      rw [readPower_toDigits true e.natAbs ends.noDigit, if_pos rfl, value]
    · have value : (e.natAbs : Int) = e := by omega
      rw [exponentChars, if_neg (Int.not_lt.mpr positive)]
      show readPower false (Nat.toDigits 10 e.natAbs ++ rest) = _
      rw [readPower_toDigits false e.natAbs ends.noDigit, if_neg Bool.false_ne_true, value]

theorem noDigit_exponentChars (e : Option Int) {rest : List Char} (ends : EndsNumeral rest) :
    NoDigit (exponentChars e ++ rest) := by
  cases e with
  | none => exact ends.noDigit
  | some e =>
    rintro c ⟨⟩
    rfl

theorem readFraction_fractionChars (digits : List (Fin 10)) (e : Option Int) {rest : List Char}
    (ends : EndsNumeral rest) :
    readFraction (fractionChars digits ++ (exponentChars e ++ rest)) =
      some (digits, exponentChars e ++ rest) := by
  have no := noDigit_exponentChars e ends
  cases digits with
  | nil =>
    have point : ∀ cs, exponentChars e ++ rest ≠ '.' :: cs := by
      cases e with
      | none =>
        rintro cs rfl
        exact (ends '.' rfl).2.1 rfl
      | some e => exact fun cs same => by cases same
    rw [fractionChars, List.nil_append, readFraction]
    exact point
  | cons d ds =>
    rw [fractionChars, List.cons_append, readFraction, spanDigits_digitChars (d :: ds) no]
    · intro same
      cases same

theorem noDigit_fractionChars (digits : List (Fin 10)) {rest : List Char} (no : NoDigit rest) :
    NoDigit (fractionChars digits ++ rest) := by
  cases digits with
  | nil => exact no
  | cons d ds =>
    rintro c ⟨⟩
    rfl

theorem readUnsigned_toDigits (n : Numeral) {rest : List Char} (ends : EndsNumeral rest) :
    readUnsigned n.negative
      (Nat.toDigits 10 n.whole ++ (fractionChars n.fraction ++ (exponentChars n.exponent ++ rest)))
      = some (n, rest) := by
  have no := noDigit_fractionChars n.fraction (noDigit_exponentChars n.exponent ends)
  simp [readUnsigned, readWhole_toDigits n.whole no, readFraction_fractionChars _ _ ends,
    readExponent_exponentChars _ ends]

theorem readNumeral_numeralChars (n : Numeral) {rest : List Char} (ends : EndsNumeral rest) :
    readNumeral (numeralChars n ++ rest) = some (n, rest) := by
  have read := readUnsigned_toDigits n ends
  simp only [numeralChars, List.append_assoc]
  cases sign : n.negative with
  | true =>
    rw [sign] at read
    exact read
  | false =>
    -- without a sign the reader must not take the first digit for one
    obtain ⟨c, cs, digits, first⟩ := toDigits_first n.whole
    rw [sign, digits] at read
    rw [if_neg Bool.false_ne_true, digits]
    rw [List.nil_append, List.cons_append, readNumeral]
    · exact read
    · intro _ same
      cases (List.cons.inj same).1
      cases first

end SpriteStage.Json
