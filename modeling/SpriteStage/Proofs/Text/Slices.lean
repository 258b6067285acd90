import SpriteStage.Proofs.Text.LeadingInteger

/-! # Reading an integer out of bytes

A reader that holds a text as bytes in UTF-8 has more that can go wrong: it can cut the text in the
middle of a character or past the end, and take a byte for a digit that lies below all of them. The
steps of such a reader are partial functions here, and it has to saturate after the product and
after the sum. For every text it gets through, with the integer that the text denotes.

* `sliceFrom?`, `sliceTo?` — the parts of a text behind and before a place that is counted in bytes
* `appendByte?` — one more byte of digits, saturating twice
* `slicedInteger?` — the reader
* `slicedInteger?_eq` — it never fails
-/

namespace SpriteStage

set_option autoImplicit false

/-! ## The reader -/

/-- The bytes of a text in UTF-8. -/
def utf8Bytes (cs : List Char) : List UInt8 :=
  cs.flatMap String.utf8EncodeChar

/-- What follows a number of bytes, unless they end within a character or there are fewer. -/
def sliceFrom? : Nat → List Char → Option (List Char)
  | 0, cs => some cs
  | _ + 1, [] => none
  | place + 1, c :: cs =>
    if c.utf8Size ≤ place + 1 then sliceFrom? (place + 1 - c.utf8Size) cs else none

/-- The first bytes, unless they end within a character or there are fewer. -/
def sliceTo? : Nat → List Char → Option (List Char)
  | 0, _ => some []
  | _ + 1, [] => none
  | place + 1, c :: cs =>
    if c.utf8Size ≤ place + 1 then (sliceTo? (place + 1 - c.utf8Size) cs).map (c :: ·) else none

/-- Characters together with the places at which they begin. -/
def charPlaces (place : Nat) : List Char → List (Nat × Char)
  | [] => []
  | c :: cs => (place, c) :: charPlaces (place + c.utf8Size) cs

/-- Where the first character begins that is no digit; behind the text if there is none. -/
def digitsEnd (cs : List Char) : Nat :=
  (((charPlaces 0 cs).find? fun entry => !entry.2.isDigit).map Prod.fst).getD (utf8Bytes cs).length

/-- The first byte tells whether there is a sign, which is then cut off. -/
def cutSign? (cs : List Char) : Option (Bool × List Char) :=
  if (utf8Bytes cs).head? = some 45 then (sliceFrom? 1 cs).map (true, ·)
  else if (utf8Bytes cs).head? = some 43 then (sliceFrom? 1 cs).map (false, ·)
  else some (false, cs)

/-- Appends a digit, unless the byte lies below them; the product and the sum both saturate. -/
def appendByte? (negative : Bool) (n : Int64) (byte : UInt8) : Option Int64 :=
  if byte.toNat < 48 then none
  else
    let digit : Int := ((byte.toNat - 48 : Nat) : Int)
    let shifted := clampInt64 (n.toInt * 10)
    some (clampInt64 (if negative then shifted.toInt - digit else shifted.toInt + digit))

/-- The integer that a text begins with, and whether it has one, read with steps that can fail. -/
def slicedInteger? (text : String) : Option (Option Int64) := do
  let (negative, rest) ← cutSign? (text.toList.dropWhile isBlank)
  if digitsEnd rest = 0 then return none
  let digits ← sliceTo? (digitsEnd rest) rest
  return some (← (utf8Bytes digits).foldlM (appendByte? negative) 0)

/-! ## Digits in bytes -/

/-- A byte below 128 comes from the character of that number, and from no other. -/
theorem head?_utf8EncodeChar (c : Char) {byte : UInt8} (ascii : byte.toNat < 128) :
    (String.utf8EncodeChar c).head? = some byte ↔ c.toNat = byte.toNat := by
  have number : c.val.toNat = c.toNat := rfl
  unfold String.utf8EncodeChar
  dsimp only
  rw [number]
  -- the first byte of a longer character is at least 192
  split_ifs <;> simp [← UInt8.toNat_inj] <;> omega

theorem utf8EncodeChar_of_isDigit {c : Char} (digit : c.isDigit = true) :
    String.utf8EncodeChar c = [UInt8.ofNat c.toNat] := by
  have range := toNat_of_isDigit digit
  exact if_pos (show c.val.toNat ≤ 0x7f from Nat.le_trans range.2 (by decide))

theorem utf8Size_of_isDigit {c : Char} (digit : c.isDigit = true) : c.utf8Size = 1 := by
  rw [← String.length_utf8EncodeChar, utf8EncodeChar_of_isDigit digit]
  rfl

theorem sliceFrom?_one {c : Char} (one : c.utf8Size = 1) (cs : List Char) :
    sliceFrom? 1 (c :: cs) = some cs := by
  rw [sliceFrom?, one, if_pos (Nat.le_refl 1), Nat.sub_self, sliceFrom?]

theorem digitsEnd_from (cs : List Char) (place : Nat) :
    (((charPlaces place cs).find? fun entry => !entry.2.isDigit).map Prod.fst).getD
      (place + (utf8Bytes cs).length) = place + (cs.takeWhile Char.isDigit).length := by
  induction cs generalizing place with
  | nil => rfl
  | cons c cs ih =>
    rw [charPlaces, List.find?_cons]
    cases digit : c.isDigit
    · simp [digit]
    · have one : c.utf8Size = 1 := utf8Size_of_isDigit digit
      have bytes : (utf8Bytes (c :: cs)).length = 1 + (utf8Bytes cs).length := by
        simp [utf8Bytes, one]
      simp only [Bool.not_true]
      rw [List.takeWhile_cons_of_pos digit, bytes, ← Nat.add_assoc, one, ih (place + 1),
        List.length_cons]
      omega

theorem digitsEnd_eq (cs : List Char) : digitsEnd cs = (cs.takeWhile Char.isDigit).length := by
  have := digitsEnd_from cs 0
  rwa [Nat.zero_add, Nat.zero_add] at this

theorem sliceTo?_length {digits : List Char} (all : ∀ c ∈ digits, c.isDigit = true)
    (rest : List Char) : sliceTo? digits.length (digits ++ rest) = some digits := by
  induction digits with
  | nil => rw [List.length_nil, sliceTo?]
  | cons c digits ih =>
    have one : c.utf8Size = 1 := utf8Size_of_isDigit (all c List.mem_cons_self)
    have more := ih fun d mem => all d (List.mem_cons_of_mem c mem)
    rw [List.length_cons, List.cons_append, sliceTo?, one, if_pos (by omega),
      Nat.add_sub_cancel, more]
    rfl

/-! ## Saturating twice -/

/-- After digits of one sign, saturating after the product and after the sum is saturating once. -/
theorem appendByte?_of_isDigit {negative : Bool} (read : List Char) {c : Char}
    (digit : c.isDigit = true) :
    appendByte? negative (clampInt64 (writtenInteger negative read)) (UInt8.ofNat c.toNat) =
      some (clampInt64 (writtenInteger negative (read ++ [c]))) := by
  have range := toNat_of_isDigit digit
  have byte : (UInt8.ofNat c.toNat).toNat = c.toNat := UInt8.toNat_ofNat_of_lt' (by
    have : UInt8.size = 256 := rfl
    omega)
  have value : digitValue c = c.toNat - 48 := rfl
  rw [appendByte?, byte, if_neg (by omega), ← clampInt64_append, value]
  simp only [toInt_clampInt64]
  unfold writtenInteger clampInt64 leastInt64 greatestInt64
  congr 2
  cases negative <;> simp <;> omega

theorem foldlM_appendByte? (negative : Bool) {digits : List Char}
    (all : ∀ c ∈ digits, c.isDigit = true) (read : List Char) :
    (utf8Bytes digits).foldlM (appendByte? negative)
      (clampInt64 (writtenInteger negative read)) =
      some (clampInt64 (writtenInteger negative (read ++ digits))) := by
  induction digits generalizing read with
  | nil => rw [List.append_nil]; rfl
  | cons c digits ih =>
    have digit := all c List.mem_cons_self
    have more := ih (fun d mem => all d (List.mem_cons_of_mem c mem)) (read ++ [c])
    have bytes : utf8Bytes (c :: digits) = UInt8.ofNat c.toNat :: utf8Bytes digits := by
      simp [utf8Bytes, utf8EncodeChar_of_isDigit digit]
    rw [bytes, List.foldlM_cons, appendByte?_of_isDigit read digit, Option.bind_eq_bind,
      Option.bind_some, more, List.append_assoc]
    rfl

/-! ## The reader gets through -/

/-- The sign is cut off where it ends, and the digits behind it are the ones that count. -/
theorem exists_cutSign? (text : String) :
    ∃ negative rest, cutSign? (text.toList.dropWhile isBlank) = some (negative, rest) ∧
      leadingInteger? text = leadingDigits? negative rest := by
  rw [leadingInteger?]
  generalize text.toList.dropWhile isBlank = cs
  cases cs with
  | nil => exact ⟨false, [], rfl, rfl⟩
  | cons c cs =>
    have first : (utf8Bytes (c :: cs)).head? = (String.utf8EncodeChar c).head? := by
      obtain ⟨byte, more, bytes⟩ := List.exists_cons_of_ne_nil (@String.utf8EncodeChar_ne_nil c)
      rw [utf8Bytes, List.flatMap_cons, bytes]
      rfl
    have minus : (utf8Bytes (c :: cs)).head? = some 45 ↔ c = '-' := by
      rw [first, head?_utf8EncodeChar c (by decide), ← Char.toNat_inj]
      rfl
    have plus : (utf8Bytes (c :: cs)).head? = some 43 ↔ c = '+' := by
      rw [first, head?_utf8EncodeChar c (by decide), ← Char.toNat_inj]
      rfl
    unfold cutSign?
    by_cases isMinus : c = '-'
    · refine ⟨true, cs, ?_, by subst isMinus; rfl⟩
      rw [if_pos (minus.mpr isMinus), sliceFrom?_one (by subst isMinus; decide)]
      rfl
    by_cases isPlus : c = '+'
    · refine ⟨false, cs, ?_, by subst isPlus; rfl⟩
      rw [if_neg (mt minus.mp isMinus), if_pos (plus.mpr isPlus),
        sliceFrom?_one (by subst isPlus; decide)]
      rfl
    · refine ⟨false, c :: cs, ?_, ?_⟩
      · rw [if_neg (mt minus.mp isMinus), if_neg (mt plus.mp isPlus)]
      · split
        next same => exact absurd (List.cons.inj same).1 isMinus
        next same => exact absurd (List.cons.inj same).1 isPlus
        next => rfl

theorem slicedInteger?_eq (text : String) :
    slicedInteger? text = some (leadingInteger? text) := by
  obtain ⟨negative, rest, cut, same⟩ := exists_cutSign? text
  have all : ∀ c ∈ rest.takeWhile Char.isDigit, c.isDigit = true :=
    fun c mem => List.mem_takeWhile_imp mem
  have sliced := sliceTo?_length all (rest.dropWhile Char.isDigit)
  rw [List.takeWhile_append_dropWhile] at sliced
  have folded := foldlM_appendByte? negative all []
  rw [List.nil_append, ← foldl_appendDigit, ← foldl_appendDigit, List.foldl_nil] at folded
  rw [slicedInteger?, cut, same, leadingDigits?]
  show (if digitsEnd rest = 0 then _ else _) = _
  rw [digitsEnd_eq, sliced]
  cases digits : rest.takeWhile Char.isDigit with
  | nil => rfl
  | cons c more =>
    rw [digits] at folded
    rw [if_neg (by simp)]
    show ((utf8Bytes (c :: more)).foldlM (appendByte? negative) 0).bind _ = _
    rw [folded]
    rfl

end SpriteStage
