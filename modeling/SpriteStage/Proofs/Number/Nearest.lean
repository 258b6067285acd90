import Mathlib.Algebra.Order.Field.Rat
import Mathlib.Tactic.Positivity
import SpriteStage.Proofs.Number.Rounding

/-! # Integers as doubles

An integer of 64 bits becomes the double nearest to it. Small ones are shifted until they have 53
digits, large ones are read as decimals are; either way there is a single rounding that counts.

* `RoundOf`, `exists_roundOf_ofNat` — the double of a whole number
* `value`, `IsNearest` — the number that a double is, and in what sense it is nearest to an integer
* `isNearest_floatOfInt64` — integers are converted to the nearest double
* `truncate_floatOfInt64` — what is left of them
-/

namespace SpriteStage.Binary64

set_option autoImplicit false

open Float.Model (Format UnpackedFloat totalExponent)
open Float.Model.UnpackedFloat (Sign)

/-! ## The double of a whole number -/

/-- Whole numbers beyond 53 digits are read as decimals are, with 53 zeros to spare. -/
theorem ofNat_of_le {n : Nat} (large : 2 ^ 53 ≤ n) :
    Float.ofNat n = .ofModel (.pack (UnpackedFloat.roundWithAccuracy .binary64 .positive
      (n * 2 ^ 53) (-53) .exact)) := by
  have slow : ¬(n < 2 ^ 53 ∧ 0 ≤ 22) := by omega
  have nonzero : n ≠ 0 := by omega
  show Float.ofScientific n false 0 = _
  delta Float.ofScientific
  dsimp only
  rw [dif_neg slow]
  show Float.ofModel (.pack (UnpackedFloat.ofScientific .binary64 n 0)) = _
  delta UnpackedFloat.ofScientific
  dsimp only
  rw [dif_neg nonzero, if_neg (by decide), if_neg (by omega), if_pos (by decide)]
  show Float.ofModel (.pack (UnpackedFloat.roundWithAccuracy .binary64 .positive
    ((n <<< 53) * 1) (-53) .exact)) = _
  rw [Nat.mul_one, Nat.shiftLeft_eq]

theorem toFloat_of_pos {n : Nat} (positive : 0 < n) (small : n < 2 ^ 53) :
    n.toUInt64.toFloat = .ofModel (.pack (UnpackedFloat.roundWithAccuracy .binary64 .positive
      (n * 2 ^ (52 - n.log2)) (n.log2 - 52) .exact)) := by
  have digits : n.log2 < 53 := log2_lt_of_lt (by decide) small
  have fits : n.toUInt64.toNat = n := UInt64.toNat_ofNat_of_lt' (by
    have : UInt64.size = 2 ^ 64 := rfl
    omega)
  show Float.ofModel (.pack (UnpackedFloat.normalize .binary64 n.toUInt64.toNat 0 .positive)) = _
  rw [fits]
  have more : compare (n : Int) 0 = .gt := Int.compare_eq_gt.mpr (by omega)
  delta UnpackedFloat.normalize
  rw [more]
  show Float.ofModel (.pack (UnpackedFloat.round .binary64 .positive n 0)) = _
  delta UnpackedFloat.round UnpackedFloat.decreaseExponent
  dsimp only
  have places : (0 - Format.binary64.targetExponent (totalExponent n 0)).toNat = 52 - n.log2 := by
    rw [targetExponent_eq, totalExponent]
    omega
  rw [places, Nat.shiftLeft_eq]
  congr 3
  omega

/-- The number one, as decimals are multiplied by it. -/
def one : Float :=
  .ofBits 0x3FF0000000000000

theorem parts_one : Parts one .positive (2 ^ 52) (-52) := by
  have normal : Normal (2 ^ 52) (-52) := ⟨by decide +kernel, by decide, by decide⟩
  have word : one = .ofModel (.pack (.finite .positive (2 ^ 52) (-52) (by decide))) := by
    decide +kernel
  rw [word]
  exact parts_pack .positive normal normal.positive

theorem ofNat_of_lt {n : Nat} (small : n < 2 ^ 53) : Float.ofNat n = n.toUInt64.toFloat * one := by
  have quick : n < 2 ^ 53 ∧ 0 ≤ 22 := ⟨small, by decide⟩
  show Float.ofScientific n false 0 = _
  delta Float.ofScientific
  dsimp only
  rw [dif_pos quick]
  rfl

section Magnitude

variable {x : Float} {s : Sign} {m n : Nat} {e : Int}

/-- Multiplying by one gives a double of the same magnitude. -/
theorem exists_parts_mul_one (parts : Parts x s m e) (least : -970 ≤ e) (greatest : e < 971) :
    ∃ mantissa exponent, Parts (x * one) s mantissa exponent ∧
      mantissa * 2 ^ (exponent + 1074).toNat = m * 2 ^ (e + 1074).toNat := by
  have digits : (m * 2 ^ 52).log2 = 52 + 52 := by
    rw [log2_mul_pow parts.normal.positive.ne', parts.normal.digits]
  obtain ⟨mantissa, exponent, rounded, -, -, value, -⟩ :=
    exists_parts_round (s * .positive) (e := e + -52) digits (by omega) (by omega)
  have same : s * .positive = s := by cases s <;> rfl
  have product : x * one = .ofModel (.pack (UnpackedFloat.roundWithAccuracy .binary64
      (s * .positive) (m * 2 ^ 52) (e + -52) .exact)) := by
    show Float.ofModel (.pack (UnpackedFloat.mul .binary64 x.toModel.unpack
      one.toModel.unpack)) = _
    rw [parts.unpacked, parts_one.unpacked]
    rfl
  rw [← product, same] at rounded
  refine ⟨mantissa, exponent, rounded, ?_⟩
  have places : (e + 1074).toNat = 52 + (e + -52 + 1074).toNat := by omega
  rw [value, nearestWhole_mul_pow parts.normal.positive.ne',
    nearestWhole_of_log2 (Nat.le_of_eq parts.normal.digits), places, Nat.pow_add,
    Nat.mul_assoc]

/--
A double whose magnitude, as a multiple of the smallest one, is that of the 53 digits nearest to a
whole number. A number with more digits may lie halfway between two doubles.
-/
structure RoundOf (n : Nat) (x : Float) (s : Sign) (m : Nat) (e : Int) : Prop where
  parts : Parts x s m e
  magnitude : m * 2 ^ (e + 1074).toNat = nearestWhole n * 2 ^ 1074
  even : 2 ^ 53 ≤ n → roundQuotient n (2 ^ excess n) % 2 = 0 → m % 2 = 0

theorem exists_roundOf_ofNat (positive : 0 < n) (small : n < 2 ^ 64) :
    ∃ m e, RoundOf n (Float.ofNat n) .positive m e := by
  have nonzero : n ≠ 0 := positive.ne'
  rcases Nat.lt_or_ge n (2 ^ 53) with short | long
  · have places : n.log2 < 53 := log2_lt_of_lt (by decide) short
    have digits : (n * 2 ^ (52 - n.log2)).log2 = 52 + 0 := by
      rw [log2_mul_pow nonzero]
      omega
    obtain ⟨m, e, read, low, high, value, -⟩ :=
      exists_parts_round .positive (e := n.log2 - 52) digits (by omega) (by omega)
    rw [← toFloat_of_pos positive short] at read
    obtain ⟨mantissa, exponent, parts, same⟩ :=
      exists_parts_mul_one read (by omega) (by omega)
    refine ⟨mantissa, exponent, ofNat_of_lt short ▸ parts, ?_, fun long => by omega⟩
    have zeros : 52 - n.log2 + ((n.log2 : Int) - 52 + 1074).toNat = 1074 := by omega
    rw [same, value, nearestWhole_mul_pow nonzero, Nat.mul_assoc, ← Nat.pow_add]
    exact congrArg (nearestWhole n * 2 ^ ·) zeros
  · have places : n.log2 < 64 := log2_lt_of_lt (by decide) small
    have many : 53 ≤ n.log2 := (Nat.le_log2 nonzero).mpr long
    have digits : (n * 2 ^ 53).log2 = 52 + (n.log2 + 1) := by
      rw [log2_mul_pow nonzero]
      omega
    obtain ⟨m, e, parts, -, -, value, even⟩ :=
      exists_parts_round .positive (e := -53) digits (by omega) (by omega)
    rw [← ofNat_of_le long] at parts
    refine ⟨m, e, parts, ?_, fun _ chosen => even ?_⟩
    · have zeros : 53 + (-53 + 1074 : Int).toNat = 1074 := by decide
      rw [value, nearestWhole_mul_pow nonzero, Nat.mul_assoc, ← Nat.pow_add]
      exact congrArg (nearestWhole n * 2 ^ ·) zeros
    · have shift : n.log2 + 1 = excess n + 53 := by rw [excess]; omega
      rw [shift, Nat.pow_add, roundQuotient_mul n _ (Nat.two_pow_pos 53), chosen]

end Magnitude

/-! ## The number that a double is -/

/-- How many times the magnitude of a finite double is that of the smallest one. -/
def units (x : Float) : Nat :=
  significand x * 2 ^ (exponent x + 1074).toNat

/-- The number that a finite double is. -/
def value (x : Float) : ℚ :=
  (if isNegative x then -1 else 1) * significand x * 2 ^ exponent x

def signedUnits (x : Float) : Int :=
  if isNegative x then -(units x : Int) else units x

theorem value_eq (x : Float) : value x = signedUnits x / 2 ^ 1074 := by
  have least : -1074 ≤ exponent x := by
    unfold exponent hiddenBit
    split <;> omega
  have shift : (2 : ℚ) ^ exponent x * 2 ^ 1074 = 2 ^ (exponent x + 1074).toNat := by
    rw [← zpow_natCast, ← zpow_natCast, ← zpow_add₀ two_ne_zero, Int.toNat_of_nonneg (by omega)]
    rfl
  rw [value, eq_div_iff (by positivity), mul_assoc, shift, signedUnits, units]
  cases isNegative x <;> simp

theorem significand_lt (x : Float) : significand x < 2 ^ 53 := by
  unfold significand hiddenBit
  split <;> omega

/-- The magnitudes of doubles around a place and above are multiples of a power of two. -/
theorem units_cases (x : Float) (p : Nat) :
    (∃ k, units x = k * 2 ^ p) ∨ units x < 2 ^ 52 * 2 ^ p := by
  have small := significand_lt x
  rw [units]
  rcases Nat.lt_or_ge (exponent x + 1074).toNat p with below | above
  · right
    calc significand x * 2 ^ (exponent x + 1074).toNat
        < 2 ^ 53 * 2 ^ (exponent x + 1074).toNat :=
          Nat.mul_lt_mul_of_pos_right small (Nat.two_pow_pos _)
      _ = 2 ^ 52 * 2 ^ ((exponent x + 1074).toNat + 1) := by rw [Nat.pow_succ]; omega
      _ ≤ 2 ^ 52 * 2 ^ p := Nat.mul_le_mul_left _ (Nat.pow_le_pow_right (by decide) below)
  · obtain ⟨more, sum⟩ := Nat.exists_eq_add_of_le' above
    exact .inl ⟨significand x * 2 ^ more, by rw [sum, Nat.pow_add, Nat.mul_assoc]⟩

/--
Among the magnitudes of doubles none is nearer to a whole number than that of its 53 digits, and if
another one is equally near, the last of these digits is even.
-/
theorem nearestWhole_nearest {n : Nat} (positive : 0 < n) (y : Float) :
    let exact : Int := (n * 2 ^ 1074 : Nat)
    let nearest : Int := (nearestWhole n * 2 ^ 1074 : Nat)
    (exact - nearest).natAbs ≤ (exact - units y).natAbs ∧
      ((exact - nearest).natAbs = (exact - units y).natAbs → (units y : Int) ≠ nearest →
        2 ^ 53 ≤ n ∧ roundQuotient n (2 ^ excess n) % 2 = 0) := by
  generalize scale : 2 ^ 1074 = c
  have positiveScale : 0 < c := scale ▸ pow_pos Nat.two_pos _
  intro exact nearest
  rcases Nat.lt_or_ge n (2 ^ 53) with short | long
  · have same : nearest = exact := by
      show ((nearestWhole n * c : Nat) : Int) = _
      rw [nearestWhole_of_le (Nat.le_of_lt short)]
    omega
  have chosen : nearestWhole n * c =
      roundQuotient (n * c) (2 ^ excess n * c) * (2 ^ excess n * c) := by
    rw [roundQuotient_mul n _ positiveScale, nearestWhole, Nat.mul_assoc]
  have step : 0 < 2 ^ excess n * c := Nat.mul_pos (Nat.two_pow_pos _) positiveScale
  have nearest_of (k : Nat) := roundQuotient_nearest (n * c) step k
  simp only [roundQuotient_mul n _ positiveScale] at chosen nearest_of
  rw [← chosen] at nearest_of
  have grid : (∃ k, units y = k * (2 ^ excess n * c)) ∨ units y < 2 ^ 52 * (2 ^ excess n * c) := by
    have := units_cases y (excess n + 1074)
    rwa [pow_add, scale] at this
  rcases grid with ⟨k, multiple⟩ | low
  · obtain ⟨least, even⟩ := nearest_of k
    rw [← multiple] at least even
    exact ⟨least, fun tie other => ⟨long, even tie (by omega)⟩⟩
  · -- the least number of 53 digits lies between the two, and it is a multiple
    have between : 2 ^ 52 * (2 ^ excess n * c) ≤ n * c := by
      have digits : 52 + excess n = n.log2 := by
        have : 53 ≤ n.log2 := (Nat.le_log2 positive.ne').mpr long
        rw [excess]
        omega
      rw [← Nat.mul_assoc, ← Nat.pow_add, digits]
      exact Nat.mul_le_mul_right c (Nat.log2_self_le positive.ne')
    obtain ⟨least, -⟩ := nearest_of (2 ^ 52)
    omega

/--
A double is the nearest one to an integer: no double is nearer, and if another one is equally near,
the last digit of the mantissa is even.
-/
structure IsNearest (n : Int) (x : Float) : Prop where
  isFinite : x.isFinite = true
  least : ∀ y : Float, y.isFinite = true → |n - value x| ≤ |n - value y|
  even : ∀ y : Float, y.isFinite = true → |n - value x| = |n - value y| → value y ≠ value x →
    significand x % 2 = 0

theorem distance_eq (n : Int) (x : Float) :
    |n - value x| = ((n * 2 ^ 1074 - signedUnits x).natAbs : ℚ) / 2 ^ 1074 := by
  have positive : (0 : ℚ) < 2 ^ 1074 := by positivity
  have whole : n - value x = ((n * 2 ^ 1074 - signedUnits x : Int) : ℚ) / 2 ^ 1074 := by
    rw [value_eq, Int.cast_sub, Int.cast_mul, sub_div, Int.cast_pow, Int.cast_ofNat,
      mul_div_cancel_right₀ _ positive.ne']
  rw [whole, abs_div, abs_of_pos positive, Nat.cast_natAbs, Int.cast_abs]

theorem distance_le_iff (n : Int) (x y : Float) :
    |n - value x| ≤ |n - value y| ↔
      (n * 2 ^ 1074 - signedUnits x).natAbs ≤ (n * 2 ^ 1074 - signedUnits y).natAbs := by
  have positive : (0 : ℚ) < 2 ^ 1074 := by positivity
  rw [distance_eq, distance_eq, div_le_div_iff_of_pos_right positive, Nat.cast_le]

theorem distance_eq_iff (n : Int) (x y : Float) :
    |n - value x| = |n - value y| ↔
      (n * 2 ^ 1074 - signedUnits x).natAbs = (n * 2 ^ 1074 - signedUnits y).natAbs := by
  have positive : (0 : ℚ) < 2 ^ 1074 := by positivity
  rw [distance_eq, distance_eq, div_left_inj' positive.ne', Nat.cast_inj]

section Parts

variable {x : Float} {s : Sign} {m n : Nat} {e : Int}

theorem units_of_parts (parts : Parts x s m e) : units x = m * 2 ^ (e + 1074).toNat := by
  rw [units, parts.significand, parts.exponent]

theorem apply_of_parts (parts : Parts x s m e) (k : Int) :
    (if isNegative x then -k else k) = s.apply k := by
  cases s with
  | negative => exact if_pos (parts.isNegative.mpr rfl)
  | positive =>
    have sign : ¬isNegative x = true := by simp [parts.isNegative]
    exact if_neg sign

/-- A double of 53 digits has no fraction, so nothing else is cut off. -/
theorem RoundOf.truncate (round : RoundOf n x s m e) :
    truncate x = s.apply (nearestWhole n) := by
  have least := round.parts.normal.least
  have balanced : m * 2 ^ e.toNat = nearestWhole n * 2 ^ (-e).toNat := by
    apply Nat.eq_of_mul_eq_mul_right (pow_pos Nat.two_pos 1074)
    have places : e.toNat + 1074 = (e + 1074).toNat + (-e).toNat := by omega
    rw [mul_assoc, ← pow_add, places, pow_add, ← mul_assoc, round.magnitude, Nat.mul_right_comm]
  have whole : wholePart x = nearestWhole n := by
    rw [wholePart, round.parts.significand, round.parts.exponent]
    show m * 2 ^ e.toNat / (1 * 2 ^ (-e).toNat) = nearestWhole n
    rw [balanced, one_mul, Nat.mul_div_cancel _ (Nat.two_pow_pos _)]
  rw [Binary64.truncate, whole, apply_of_parts round.parts]

/-- Whatever the sign, a double with the nearest magnitude is the nearest double. -/
theorem RoundOf.isNearest (round : RoundOf n x s m e) (positive : 0 < n) :
    IsNearest (s.apply n) x := by
  have magnitude := (units_of_parts round.parts).trans round.magnitude
  have signed : signedUnits x = s.apply (units x) := apply_of_parts round.parts _
  have exact : s.apply n * 2 ^ 1074 = s.apply ((n * 2 ^ 1074 : Nat) : Int) := by
    rw [Nat.cast_mul, Nat.cast_pow, Nat.cast_ofNat]
    cases s with
    | negative => exact neg_mul _ _
    | positive => rfl
  have best := nearestWhole_nearest positive
  rw [← magnitude] at best
  have more : 0 < n * 2 ^ 1074 := Nat.mul_pos positive (pow_pos Nat.two_pos _)
  generalize n * 2 ^ 1074 = whole at exact best more
  have others (y : Float) : signedUnits y = units y ∨ signedUnits y = -(units y : Int) := by
    rw [signedUnits]
    split
    · exact .inr rfl
    · exact .inl rfl
  refine ⟨round.parts.isFinite, fun y _ => ?_, fun y _ tie other => ?_⟩
  · rw [distance_le_iff, exact, signed]
    have nearer := (best y).1
    rcases others y with same | same <;> rw [same] <;> cases s <;> simp only [Sign.apply] <;> omega
  · rw [distance_eq_iff, exact, signed] at tie
    have different : signedUnits y ≠ s.apply (units x) := by
      rw [← signed]
      exact fun same => other (by rw [value_eq, value_eq, same])
    obtain ⟨nearer, tied⟩ := best y
    have magnitudes : ((whole : Int) - units x).natAbs = ((whole : Int) - units y).natAbs ∧
        (units y : Int) ≠ units x := by
      rcases others y with same | same <;> rw [same] at tie different <;> cases s <;>
        simp only [Sign.apply] at tie different <;> omega
    obtain ⟨long, chosen⟩ := tied magnitudes.1 magnitudes.2
    rw [round.parts.significand, round.even long chosen]

end Parts

/-! ## Integers of 64 bits -/

/-- The nearest number of 53 digits, with the sign of the integer. -/
def nearestInt (n : Int) : Int :=
  n.sign * nearestWhole n.natAbs

theorem nearestInt_of_le {n : Int} (small : n.natAbs ≤ 2 ^ 53) : nearestInt n = n := by
  rw [nearestInt, nearestWhole_of_le small, Int.sign_mul_natAbs]

theorem exists_roundOf_ofInt {n : Int} (nonzero : n ≠ 0) (small : n.natAbs < 2 ^ 64) :
    ∃ s m e, RoundOf n.natAbs (Float.ofInt n) s m e ∧ ∀ k : Nat, s.apply k = n.sign * k := by
  obtain ⟨m, e, parts, magnitude, even⟩ :=
    exists_roundOf_ofNat (Int.natAbs_pos.mpr nonzero) small
  cases n with
  | ofNat k =>
    refine ⟨.positive, m, e, ⟨parts, magnitude, even⟩, fun j => ?_⟩
    have above : 0 < Int.ofNat k := lt_of_le_of_ne (Int.natCast_nonneg k) nonzero.symm
    rw [Int.sign_eq_one_of_pos above, one_mul]
    rfl
  | negSucc k =>
    refine ⟨.negative, m, e, ⟨parts.neg, magnitude, even⟩, fun j => ?_⟩
    rw [Int.sign_negSucc, neg_one_mul]
    rfl

theorem natAbs_toInt_lt (n : Int64) : n.toInt.natAbs < 2 ^ 64 := by
  have := n.le_toInt
  have := n.toInt_lt
  omega

/-- An integer is converted to the nearest double. -/
theorem isNearest_floatOfInt64 (n : Int64) : IsNearest n.toInt (floatOfInt64 n) := by
  rw [floatOfInt64]
  by_cases zero : n.toInt = 0
  · have nothing : value (Float.ofInt 0) = 0 := by
      have : significand (Float.ofInt 0) = 0 := by decide +kernel
      rw [value, this, Nat.cast_zero, mul_zero, zero_mul]
    rw [zero]
    refine ⟨by decide +kernel, fun y _ => ?_, fun y _ _ _ => by decide +kernel⟩
    rw [nothing, Int.cast_zero, sub_zero, abs_zero]
    exact abs_nonneg _
  · obtain ⟨s, m, e, round, sign⟩ := exists_roundOf_ofInt zero (natAbs_toInt_lt n)
    have nearest := round.isNearest (Int.natAbs_pos.mpr zero)
    rwa [sign, Int.sign_mul_natAbs] at nearest

theorem truncate_floatOfInt64 (n : Int64) : truncate (floatOfInt64 n) = nearestInt n.toInt := by
  rw [floatOfInt64]
  by_cases zero : n.toInt = 0
  · rw [zero]
    decide +kernel
  · obtain ⟨s, m, e, round, sign⟩ := exists_roundOf_ofInt zero (natAbs_toInt_lt n)
    rw [round.truncate, sign, nearestInt]

end SpriteStage.Binary64
