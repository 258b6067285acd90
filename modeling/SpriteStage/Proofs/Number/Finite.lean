import SpriteStage.Json.Value
import SpriteStage.Proofs.Number.Exponent

/-! # Numbers in texts are finite

Whatever digits and exponent a number literal has, the double it denotes is finite: multiplying is
refused when it overflows, and dividing by a power of ten makes a double smaller.

* `Binary64.ofRatio?_one` — the double next to a whole number, by its word
* `Decimal.isFinite_compute?` — the double that a decimal comes to
* `Numeral.isFinite_toFloat?` — the double of a literal
* `Numeral.isSome_toFloat?_ofInt` — integers of 64 bits denote doubles
-/

namespace SpriteStage

set_option autoImplicit false

open Float.Model (Format UnpackedFloat)
open Float.Model.UnpackedFloat (unpackExponent)

/-! ## Doubles -/

theorem isFinite_iff_within (x : Float) : x.isFinite = true ↔ Within 971 x.toModel.unpack :=
  ⟨within_of_isFinite, isFinite_of_within⟩

theorem isFinite_neg {x : Float} (finite : x.isFinite = true) : (-x).isFinite = true := by
  refine isFinite_of_within (within_pack (k := 971) ?_ (by decide) (by decide))
  have within := (isFinite_iff_within x).mp finite
  generalize x.toModel.unpack = u at within ⊢
  cases u with
  | notANumber => exact within.elim
  | infinity s => exact within.elim
  | zero s => trivial
  | finite s m e positive => exact within

theorem isFinite_div {x y : Float} (finite : x.isFinite = true)
    (large : AtLeastEight y.toModel.unpack) : (x / y).isFinite = true :=
  isFinite_of_within (within_pack
    (within_div ((isFinite_iff_within x).mp finite) (narrow_unpack _) large)
    (by decide) (by decide))

theorem unpackExponent_ofNat (n : Nat) :
    (@unpackExponent .binary64 (UInt64.ofNat n).toBitVec).toNat = n / 2 ^ 52 % 2 ^ 11 := by
  unfold unpackExponent
  rw [BitVec.toNat_cast, BitVec.extractLsb_toNat, Nat.shiftRight_eq_div_pow]
  show n % 2 ^ 64 / 2 ^ 52 % 2 ^ 11 = n / 2 ^ 52 % 2 ^ 11
  omega

theorem unpackExponent_ofWord (negative : Bool) {w : Nat} (finite : w < 0x7FF0000000000000) :
    (@unpackExponent .binary64 (UInt64.ofNat
      (if negative then Binary64.signBit + w else w)).toBitVec).toNat = w / Binary64.hiddenBit := by
  rw [unpackExponent_ofNat, Binary64.hiddenBit]
  cases negative
  · simp only [Bool.false_eq_true, if_false]
    omega
  · simp only [if_true, Binary64.signBit]
    omega

theorem within_ofWord {negative : Bool} {w : Nat} {k : Int} (finite : w < 0x7FF0000000000000)
    (bound : (w / Binary64.hiddenBit : Nat) ≤ k + 1075) (least : -1074 ≤ k) (greatest : k ≤ 971) :
    Within k (Binary64.ofWord negative w).toModel.unpack := by
  have place := unpackExponent_ofWord negative finite
  refine within_pack (within_unpack ?_ ?_ least) least greatest
  · rw [place, Binary64.hiddenBit]
    omega
  · rwa [place]

theorem atLeastEight_ofWord {negative : Bool} {w : Nat}
    (large : 1026 ≤ w / Binary64.hiddenBit) (finite : w < 0x7FF0000000000000) :
    AtLeastEight (Binary64.ofWord negative w).toModel.unpack := by
  have place := unpackExponent_ofWord negative finite
  rw [Binary64.hiddenBit] at large place
  have same := unpackExponent_pack (v := (UInt64.ofNat
    (if negative then Binary64.signBit + w else w)).toBitVec) (by omega) (by omega)
  refine atLeastEight_unpack ?_ ?_
  · rw [← same] at place
    exact place ▸ large
  · rw [← same] at place
    exact place ▸ (by omega)

theorem isFinite_mul {x y : Float} {i j : Int} (left : Within i x.toModel.unpack)
    (right : Within j y.toModel.unpack) (room : max (i + j) (-1074) + 107 ≤ 971) :
    (x * y).isFinite = true :=
  isFinite_of_within (within_pack
    (within_mul left right (narrow_unpack _) (narrow_unpack _) room)
    (by decide) (by decide))

/-! ## Reading decimals -/

namespace Binary64

theorem isFinite_ofRatio? {negative : Bool} {num den : Nat} {x : Float}
    (found : ofRatio? negative num den = some x) : x.isFinite = true := by
  have ofWord_isFinite {w : Nat} (small : w < 0x7FF0000000000000) :
      (ofWord negative w).isFinite = true :=
    isFinite_of_within (within_ofWord (k := 971) small (by rw [hiddenBit]; omega) (by decide)
      (by decide))
  unfold ofRatio? at found
  split at found
  · cases found
    exact ofWord_isFinite (by decide)
  · dsimp only at found
    split at found
    · next small =>
      cases found
      exact ofWord_isFinite small
    · cases found

theorem roundQuotient_range (num den : Nat) :
    num / den ≤ roundQuotient num den ∧ roundQuotient num den ≤ num / den + 1 := by
  unfold roundQuotient
  dsimp only
  split
  · omega
  split
  · omega
  · omega

/-- A number shifted until it has 53 digits. -/
theorem quotient_range {num left right : Nat} (positive : 0 < num)
    (places : num.log2 + left = 52 + right) :
    2 ^ 52 ≤ num * 2 ^ left / 2 ^ right ∧ num * 2 ^ left / 2 ^ right < 2 ^ 53 := by
  constructor
  · rw [Nat.le_div_iff_mul_le (Nat.two_pow_pos right), ← Nat.pow_add, ← places, Nat.pow_add]
    exact Nat.mul_le_mul_right _ (Nat.log2_self_le (Nat.ne_of_gt positive))
  · rw [Nat.div_lt_iff_lt_mul (Nat.two_pow_pos right), ← Nat.pow_add,
      show 53 + right = num.log2 + 1 + left by omega, Nat.pow_add]
    exact Nat.mul_lt_mul_of_pos_right Nat.lt_log2_self (Nat.two_pow_pos left)

theorem binaryExponent_one {num : Nat} (positive : 0 < num) : binaryExponent num 1 = num.log2 := by
  have zero : (-(num.log2 : Int)).toNat = 0 := by omega
  have place : ((num.log2 : Int) - (Nat.log2 1 : Nat)) = num.log2 := Int.sub_zero _
  have enough : scaled 2 1 num.log2 ≤ scaled 2 num (-(num.log2 : Int)) := by
    rw [scaled, scaled, zero, Int.toNat_natCast]
    show 1 * 2 ^ num.log2 ≤ num * 1
    rw [Nat.one_mul, Nat.mul_one]
    exact Nat.log2_self_le (Nat.ne_of_gt positive)
  unfold binaryExponent
  dsimp only
  rw [place, if_pos enough]

/--
The double next to a whole number, by its word. Its mantissa has 53 digits, unless rounding carries
into one more place.
-/
theorem ofRatio?_one (negative : Bool) {num : Nat} (positive : 0 < num)
    (small : num.log2 < 1023) :
    ∃ w, ofRatio? negative num 1 = some (ofWord negative w) ∧ w < 0x7FF0000000000000 ∧
      num.log2 + 1023 ≤ w / hiddenBit ∧ w / hiddenBit ≤ num.log2 + 1024 := by
  have numerator : scaled 2 num (-((num.log2 : Int) - 52)) = num * 2 ^ (52 - num.log2) := by
    rw [scaled, show (-((num.log2 : Int) - 52)).toNat = 52 - num.log2 by omega]
    rfl
  have denominator : scaled 2 1 ((num.log2 : Int) - 52) = 2 ^ (num.log2 - 52) := by
    rw [scaled, show ((num.log2 : Int) - 52).toNat = num.log2 - 52 by omega]
    exact Nat.one_mul _
  have range := quotient_range positive
    (show num.log2 + (52 - num.log2) = 52 + (num.log2 - 52) by omega)
  have rounded := roundQuotient_range (num * 2 ^ (52 - num.log2)) (2 ^ (num.log2 - 52))
  unfold ofRatio?
  rw [if_neg (Nat.ne_of_gt positive), binaryExponent_one positive, Int.max_eq_left (by omega)]
  dsimp only
  rw [numerator, denominator]
  generalize num * 2 ^ (52 - num.log2) / 2 ^ (num.log2 - 52) = quotient at range rounded
  generalize roundQuotient (num * 2 ^ (52 - num.log2)) (2 ^ (num.log2 - 52)) = mantissa at rounded ⊢
  rw [show ((num.log2 : Int) - 52 + 1074).toNat = num.log2 + 1022 by omega, hiddenBit]
  have fits : (num.log2 + 1022) * 0x10000000000000 + mantissa < 0x7FF0000000000000 := by omega
  rw [if_pos fits]
  exact ⟨_, rfl, fits, by omega, by omega⟩

end Binary64

namespace Decimal

theorem isFinite_toFloat? {negative : Bool} {d : Decimal} {x : Float}
    (found : d.toFloat? negative = some x) : x.isFinite = true := by
  have zero : (Binary64.ofWord negative 0).isFinite = true := by cases negative <;> rfl
  unfold toFloat? at found
  dsimp only at found
  split at found
  · cases found
    exact zero
  split at found
  · cases found
  split at found
  · cases found
    exact zero
  · exact Binary64.isFinite_ofRatio? found

theorem toFloat?_whole {n : Nat} (places : Nat) (nonzero : n ≠ 0)
    (small : digitCount n + places ≤ 400) :
    toFloat? false ⟨n, places⟩ = Binary64.ofRatio? false (n * 10 ^ places) 1 := by
  have zero : (-(places : Int)).toNat = 0 := by omega
  unfold toFloat?
  dsimp only
  rw [if_neg nonzero, if_neg (by omega), if_neg (by omega), scaled, scaled, zero,
    Int.toNat_natCast]
  rfl

theorem powerOfTen_308 : powerOfTen 308 = Binary64.ofWord false 0x7FE1CCF385EBC8A0 := by
  decide +kernel

/-- Dividing by a power of ten moves a double well away from the largest one. -/
theorem atLeastEight_powerOfTen {n : Nat} (positive : 0 < n) (small : n ≤ 308) :
    AtLeastEight (powerOfTen n).toModel.unpack := by
  -- the bound on whole numbers is too coarse for the largest power, whose word is known
  rcases Nat.lt_or_eq_of_le small with below | rfl
  · have nonzero : 0 < 10 ^ n := Nat.pow_pos (by decide)
    have least : n ≤ 307 := Nat.le_of_lt_succ below
    have bound : (10 ^ n).log2 < 1023 := by
      rw [Nat.log2_lt (Nat.ne_of_gt nonzero)]
      calc 10 ^ n ≤ 10 ^ 307 := Nat.pow_le_pow_right (by decide) least
        _ < 2 ^ 1023 := by decide +kernel
    have ten : 3 ≤ (10 ^ n).log2 := by
      refine (Nat.le_log2 (Nat.ne_of_gt nonzero)).mpr ?_
      exact Nat.le_trans (by decide) (Nat.pow_le_pow_right (n := 10) (by decide) positive)
    obtain ⟨w, found, finite, large, -⟩ := Binary64.ofRatio?_one false nonzero bound
    have digits : digitCount 1 = 1 := by decide
    have eq : powerOfTen n = Binary64.ofWord false w := by
      rw [powerOfTen, toFloat?_whole n (by decide) (by omega), Nat.one_mul, found]
      rfl
    rw [eq]
    exact atLeastEight_ofWord (by omega) finite
  · rw [powerOfTen_308]
    exact atLeastEight_ofWord (by decide) (by decide)

theorem isFinite_overPowerOfTen {x : Float} {n : Nat} (finite : x.isFinite = true)
    (positive : 0 < n) : (overPowerOfTen x n).isFinite = true := by
  induction n using Nat.strongRecOn generalizing x with
  | ind n ih =>
    unfold overPowerOfTen
    split
    · next small => exact isFinite_div finite (atLeastEight_powerOfTen positive small)
    · next large =>
      have divisor := atLeastEight_powerOfTen (n := 308) (by decide) (Nat.le_refl 308)
      have quotient : (x / powerOfTen 308).isFinite = true := isFinite_div finite divisor
      split
      · exact finite
      · exact ih (n - 308) (by omega) quotient (by omega)

theorem isFinite_timesPowerOfTen? {x y : Float} {n : Nat} (finite : x.isFinite = true)
    (found : timesPowerOfTen? x n = some y) : y.isFinite = true := by
  unfold timesPowerOfTen? at found
  dsimp only at found
  split at found
  · split at found
    · next product =>
      cases found
      exact product
    · cases found
  · split at found
    · cases found
      exact finite
    · cases found

theorem isFinite_compute? {negative : Bool} {d : Decimal} {x : Float}
    (found : d.compute? negative = some x) : x.isFinite = true := by
  unfold compute? at found
  obtain ⟨digits, first, found⟩ := Option.bind_eq_some_iff.mp found
  have whole := isFinite_toFloat? first
  have signed {y : Float} (finite : y.isFinite = true) :
      (if negative then -y else y).isFinite = true := by
    split
    · exact isFinite_neg finite
    · exact finite
  dsimp only at found
  split at found
  · next below =>
    cases found
    exact signed (isFinite_overPowerOfTen whole (Int.natAbs_pos.mpr (Int.ne_of_lt below)))
  · obtain ⟨y, product, found⟩ := Option.bind_eq_some_iff.mp found
    cases found
    exact signed (isFinite_timesPowerOfTen? whole product)

theorem powerOfTen_zero : powerOfTen 0 = Binary64.ofWord false 0x3FF0000000000000 := by
  decide +kernel

/-- A whole number of 64 bits comes to a double. -/
theorem isSome_compute? (negative : Bool) {n : Nat} (small : n < 2 ^ 64) :
    (compute? negative ⟨n, 0⟩).isSome = true := by
  have digits : ∃ x, toFloat? false ⟨n, 0⟩ = some x ∧ Within 12 x.toModel.unpack := by
    rcases Nat.eq_zero_or_pos n with rfl | positive
    · exact ⟨_, rfl, within_ofWord (by decide) (by decide) (by decide) (by decide)⟩
    · have places : n.log2 < 64 := (Nat.log2_lt (Nat.ne_of_gt positive)).mpr small
      have short : digitCount n ≤ 20 :=
        (Nat.length_toDigits_le_iff (by decide) (by decide)).mpr (Nat.lt_trans small (by decide))
      obtain ⟨w, found, finite, -, bound⟩ :=
        Binary64.ofRatio?_one false positive (Nat.lt_trans places (by decide))
      refine ⟨Binary64.ofWord false w, ?_, within_ofWord finite (by omega) (by decide) (by decide)⟩
      exact (toFloat?_whole 0 (Nat.ne_of_gt positive) (by omega)).trans
        ((Nat.mul_one n).symm ▸ found)
  obtain ⟨x, found, within⟩ := digits
  have unit : Within (-52) (powerOfTen 0).toModel.unpack := by
    rw [powerOfTen_zero]
    exact within_ofWord (by decide) (by decide) (by decide) (by decide)
  have product : (x * powerOfTen 0).isFinite = true := isFinite_mul within unit (by decide)
  have times : timesPowerOfTen? x 0 = some (x * powerOfTen 0) := if_pos product
  unfold compute?
  rw [found]
  show (timesPowerOfTen? x 0 >>= _).isSome = true
  rw [times]
  rfl

end Decimal

namespace Numeral

theorem isFinite_toFloat? {n : Numeral} {x : Float} (found : n.toFloat? = some x) :
    x.isFinite = true :=
  Decimal.isFinite_compute? found

theorem fitWhole_of_lt {n : Nat} (small : n < 2 ^ 64) : fitWhole n = (n, 0) := by
  have short : Decimal.digitCount n ≤ 20 :=
    (Nat.length_toDigits_le_iff (by decide) (by decide)).mpr (Nat.lt_trans small (by decide))
  have fitting : fits n = true := decide_eq_true small
  rw [fitWhole, Nat.sub_eq_zero_of_le short]
  show (if fits (n / 1) then (n / 1, 0) else _) = _
  rw [Nat.div_one, if_pos fitting]

theorem isSome_toFloat?_ofInt {n : Int} (small : n.natAbs < 2 ^ 64) :
    (ofInt n).toFloat?.isSome = true := by
  have magnitude : (ofInt n).magnitude = ⟨n.natAbs, 0⟩ := by
    rw [Numeral.magnitude, ofInt, fitWhole_of_lt small]
    rfl
  rw [toFloat?, magnitude]
  exact Decimal.isSome_compute? _ small

end Numeral

end SpriteStage
