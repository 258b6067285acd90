import Mathlib.Tactic.Ring
/-! # Exponents of doubles

A double overflows when its exponent outgrows the word, so it stays finite as long as its exponent
is bounded. This module follows the bound through packing, rounding, products and quotients.

* `Within` — zero, or a finite number with a bounded exponent
* `within_pack` — packing a bounded number into a word and unpacking it again
* `within_round` — rounding
* `within_mul`, `within_div` — products, and quotients by numbers that are not small
-/

namespace SpriteStage

set_option autoImplicit false

open Float.Model (Format UnpackedFloat totalExponent)
open Float.Model.UnpackedFloat (Sign unpack pack packComponents unpackMantissa unpackExponent
  unpackExponent_packComponents ExtendedMantissa)

/-! ## Exponents -/

/-- Zero, or a finite number whose exponent is at most `k`. -/
def Within (k : Int) : UnpackedFloat → Prop
  | .zero _ => True
  | .finite _ _ e _ => e ≤ k
  | .infinity _ => False
  | .notANumber => False

theorem isFinite_of_within {k : Int} {u : UnpackedFloat} (within : Within k u) :
    u.isFinite = true := by
  cases u with
  | zero s => rfl
  | finite s m e positive => rfl
  | infinity s => exact within.elim
  | notANumber => exact within.elim

theorem within_unpack {k : Int} {v : BitVec Format.binary64.numBits}
    (finite : (unpackExponent v).toNat < 2047) (bound : ((unpackExponent v).toNat : Int) ≤ k + 1075)
    (least : -1074 ≤ k) : Within k (unpack .binary64 v) := by
  have ordinary : unpackExponent v ≠ -1#_ := by
    intro same
    rw [same] at finite
    cases Nat.lt_irrefl _ finite
  have bias : ((Format.binary64.exponentBias : Nat) : Int) = 1023 := rfl
  unfold unpack
  dsimp only
  rw [if_neg ordinary]
  by_cases subnormal : unpackExponent v = 0#_
  · rw [if_pos subnormal]
    by_cases zero : unpackMantissa v = 0#_
    · rw [dif_pos zero]
      trivial
    · rw [dif_neg zero, subnormal]
      exact least
  · rw [if_neg subnormal]
    show ((unpackExponent v).toNat : Int) - (1023 + 52) ≤ k
    omega

theorem within_of_isFinite {v : BitVec Format.binary64.numBits}
    (finite : (unpack .binary64 v).isFinite = true) : Within 971 (unpack .binary64 v) := by
  have top : (unpackExponent v).toNat ≠ 2047 := by
    intro same
    have special : unpackExponent v = -1#_ := BitVec.eq_of_toNat_eq same
    unfold unpack at finite
    dsimp only at finite
    rw [if_pos special] at finite
    split at finite <;> cases finite
  have small : (unpackExponent v).toNat < 2 ^ 11 := (unpackExponent v).isLt
  exact within_unpack (by omega) (by omega) (by omega)

/-- A mantissa of at most 53 digits. -/
def Narrow : UnpackedFloat → Prop
  | .finite _ m _ _ => m < 2 ^ 53
  | _ => True

theorem narrow_unpack (v : BitVec Format.binary64.numBits) : Narrow (unpack .binary64 v) := by
  unfold unpack
  dsimp only
  by_cases special : unpackExponent v = -1#_
  · rw [if_pos special]
    split <;> trivial
  rw [if_neg special]
  by_cases subnormal : unpackExponent v = 0#_
  · rw [if_pos subnormal]
    by_cases zero : unpackMantissa v = 0#_
    · rw [dif_pos zero]
      trivial
    · rw [dif_neg zero]
      exact Nat.lt_trans (unpackMantissa v).isLt (by decide)
  · rw [if_neg subnormal]
    exact (1#1 ++ unpackMantissa v).isLt

/-- The words between subnormal numbers and infinities have mantissas of exactly 53 digits. -/
theorem unpack_normal {v : BitVec Format.binary64.numBits} (normal : 0 < (unpackExponent v).toNat)
    (finite : (unpackExponent v).toNat < 2047) :
    ∃ s m e positive, unpack .binary64 v = .finite s m e positive ∧ m.log2 = 52 ∧
      e = (unpackExponent v).toNat - 1075 := by
  have ordinary : unpackExponent v ≠ -1#_ := by
    intro same
    rw [same] at finite
    cases Nat.lt_irrefl _ finite
  have nonzero : unpackExponent v ≠ 0#_ := by
    intro same
    rw [same] at normal
    cases Nat.lt_irrefl _ normal
  have digits : (1#1 ++ unpackMantissa v).toNat = 2 ^ 52 + (unpackMantissa v).toNat := by
    rw [BitVec.toNat_append, ← Nat.shiftLeft_add_eq_or_of_lt (unpackMantissa v).isLt]
    rfl
  have small : (unpackMantissa v).toNat < 2 ^ 52 := (unpackMantissa v).isLt
  unfold unpack
  dsimp only
  rw [if_neg ordinary, if_neg nonzero]
  have positive : 0 < (1#1 ++ unpackMantissa v).toNat := by omega
  refine ⟨_, _, _, positive, rfl, ?_, rfl⟩
  rw [Nat.log2_eq_iff (Nat.ne_of_gt positive)]
  omega

theorem within_pack {k : Int} {u : UnpackedFloat} (within : Within k u) (least : -1074 ≤ k)
    (greatest : k ≤ 971) : Within k (unpack .binary64 (pack .binary64 u)) := by
  have packed {s : Sign} {e : BitVec 11} {m : BitVec 52} (bound : (e.toNat : Int) ≤ k + 1075)
      : Within k (unpack .binary64 (packComponents .binary64 s e m)) := by
    apply within_unpack
    · rw [unpackExponent_packComponents]
      omega
    · rwa [unpackExponent_packComponents]
    · exact least
  cases u with
  | notANumber => exact within.elim
  | infinity s => exact within.elim
  | zero s =>
    exact packed (by
      show ((0 : Nat) : Int) ≤ k + 1075
      omega)
  | finite s m e positive =>
    have small : e ≤ k := within
    unfold pack
    dsimp only
    have biased : (e + (Format.binary64.exponentBias : Int) + (52 : Nat)).toNat + 1 < 2 ^ 11 := by
      have : ((Format.binary64.exponentBias : Nat) : Int) = 1023 := rfl
      omega
    rw [if_neg (Nat.not_le.mpr biased)]
    split
    · apply packed
      rw [BitVec.toNat_ofNat]
      have := Nat.mod_le (e + (Format.binary64.exponentBias : Int) + (52 : Nat)).toNat (2 ^ 11)
      have : ((Format.binary64.exponentBias : Nat) : Int) = 1023 := rfl
      omega
    · exact packed (by
        show ((0 : Nat) : Int) ≤ k + 1075
        omega)

theorem unpackExponent_pack {v : BitVec Format.binary64.numBits}
    (normal : 0 < (unpackExponent v).toNat) (finite : (unpackExponent v).toNat < 2047) :
    unpackExponent (pack .binary64 (unpack .binary64 v)) = unpackExponent v := by
  obtain ⟨s, m, e, positive, eq, digits, exponent⟩ := unpack_normal normal finite
  have biased : (e + (Format.binary64.exponentBias : Int) + (52 : Nat)).toNat
      = (unpackExponent v).toNat := by
    have : ((Format.binary64.exponentBias : Nat) : Int) = 1023 := rfl
    omega
  have full : m.log2 + 1 = Format.binary64.mantissaBits := by rw [digits]; rfl
  rw [eq]
  unfold pack
  dsimp only
  rw [biased, if_neg (by omega), if_pos full, unpackExponent_packComponents, BitVec.ofNat_toNat,
    BitVec.setWidth_eq]

/-! ## Rounding -/

theorem log2_lt_of_lt {n b : Nat} (positive : 0 < b) (small : n < 2 ^ b) : n.log2 < b := by
  rcases Nat.eq_zero_or_pos n with rfl | nonzero
  · exact positive
  · exact (Nat.log2_lt (Nat.ne_of_gt nonzero)).mpr small

theorem mantissa_shiftRight_le (em : ExtendedMantissa) (n : Nat) :
    (em >>> n).mantissa ≤ em.mantissa := by
  show (n.repeat ExtendedMantissa.shiftRightOne em).mantissa ≤ em.mantissa
  induction n with
  | zero => exact Nat.le_refl _
  | succ n ih => exact Nat.le_trans (Nat.div_le_self _ 2) ih

theorem roundedMantissa_le (em : ExtendedMantissa) : em.roundedMantissa ≤ em.mantissa + 1 := by
  obtain ⟨m, half, rest⟩ := em
  have parity := Nat.mod_lt m (Nat.succ_pos 1)
  cases half
  · cases rest <;> exact Nat.le_succ m
  · cases rest
    · show m + m % 2 ≤ m + 1
      omega
    · exact Nat.le_refl _

theorem mantissa_ofMantissaAndAccuracy (m : Nat) (accuracy : UnpackedFloat.Accuracy) :
    (ExtendedMantissa.ofMantissaAndAccuracy m accuracy).mantissa = m := by
  cases accuracy with
  | exact => rfl
  | inexact order => cases order <;> rfl

theorem targetExponent_eq (total : Int) :
    Format.binary64.targetExponent total = max (total - 53) (-1074) :=
  rfl

/-- Shifting drops digits, and raises the exponent no further than the digits reach. -/
theorem shiftToTargetExponent_le {m b : Nat} (e : Int) {k : Int}
    (accuracy : UnpackedFloat.Accuracy) (small : m < 2 ^ b) (stays : e ≤ k)
    (reach : max 1 b + e - 53 ≤ k) (least : -1074 ≤ k) :
    (UnpackedFloat.shiftToTargetExponent .binary64 m e accuracy).1.mantissa ≤ m ∧
      (UnpackedFloat.shiftToTargetExponent .binary64 m e accuracy).2 ≤ k := by
  have digits : m.log2 < max 1 b :=
    log2_lt_of_lt (by omega)
      (Nat.lt_of_lt_of_le small (Nat.pow_le_pow_right (by decide) (by omega)))
  constructor
  · exact Nat.le_trans (mantissa_shiftRight_le _ _)
      (Nat.le_of_eq (mantissa_ofMantissaAndAccuracy m accuracy))
  · show e + ((Format.binary64.targetExponent (totalExponent m e) - e).toNat : Int) ≤ k
    rw [targetExponent_eq, totalExponent]
    omega

theorem within_finite_or_zero {m : Nat} {e k : Int} (s : Sign) (low : e ≤ k) :
    Within k (if zero : m = 0 then UnpackedFloat.zero s
      else .finite s m e (Nat.pos_of_ne_zero zero)) := by
  by_cases zero : m = 0
  · rw [dif_pos zero]
    trivial
  · rw [dif_neg zero]
    exact low

/--
Rounding a number of at most `b` digits: the first shift raises the exponent by `b - 53` at most,
and a carry may need the second.
-/
theorem within_round {m b : Nat} {e k : Int} (s : Sign) (accuracy : UnpackedFloat.Accuracy)
    (wide : 53 ≤ b) (small : m < 2 ^ b) (room : max e (-1074) + (2 * b - 105) ≤ k) :
    Within k (UnpackedFloat.roundWithAccuracy .binary64 s m e accuracy) := by
  obtain ⟨shorter, low⟩ := shiftToTargetExponent_le e (k := max e (-1074) + (b - 53)) accuracy small
    (by omega) (by omega) (by omega)
  delta UnpackedFloat.roundWithAccuracy
  dsimp only
  generalize UnpackedFloat.shiftToTargetExponent .binary64 m e accuracy = shifted at shorter low ⊢
  obtain ⟨em, e'⟩ := shifted
  have rounded : em.roundedMantissa < 2 ^ (b + 1) := by
    have : em.roundedMantissa ≤ em.mantissa + 1 := roundedMantissa_le em
    have : em.mantissa ≤ m := shorter
    rw [Nat.pow_succ]
    omega
  have low : e' ≤ max e (-1074) + (b - 53) := low
  -- the mantissa that was rounded may have one digit more, and is shifted once more for it
  have second := (shiftToTargetExponent_le e' (k := k) .exact rounded (by omega) (by omega)
    (by omega)).2
  exact within_finite_or_zero s second

/-! ## Products and quotients -/

theorem within_mul {u v : UnpackedFloat} {i j k : Int} (left : Within i u) (right : Within j v)
    (leftNarrow : Narrow u) (rightNarrow : Narrow v) (room : max (i + j) (-1074) + 107 ≤ k) :
    Within k (UnpackedFloat.mul .binary64 u v) := by
  cases u with
  | notANumber => exact left.elim
  | infinity s => exact left.elim
  | zero s =>
    cases v with
    | notANumber => exact right.elim
    | infinity t => exact right.elim
    | _ => trivial
  | finite s m e positive =>
    cases v with
    | notANumber => exact right.elim
    | infinity t => exact right.elim
    | zero t => trivial
    | finite t n f other =>
      have low : e ≤ i := left
      have high : f ≤ j := right
      have small : m * n < 2 ^ 106 := by
        rw [Nat.pow_add 2 53 53]
        exact Nat.mul_lt_mul'' leftNarrow rightNarrow
      exact within_round _ _ (by decide) small (by omega)

/-- The quotient of two mantissas, the first one shifted far enough to have all its digits. -/
theorem quotient_lt {m n shift : Nat} (positive : 0 < n) (room : m.log2 + shift ≤ n.log2 + 53) :
    (m <<< shift) / n < 2 ^ 54 := by
  rw [Nat.shiftLeft_eq, Nat.div_lt_iff_lt_mul positive]
  calc m * 2 ^ shift
      < 2 ^ (m.log2 + 1) * 2 ^ shift :=
        Nat.mul_lt_mul_of_pos_right Nat.lt_log2_self (Nat.two_pow_pos _)
    _ = 2 ^ (m.log2 + shift + 1) := by rw [← Nat.pow_add]; congr 1; omega
    _ ≤ 2 ^ (54 + n.log2) := Nat.pow_le_pow_right (by decide) (by omega)
    _ = 2 ^ 54 * 2 ^ n.log2 := Nat.pow_add ..
    _ ≤ 2 ^ 54 * n := Nat.mul_le_mul_left _ (Nat.log2_self_le (Nat.ne_of_gt positive))

/-- A number of at least four binary places in front of the point. -/
structure AtLeastEight (u : UnpackedFloat) : Prop where
  places : ∃ s m e positive, u = .finite s m e positive ∧ 4 ≤ totalExponent m e

theorem within_div {u v : UnpackedFloat} (left : Within 971 u) (narrow : Narrow u)
    (large : AtLeastEight v) : Within 971 (UnpackedFloat.div .binary64 u v) := by
  obtain ⟨t, n, f, other, rfl, high⟩ := large.places
  cases u with
  | notANumber => exact left.elim
  | infinity s => exact left.elim
  | zero s => trivial
  | finite s m e positive =>
    have low : e ≤ 971 := left
    have places : m.log2 < 53 := (Nat.log2_lt (Nat.ne_of_gt positive)).mpr narrow
    rw [totalExponent] at high
    show Within 971 (UnpackedFloat.roundWithAccuracy .binary64 _ _ _ _)
    rw [targetExponent_eq, totalExponent, totalExponent]
    exact within_round _ _ (by decide) (quotient_lt other (by omega)) (by omega)

theorem atLeastEight_unpack {v : BitVec Format.binary64.numBits}
    (large : 1026 ≤ (unpackExponent v).toNat) (finite : (unpackExponent v).toNat < 2047) :
    AtLeastEight (unpack .binary64 v) := by
  obtain ⟨s, m, e, positive, eq, digits, exponent⟩ := unpack_normal (by omega) finite
  refine ⟨s, m, e, positive, eq, ?_⟩
  rw [totalExponent]
  omega

end SpriteStage
