import SpriteStage.Collision

/-! # Distances

The distance between two numbers does not depend on which of them comes first: the two differences
are rounded in the same way and have different signs at most.

* `abs_round`, `abs_normalize_neg`, `abs_sub_symm` — signs and rounding
* `abs_unpack_pack` — numbers that differ in their signs at most, packed into words
* `distance_comm`, `collides_comm` — distances, and positions that are close to each other
-/

namespace SpriteStage

set_option autoImplicit false

open Float.Model (Format UnpackedFloat)
open Float.Model.UnpackedFloat (Sign sub unpack pack packComponents unpackMantissa
  unpackExponent unpackMantissa_packComponents unpackExponent_packComponents)

/-! ## Rounding -/

theorem abs_finite_or_zero (s t : Sign) (mantissa : Nat) (exponent : Int) :
    (if zero : mantissa = 0 then UnpackedFloat.zero s
      else .finite s mantissa exponent (Nat.pos_of_ne_zero zero)).abs =
    (if zero : mantissa = 0 then UnpackedFloat.zero t
      else .finite t mantissa exponent (Nat.pos_of_ne_zero zero)).abs := by
  by_cases zero : mantissa = 0
  · rw [dif_pos zero, dif_pos zero]
    rfl
  · rw [dif_neg zero, dif_neg zero]
    rfl

theorem abs_round (format : Format) (s t : Sign) (mantissa : Nat) (exponent : Int) :
    (UnpackedFloat.round format s mantissa exponent).abs =
      (UnpackedFloat.round format t mantissa exponent).abs := by
  delta UnpackedFloat.round UnpackedFloat.roundWithAccuracy
  exact abs_finite_or_zero s t _ _

theorem abs_normalize_neg (format : Format) (mantissa exponent : Int) (zero : Sign) :
    (UnpackedFloat.normalize format (-mantissa) exponent zero).abs =
      (UnpackedFloat.normalize format mantissa exponent zero).abs := by
  unfold UnpackedFloat.normalize
  rcases Int.lt_trichotomy mantissa 0 with negative | rfl | positive
  · have sign : compare mantissa 0 = .lt := Std.compare_eq_lt.mpr negative
    have opposite : compare (-mantissa) 0 = .gt := Std.compare_eq_gt.mpr (by omega)
    rw [sign, opposite]
    exact abs_round _ _ _ _ _
  · rfl
  · have sign : compare mantissa 0 = .gt := Std.compare_eq_gt.mpr positive
    have opposite : compare (-mantissa) 0 = .lt := Std.compare_eq_lt.mpr (by omega)
    simp only [sign, opposite, Int.neg_neg]
    exact abs_round _ _ _ _ _

theorem abs_sub_symm (format : Format) (u v : UnpackedFloat) :
    (sub format u v).abs = (sub format v u).abs := by
  cases u with
  | notANumber => cases v <;> rfl
  | infinity s =>
    cases v with
    | infinity t => cases s <;> cases t <;> rfl
    | _ => rfl
  | zero s =>
    cases v with
    | zero t => cases s <;> cases t <;> rfl
    | _ => rfl
  | finite s m e positive =>
    cases v with
    | finite t n f otherPositive =>
      delta sub
      dsimp only
      rw [Int.min_comm f e, ← abs_normalize_neg, Int.neg_sub]
    | _ => rfl

/-! ## Packing -/

theorem finite_congr {s : Sign} {m n : Nat} {e f : Int} {positive : 0 < m}
    {otherPositive : 0 < n} (mantissa : m = n) (exponent : e = f) :
    UnpackedFloat.finite s m e positive = .finite s n f otherPositive := by
  subst mantissa exponent
  rfl

theorem abs_unpack {format : Format} {a b : BitVec format.numBits}
    (mantissa : unpackMantissa a = unpackMantissa b)
    (exponent : unpackExponent a = unpackExponent b) :
    (unpack format a).abs = (unpack format b).abs := by
  delta unpack
  dsimp only
  by_cases special : unpackExponent b = -.ofNat _ 1
  · rw [if_pos special, if_pos (exponent.trans special), mantissa]
    by_cases infinite : unpackMantissa b = .ofNat _ 0
    · rw [if_pos infinite, if_pos infinite]
      rfl
    · rw [if_neg infinite, if_neg infinite]
  · rw [if_neg special, if_neg (exponent ▸ special)]
    by_cases subnormal : unpackExponent b = .ofNat _ 0
    · rw [if_pos subnormal, if_pos (exponent.trans subnormal)]
      by_cases zero : unpackMantissa b = .ofNat _ 0
      · rw [dif_pos zero, dif_pos (mantissa.trans zero)]
        rfl
      · rw [dif_neg zero, dif_neg (mantissa ▸ zero)]
        exact finite_congr (by rw [mantissa]) (by rw [exponent])
    · rw [if_neg subnormal, if_neg (exponent ▸ subnormal)]
      exact finite_congr (by rw [mantissa]) (by rw [exponent])

theorem abs_unpack_packComponents {format : Format} (s t : Sign)
    (exponent : BitVec format.exponentBits) (mantissa : BitVec format.mantissaBitsWithoutImplicit) :
    (unpack format (packComponents format s exponent mantissa)).abs =
      (unpack format (packComponents format t exponent mantissa)).abs := by
  apply abs_unpack
  · rw [unpackMantissa_packComponents, unpackMantissa_packComponents]
  · rw [unpackExponent_packComponents, unpackExponent_packComponents]

theorem abs_unpack_pack {format : Format} {u v : UnpackedFloat} (same : u.abs = v.abs) :
    (unpack format (pack format u)).abs = (unpack format (pack format v)).abs := by
  cases u with
  | notANumber =>
    cases v with
    | notANumber => rfl
    | _ => cases same
  | infinity s =>
    cases v with
    | infinity t => exact abs_unpack_packComponents s t _ _
    | _ => cases same
  | zero s =>
    cases v with
    | zero t => exact abs_unpack_packComponents s t _ _
    | _ => cases same
  | finite s m e positive =>
    cases v with
    | finite t n f otherPositive =>
      obtain ⟨-, rfl, rfl⟩ := UnpackedFloat.finite.inj same
      delta pack
      dsimp only
      split
      · exact abs_unpack_packComponents s t _ _
      · split
        · exact abs_unpack_packComponents s t _ _
        · exact abs_unpack_packComponents s t _ _
    | _ => cases same

/-! ## Distances -/

theorem distance_comm (x y : Float) : (x - y).abs = (y - x).abs := by
  have same := abs_sub_symm .binary64 x.toModel.unpack y.toModel.unpack
  have packed := @abs_unpack_pack .binary64 _ _ same
  exact congrArg (fun u => Float.ofModel (.pack u)) packed

/-- Positions are close to each other either way. -/
theorem collides_comm (a b : Position) (threshold : Float) :
    collides a b threshold = collides b a threshold := by
  rw [collides, collides, distance_comm a.x, distance_comm a.y]

end SpriteStage
