import SpriteStage.Number.Binary64
import SpriteStage.Proofs.Number.Exponent

/-! # Normal doubles

Away from zero and from the infinities, a double is a sign, a mantissa of 53 digits and an exponent,
and packing these into a word loses nothing.

* `Normal` — mantissas and exponents of normal doubles
* `pack_of_normal` — where they are put in a word
* `Parts` — a double together with its sign, mantissa and exponent
* `parts_pack` — packing
-/

namespace SpriteStage

set_option autoImplicit false

open Float.Model (Format UnpackedFloat)
open Float.Model.UnpackedFloat (Sign unpack pack packComponents unpackMantissa unpackExponent
  unpackSign unpackMantissa_packComponents unpackExponent_packComponents)

/-- A mantissa of 53 digits, and an exponent with room below for another mantissa. -/
structure Normal (m : Nat) (e : Int) : Prop where
  digits : m.log2 = 52
  least : -1022 ≤ e
  greatest : e ≤ 971

section Pack

variable {m : Nat} {e : Int}

theorem range_of_log2 (digits : m.log2 = 52) : 2 ^ 52 ≤ m ∧ m < 2 ^ 53 := by
  have nonzero : m ≠ 0 := by
    rintro rfl
    cases digits
  exact (Nat.log2_eq_iff nonzero).mp digits

theorem Normal.positive (normal : Normal m e) : 0 < m := by
  have := (range_of_log2 normal.digits).1
  omega

theorem toNat_packComponents (s : Sign) (e : BitVec 11) (m : BitVec 52) :
    (packComponents .binary64 s e m).toNat =
      s.toBitVec.toNat * 2 ^ 63 + e.toNat * 2 ^ 52 + m.toNat := by
  show ((s.toBitVec ++ e) ++ m).toNat = _
  rw [BitVec.toNat_append, BitVec.toNat_append, ← Nat.shiftLeft_add_eq_or_of_lt m.isLt,
    ← Nat.shiftLeft_add_eq_or_of_lt e.isLt, Nat.shiftLeft_eq, Nat.shiftLeft_eq]
  omega

theorem unpackSign_packComponents (s : Sign) (e : BitVec 11) (m : BitVec 52) :
    @unpackSign .binary64 (packComponents .binary64 s e m) = s.toBitVec := by
  apply BitVec.eq_of_toNat_eq
  have word := toNat_packComponents s e m
  have : e.toNat < 2 ^ 11 := e.isLt
  have : m.toNat < 2 ^ 52 := m.isLt
  have : s.toBitVec.toNat < 2 ^ 1 := s.toBitVec.isLt
  unfold unpackSign
  rw [BitVec.toNat_cast, BitVec.extractLsb_toNat, Nat.shiftRight_eq_div_pow, word]
  show _ / 2 ^ 63 % 2 ^ 1 = _
  omega

/-- The mantissa is put into the word without its first digit. -/
theorem pack_of_normal (s : Sign) (normal : Normal m e) (positive : 0 < m) :
    pack .binary64 (.finite s m e positive) =
      packComponents .binary64 s (BitVec.ofNat 11 (e + 1075).toNat) (BitVec.ofNat 52 m) := by
  have least := normal.least
  have greatest := normal.greatest
  have biased : (e + (Format.binary64.exponentBias : Int) + (52 : Nat)).toNat =
      (e + 1075).toNat := by
    have : ((Format.binary64.exponentBias : Nat) : Int) = 1023 := rfl
    omega
  have full : m.log2 + 1 = Format.binary64.mantissaBits := by rw [normal.digits]; rfl
  unfold pack
  dsimp only
  rw [biased, if_neg (by omega), if_pos full]

/-- Unpacking gives back what has been packed. -/
theorem unpack_pack (s : Sign) (normal : Normal m e) (positive : 0 < m) :
    unpack .binary64 (pack .binary64 (.finite s m e positive)) = .finite s m e positive := by
  obtain ⟨low, high⟩ := range_of_log2 normal.digits
  have least := normal.least
  have greatest := normal.greatest
  have biased : (BitVec.ofNat 11 (e + 1075).toNat).toNat = (e + 1075).toNat := by
    rw [BitVec.toNat_ofNat]
    omega
  have digits : (1#1 ++ BitVec.ofNat 52 m).toNat = m := by
    rw [BitVec.toNat_append, ← Nat.shiftLeft_add_eq_or_of_lt (BitVec.ofNat 52 m).isLt,
      BitVec.toNat_ofNat]
    show 2 ^ 52 + m % 2 ^ 52 = m
    omega
  have ordinary : BitVec.ofNat 11 (e + 1075).toNat ≠ -1#_ := by
    intro same
    have : (e + 1075).toNat = 2047 := biased.symm.trans (congrArg BitVec.toNat same)
    omega
  have nonzero : BitVec.ofNat 11 (e + 1075).toNat ≠ 0#_ := by
    intro same
    have : (e + 1075).toNat = 0 := biased.symm.trans (congrArg BitVec.toNat same)
    omega
  have sign : Sign.ofBitVec s.toBitVec = s := by cases s <;> rfl
  have exponent : ((e + 1075).toNat : Int) - (1023 + 52) = e := by omega
  rw [pack_of_normal s normal positive]
  unfold unpack
  dsimp only
  rw [unpackExponent_packComponents, if_neg ordinary, if_neg nonzero]
  congr 1
  · rw [unpackSign_packComponents, sign]
  · rw [unpackMantissa_packComponents]
    exact digits
  · rw [biased]
    exact exponent

end Pack

/-! ## Doubles and their parts -/

/-- A double that is normal, and its parts as they are read off its word. -/
structure Parts (x : Float) (s : Sign) (m : Nat) (e : Int) : Prop where
  normal : Normal m e
  unpacked : x.toModel.unpack = .finite s m e normal.positive
  isNegative : Binary64.isNegative x = true ↔ s = .negative
  significand : Binary64.significand x = m
  exponent : Binary64.exponent x = e

section Parts

variable {m : Nat} {e : Int} {s : Sign} {x : Float}

theorem parts_pack (s : Sign) (normal : Normal m e) (positive : 0 < m) :
    Parts (.ofModel (.pack (.finite s m e positive))) s m e := by
  obtain ⟨low, high⟩ := range_of_log2 normal.digits
  have least := normal.least
  have greatest := normal.greatest
  generalize made : Float.ofModel (.pack (.finite s m e positive)) = x
  have bits : x.toBits.toNat =
      s.toBitVec.toNat * 2 ^ 63 + (e + 1075).toNat * 2 ^ 52 + (m - 2 ^ 52) := by
    subst made
    show (pack .binary64 (.finite s m e positive)).toNat = _
    rw [pack_of_normal s normal, toNat_packComponents, BitVec.toNat_ofNat, BitVec.toNat_ofNat]
    omega
  have sign : s.toBitVec.toNat < 2 ^ 1 := s.toBitVec.isLt
  have word : Binary64.word x = (e + 1075).toNat * 2 ^ 52 + (m - 2 ^ 52) := by
    rw [Binary64.word, bits, Binary64.signBit]
    omega
  refine ⟨normal, by subst made; exact unpack_pack s normal positive, ?_, ?_, ?_⟩
  · have : s.toBitVec.toNat = 1 ↔ s = .negative := by cases s <;> simp [Sign.toBitVec]
    rw [Binary64.isNegative, decide_eq_true_iff, bits, Binary64.signBit, ← this]
    omega
  · rw [Binary64.significand, word, Binary64.hiddenBit, if_neg (by omega)]
    omega
  · rw [Binary64.exponent, word, Binary64.hiddenBit, if_neg (by omega)]
    omega

theorem Parts.isFinite (parts : Parts x s m e) : x.isFinite = true := by
  show x.toModel.unpack.isFinite = true
  rw [parts.unpacked]
  rfl

theorem Parts.neg (parts : Parts x s m e) : Parts (-x) (-s) m e := by
  have negated : -x = .ofModel (.pack (.finite (-s) m e parts.normal.positive)) := by
    show Float.ofModel (.pack x.toModel.unpack.neg) = _
    rw [parts.unpacked]
    rfl
  rw [negated]
  exact parts_pack (-s) parts.normal _

end Parts

end SpriteStage
