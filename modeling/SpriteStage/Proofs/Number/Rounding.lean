import SpriteStage.Proofs.Number.Finite
import SpriteStage.Proofs.Number.Normal

/-! # Rounding to 53 digits

A mantissa with more than 53 digits loses the further ones. Shifting them out keeps a bit for the
first of them and a bit for all others, which is enough to find the nearest mantissa of 53 digits,
the even one of two.

* `Binary64.nearestWhole` — the nearest number of 53 digits
* `Binary64.roundQuotient_nearest` — in what sense a multiple is the nearest
* `Shifted` — what has been shifted out
* `exists_parts_round` — the double that rounding comes to
-/

namespace SpriteStage

set_option autoImplicit false

open Float.Model (Format UnpackedFloat totalExponent)
open Float.Model.UnpackedFloat (Sign ExtendedMantissa)

/-! ## The nearest number of 53 digits -/

namespace Binary64

/-- The distance of the numbers of 53 digits around `n`, as a power of two. -/
def excess (n : Nat) : Nat :=
  n.log2 - 52

/-- The nearest number of 53 digits; of two equally near ones the even multiple of the distance. -/
def nearestWhole (n : Nat) : Nat :=
  roundQuotient n (2 ^ excess n) * 2 ^ excess n

theorem roundQuotient_one (n : Nat) : roundQuotient n 1 = n := by
  simp [roundQuotient, Nat.mod_one]

theorem roundQuotient_mul (num den : Nat) {c : Nat} (positive : 0 < c) :
    roundQuotient (num * c) (den * c) = roundQuotient num den := by
  have less (a b : Nat) : 2 * (a * c) < b * c ↔ 2 * a < b := by
    rw [← Nat.mul_assoc, Nat.mul_lt_mul_right positive]
  have more (a b : Nat) : b * c < 2 * (a * c) ↔ b < 2 * a := by
    rw [← Nat.mul_assoc, Nat.mul_lt_mul_right positive]
  simp only [roundQuotient, Nat.mul_div_mul_right _ _ positive, Nat.mul_mod_mul_right, less, more]

theorem log2_mul_pow {n : Nat} (nonzero : n ≠ 0) (places : Nat) :
    (n * 2 ^ places).log2 = n.log2 + places := by
  induction places with
  | zero => rw [Nat.pow_zero, Nat.mul_one, Nat.add_zero]
  | succ places ih =>
    have positive : n * 2 ^ places ≠ 0 :=
      Nat.mul_ne_zero nonzero (Nat.ne_of_gt (Nat.two_pow_pos places))
    rw [Nat.pow_succ, ← Nat.mul_assoc, Nat.mul_comm _ 2, Nat.log2_two_mul positive, ih,
      Nat.add_assoc]

/-- A number without digits to spare is its own nearest one. -/
theorem nearestWhole_of_log2 {n : Nat} (short : n.log2 ≤ 52) : nearestWhole n = n := by
  rw [nearestWhole, excess, Nat.sub_eq_zero_of_le short, Nat.pow_zero, roundQuotient_one,
    Nat.mul_one]

theorem nearestWhole_of_le {n : Nat} (small : n ≤ 2 ^ 53) : nearestWhole n = n := by
  rcases Nat.lt_or_eq_of_le small with below | rfl
  · refine nearestWhole_of_log2 ?_
    have := log2_lt_of_lt (b := 53) (by decide) below
    omega
  · decide +kernel

/-- Zeros at the end make no difference. -/
theorem nearestWhole_mul_pow {n : Nat} (nonzero : n ≠ 0) (places : Nat) :
    nearestWhole (n * 2 ^ places) = nearestWhole n * 2 ^ places := by
  have digits := log2_mul_pow nonzero places
  rcases Nat.le_total n.log2 52 with short | long
  · rw [nearestWhole_of_log2 short]
    rcases Nat.le_total (n.log2 + places) 52 with fits | beyond
    · exact nearestWhole_of_log2 (by omega)
    · -- only zeros are dropped
      have dropped : excess (n * 2 ^ places) ≤ places := by rw [excess]; omega
      obtain ⟨kept, sum⟩ := Nat.exists_eq_add_of_le' dropped
      rw [nearestWhole]
      generalize excess (n * 2 ^ places) = drop at sum
      have whole := roundQuotient_mul (n * 2 ^ kept) 1 (Nat.two_pow_pos drop)
      rw [Nat.one_mul, roundQuotient_one, Nat.mul_assoc, ← Nat.pow_add, ← sum] at whole
      rw [whole, Nat.mul_assoc, ← Nat.pow_add, ← sum]
  · have dropped : excess (n * 2 ^ places) = excess n + places := by rw [excess, excess]; omega
    rw [nearestWhole, dropped, Nat.pow_add, roundQuotient_mul n _ (Nat.two_pow_pos places),
      ← Nat.mul_assoc]
    rfl

/-! ## Nothing is nearer -/

/-- A multiple is one of the two around a number, or it is farther away than both. -/
theorem multiple_cases (k q d : Nat) :
    k * d + d ≤ q * d ∨ k * d = q * d ∨ k * d = q * d + d ∨ q * d + 2 * d ≤ k * d := by
  rcases Nat.lt_or_ge k q with below | above
  · left
    rw [← Nat.succ_mul]
    exact Nat.mul_le_mul_right d below
  rcases Nat.lt_or_ge (q + 1) k with far | near
  · right; right; right
    rw [← Nat.add_mul]
    exact Nat.mul_le_mul_right d far
  · obtain rfl | rfl : k = q ∨ k = q + 1 := by omega
    · exact .inr (.inl rfl)
    · exact .inr (.inr (.inl (Nat.succ_mul _ _)))

/-- The nearest multiple is the one below or the one above, and even if both are equally near. -/
theorem roundQuotient_cases (num den : Nat) :
    let below := num / den * den
    (roundQuotient num den * den = below ∧ 2 * (num - below) ≤ den ∧
      (2 * (num - below) = den → roundQuotient num den % 2 = 0)) ∨
    (roundQuotient num den * den = below + den ∧ den ≤ 2 * (num - below) ∧
      (2 * (num - below) = den → roundQuotient num den % 2 = 0)) := by
  intro below
  have rest : num - below = num % den := by
    have : below + num % den = num := Nat.div_add_mod' num den
    omega
  rw [rest]
  unfold roundQuotient
  dsimp only
  split
  · exact .inl ⟨rfl, by omega, by omega⟩
  split
  · exact .inr ⟨Nat.succ_mul _ _, by omega, by omega⟩
  · rcases Nat.mod_two_eq_zero_or_one (num / den) with even | odd
    · exact .inl ⟨by rw [even]; rfl, by omega, by omega⟩
    · exact .inr ⟨by rw [odd]; exact Nat.succ_mul _ _, by omega, by omega⟩

/-- No multiple is nearer, and if another one is equally near, the chosen one is even. -/
theorem roundQuotient_nearest (num : Nat) {den : Nat} (positive : 0 < den) (k : Nat) :
    let chosen := roundQuotient num den * den
    ((num : Int) - chosen).natAbs ≤ ((num : Int) - (k * den : Nat)).natAbs ∧
      (((num : Int) - chosen).natAbs = ((num : Int) - (k * den : Nat)).natAbs →
        k * den ≠ chosen → roundQuotient num den % 2 = 0) := by
  have whole : num / den * den + num % den = num := Nat.div_add_mod' num den
  have rest := Nat.mod_lt num positive
  have others := multiple_cases k (num / den) den
  have chosen := roundQuotient_cases num den
  dsimp only at chosen ⊢
  generalize num / den * den = below at *
  generalize roundQuotient num den * den = nearest at *
  omega

end Binary64

/-! ## Shifting digits out -/

open Binary64 (roundQuotient excess nearestWhole)

/-- What is left of a mantissa after so many digits have been shifted out. -/
structure Shifted (m n : Nat) (em : ExtendedMantissa) : Prop where
  mantissa : em.mantissa = m / 2 ^ n
  roundBit : em.roundBit = true ↔ 2 ^ n ≤ 2 * (m % 2 ^ n)
  stickyBit : em.stickyBit = true ↔ m % 2 ^ n ≠ 0 ∧ 2 * (m % 2 ^ n) ≠ 2 ^ n

/-- One more digit: it becomes the first bit, and what was the first bit joins the others. -/
theorem Shifted.next {m n : Nat} {em : ExtendedMantissa} (shifted : Shifted m n em) :
    Shifted m (n + 1) em.shiftRightOne := by
  have digit := Nat.mod_pow_succ (x := m) (b := 2) (k := n)
  have rest := Nat.mod_lt m (Nat.two_pow_pos n)
  have double : 2 ^ (n + 1) = 2 * 2 ^ n := Nat.pow_succ'
  refine ⟨?_, ?_, ?_⟩
  · show em.mantissa / 2 = _
    rw [shifted.mantissa, Nat.div_div_eq_div_mul, Nat.pow_succ]
  · show (em.mantissa % 2 != 0) = true ↔ _
    rw [shifted.mantissa, digit, double, bne_iff_ne]
    rcases Nat.mod_two_eq_zero_or_one (m / 2 ^ n) with zero | one
    · rw [zero]
      omega
    · rw [one]
      omega
  · show (em.roundBit || em.stickyBit) = true ↔ _
    rw [Bool.or_eq_true, shifted.roundBit, shifted.stickyBit, digit, double]
    rcases Nat.mod_two_eq_zero_or_one (m / 2 ^ n) with zero | one
    · rw [zero]
      omega
    · rw [one]
      omega

theorem shifted_shiftRight (m n : Nat) :
    Shifted m n (ExtendedMantissa.ofMantissaAndAccuracy m .exact >>> n) := by
  show Shifted m n (n.repeat ExtendedMantissa.shiftRightOne ⟨m, false, false⟩)
  induction n with
  | zero =>
    refine ⟨(Nat.div_one m).symm, ?_, ?_⟩
    · simp [Nat.repeat, Nat.mod_one]
    · simp [Nat.repeat, Nat.mod_one]
  | succ n ih => exact ih.next

/-- The two bits are enough to round to the nearest. -/
theorem Shifted.roundedMantissa {m n : Nat} {em : ExtendedMantissa} (shifted : Shifted m n em) :
    em.roundedMantissa = roundQuotient m (2 ^ n) := by
  obtain ⟨mantissa, round, sticky⟩ := em
  have whole : mantissa = m / 2 ^ n := shifted.mantissa
  have first : round = true ↔ 2 ^ n ≤ 2 * (m % 2 ^ n) := shifted.roundBit
  have others : sticky = true ↔ m % 2 ^ n ≠ 0 ∧ 2 * (m % 2 ^ n) ≠ 2 ^ n := shifted.stickyBit
  subst whole
  unfold roundQuotient
  dsimp only
  cases round
  · have below : 2 * (m % 2 ^ n) < 2 ^ n := by simpa using first
    rw [if_pos below]
    cases sticky <;> rfl
  · have above : 2 ^ n ≤ 2 * (m % 2 ^ n) := first.mp rfl
    rw [if_neg (by omega)]
    cases sticky
    · have tie : ¬2 ^ n < 2 * (m % 2 ^ n) := by
        intro more
        cases others.mpr ⟨by omega, by omega⟩
      rw [if_neg tie]
      rfl
    · have more := others.mp rfl
      rw [if_pos (by omega)]
      rfl

/-! ## Rounding a mantissa -/

section Round

variable {m k : Nat} {e : Int}

theorem shiftToTargetExponent_of_log2 (digits : m.log2 = 52 + k) (least : -1022 ≤ e) :
    UnpackedFloat.shiftToTargetExponent .binary64 m e .exact =
      (ExtendedMantissa.ofMantissaAndAccuracy m .exact >>> k, e + k) := by
  have places : (Format.binary64.targetExponent (totalExponent m e) - e).toNat = k := by
    rw [targetExponent_eq, totalExponent]
    omega
  unfold UnpackedFloat.shiftToTargetExponent UnpackedFloat.shiftToExponent
  dsimp only
  rw [places]

/-- A mantissa that rounding may come to: of 53 digits, or the first one with more. -/
theorem exists_log2_of_range {r : Nat} (low : 2 ^ 52 ≤ r) (high : r ≤ 2 ^ 53) :
    ∃ carry ≤ 1, r.log2 = 52 + carry ∧ (r / 2 ^ carry).log2 = 52 ∧
      r / 2 ^ carry * 2 ^ carry = r ∧ (r % 2 = 0 → r / 2 ^ carry % 2 = 0) := by
  rcases Nat.lt_or_eq_of_le high with less | rfl
  · have digits : r.log2 = 52 := (Nat.log2_eq_iff (by omega)).mpr ⟨low, less⟩
    refine ⟨0, by decide, digits, ?_⟩
    rw [Nat.pow_zero, Nat.div_one, Nat.mul_one]
    exact ⟨digits, rfl, id⟩
  · exact ⟨1, Nat.le_refl 1, by decide +kernel, by decide +kernel, by decide +kernel, by decide⟩

/-- A mantissa with at least 53 digits is rounded to 53, one place higher if that carries. -/
theorem exists_parts_round (s : Sign) (digits : m.log2 = 52 + k) (least : -1022 ≤ e)
    (greatest : e + k < 971) :
    ∃ mantissa exponent, Parts (.ofModel (.pack
        (UnpackedFloat.roundWithAccuracy .binary64 s m e .exact))) s mantissa exponent ∧
      e + k ≤ exponent ∧ exponent ≤ e + k + 1 ∧
      mantissa * 2 ^ (exponent + 1074).toNat = nearestWhole m * 2 ^ (e + 1074).toNat ∧
      (roundQuotient m (2 ^ k) % 2 = 0 → mantissa % 2 = 0) := by
  have dropped : excess m = k := by rw [excess, digits]; omega
  have positive : 0 < m := by
    rcases Nat.eq_zero_or_pos m with rfl | positive
    · rw [Nat.log2_zero] at digits
      omega
    · exact positive
  have quotient : 2 ^ 52 ≤ m * 2 ^ 0 / 2 ^ k ∧ m * 2 ^ 0 / 2 ^ k < 2 ^ 53 :=
    Binary64.quotient_range positive digits
  rw [Nat.pow_zero, Nat.mul_one] at quotient
  have range := Binary64.roundQuotient_range m (2 ^ k)
  obtain ⟨carry, small, top, full, exact, even⟩ :=
    exists_log2_of_range (r := roundQuotient m (2 ^ k)) (by omega) (by omega)
  have normal : Normal (roundQuotient m (2 ^ k) / 2 ^ carry) (e + k + carry) :=
    ⟨full, by omega, by omega⟩
  refine ⟨roundQuotient m (2 ^ k) / 2 ^ carry, e + k + carry, ?_, by omega, by omega, ?_, even⟩
  · have rounded : UnpackedFloat.roundWithAccuracy .binary64 s m e .exact =
        .finite s (roundQuotient m (2 ^ k) / 2 ^ carry) (e + k + carry) normal.positive := by
      delta UnpackedFloat.roundWithAccuracy
      dsimp only
      rw [shiftToTargetExponent_of_log2 digits least]
      dsimp only
      rw [(shifted_shiftRight m k).roundedMantissa,
        shiftToTargetExponent_of_log2 top (by omega)]
      dsimp only
      rw [dif_neg (by rw [(shifted_shiftRight _ carry).mantissa]; exact normal.positive.ne')]
      congr 1
      exact (shifted_shiftRight _ carry).mantissa
    rw [rounded]
    exact parts_pack s normal normal.positive
  · have places : (e + k + carry + 1074).toNat = carry + (k + (e + 1074).toNat) := by omega
    rw [places, Nat.pow_add, ← Nat.mul_assoc, exact, nearestWhole, dropped, Nat.pow_add,
      Nat.mul_assoc]

end Round

end SpriteStage
