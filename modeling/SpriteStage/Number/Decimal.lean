import SpriteStage.Number.Binary64

/-! # Decimal numbers and the shortest text of a double

A decimal is `digits * 10 ^ exponent` with a natural number of digits.

* `Decimal.toFloat?` — the double nearest to a decimal
* `Decimal.compute?` — the double that a decimal comes to in floating-point arithmetic
* `Decimal.shortest` — the fewest digits that read back as a given double, and of those the
  nearest to it; whether a tie goes up or to the even digit is left to the caller
-/

namespace SpriteStage

set_option autoImplicit false

/-- The decimal number `digits * 10 ^ exponent`. -/
structure Decimal where
  digits : Nat
  exponent : Int
deriving DecidableEq

namespace Decimal

/-- How many decimal digits a number has; zero has one. -/
def digitCount (n : Nat) : Nat :=
  (Nat.toDigits 10 n).length

/-! ## Reading -/

/--
The double nearest to a decimal, ties to even; `none` when it lies beyond the largest finite one.
Decimals whose first digit stands far outside the range of a double are settled by its place, so
that no huge power of ten is formed.
-/
def toFloat? (negative : Bool) (d : Decimal) : Option Float :=
  if d.digits = 0 then
    some (Binary64.ofWord negative 0)
  else
    let place := d.exponent + digitCount d.digits
    if 400 < place then
      none
    else if place < -400 then
      some (Binary64.ofWord negative 0)
    else
      Binary64.ofRatio? negative (scaled 10 d.digits d.exponent) (scaled 10 1 (-d.exponent))

/-- The double nearest to a power of ten. -/
def powerOfTen (n : Nat) : Float :=
  (toFloat? false ⟨1, n⟩).getD 0

/-- A double over a power of ten. One beyond the largest double is divided by in several steps. -/
def overPowerOfTen (x : Float) (n : Nat) : Float :=
  if n ≤ 308 then x / powerOfTen n
  -- once the quotient is zero, further steps change nothing
  else if x == 0 then x
  else overPowerOfTen (x / powerOfTen 308) (n - 308)
termination_by n
decreasing_by omega

/-- A double times a power of ten, unless that overflows. -/
def timesPowerOfTen? (x : Float) (n : Nat) : Option Float :=
  if n ≤ 308 then
    let y := x * powerOfTen n
    if y.isFinite then some y else none
  else if x == 0 then some x
  else none

/--
The double that a decimal comes to when its digits are rounded to a double, and that is multiplied
or divided by a power of ten. Where a step is not exact, the outcome need not be the nearest double.
-/
def compute? (negative : Bool) (d : Decimal) : Option Float := do
  let digits ← toFloat? false ⟨d.digits, 0⟩
  let x ←
    if d.exponent < 0 then some (overPowerOfTen digits d.exponent.natAbs)
    else timesPowerOfTen? digits d.exponent.natAbs
  return if negative then -x else x

/-! ## Writing -/

/-- What becomes of a value that lies midway between two decimals. -/
inductive Tie where
  | up
  | toEven
deriving DecidableEq

/-- The largest `k` with `10 ^ k ≤ num / den`, for positive `num` and `den`. -/
def decimalExponent (num den : Nat) : Int :=
  let k : Int := (digitCount num : Int) - (digitCount den : Int)
  if scaled 10 den k ≤ scaled 10 num (-k) then k else k - 1

/-- The two whole numbers around `num / den`, the nearer one first. -/
def neighbours (tie : Tie) (num den : Nat) : List Nat :=
  let low := num / den
  let rest := num % den
  if 2 * rest < den then [low, low + 1]
  else if den < 2 * rest then [low + 1, low]
  else match tie with
    | .up => [low + 1, low]
    | .toEven => if low % 2 = 0 then [low, low + 1] else [low + 1, low]

/-- A decimal reads back as `x`. -/
def readsBack (x : Float) (d : Decimal) : Bool :=
  d.toFloat? (Binary64.isNegative x) == some x

/-- All digits of a finite double: every one is a decimal, since a half is five tenths. -/
def exact (x : Float) : Decimal :=
  let m := Binary64.significand x
  let e := Binary64.exponent x
  if 0 ≤ e then ⟨scaled 2 m e, 0⟩ else ⟨scaled 5 m (-e), e⟩

/-- The nearest decimal at the place `10 ^ place` that reads back as `x`, if one does. -/
def atPlace? (tie : Tie) (x : Float) (num den : Nat) (place : Int) : Option Decimal :=
  let around := neighbours tie (scaled 10 num (-place)) (scaled 10 den place)
  (around.map fun n => (⟨n, place⟩ : Decimal)).find? (readsBack x)

/--
The decimal with the fewest digits that reads back as the finite double `x`. Seventeen digits
always suffice; should none of the first seventeen do, all digits are taken.
-/
def shortest (tie : Tie) (x : Float) : Decimal :=
  let m := Binary64.significand x
  if m = 0 then
    ⟨0, 0⟩
  else
    let e := Binary64.exponent x
    let num := scaled 2 m e
    let den := scaled 2 1 (-e)
    -- one more digit moves the place of the last one down by one
    let first := decimalExponent num den
    let found := (List.range 17).findSome? fun (n : Nat) => atPlace? tie x num den (first - n)
    found.getD (exact x)

/-- Moves the zeros at the end of the digits into the exponent, at most `fuel` of them. -/
def dropZeros : Nat → Decimal → Decimal
  | 0, d => d
  | fuel + 1, d =>
    if d.digits ≠ 0 ∧ d.digits % 10 = 0 then dropZeros fuel ⟨d.digits / 10, d.exponent + 1⟩ else d

/-- The same number without zeros at the end of its digits; zero itself is left alone. -/
def normalize (d : Decimal) : Decimal :=
  dropZeros (digitCount d.digits) d

/-! ## Positional notation -/

/-- The last decimal digit of `n`. -/
def lastDigit (n : Nat) : Fin 10 :=
  ⟨n % 10, Nat.mod_lt n (Nat.succ_pos 9)⟩

/-- The last `count` decimal digits of `n`, the first of them first. -/
def lastDigits : Nat → Nat → List (Fin 10)
  | 0, _ => []
  | count + 1, n => lastDigits count (n / 10) ++ [lastDigit n]

/-- The digits in front of the decimal point, as a number. -/
def whole (d : Decimal) : Nat :=
  scaled 10 d.digits d.exponent / scaled 10 1 (-d.exponent)

/-- The digits behind the decimal point: as many as the exponent asks for. -/
def fraction (d : Decimal) : List (Fin 10) :=
  lastDigits (-d.exponent).toNat (d.digits % scaled 10 1 (-d.exponent))

end Decimal

def digitChar (d : Fin 10) : Char :=
  Nat.digitChar d.val

def digitsText (ds : List (Fin 10)) : String :=
  String.ofList (ds.map digitChar)

end SpriteStage
