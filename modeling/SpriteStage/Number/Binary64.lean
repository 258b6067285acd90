import SpriteStage.Number.Scale

/-! # Binary64 numbers in exact integer arithmetic

A finite double is a sign together with `m * 2 ^ e`, where `m` and `e` can be read off its word.
Everything here works on that word, so no step rounds unless it says so.

* `significand`, `exponent`, `isNegative` — the three parts of a finite double
* `ofWord` — the double with a given sign and a given word below the sign bit
* `ofRatio?` — the double nearest to a quotient of naturals, ties to even, unless it overflows
* `truncate` — the integer part of a finite double, toward zero
-/

namespace SpriteStage.Binary64

set_option autoImplicit false

/-! ## The parts of a double -/

/-- The word of negative zero, in which only the sign bit is set. -/
def signBit : Nat :=
  0x8000000000000000

/-- The place of the lowest exponent bit in a word. -/
def hiddenBit : Nat :=
  0x10000000000000

/-- The word of a double below its sign bit. -/
def word (x : Float) : Nat :=
  x.toBits.toNat % signBit

/-- The sign bit is set, as it also is for negative zero. -/
def isNegative (x : Float) : Bool :=
  decide (signBit ≤ x.toBits.toNat)

/-- A finite double is, up to its sign, its significand times two to the power of its exponent. -/
def significand (x : Float) : Nat :=
  if word x < hiddenBit then word x else hiddenBit + word x % hiddenBit

/-- Subnormal doubles share the exponent of the smallest normal ones. -/
def exponent (x : Float) : Int :=
  if word x < hiddenBit then -1074 else ((word x / hiddenBit : Nat) : Int) - 1075

/-- The double with the given sign whose other bits are `w`, for `w` below the sign bit. -/
def ofWord (negative : Bool) (w : Nat) : Float :=
  Float.ofBits (UInt64.ofNat (if negative then signBit + w else w))

/-! ## Rounding a quotient -/

/-- The natural number nearest to `num / den`; of two equally near ones the even one. -/
def roundQuotient (num den : Nat) : Nat :=
  let q := num / den
  let r := num % den
  if 2 * r < den then q else if den < 2 * r then q + 1 else q + q % 2

/-- The largest `e` with `2 ^ e ≤ num / den`, for positive `num` and `den`. -/
def binaryExponent (num den : Nat) : Int :=
  let e : Int := (num.log2 : Int) - (den.log2 : Int)
  if scaled 2 den e ≤ scaled 2 num (-e) then e else e - 1

/--
The double nearest to `num / den` with the given sign, `none` when it lies beyond the largest
finite one. The word of `m * 2 ^ q` is `(q + 1074) * hiddenBit + m`, for subnormal and normal `m`
alike, and a carry of the rounding out of `m` lands in the exponent as it should.
-/
def ofRatio? (negative : Bool) (num den : Nat) : Option Float :=
  if num = 0 then
    some (ofWord negative 0)
  else
    -- the quotient has 53 digits in front of the place `q`, fewer if it is subnormal
    let q := max (binaryExponent num den - 52) (-1074)
    let m := roundQuotient (scaled 2 num (-q)) (scaled 2 den q)
    let w := (q + 1074).toNat * hiddenBit + m
    if w < 0x7FF0000000000000 then some (ofWord negative w) else none

/-! ## Integers -/

/-- The magnitude of the integer part of a finite double. -/
def wholePart (x : Float) : Nat :=
  scaled 2 (significand x) (exponent x) / scaled 2 1 (-exponent x)

/-- The integer part of a finite double, rounded toward zero. -/
def truncate (x : Float) : Int :=
  if isNegative x then -(wholePart x : Int) else (wholePart x : Int)

/-- A finite double without a fractional part. -/
def isIntegral (x : Float) : Bool :=
  x.isFinite && scaled 2 (significand x) (exponent x) % scaled 2 1 (-exponent x) == 0

end SpriteStage.Binary64

namespace SpriteStage

def leastInt64 : Int :=
  -9223372036854775808

def greatestInt64 : Int :=
  9223372036854775807

def greatestUInt64 : Int :=
  18446744073709551615

/-- The nearest 64-bit integer: values beyond either end of the range become that end. -/
def clampInt64 (n : Int) : Int64 :=
  Int64.ofInt (max leastInt64 (min greatestInt64 n))

/-- The double nearest to a 64-bit integer, ties to even. -/
def floatOfInt64 (n : Int64) : Float :=
  Float.ofInt n.toInt

end SpriteStage
