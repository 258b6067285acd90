import SpriteStage.Json.Record

/-! # Durations

A length of time in nanoseconds. The clock of a stage counts whole milliseconds.

* `Duration.ofMillis`, `Duration.toMillis` — whole milliseconds
* `Duration.ofDelay` — the time that a number of milliseconds asks for, never negative
* `Duration.text` — a duration for people, in the largest unit it reaches
* `Duration.toJson`, `Duration.ofJson?` — whole seconds and the nanoseconds left over
-/

namespace SpriteStage

set_option autoImplicit false

/-- A length of time. -/
structure Duration where
  nanos : Nat
deriving DecidableEq

namespace Duration

def zero : Duration :=
  ⟨0⟩

def ofMillis (ms : Nat) : Duration :=
  ⟨ms * 1000000⟩

def toMillis (d : Duration) : Nat :=
  d.nanos / 1000000

/-- The time that a number of milliseconds asks for; less than none is none. -/
def ofDelay (ms : Int64) : Duration :=
  ofMillis ms.toInt.toNat

/-! ## For people -/

/-- The digits of a fraction without the zeros at its end. -/
def fractionText (places fraction : Nat) : String :=
  match (Decimal.lastDigits places fraction).reverse.dropWhile fun digit => digit.val = 0 with
  | [] => ""
  | digits => "." ++ digitsText digits.reverse

/-- A duration counted in a unit of `10 ^ places` nanoseconds. -/
def inUnit (d : Duration) (places : Nat) (unit : String) : String :=
  let size := Nat.pow 10 places
  toString (d.nanos / size) ++ fractionText places (d.nanos % size) ++ unit

/-- A duration in the largest of seconds, milli-, micro- and nanoseconds of which it holds one. -/
def text (d : Duration) : String :=
  if 1000000000 ≤ d.nanos then d.inUnit 9 "s"
  else if 1000000 ≤ d.nanos then d.inUnit 6 "ms"
  else if 1000 ≤ d.nanos then d.inUnit 3 "µs"
  else d.inUnit 0 "ns"

/-! ## In JSON -/

/-- Whole seconds, and the nanoseconds left over. -/
def toJson (d : Duration) : Json :=
  .ofMembers [
    ("secs", .ofInt (d.nanos / 1000000000 : Nat)),
    ("nanos", .ofInt (d.nanos % 1000000000 : Nat))]

/-- Nanoseconds from a second on count as seconds; the seconds have to fit into 64 bits. -/
def ofJson? (j : Json) : Option Duration := do
  let r ← j.strictRecord? ["secs", "nanos"]
  let secs ← r.require? "secs" (Json.toIntWithin? 0 greatestUInt64)
  let nanos ← r.require? "nanos" (Json.toIntWithin? 0 4294967295)
  let total := secs.toNat * 1000000000 + nanos.toNat
  if total / 1000000000 ≤ greatestUInt64 then some ⟨total⟩ else none

end Duration

end SpriteStage
