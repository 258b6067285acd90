/-! # Digits

Decimal and hexadecimal digits as characters, and the numbers they write.

* `digitValue`, `decimalValue` — the value of a decimal digit, and of a row of them
* `hexValue?` — the value of a hexadecimal digit in either case
* `hexDigits` — a number in a given number of lower-case hexadecimal digits
-/

namespace SpriteStage

set_option autoImplicit false

/-- The value of an ASCII digit. -/
def digitValue (c : Char) : Nat :=
  c.toNat - '0'.toNat

/-- The number written by a row of ASCII digits. -/
def decimalValue (digits : List Char) : Nat :=
  digits.foldl (fun n c => 10 * n + digitValue c) 0

/-- The value of a hexadecimal digit in either case. -/
def hexValue? (c : Char) : Option Nat :=
  if c.isDigit then some (digitValue c)
  else if 'a' ≤ c ∧ c ≤ 'f' then some (c.toNat - 'a'.toNat + 10)
  else if 'A' ≤ c ∧ c ≤ 'F' then some (c.toNat - 'A'.toNat + 10)
  else none

/-- The last `count` hexadecimal digits of a number, the first of them first. -/
def hexDigits : Nat → Nat → List Char
  | 0, _ => []
  | count + 1, n => hexDigits count (n / 16) ++ [Nat.digitChar (n % 16)]

end SpriteStage
