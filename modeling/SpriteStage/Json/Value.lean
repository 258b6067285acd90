import SpriteStage.Number.Decimal

/-! # JSON values

A value as it stands in a text: numbers keep the digits they are written with, objects keep all
their members in order, and a string that no characters correspond to is still a string.

* `Numeral` — a number literal
* `Numeral.toFloat?`, `Numeral.toInt?` — what a literal denotes
* `Json` — the values
* `Json.isDefinite` — a value in which every literal denotes something
-/

namespace SpriteStage

set_option autoImplicit false

/-! ## Number literals -/

/--
A number literal. `fraction` is empty when there is no decimal point, and the whole part has no
leading zeros to remember.
-/
structure Numeral where
  negative : Bool
  whole : Nat
  fraction : List (Fin 10)
  exponent : Option Int
deriving DecidableEq

namespace Numeral

/-- The number that a row of digits continues. -/
def extend (n : Nat) (digits : List (Fin 10)) : Nat :=
  digits.foldl (fun m d => 10 * m + d.val) n

/-- A number of at most 64 bits. -/
def fits (n : Nat) : Bool :=
  decide (n < 0x10000000000000000)

/-- The digits of a number from the front, as many as fit, and how many are left out. -/
def fitWhole (n : Nat) : Nat × Nat :=
  let excess := Decimal.digitCount n - 20
  let front := n / Nat.pow 10 excess
  if fits front then (front, excess) else (front / 10, excess + 1)

/-- The number that a row of digits continues as long as it fits, after `count` digits before. -/
def extendFitting (n count : Nat) : List (Fin 10) → Nat × Nat
  | [] => (n, count)
  | d :: rest =>
    if fits (10 * n + d.val) then extendFitting (10 * n + d.val) (count + 1) rest else (n, count)

/-- The magnitude of a literal, as far as its digits fit into 64 bits. -/
def magnitude (n : Numeral) : Decimal :=
  let (front, excess) := fitWhole n.whole
  let (digits, places) := extendFitting front 0 n.fraction
  ⟨digits, n.exponent.getD 0 + (excess : Int) - (places : Int)⟩

/--
The double that a literal denotes: what its magnitude comes to in floating-point arithmetic. One
beyond the largest double denotes none.
-/
def toFloat? (n : Numeral) : Option Float :=
  n.magnitude.compute? n.negative

/-- Only literals without point and exponent denote integers, and minus zero is none of them. -/
def toInt? (n : Numeral) : Option Int :=
  if n.fraction = [] ∧ n.exponent = none then
    if n.negative then
      if n.whole = 0 then none else some (-(n.whole : Int))
    else some n.whole
  else none

def ofInt (n : Int) : Numeral :=
  ⟨decide (n < 0), n.natAbs, [], none⟩

/-- Positional notation: a point always follows, if only before a zero. -/
def positional (negative : Bool) (d : Decimal) : Numeral :=
  ⟨negative, d.whole, if d.fraction = [] then [Decimal.lastDigit 0] else d.fraction, none⟩

/-- Scientific notation: one digit in front of the point. -/
def scientific (negative : Bool) (d : Decimal) : Numeral :=
  let rest := Decimal.digitCount d.digits - 1
  let unit := Nat.pow 10 rest
  ⟨negative, d.digits / unit, Decimal.lastDigits rest (d.digits % unit), some (d.exponent + rest)⟩

/--
The literal of a finite double: its shortest digits, a tie going to the even one, written
positionally when the first digit stands between the fifth place behind the point and the
sixteenth in front of it.
-/
def ofFloat (x : Float) : Numeral :=
  let d := (Decimal.shortest .toEven x).normalize
  let place := d.exponent + Decimal.digitCount d.digits - 1
  if -5 ≤ place ∧ place ≤ 15 then positional (Binary64.isNegative x) d
  else scientific (Binary64.isNegative x) d

end Numeral

/-! ## Values -/

/--
The content of a string literal: its characters, or nothing when an escape in it names half of a
surrogate pair without the other half.
-/
abbrev Literal := Option String

/-- A JSON value with the members of its objects in the order of the text. -/
inductive Json where
  | null
  | bool (b : Bool)
  | num (n : Numeral)
  | str (s : Literal)
  | arr (items : List Json)
  | obj (members : List (Literal × Json))

namespace Json

/-- A string with the given characters. -/
def ofString (s : String) : Json :=
  .str (some s)

def ofInt (n : Int) : Json :=
  .num (.ofInt n)

/-- A double; those that are not finite have no literal and become null. -/
def ofFloat (x : Float) : Json :=
  if x.isFinite then .num (.ofFloat x) else .null

/-- An object with the given members, in the given order. -/
def ofMembers (members : List (String × Json)) : Json :=
  .obj (members.map fun (key, value) => (some key, value))

mutual

/--
Every number in a value denotes a double, every string and key has characters, and arrays and
objects are nested at most `room` deep.
-/
def isDefinite : Nat → Json → Bool
  | _, .null => true
  | _, .bool _ => true
  | _, .num n => n.toFloat?.isSome
  | _, .str s => s.isSome
  | 0, .arr _ => false
  | room + 1, .arr items => itemsDefinite room items
  | 0, .obj _ => false
  | room + 1, .obj members => membersDefinite room members
termination_by structural _ j => j

def itemsDefinite : Nat → List Json → Bool
  | _, [] => true
  | room, item :: rest => isDefinite room item && itemsDefinite room rest
termination_by structural _ items => items

def membersDefinite : Nat → List (Literal × Json) → Bool
  | _, [] => true
  | room, member :: rest => memberDefinite room member && membersDefinite room rest
termination_by structural _ members => members

/-- A key has characters and its value is definite. -/
def memberDefinite : Nat → Literal × Json → Bool
  | room, (key, value) => key.isSome && isDefinite room value
termination_by structural _ member => member

end

end Json

end SpriteStage
