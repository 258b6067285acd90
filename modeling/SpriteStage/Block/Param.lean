import SpriteStage.Json.Record
import SpriteStage.Number.Plain
import SpriteStage.Text.Integer

/-! # Parameters

The value of a parameter is whatever was entered for it, a number or a text. A block asks for an
integer or for a text, and reading the value as one of these never fails: a default takes its place.

* `Param.toInteger?` — the integer that a value denotes
* `Param.display` — a value as text
* `integerOr`, `textOrEmpty` — the same for a value that may be missing
-/

namespace SpriteStage

set_option autoImplicit false

inductive Param where
  | number (x : Float)
  | text (s : String)

namespace Param

/-- An integer as a number: the nearest double. -/
def ofInt64 (n : Int64) : Param :=
  .number (floatOfInt64 n)

/-- A finite number denotes its integer part; a text denotes the integer it begins with. -/
def toInteger? : Param → Option Int64
  | .number x => if x.isFinite then some (clampInt64 (Binary64.truncate x)) else none
  | .text s => leadingInteger? s

/-- Nothing has been entered. -/
def isEmpty : Param → Bool
  | .number _ => false
  | .text s => s.isEmpty

/-- From here on a number is not shown as an integer: ten to the power of fifteen. -/
def integerTextBound : Nat :=
  1000000000000000

/-- A number without fractional part is shown as an integer, unless it is too large. -/
def display : Param → String
  | .number x =>
    if Binary64.isIntegral x && decide (Binary64.wholePart x < integerTextBound) then
      toString (Binary64.truncate x)
    else plainText x
  | .text s => s

/-- Numbers and strings stand for themselves. -/
def toJson : Param → Json
  | .number x => .ofFloat x
  | .text s => .ofString s

/-- A number is always read as a double. -/
def ofJson? : Json → Option Param
  | .num n => n.toFloat?.map .number
  | .str s => s.map .text
  | _ => none

end Param

/-- The integer that a value denotes; the default if there is no value or it denotes none. -/
def integerOr (value : Option Param) (default : Int64) : Int64 :=
  match value with
  | none => default
  | some p => if p.isEmpty then default else p.toInteger?.getD default

/-- The text of a value; the empty text if there is no value. -/
def textOrEmpty (value : Option Param) : String :=
  match value with
  | none => ""
  | some p => p.display

end SpriteStage
