import SpriteStage.Number.Binary64
import SpriteStage.Text.Blank
import SpriteStage.Text.Digit

/-! # The integer at the start of a text

A text denotes an integer when it begins, after white space, with an optional sign and at least one
decimal digit; whatever follows the digits is ignored.

* `leadingInteger?` — that integer, held within 64 bits at every digit
-/

namespace SpriteStage

set_option autoImplicit false

/-- Appends a digit to a number read so far, away from zero and no further than 64 bits reach. -/
def appendDigit (negative : Bool) (n : Int64) (c : Char) : Int64 :=
  let digit : Int := digitValue c
  clampInt64 (10 * n.toInt + if negative then -digit else digit)

/-- The number written by the digits at the front, unless there are none. -/
def leadingDigits? (negative : Bool) (cs : List Char) : Option Int64 :=
  match cs.takeWhile Char.isDigit with
  | [] => none
  | digits => some (digits.foldl (appendDigit negative) 0)

/-- The integer at the start of a text: white space, at most one sign, then digits. -/
def leadingInteger? (text : String) : Option Int64 :=
  match text.toList.dropWhile isBlank with
  | '-' :: rest => leadingDigits? true rest
  | '+' :: rest => leadingDigits? false rest
  | rest => leadingDigits? false rest

end SpriteStage
