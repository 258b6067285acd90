import SpriteStage.Number.Decimal

/-! # Plain notation

The text of a double for people: its shortest digits, positional at every size, without a
fractional part when there is none.

* `plainText` — the text of any double
-/

namespace SpriteStage

set_option autoImplicit false

def Decimal.plainText (d : Decimal) : String :=
  let d := d.normalize
  match d.fraction with
  | [] => toString d.whole
  | digits => toString d.whole ++ "." ++ digitsText digits

/--
A double in plain notation: never an exponent, a sign also on negative zero, and `NaN`, `inf`
and `-inf` by name. Of two equally near shortest texts the larger is taken.
-/
def plainText (x : Float) : String :=
  if x.isNaN then "NaN"
  else
    let sign := if Binary64.isNegative x then "-" else ""
    if x.isFinite then sign ++ (Decimal.shortest .up x).plainText else sign ++ "inf"

end SpriteStage
