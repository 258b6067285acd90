import SpriteStage.Json.Record
import SpriteStage.Text.Digit

/-! # Run ids

Every play has an id of 128 bits, written as hexadecimal digits in five groups.

* `RunId.text` — the id in groups of 8, 4, 4, 4 and 12 lower-case digits
* `RunId.ofText?` — an id in either case, in groups or without, also in braces or as a URN
-/

namespace SpriteStage

set_option autoImplicit false

/-- The id of a play. -/
structure RunId where
  bits : BitVec 128
deriving DecidableEq

namespace RunId

/-- The id all of whose bits are zero. -/
def nil : RunId :=
  ⟨0⟩

/-! ## Writing -/

/-- A hyphen after the eighth, twelfth, sixteenth and twentieth digit. -/
def text (id : RunId) : String :=
  let digits := hexDigits 32 id.bits.toNat
  let group := fun start count => String.ofList ((digits.drop start).take count)
  String.intercalate "-" [group 0 8, group 8 4, group 12 4, group 16 4, group 20 12]

/-! ## Reading -/

/-- The id of 32 hexadecimal digits. -/
def ofDigits? (digits : List Char) : Option RunId := do
  let values ← digits.mapM hexValue?
  if values.length = 32 then some ⟨BitVec.ofNat 128 (values.foldl (fun n v => 16 * n + v) 0)⟩
  else none

/-- The id of five groups of digits with hyphens between them. -/
def ofGroups? (cs : List Char) : Option RunId :=
  if cs.length = 36 ∧ cs[8]? = some '-' ∧ cs[13]? = some '-' ∧ cs[18]? = some '-'
      ∧ cs[23]? = some '-' then
    ofDigits? (cs.take 8 ++ (cs.drop 9).take 4 ++ (cs.drop 14).take 4 ++ (cs.drop 19).take 4
      ++ cs.drop 24)
  else none

/-- An id in one of its written forms. -/
def ofText? (text : String) : Option RunId :=
  let cs := text.toList
  if cs.length = 32 then ofDigits? cs
  else if cs.length = 38 ∧ cs.head? = some '{' ∧ cs.getLast? = some '}' then
    ofGroups? (cs.drop 1).dropLast
  else if cs.length = 45 ∧ (cs.take 9).map Char.toLower = "urn:uuid:".toList then
    ofGroups? (cs.drop 9)
  else ofGroups? cs

def toJson (id : RunId) : Json :=
  .ofString id.text

def ofJson? (j : Json) : Option RunId := do
  ofText? (← j.toString?)

end RunId

end SpriteStage
