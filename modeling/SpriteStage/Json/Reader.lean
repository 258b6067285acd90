import SpriteStage.Json.Token

/-! # Reading JSON

A text is read in two stages: its tokens, then the value they spell. The second stage is a machine
that keeps the unfinished arrays and objects around it in a list, so nesting costs no recursion.

* `Reader` — the states of the machine, named for what has to come next
* `Reader.step?` — what one token does
* `Json.parse?` — the value of a text that holds exactly one
-/

namespace SpriteStage.Json

set_option autoImplicit false

/-- An array or an object that waits for a value. What it already holds is listed backwards. -/
inductive Frame where
  | item (done : List Json)
  | member (done : List (Literal × Json)) (key : Literal)

/-- What has to come next, inside the given frames, innermost first. -/
inductive Reader where
  | value (frames : List Frame)
  | firstItem (frames : List Frame)
  | firstKey (frames : List Frame)
  | nextKey (done : List (Literal × Json)) (frames : List Frame)
  | colon (done : List (Literal × Json)) (key : Literal) (frames : List Frame)
  | afterItem (done : List Json) (frames : List Frame)
  | afterMember (done : List (Literal × Json)) (frames : List Frame)
  | finished (j : Json)

namespace Reader

/-- A complete value joins the innermost frame; outside all frames it is the result. -/
def deliver (j : Json) : List Frame → Reader
  | [] => .finished j
  | .item done :: frames => .afterItem (j :: done) frames
  | .member done key :: frames => .afterMember ((key, j) :: done) frames

/-- The first token of a value: an opening one, or a value on its own. -/
def open? (frames : List Frame) : Token → Option Reader
  | .openBracket => some (.firstItem frames)
  | .openBrace => some (.firstKey frames)
  | .null => some (deliver .null frames)
  | .bool b => some (deliver (.bool b) frames)
  | .num n => some (deliver (.num n) frames)
  | .str s => some (deliver (.str s) frames)
  | _ => none

/-- The state after one more token, unless the token is out of place. -/
def step? : Reader → Token → Option Reader
  | .value frames, token => open? frames token
  | .firstItem frames, .closeBracket => some (deliver (.arr []) frames)
  | .firstItem frames, token => open? (.item [] :: frames) token
  | .firstKey frames, .closeBrace => some (deliver (.obj []) frames)
  | .firstKey frames, .str key => some (.colon [] key frames)
  -- behind a comma an object cannot end
  | .nextKey done frames, .str key => some (.colon done key frames)
  | .colon done key frames, .colon => some (.value (.member done key :: frames))
  | .afterItem done frames, .comma => some (.value (.item done :: frames))
  | .afterItem done frames, .closeBracket => some (deliver (.arr done.reverse) frames)
  | .afterMember done frames, .comma => some (.nextKey done frames)
  | .afterMember done frames, .closeBrace => some (deliver (.obj done.reverse) frames)
  | _, _ => none

/-- The value that has been read, if nothing more has to come. -/
def result? : Reader → Option Json
  | .finished j => some j
  | _ => none

end Reader

/-- The value that a row of tokens spells. -/
def ofTokens? (tokens : List Token) : Option Json := do
  let reader ← tokens.foldlM Reader.step? (.value [])
  reader.result?

/-- The value of a text that holds exactly one, with any white space around its tokens. -/
def parse? (text : String) : Option Json := do
  ofTokens? (← tokens? text.toList)

end SpriteStage.Json
