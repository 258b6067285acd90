import SpriteStage.Json.Record

/-! # Bubbles

What a sprite says or thinks stands in a bubble above it.

* `BubbleKind` — speech or thought
* `Bubble` — a text in a bubble of one kind
-/

namespace SpriteStage

set_option autoImplicit false

/-- What a bubble is for. -/
inductive BubbleKind where
  | speech
  | thought
deriving DecidableEq

/-- A text in a bubble. -/
structure Bubble where
  kind : BubbleKind
  text : String
deriving DecidableEq

namespace BubbleKind

/-- The name of a kind in files. -/
def name : BubbleKind → String
  | speech => "speak"
  | thought => "think"

/-- The name of a kind for people. -/
def label : BubbleKind → String
  | speech => "Speak"
  | thought => "Think"

def ofName? (name : String) : Option BubbleKind :=
  [speech, thought].find? fun kind => kind.name == name

def toJson (kind : BubbleKind) : Json :=
  .ofString kind.name

def ofJson? (j : Json) : Option BubbleKind := do
  ofName? (← j.name?)

/-- Inside an event, the name may also be the key of an object that holds an empty object. -/
def ofEventJson? : Json → Option BubbleKind
  | .obj [(key, .obj [])] => do ofName? (← key)
  | j => ofJson? j

end BubbleKind

end SpriteStage
