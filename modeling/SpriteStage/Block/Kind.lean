import SpriteStage.Json.Record

/-! # The catalog of blocks

The six kinds of block, and what a palette of them shows.

* `BlockKind` — the kinds, with the names they have in files
* `BlockType` — label, parameters and group of a kind
* `catalog` — the palette, in order
-/

namespace SpriteStage

set_option autoImplicit false

/-! ## Kinds -/

/-- What a block does. -/
inductive BlockKind where
  /-- Moves the sprite to the right. -/
  | move
  /-- Turns the sprite. -/
  | turn
  /-- Puts the sprite somewhere. -/
  | goTo
  /-- Goes through the other blocks of the list again. -/
  | again
  /-- Shows a speech bubble. -/
  | speak
  /-- Shows a thought bubble. -/
  | think
deriving DecidableEq

namespace BlockKind

/-- The kinds in the order of the palette. -/
def all : List BlockKind :=
  [move, turn, goTo, again, speak, think]

/-- The name of a kind in files. -/
def name : BlockKind → String
  | move => "move"
  | turn => "turn"
  | goTo => "goTo"
  | again => "repeat"
  | speak => "speak"
  | think => "think"

def ofName? (name : String) : Option BlockKind :=
  all.find? fun kind => kind.name == name

def toJson (kind : BlockKind) : Json :=
  .ofString kind.name

def ofJson? (j : Json) : Option BlockKind := do
  ofName? (← j.name?)

end BlockKind

/-! ## Groups -/

/-- The groups of the palette. -/
inductive Category where
  /-- Blocks about where the sprite is, and the block that goes through them again. -/
  | motion
  /-- Blocks about what the sprite shows. -/
  | looks
deriving DecidableEq

namespace Category

/-- The name of a group, for people and in files. -/
def name : Category → String
  | motion => "Motion"
  | looks => "Looks"

def ofName? (name : String) : Option Category :=
  [motion, looks].find? fun category => category.name == name

def toJson (category : Category) : Json :=
  .ofString category.name

def ofJson? (j : Json) : Option Category := do
  ofName? (← j.name?)

end Category

/-! ## The palette -/

/-- What the palette shows of a kind of block. -/
structure BlockType where
  kind : BlockKind
  label : String
  parameters : List String
  isContainer : Bool
  category : Category
deriving DecidableEq

namespace BlockType

/-- The label, with a placeholder behind it for every parameter. -/
def template (entry : BlockType) : String :=
  entry.label ++ String.join (entry.parameters.map fun name => " __" ++ name ++ "__")

def toJson (entry : BlockType) : Json :=
  .ofMembers [
    ("kind", entry.kind.toJson),
    ("label", .ofString entry.label),
    ("parameter_names", .arr (entry.parameters.map Json.ofString)),
    ("is_container", .bool entry.isContainer),
    ("category", entry.category.toJson)]

end BlockType

def BlockKind.blockType : BlockKind → BlockType
  | .move => ⟨.move, "Move", ["steps"], false, .motion⟩
  | .turn => ⟨.turn, "Turn", ["degrees"], false, .motion⟩
  | .goTo => ⟨.goTo, "Go to", ["x", "y"], false, .motion⟩
  | .again => ⟨.again, "Repeat", ["times"], true, .motion⟩
  | .speak => ⟨.speak, "Speak", ["text", "time"], false, .looks⟩
  | .think => ⟨.think, "Think", ["text", "time"], false, .looks⟩

def catalog : List BlockType :=
  BlockKind.all.map BlockKind.blockType

end SpriteStage
