import SpriteStage.Block.ActionList

/-! # Blocks

A block ready to be performed: every parameter is an integer or a text.

* `Block` — the blocks
* `Block.ofInstance` — reads the parameters of an instance, with defaults for what is missing
* `ActionList.compile` — the blocks of a program
-/

namespace SpriteStage

set_option autoImplicit false

/-- A block with integers and texts for parameters. -/
inductive Block where
  /-- Adds to the sprite's `x`. -/
  | move (steps : Int64)
  /-- Adds to the sprite's angle. -/
  | turn (degrees : Int64)
  /-- Replaces the sprite's position. -/
  | goTo (x y : Int64)
  /-- Goes through the other blocks of the list that many times. -/
  | again (times : Int64)
  /-- Shows a bubble for so many milliseconds. -/
  | bubble (kind : BubbleKind) (text : String) (time : Int64)
deriving DecidableEq

namespace Block

/-- How long a bubble is shown when no time is given, in milliseconds. -/
def defaultTime : Int64 :=
  1000

/-- The integer of a parameter of an instance. -/
def integerValue (block : BlockInstance) (name : String) (default : Int64) : Int64 :=
  integerOr (block.value? name) default

def bubbleOfInstance (kind : BubbleKind) (block : BlockInstance) : Block :=
  .bubble kind (textOrEmpty (block.value? "text")) (integerValue block "time" defaultTime)

/-- What is missing or no integer counts as zero, or as the default time of a bubble. -/
def ofInstance (block : BlockInstance) : Block :=
  match block.kind with
  | .move => .move (integerValue block "steps" 0)
  | .turn => .turn (integerValue block "degrees" 0)
  | .goTo => .goTo (integerValue block "x" 0) (integerValue block "y" 0)
  | .again => .again (integerValue block "times" 0)
  | .speak => bubbleOfInstance .speech block
  | .think => bubbleOfInstance .thought block

def kind : Block → BlockKind
  | move _ => .move
  | turn _ => .turn
  | goTo _ _ => .goTo
  | again _ => .again
  | bubble .speech _ _ => .speak
  | bubble .thought _ _ => .think

/-- The block goes through other blocks again. -/
def isAgain : Block → Bool
  | again _ => true
  | _ => false

/-! ## In JSON -/

/-- The parameters of a block under their names. -/
def parametersJson : Block → List (String × Json)
  | move steps => [("steps", .ofInt64 steps)]
  | turn degrees => [("degrees", .ofInt64 degrees)]
  | goTo x y => [("x", .ofInt64 x), ("y", .ofInt64 y)]
  | again times => [("times", .ofInt64 times)]
  | bubble _ text time => [("text", .ofString text), ("time", .ofInt64 time)]

/-- A block is written as its parameters, tagged with its kind. -/
def toJson (block : Block) : Json :=
  .ofMembers (("kind", block.kind.toJson) :: block.parametersJson)

def bubbleOfJson? (kind : BubbleKind) (j : Json) : Option Block := do
  let r ← j.record? ["text", "time"]
  let text ← r.require? "text" Json.toString?
  let time ← r.require? "time" Json.toInt64?
  return bubble kind text time

/-- A block of a kind whose only parameter is an integer. -/
def unaryOfJson? (name : String) (make : Int64 → Block) (j : Json) : Option Block := do
  let r ← j.record? [name]
  return make (← r.require? name Json.toInt64?)

/-- The block of the given kind with the given parameters. -/
def ofParameters? : BlockKind → Json → Option Block
  | .move, j => unaryOfJson? "steps" move j
  | .turn, j => unaryOfJson? "degrees" turn j
  | .goTo, j => do
    let r ← j.record? ["x", "y"]
    let x ← r.require? "x" Json.toInt64?
    let y ← r.require? "y" Json.toInt64?
    return goTo x y
  | .again, j => unaryOfJson? "times" again j
  | .speak, j => bubbleOfJson? .speech j
  | .think, j => bubbleOfJson? .thought j

/-- A block inside as many arrays and objects as leave room for `room` more. -/
def ofJsonWithin? (room : Nat) (j : Json) : Option Block := do
  let (name, parameters) ← j.tagged? "kind" room
  ofParameters? (← BlockKind.ofName? name) parameters

/-- A block that is a text of its own. -/
def ofJson? (j : Json) : Option Block :=
  ofJsonWithin? Json.greatestDepth j

def listToJson (blocks : List Block) : Json :=
  .arr (blocks.map toJson)

/-- A list of blocks that is a text of its own. -/
def listOfJson? (j : Json) : Option (List Block) :=
  j.toList? (ofJsonWithin? (Json.greatestDepth - 1))

end Block

/-- The blocks of a program, ready to be performed. -/
def ActionList.compile (list : ActionList) : List Block :=
  list.blocks.map Block.ofInstance

end SpriteStage
