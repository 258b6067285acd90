import SpriteStage.Bubble
import SpriteStage.Number.Plain

/-! # Sprites

Where a sprite is, which way it faces, and what it shows.

* `SpriteId` — the number of a sprite, which it keeps for life
* `Position`, `Pose` — a point of the stage, and a point with an orientation
* `Sprite` — everything there is to know about one sprite
-/

namespace SpriteStage

set_option autoImplicit false

/-! ## Ids -/

/-- The number of a sprite. -/
structure SpriteId where
  number : UInt64
deriving DecidableEq

namespace SpriteId

def text (id : SpriteId) : String :=
  toString id.number.toNat

def toJson (id : SpriteId) : Json :=
  .ofUInt64 id.number

def ofJson? (j : Json) : Option SpriteId :=
  j.toUInt64?.map SpriteId.mk

end SpriteId

/-! ## Where a sprite is -/

/-- A point of the stage; `x` grows to the right and `y` downwards. -/
structure Position where
  x : Float
  y : Float
deriving DecidableEq

namespace Position

/-- The point halfway between two points. -/
def midpoint (a b : Position) : Position :=
  ⟨(a.x + b.x) / 2, (a.y + b.y) / 2⟩

/-- A point for people. -/
def text (p : Position) : String :=
  "(" ++ plainText p.x ++ ", " ++ plainText p.y ++ ")"

def toJson (p : Position) : Json :=
  .ofMembers [("x", .ofFloat p.x), ("y", .ofFloat p.y)]

/-- A point, both of whose coordinates have to be there. -/
def ofJson? (j : Json) : Option Position := do
  let r ← j.record? ["x", "y"]
  let x ← r.require? "x" Json.toFloat?
  let y ← r.require? "y" Json.toFloat?
  return ⟨x, y⟩

end Position

/-- A point and an orientation in degrees, which is never reduced to one turn. -/
structure Pose where
  position : Position
  angle : Float
deriving DecidableEq

namespace Pose

def toJson (pose : Pose) : Json :=
  .ofMembers [("position", pose.position.toJson), ("angle", .ofFloat pose.angle)]

/-- A pose, both of whose parts have to be there. -/
def ofJson? (j : Json) : Option Pose := do
  let r ← j.record? ["position", "angle"]
  let position ← r.require? "position" Position.ofJson?
  let angle ← r.require? "angle" Json.toFloat?
  return ⟨position, angle⟩

end Pose

/-! ## Sprites -/

/-- Everything there is to know about one sprite. -/
structure Sprite where
  id : SpriteId
  name : String
  position : Position
  angle : Float
  message : Option String
  messageKind : Option BubbleKind
deriving DecidableEq

namespace Sprite

/-- A new sprite faces angle 0 and shows nothing. -/
def fresh (id : SpriteId) (name : String) (position : Position) : Sprite :=
  ⟨id, name, position, 0, none, none⟩

/-- Where the sprite is and which way it faces. -/
def pose (sprite : Sprite) : Pose :=
  ⟨sprite.position, sprite.angle⟩

def withPosition (sprite : Sprite) (position : Position) : Sprite :=
  { sprite with position }

def withAngle (sprite : Sprite) (angle : Float) : Sprite :=
  { sprite with angle }

def withPose (sprite : Sprite) (pose : Pose) : Sprite :=
  { sprite with position := pose.position, angle := pose.angle }

def withBubble (sprite : Sprite) (bubble : Option Bubble) : Sprite :=
  { sprite with message := bubble.map Bubble.text, messageKind := bubble.map Bubble.kind }

/-- A sprite, written; a missing bubble is written as null. -/
def toJson (sprite : Sprite) : Json :=
  .ofMembers [
    ("id", sprite.id.toJson),
    ("name", .ofString sprite.name),
    ("position", sprite.position.toJson),
    ("angle", .ofFloat sprite.angle),
    ("message", .ofOption Json.ofString sprite.message),
    ("message_kind", .ofOption BubbleKind.toJson sprite.messageKind)]

/-- A sprite; only the two fields about its bubble may be left out. -/
def ofJson? (j : Json) : Option Sprite := do
  let r ← j.record? ["id", "name", "position", "angle", "message", "message_kind"]
  let id ← r.require? "id" SpriteId.ofJson?
  let name ← r.require? "name" Json.toString?
  let position ← r.require? "position" Position.ofJson?
  let angle ← r.require? "angle" Json.toFloat?
  let message ← r.optional? "message" Json.toString?
  let messageKind ← r.optional? "message_kind" BubbleKind.ofJson?
  return ⟨id, name, position, angle, message, messageKind⟩

end Sprite

end SpriteStage
