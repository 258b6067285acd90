import SpriteStage.Json.Reader
import SpriteStage.Stage.Basic
import SpriteStage.Text.Blank

/-! # Scenes

A scene describes a stage: its settings, and its sprites with their programs.

* `Scene` — the description
* `Scene.check` — refuses bad settings and sprites without a name
* `Scene.ofText`, `Scene.ofFile` — a scene out of a text or a file, once it has been checked
* `Scene.toStage` — the stage that a scene describes
-/

namespace SpriteStage

set_option autoImplicit false

/-! ## Sprites of a scene -/

/-- One sprite of a scene; without a position it appears where new sprites do. -/
structure SceneSprite where
  name : String
  position : Option Position
  angle : Float
  actions : ActionList

namespace SceneSprite

/-- A sprite of a scene, written; a missing position is written as null. -/
def toJson (sprite : SceneSprite) : Json :=
  .ofMembers [
    ("name", .ofString sprite.name),
    ("position", .ofOption Position.toJson sprite.position),
    ("angle", .ofFloat sprite.angle),
    ("actions", sprite.actions.toJson)]

/-- A sprite of a scene; only the name has to be there. -/
def ofJson? (j : Json) : Option SceneSprite := do
  let r ← j.record? ["name", "position", "angle", "actions"]
  let name ← r.require? "name" Json.toString?
  let position ← r.default? "position" none (Json.Record.nullable? Position.ofJson?)
  let angle ← r.default? "angle" 0 Json.toFloat?
  let actions ← r.default? "actions" .empty ActionList.ofJson?
  return ⟨name, position, angle, actions⟩

end SceneSprite

/-! ## Scenes -/

/-- The description of a stage. -/
structure Scene where
  config : StageConfig
  sprites : List SceneSprite

namespace Scene

/-- The index of the first sprite with a blank name. -/
def blankIndex? (sprites : List SceneSprite) : Option Nat :=
  sprites.findIdx? fun sprite => isAllBlank sprite.name

/-- The settings are checked first, then the names. -/
def check (scene : Scene) : Except Fault Unit := do
  scene.config.check
  match blankIndex? scene.sprites with
  | some index => .error (.blankName index)
  | none => .ok ()

/-! ### In JSON -/

def toJson (scene : Scene) : Json :=
  .ofMembers [
    ("config", scene.config.toJson),
    ("sprites", .arr (scene.sprites.map SceneSprite.toJson))]

/-- A scene; both fields may be left out. It is not checked. -/
def ofJson? (j : Json) : Option Scene := do
  let r ← j.record? ["config", "sprites"]
  let config ← r.default? "config" .standard StageConfig.ofJson?
  let sprites ← r.default? "sprites" [] fun j => j.toList? SceneSprite.ofJson?
  return ⟨config, sprites⟩

/-- The scene that a text describes, once it has been checked. -/
def ofText (text : String) : Except Fault Scene :=
  match Json.parse? text >>= ofJson? with
  | none => .error .malformedJson
  | some scene => scene.check.map fun _ => scene

/-- The scene in a file, given what reading the file came to. -/
def ofFile (content : Except FileFault ByteArray) : Except Fault Scene :=
  match content with
  | .error fault => .error (.file fault)
  | .ok bytes =>
    match String.fromUTF8? bytes with
    | some text => ofText text
    | none => .error (.file .notUtf8)

/-! ### As a stage -/

/-- Puts one sprite of a scene on a stage. -/
def place (stage : Stage) (sprite : SceneSprite) : Except Fault Stage := do
  let (id, stage) :=
    stage.addSpriteAt sprite.name (sprite.position.getD stage.config.spawnPosition)
  let store ← stage.store.setAngle id sprite.angle
  { stage with store }.setActions id sprite.actions

/-- The stage that a scene describes, with its sprites in order. -/
def toStage (scene : Scene) : Except Fault Stage := do
  scene.check
  scene.sprites.foldlM place (.empty scene.config)

end Scene

end SpriteStage
