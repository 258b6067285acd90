import SpriteStage.Fault
import SpriteStage.Json.Bytes
import SpriteStage.Json.Printer

/-! # Configuration

The times and distances of a stage, and of the hero scene on it. Times are in milliseconds.

* `HeroConfig`, `StageConfig` — the settings, with defaults for all of them
* `StageConfig.check` — refuses settings that mean nothing
* `StageConfig.fileText`, `StageConfig.ofFile` — the settings as a file
-/

namespace SpriteStage

set_option autoImplicit false

/-! ## The hero scene -/

structure HeroConfig where
  /-- The sprite that walks to the right. -/
  spriteA : SpriteId
  /-- The sprite that walks to the left. -/
  spriteB : SpriteId
  startA : Position
  startB : Position
  /-- How far each of them walks at a time. -/
  step : Float
  /-- The pause before and after each step. -/
  cadence : Int64
  maxIterations : UInt64
  /-- How long the mark of their meeting is shown. -/
  marker : Int64
deriving DecidableEq

namespace HeroConfig

/-- The settings that hold unless others are given. -/
def standard : HeroConfig :=
  ⟨⟨1⟩, ⟨2⟩, ⟨300, 200⟩, ⟨800, 200⟩, 25, 80, 10, 800⟩

def toJson (config : HeroConfig) : Json :=
  .ofMembers [
    ("sprite_a", config.spriteA.toJson),
    ("sprite_b", config.spriteB.toJson),
    ("start_a", config.startA.toJson),
    ("start_b", config.startB.toJson),
    ("step", .ofFloat config.step),
    ("cadence_ms", .ofInt64 config.cadence),
    ("max_iterations", .ofUInt64 config.maxIterations),
    ("marker_ms", .ofInt64 config.marker)]

/-- The settings; all of them may be left out. -/
def ofJson? (j : Json) : Option HeroConfig := do
  let r ← j.record? ["sprite_a", "sprite_b", "start_a", "start_b", "step", "cadence_ms",
    "max_iterations", "marker_ms"]
  let spriteA ← r.default? "sprite_a" standard.spriteA SpriteId.ofJson?
  let spriteB ← r.default? "sprite_b" standard.spriteB SpriteId.ofJson?
  let startA ← r.default? "start_a" standard.startA Position.ofJson?
  let startB ← r.default? "start_b" standard.startB Position.ofJson?
  let step ← r.default? "step" standard.step Json.toFloat?
  let cadence ← r.default? "cadence_ms" standard.cadence Json.toInt64?
  let maxIterations ← r.default? "max_iterations" standard.maxIterations Json.toUInt64?
  let marker ← r.default? "marker_ms" standard.marker Json.toInt64?
  return ⟨spriteA, spriteB, startA, startB, step, cadence, maxIterations, marker⟩

end HeroConfig

/-! ## The stage -/

structure StageConfig where
  /-- Two sprites overlap when they are closer than this along both axes. -/
  collisionThreshold : Float
  /-- The pause before each round of a block that goes through others again. -/
  repeatDelay : Int64
  /-- The pause before two overlapping sprites are put back. -/
  collisionPause : Int64
  /-- Where new sprites appear. -/
  spawnPosition : Position
  hero : HeroConfig
deriving DecidableEq

namespace StageConfig

/-- The settings that hold unless others are given. -/
def standard : StageConfig :=
  ⟨10, 1000, 1000, ⟨600, 200⟩, .standard⟩

/-- A finite number of at least zero. -/
def isThreshold (x : Float) : Bool :=
  x.isFinite && decide (0 ≤ x)

/-- The threshold has to be one, and the hero scene takes two sprites. -/
def check (config : StageConfig) : Except Fault Unit :=
  if !isThreshold config.collisionThreshold then .error (.badThreshold config.collisionThreshold)
  else if config.hero.spriteA = config.hero.spriteB then
    .error (.sameHeroSprites config.hero.spriteA)
  else .ok ()

def toJson (config : StageConfig) : Json :=
  .ofMembers [
    ("collision_threshold", .ofFloat config.collisionThreshold),
    ("repeat_delay_ms", .ofInt64 config.repeatDelay),
    ("collision_pause_ms", .ofInt64 config.collisionPause),
    ("spawn_position", config.spawnPosition.toJson),
    ("hero", config.hero.toJson)]

/-- The settings; all of them may be left out. They are not checked. -/
def ofJson? (j : Json) : Option StageConfig := do
  let r ← j.record? ["collision_threshold", "repeat_delay_ms", "collision_pause_ms",
    "spawn_position", "hero"]
  let collisionThreshold ←
    r.default? "collision_threshold" standard.collisionThreshold Json.toFloat?
  let repeatDelay ← r.default? "repeat_delay_ms" standard.repeatDelay Json.toInt64?
  let collisionPause ← r.default? "collision_pause_ms" standard.collisionPause Json.toInt64?
  let spawnPosition ← r.default? "spawn_position" standard.spawnPosition Position.ofJson?
  let hero ← r.default? "hero" standard.hero HeroConfig.ofJson?
  return ⟨collisionThreshold, repeatDelay, collisionPause, spawnPosition, hero⟩

/-! ## As a file -/

/-- The text of a file with these settings. -/
def fileText (config : StageConfig) : String :=
  config.toJson.pretty

/-- The settings that a text describes, once they have been checked. -/
def ofText (text : String) : Except Fault StageConfig :=
  match Json.parse? text >>= ofJson? with
  | none => .error .malformedJson
  | some config => config.check.map fun _ => config

/--
The settings in a file, given what reading the file came to. Bytes that spell no character are let
through where nothing is read out of them.
-/
def ofFile (content : Except FileFault ByteArray) : Except Fault StageConfig :=
  match content with
  | .error fault => .error (.file fault)
  | .ok bytes => ofText (Json.textOfBytes bytes)

end StageConfig

end SpriteStage
