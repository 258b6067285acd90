import SpriteStage.Collision
import SpriteStage.Config

/-! # The hero scene

Two sprites walk towards each other, step by step, until they meet or have walked far enough. When
they meet, a mark appears between them for a while, and both return to where they came from.

* `HeroOutcome` — how it ended
* `Session.act` — runs an act, which may be refused half-way
* `hero` — the scene, as an act
-/

namespace SpriteStage

set_option autoImplicit false

/-! ## Outcomes -/

/-- How the scene ended. -/
structure HeroOutcome where
  collided : Bool
  /-- How often the two have walked. -/
  iterations : UInt64
  /-- Where they met, if they did. -/
  marker : Option Position
deriving DecidableEq

namespace HeroOutcome

/-- An outcome, written; a missing mark is written as null. -/
def toJson (outcome : HeroOutcome) : Json :=
  .ofMembers [
    ("collided", .bool outcome.collided),
    ("iterations", .ofUInt64 outcome.iterations),
    ("marker", .ofOption Position.toJson outcome.marker)]

/-- An outcome; only the mark may be left out. -/
def ofJson? (j : Json) : Option HeroOutcome := do
  let r ← j.record? ["collided", "iterations", "marker"]
  let collided ← r.require? "collided" Json.toBool?
  let iterations ← r.require? "iterations" Json.toUInt64?
  let marker ← r.optional? "marker" Position.ofJson?
  return ⟨collided, iterations, marker⟩

end HeroOutcome

/-! ## Acts -/

/-- Something done in a session that may be refused half-way; what was done before stays done. -/
abbrev Act (α : Type) : Type :=
  ExceptT Fault (StateM Session) α

/-- Runs an act: what came of it, and the session afterwards. -/
def Session.act {α : Type} (s : Session) (act : Act α) : Except Fault α × Session :=
  act.run s

namespace Act

/-- Goes on with a value, or stops with the fault. -/
def ofExcept {α : Type} : Except Fault α → Act α
  | .ok value => pure value
  | .error fault => throw fault

def look (id : SpriteId) : Act Sprite := do
  ofExcept ((← get).store.get id)

def drag (id : SpriteId) (position : Position) : Act Unit := do
  let store ← ofExcept ((← get).store.drag id position)
  modify fun s => { s with store }

/-- Announces an event that happens now. -/
def announce (event : Duration → Event) : Act Unit :=
  modify fun s => s.emit (event s.elapsed)

/-- Lets a delay go by. -/
def pause (ms : Int64) : Act Unit :=
  modify fun s => s.pause ms

def announcePose (id : SpriteId) : Act Unit := do
  let sprite ← look id
  announce (.poseCommitted id sprite.pose)

/-- A sprite walks along `x`; where it gets to is the result. -/
def walkBy (id : SpriteId) (dx : Float) : Act Position := do
  let sprite ← look id
  let next : Position := ⟨sprite.position.x + dx, sprite.position.y⟩
  drag id next
  announcePose id
  return next

end Act

/-! ## The scene -/

/-- The two sprites have met: a mark appears, and they return. -/
def meet (config : HeroConfig) (marker : Position) : Act Unit := do
  Act.announce (.markerShown marker)
  Act.pause config.marker
  Act.announce .markerCleared
  Act.drag config.spriteA config.startA
  Act.drag config.spriteB config.startB
  Act.announcePose config.spriteA
  Act.announcePose config.spriteB

/-- The two sprites walk up to `left` more times, having walked `done` times. -/
def approach (config : HeroConfig) (threshold : Float) (done : UInt64) : Nat → Act HeroOutcome
  | 0 => return ⟨false, config.maxIterations, none⟩
  | left + 1 => do
    Act.pause config.cadence
    let a ← Act.walkBy config.spriteA config.step
    let b ← Act.walkBy config.spriteB (-config.step)
    Act.pause config.cadence
    -- the two are where they got to themselves, even if someone has moved them during the pause
    if collides a b threshold then
      let marker := a.midpoint b
      meet config marker
      return ⟨true, done + 1, some marker⟩
    else approach config threshold (done + 1) left

/-- The scene: both sprites are put where they start, and walk towards each other. -/
def hero (config : HeroConfig) (threshold : Float) : Act HeroOutcome := do
  Act.drag config.spriteA config.startA
  Act.drag config.spriteB config.startB
  approach config threshold 0 config.maxIterations.toNat

end SpriteStage
