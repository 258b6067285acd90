import SpriteStage.Block.Basic
import SpriteStage.Config
import SpriteStage.Store.Basic

/-! # Stages

A stage is a store of sprites together with settings and a program for each sprite. Programs are
kept by id; the store may also be used on its own, and a sprite added there has no program.

* `Stage` — the stage
* `addSprite`, `addSpriteAt`, `removeSprite` — sprites come and go with their programs
* `actions`, `editActions`, `setActions` — the program of a sprite
-/

namespace SpriteStage

set_option autoImplicit false

/-- A store of sprites with settings and programs. -/
structure Stage where
  config : StageConfig
  store : Store
  programs : List (SpriteId × ActionList)

namespace Stage

def empty (config : StageConfig) : Stage :=
  ⟨config, .empty, []⟩

/-! ## Programs -/

def program? (stage : Stage) (id : SpriteId) : Option ActionList :=
  stage.programs.lookup id

def actions (stage : Stage) (id : SpriteId) : Except Fault ActionList :=
  match stage.program? id with
  | some list => .ok list
  | none => .error (.spriteNotFound id)

/-- Keeps a program for an id, in place of the one that was there. -/
def keepProgram (stage : Stage) (id : SpriteId) (list : ActionList) : Stage :=
  { stage with programs := (id, list) :: stage.programs.filter fun entry => entry.1 ≠ id }

def editActions (stage : Stage) (id : SpriteId) (edit : ActionList → ActionList) :
    Except Fault Stage := do
  let list ← stage.actions id
  return stage.keepProgram id (edit list)

def setActions (stage : Stage) (id : SpriteId) (list : ActionList) : Except Fault Stage :=
  stage.editActions id fun _ => list

/-! ## Sprites -/

/-- A new sprite at some place, with an empty program. -/
def addSpriteAt (stage : Stage) (name : String) (position : Position) : SpriteId × Stage :=
  let (id, store) := stage.store.add name position
  (id, { stage with store }.keepProgram id .empty)

/-- A new sprite at the place for new ones, with an empty program. -/
def addSprite (stage : Stage) (name : String) : SpriteId × Stage :=
  stage.addSpriteAt name stage.config.spawnPosition

/-- Takes a sprite off the stage, and its program with it. -/
def removeSprite (stage : Stage) (id : SpriteId) : Except Fault (Sprite × Stage) := do
  let (sprite, store) ← stage.store.remove id
  return (sprite, { stage with
    store, programs := stage.programs.filter fun entry => entry.1 ≠ id })

end Stage

end SpriteStage
