import SpriteStage.Hero
import SpriteStage.Performance.Ensemble
import SpriteStage.Stage.Basic
import SpriteStage.Time.Timestamp

/-! # Plays

In a play all sprites of a stage perform their programs at once. When the last of them has finished,
those that overlap are put back, and the poses are published.

* `PlayReport` — what a play came to
* `Stage.playIn` — a play in some order of turns, with others using the store meanwhile
* `Stage.playWithin`, `Stage.play` — a play under a limit of waits and one without, likewise
* `Stage.hero` — the hero scene on a stage, likewise
-/

namespace SpriteStage

set_option autoImplicit false

/-! ## Reports -/

/-- What a play came to. -/
structure PlayReport where
  runId : RunId
  startedAt : Timestamp
  finishedAt : Timestamp
  elapsed : Duration
  sprites : List Sprite
  collisions : List Collision
deriving DecidableEq

namespace PlayReport

def toJson (report : PlayReport) : Json :=
  .ofMembers [
    ("run_id", report.runId.toJson),
    ("started_at", report.startedAt.toJson),
    ("finished_at", report.finishedAt.toJson),
    ("elapsed", report.elapsed.toJson),
    ("sprites", .arr (report.sprites.map Sprite.toJson)),
    ("collisions", .arr (report.collisions.map Collision.toJson))]

/-- A report, all of whose fields have to be there. -/
def ofJson? (j : Json) : Option PlayReport := do
  let r ← j.record? ["run_id", "started_at", "finished_at", "elapsed", "sprites", "collisions"]
  let runId ← r.require? "run_id" RunId.ofJson?
  let startedAt ← r.require? "started_at" Timestamp.ofJson?
  let finishedAt ← r.require? "finished_at" Timestamp.ofJson?
  let elapsed ← r.require? "elapsed" Duration.ofJson?
  let sprites ← r.require? "sprites" fun j => j.toList? Sprite.ofJson?
  let collisions ← r.require? "collisions" fun j => j.toList? Collision.ofJson?
  return ⟨runId, startedAt, finishedAt, elapsed, sprites, collisions⟩

end PlayReport

/-! ## Runs -/

/-- What a run on a stage came to, and the session after the last visit. -/
structure Run (α : Type) where
  outcome : α
  elapsed : Duration
  session : Session

namespace Stage

/-- The blocks that a sprite performs: none if it has no program. -/
def blocksOf (stage : Stage) (sprite : Sprite) : List Block :=
  match stage.program? sprite.id with
  | some list => list.compile
  | none => []

/-- The performance of a sprite, from the pose it is in. -/
def performanceOf (stage : Stage) (sprite : Sprite) : List Step × Pose :=
  performance stage.config.repeatDelay (stage.blocksOf sprite) sprite.pose

/-- The sprites of a roster as performers at the beginning of a play. -/
def performersOf (stage : Stage) (roster : List Sprite) : List Performer :=
  roster.mapIdx fun place sprite => ⟨sprite.id, place, none, (stage.performanceOf sprite).1⟩

/-- A play when the last of its sprites has finished. -/
def performed (stage : Stage) (order : TurnOrder) (limit : Option Nat) (runId : RunId)
    (visits : List Visit) : Session :=
  let s := (Session.start stage.store visits).emit
    (.playStarted runId (UInt64.ofNat stage.store.size))
  s.performAll order limit (stage.performersOf stage.store.sprites)

/-- The poses in which the sprites finish, in the order of the roster. -/
def finalPoses (stage : Stage) : List (SpriteId × Pose) :=
  stage.store.sprites.map fun sprite => (sprite.id, (stage.performanceOf sprite).2)

/-- A session in which the sprites have finished, when those that overlap have been put back. -/
def putBack (stage : Stage) (s : Session) : Reconciliation :=
  s.reconcile stage.config.collisionThreshold stage.config.collisionPause stage.store.snapshot
    stage.finalPoses

/-- The end of a play: the poses are published, and the report is made. -/
def conclude (runId : RunId) (startedAt : Timestamp) (r : Reconciliation) : Run PlayReport :=
  let s := r.session.changeStore fun store => store.publish r.poses
  let s := s.emit (.playFinished runId s.elapsed)
  { outcome := {
      runId, startedAt
      finishedAt := startedAt.after s.elapsed
      elapsed := s.elapsed
      sprites := s.store.sprites
      collisions := r.collisions }
    elapsed := s.elapsed
    session := s.settle }

/--
A play of the sprites that are on the stage at its beginning, who take their turns in the given order
and together get past no more waits in a round than `limit` says. What others do meanwhile changes no
performance: each goes on from its own pose, and those put back go to where they were at first.
-/
def playIn (stage : Stage) (order : TurnOrder) (limit : Option Nat) (runId : RunId)
    (startedAt : Timestamp) (visits : List Visit) : Run PlayReport :=
  conclude runId startedAt (stage.putBack (stage.performed order limit runId visits))

/-- A play under a limit of waits, in the order of turns that goes with the size of the roster. -/
def playWithin (limit : Option Nat) (stage : Stage) (runId : RunId) (startedAt : Timestamp)
    (visits : List Visit) : Run PlayReport :=
  stage.playIn (.ofCount stage.store.size) limit runId startedAt visits

/-- A play in which nobody is held up: each sprite goes on until it has to wait. -/
def play (stage : Stage) (runId : RunId) (startedAt : Timestamp) (visits : List Visit) :
    Run PlayReport :=
  playWithin none stage runId startedAt visits

/-- The hero scene with the settings of the stage, which are checked first. -/
def heroAct (config : StageConfig) : Act HeroOutcome := do
  Act.ofExcept config.check
  SpriteStage.hero config.hero config.collisionThreshold

def hero (stage : Stage) (visits : List Visit) : Run (Except Fault HeroOutcome) :=
  let (outcome, s) := (Session.start stage.store visits).act (heroAct stage.config)
  ⟨outcome, s.elapsed, s.settle⟩

/-- The stage after a run on it. -/
def afterRun {α : Type} (stage : Stage) (run : Run α) : Stage :=
  { stage with store := run.session.store }

end Stage

end SpriteStage
