import SpriteStage.Block.Kind
import SpriteStage.Event.Basic
import SpriteStage.Json.Printer
import SpriteStage.Stage.Play
import SpriteStage.Text.Quoted

/-! # What the program prints

* `Line` — a line, and the time of the run at which it is printed
* `Line.ofEntry?` — the line about an event, for those that are shown
* `catalogLines`, `playLines`, `heroLines` — what is printed for each command
-/

namespace SpriteStage.CommandLine

set_option autoImplicit false

/-- A line, and the milliseconds of the run that have passed when it is printed. -/
structure Line where
  time : Nat
  text : String
deriving DecidableEq

/-- Spaces behind a text, up to a width. -/
def padRight (width : Nat) (text : String) : String :=
  text ++ String.ofList (List.replicate (width - text.length) ' ')

/-- Spaces in front of a text, up to a width. -/
def padLeft (width : Nat) (text : String) : String :=
  String.ofList (List.replicate (width - text.length) ' ') ++ text

/-! ## The catalog -/

def catalogLine (entry : BlockType) : String :=
  padRight 8 entry.kind.name ++ " " ++ entry.category.name ++ "  " ++ entry.template

def catalogLines : List Line :=
  catalog.map fun entry => ⟨0, catalogLine entry⟩

/-! ## Events -/

/-- What is said of an event; some are passed over. -/
def eventText? : Event → Option String
  | .messageShown sprite kind text _ duration =>
    some ("sprite " ++ sprite.text ++ " " ++ kind.label ++ ": " ++ quoted text ++ " for "
      ++ duration.text)
  | .poseCommitted sprite pose _ =>
    some ("sprite " ++ sprite.text ++ " at " ++ pose.position.text ++ " facing "
      ++ plainText pose.angle)
  | .collisionResolved first second _ =>
    some ("rolled back " ++ first.text ++ " and " ++ second.text)
  | .markerShown position _ => some ("marker at " ++ position.text)
  | _ => none

/-- The line about an event, with its time in front. -/
def eventLine? (event : Event) : Option Line :=
  (eventText? event).map fun text =>
    ⟨event.time.toMillis, "[" ++ padLeft 6 event.time.text ++ "] " ++ text⟩

def eventLines (s : Session) : List Line :=
  s.events.filterMap eventLine?

/-! ## Results -/

def spriteLine (sprite : Sprite) : String :=
  "  " ++ sprite.id.text ++ " " ++ padRight 10 sprite.name ++ " " ++ sprite.position.text
    ++ " angle " ++ plainText sprite.angle

def spriteLines (sprites : List Sprite) : List String :=
  "Sprites:" :: sprites.map spriteLine

def collisionLine (collision : Collision) : String :=
  "  collision: " ++ collision.first.text ++ " <-> " ++ collision.second.text

def reportLines (report : PlayReport) (json : Bool) : List String :=
  if json then [report.toJson.pretty]
  else ("Play " ++ report.runId.text ++ " finished in " ++ report.elapsed.text)
    :: report.collisions.map collisionLine ++ spriteLines report.sprites

def outcomeLine (outcome : HeroOutcome) : String :=
  let steps := toString outcome.iterations.toNat ++ " steps"
  match outcome.marker with
  | some marker => "Sprites met after " ++ steps ++ " at " ++ marker.text
  | none => "No collision after " ++ steps

/-- Lines that are printed at the end of a run. -/
def finalLines {α : Type} (run : Run α) (texts : List String) : List Line :=
  texts.map fun text => ⟨run.elapsed.toMillis, text⟩

def playLines (run : Run PlayReport) (json : Bool) : List Line :=
  eventLines run.session ++ finalLines run (reportLines run.outcome json)

/-- What is printed for a hero scene that has come to an end. -/
def heroLines {α : Type} (run : Run α) (outcome : HeroOutcome) : List Line :=
  eventLines run.session
    ++ finalLines run (outcomeLine outcome :: spriteLines run.session.store.sprites)

end SpriteStage.CommandLine
