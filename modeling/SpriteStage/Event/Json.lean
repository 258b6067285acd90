import SpriteStage.Event.Basic

/-! # Events in JSON

An event is a record tagged with what happened.

* `Event.toJson`, `Event.ofJson?` — an event, written and read
-/

namespace SpriteStage.Event

set_option autoImplicit false

/-- What happened, as a word. -/
def tag : Event → String
  | playStarted .. => "play_started"
  | messageShown .. => "message_shown"
  | messageCleared .. => "message_cleared"
  | poseCommitted .. => "pose_committed"
  | collisionResolved .. => "collision_resolved"
  | markerShown .. => "marker_shown"
  | markerCleared .. => "marker_cleared"
  | playFinished .. => "play_finished"

/-- The fields of an event beside its tag. -/
def fieldsJson : Event → List (String × Json)
  | playStarted run sprites => [("run_id", run.toJson), ("sprites", .ofUInt64 sprites)]
  | messageShown sprite kind text time duration => [
      ("sprite", sprite.toJson),
      ("kind", kind.toJson),
      ("text", .ofString text),
      ("at", time.toJson),
      ("duration", duration.toJson)]
  | messageCleared sprite time => [("sprite", sprite.toJson), ("at", time.toJson)]
  | poseCommitted sprite pose time =>
    [("sprite", sprite.toJson), ("pose", pose.toJson), ("at", time.toJson)]
  | collisionResolved first second time =>
    [("first", first.toJson), ("second", second.toJson), ("at", time.toJson)]
  | markerShown position time => [("position", position.toJson), ("at", time.toJson)]
  | markerCleared time => [("at", time.toJson)]
  | playFinished run time => [("run_id", run.toJson), ("at", time.toJson)]

def toJson (event : Event) : Json :=
  .ofMembers (("event", .ofString event.tag) :: event.fieldsJson)

/-- The event with the given tag and the given other fields. -/
def ofFields? (tag : String) (j : Json) : Option Event :=
  match tag with
  | "play_started" => do
    let r ← j.record? ["run_id", "sprites"]
    let run ← r.require? "run_id" RunId.ofJson?
    let sprites ← r.require? "sprites" Json.toUInt64?
    return playStarted run sprites
  | "message_shown" => do
    let r ← j.record? ["sprite", "kind", "text", "at", "duration"]
    let sprite ← r.require? "sprite" SpriteId.ofJson?
    let kind ← r.require? "kind" BubbleKind.ofEventJson?
    let text ← r.require? "text" Json.toString?
    let time ← r.require? "at" Duration.ofJson?
    let duration ← r.require? "duration" Duration.ofJson?
    return messageShown sprite kind text time duration
  | "message_cleared" => do
    let r ← j.record? ["sprite", "at"]
    let sprite ← r.require? "sprite" SpriteId.ofJson?
    let time ← r.require? "at" Duration.ofJson?
    return messageCleared sprite time
  | "pose_committed" => do
    let r ← j.record? ["sprite", "pose", "at"]
    let sprite ← r.require? "sprite" SpriteId.ofJson?
    let pose ← r.require? "pose" Pose.ofJson?
    let time ← r.require? "at" Duration.ofJson?
    return poseCommitted sprite pose time
  | "collision_resolved" => do
    let r ← j.record? ["first", "second", "at"]
    let first ← r.require? "first" SpriteId.ofJson?
    let second ← r.require? "second" SpriteId.ofJson?
    let time ← r.require? "at" Duration.ofJson?
    return collisionResolved first second time
  | "marker_shown" => do
    let r ← j.record? ["position", "at"]
    let position ← r.require? "position" Position.ofJson?
    let time ← r.require? "at" Duration.ofJson?
    return markerShown position time
  | "marker_cleared" => do
    let r ← j.record? ["at"]
    let time ← r.require? "at" Duration.ofJson?
    return markerCleared time
  | "play_finished" => do
    let r ← j.record? ["run_id", "at"]
    let run ← r.require? "run_id" RunId.ofJson?
    let time ← r.require? "at" Duration.ofJson?
    return playFinished run time
  | _ => none

/-- An event that is a text of its own. -/
def ofJson? (j : Json) : Option Event := do
  let (tag, fields) ← j.tagged? "event" Json.greatestDepth
  ofFields? tag fields

end SpriteStage.Event
