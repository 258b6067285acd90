import SpriteStage.RunId
import SpriteStage.Sprite
import SpriteStage.Time.Duration

/-! # Events

What an audience is told while sprites perform. Times count from the beginning of the run.

* `Event` — the events
* `Event.sprite?` — the sprite that an event is about
-/

namespace SpriteStage

set_option autoImplicit false

/-- Something that happened on a stage. -/
inductive Event where
  /-- A play has begun with so many sprites. -/
  | playStarted (run : RunId) (sprites : UInt64)
  /-- A bubble has appeared, to stay for a while. -/
  | messageShown (sprite : SpriteId) (kind : BubbleKind) (text : String) (time duration : Duration)
  /-- A bubble is gone. -/
  | messageCleared (sprite : SpriteId) (time : Duration)
  /-- A sprite has taken a pose. -/
  | poseCommitted (sprite : SpriteId) (pose : Pose) (time : Duration)
  /-- Two sprites overlapped and have been put back. -/
  | collisionResolved (first second : SpriteId) (time : Duration)
  /-- The mark of a meeting has appeared. -/
  | markerShown (position : Position) (time : Duration)
  /-- The mark of a meeting is gone. -/
  | markerCleared (time : Duration)
  /-- A play is over. -/
  | playFinished (run : RunId) (time : Duration)
deriving DecidableEq

namespace Event

/-- The sprite whose bubble or pose an event tells of. -/
def sprite? : Event → Option SpriteId
  | messageShown sprite .. => some sprite
  | messageCleared sprite _ => some sprite
  | poseCommitted sprite _ _ => some sprite
  | _ => none

/-- When it happened. A play begins at time zero. -/
def time : Event → Duration
  | playStarted _ _ => .zero
  | messageShown _ _ _ time _ => time
  | messageCleared _ time => time
  | poseCommitted _ _ time => time
  | collisionResolved _ _ time => time
  | markerShown _ time => time
  | markerCleared time => time
  | playFinished _ time => time

end Event

end SpriteStage
