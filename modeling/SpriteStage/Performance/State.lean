/-! # The state of a performer

What an onlooker can tell of a sprite's performance.
-/

namespace SpriteStage

set_option autoImplicit false

/-- How far a performance has come. -/
inductive PerformerState where
  /-- It has not begun. -/
  | idle
  /-- Blocks are being performed. -/
  | running
  /-- A bubble or the pause before a new round is being waited out. -/
  | suspended
  /-- All blocks have been performed. -/
  | completed
deriving DecidableEq

def PerformerState.name : PerformerState → String
  | idle => "idle"
  | running => "running"
  | suspended => "suspended"
  | completed => "completed"

end SpriteStage
