import SpriteStage.Store.Basic

/-! # Requests to a store

What others ask of a store while a performance goes on.

* `Request` — the requests
* `Request.perform` — the store afterwards; a request that is refused changes nothing
-/

namespace SpriteStage

set_option autoImplicit false

/-- Something that is asked of a store. -/
inductive Request where
  /-- Changes nothing. -/
  | look
  | add (name : String) (position : Position)
  | remove (id : SpriteId)
  | drag (id : SpriteId) (position : Position)
  | setAngle (id : SpriteId) (angle : Float)
  | commitPose (id : SpriteId) (pose : Pose)
  | setBubble (id : SpriteId) (bubble : Option Bubble)
  | publish (poses : List (SpriteId × Pose))
deriving DecidableEq

namespace Request

/-- The new store, or the old one if the request was refused. -/
def unlessRefused (store : Store) : Except Fault Store → Store
  | .ok changed => changed
  | .error _ => store

def perform (store : Store) : Request → Store
  | look => store
  | add name position => (store.add name position).2
  | remove id => unlessRefused store ((store.remove id).map Prod.snd)
  | drag id position => unlessRefused store (store.drag id position)
  | setAngle id angle => unlessRefused store (store.setAngle id angle)
  | commitPose id pose => store.commitPose id pose
  | setBubble id bubble => store.setBubble id bubble
  | publish poses => store.publish poses

end Request

end SpriteStage
