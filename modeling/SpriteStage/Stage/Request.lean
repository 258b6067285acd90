import SpriteStage.Stage.Basic
import SpriteStage.Store.Request

/-! # Requests to a stage

What is asked of a stage between plays. The store of the stage may be asked as well, and then the
programs do not hear of it.

* `StageRequest` — the requests
* `StageRequest.perform` — the stage afterwards; a request that is refused changes nothing
-/

namespace SpriteStage

set_option autoImplicit false

/-- Something that is asked of a stage. -/
inductive StageRequest where
  | addSprite (name : String)
  | addSpriteAt (name : String) (position : Position)
  | removeSprite (id : SpriteId)
  | editActions (id : SpriteId) (edit : ActionList → ActionList)
  | setActions (id : SpriteId) (list : ActionList)
  /-- Passes by the stage. -/
  | ofStore (request : Request)

namespace StageRequest

/-- The new stage, or the old one if the request was refused. -/
def unlessRefused (stage : Stage) : Except Fault Stage → Stage
  | .ok changed => changed
  | .error _ => stage

def perform (stage : Stage) : StageRequest → Stage
  | addSprite name => (stage.addSprite name).2
  | addSpriteAt name position => (stage.addSpriteAt name position).2
  | removeSprite id => unlessRefused stage ((stage.removeSprite id).map Prod.snd)
  | editActions id edit => unlessRefused stage (stage.editActions id edit)
  | setActions id list => unlessRefused stage (stage.setActions id list)
  | ofStore request => { stage with store := request.perform stage.store }

end StageRequest

end SpriteStage
