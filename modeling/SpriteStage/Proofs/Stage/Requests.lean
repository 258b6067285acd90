import SpriteStage.Proofs.Store.Sound
import SpriteStage.Stage.Request

/-! # Requests to a stage, and its programs

What a request makes of the store and of the program of each sprite.

* `StageRequest.toRequest` — what the store is asked for
* `StageRequest.program?_perform` — the programs after a request
* `StageRequest.lastGiven` — the program of a sprite, from the requests since it came
-/

namespace SpriteStage

set_option autoImplicit false

/-! ## Programs by id -/

namespace Stage

variable (stage : Stage) (id other : SpriteId)

theorem lookup_filter_ne (programs : List (SpriteId × ActionList)) :
    (programs.filter fun entry => entry.1 ≠ id).lookup other =
      if other = id then none else programs.lookup other := by
  induction programs with
  | nil => simp
  | cons entry rest ih =>
    by_cases gone : entry.1 = id
    · rw [List.filter_cons_of_neg (by simpa using gone), ih, List.lookup_cons, gone]
      by_cases here : other = id
      · rw [if_pos here, if_pos here]
      · rw [if_neg here, if_neg here, beq_false_of_ne here]
    · rw [List.filter_cons_of_pos (by simpa using gone), List.lookup_cons, ih, List.lookup_cons]
      by_cases here : other = entry.1
      · simp only [here, beq_self_eq_true, if_neg gone]
      · rw [beq_false_of_ne here]

theorem program?_keepProgram (list : ActionList) :
    (stage.keepProgram id list).program? other =
      if other = id then some list else stage.program? other := by
  rw [program?, keepProgram, List.lookup_cons, lookup_filter_ne, program?]
  by_cases here : other = id
  · simp only [here, beq_self_eq_true, if_true]
  · rw [beq_false_of_ne here, if_neg here, if_neg here]

/-- The stage without a sprite and its program. -/
def without (stage : Stage) (id : SpriteId) : Stage :=
  { stage with
    store := stage.store.without id
    programs := stage.programs.filter fun entry => entry.1 ≠ id }

theorem program?_without :
    (stage.without id).program? other = if other = id then none else stage.program? other := by
  rw [program?, without, lookup_filter_ne, program?]

theorem removeSprite_eq :
    stage.removeSprite id = (stage.store.get id).map fun sprite => (sprite, stage.without id) := by
  rw [removeSprite, Store.remove, Store.get]
  cases stage.store.find? id <;> rfl

theorem actions_eq :
    stage.actions id = match stage.program? id with
      | some list => .ok list
      | none => .error (.spriteNotFound id) := rfl

theorem editActions_eq (edit : ActionList → ActionList) :
    stage.editActions id edit =
      (stage.actions id).map fun list => stage.keepProgram id (edit list) := by
  rw [editActions]
  cases stage.actions id <;> rfl

end Stage

/-! ## Requests -/

namespace StageRequest

/-- What the store of a stage is asked for. -/
def toRequest (config : StageConfig) : StageRequest → Request
  | addSprite name => .add name config.spawnPosition
  | addSpriteAt name position => .add name position
  | removeSprite id => .remove id
  | editActions .. => .look
  | setActions .. => .look
  | ofStore request => request

def storeRequests (config : StageConfig) (history : List StageRequest) : List Request :=
  history.map (toRequest config)

/-- The stage itself is asked. -/
def viaStage : StageRequest → Bool
  | ofStore _ => false
  | _ => true

/-- A sprite comes or goes, and the stage does not hear of it. -/
def bypasses : StageRequest → Bool
  | ofStore (.add ..) => true
  | ofStore (.remove _) => true
  | _ => false

/-- What becomes of the program of a sprite. -/
def given (id : SpriteId) (list : ActionList) : StageRequest → ActionList
  | editActions other edit => if other = id then edit list else list
  | setActions other new => if other = id then new else list
  | _ => list

/-- The program last given to a sprite. One that the stage has not heard of cannot be given any. -/
def lastGiven (id : SpriteId) (arrival : StageRequest) (since : List StageRequest) :
    Option ActionList :=
  if arrival.viaStage then some (since.foldl (given id) .empty) else none

theorem lastGiven_concat (id : SpriteId) (arrival : StageRequest) (since : List StageRequest)
    (request : StageRequest) :
    lastGiven id arrival (since ++ [request]) =
      (lastGiven id arrival since).map fun list => given id list request := by
  unfold lastGiven
  split
  · rw [List.foldl_append]
    rfl
  · rfl

variable (stage : Stage) (id : SpriteId)

theorem perform_removeSprite :
    perform stage (removeSprite id) = if id ∈ stage.store.ids then stage.without id else stage := by
  simp only [← Store.contains_iff, Store.contains]
  rw [perform, Stage.removeSprite_eq, Store.get]
  cases stage.store.find? id <;> rfl

theorem perform_editActions (edit : ActionList → ActionList) :
    perform stage (editActions id edit) = match stage.program? id with
      | some list => stage.keepProgram id (edit list)
      | none => stage := by
  rw [perform, Stage.editActions_eq, Stage.actions]
  cases stage.program? id <;> rfl

theorem perform_setActions (list : ActionList) :
    perform stage (setActions id list) = perform stage (editActions id fun _ => list) := rfl

theorem config_perform (request : StageRequest) :
    (request.perform stage).config = stage.config := by
  cases request with
  | removeSprite other => rw [perform_removeSprite]; split <;> rfl
  | editActions other edit => rw [perform_editActions]; cases stage.program? other <;> rfl
  | setActions other list =>
    rw [perform_setActions, perform_editActions]
    cases stage.program? other <;> rfl
  | _ => rfl

theorem store_perform (request : StageRequest) :
    (request.perform stage).store = (request.toRequest stage.config).perform stage.store := by
  cases request with
  | removeSprite other =>
    rw [perform_removeSprite, toRequest, Request.perform_remove]
    split
    · rfl
    · rename_i absent
      exact (stage.store.without_of_absent absent).symm
  | editActions other edit => rw [perform_editActions]; cases stage.program? other <;> rfl
  | setActions other list =>
    rw [perform_setActions, perform_editActions]
    cases stage.program? other <;> rfl
  | _ => rfl

theorem program?_perform (request : StageRequest) :
    (request.perform stage).program? id = match request with
      | addSprite _ | addSpriteAt .. =>
        if id = ⟨stage.store.issued + 1⟩ then some .empty else stage.program? id
      | removeSprite other => if other ∈ stage.store.ids ∧ id = other then none else stage.program? id
      | request => (stage.program? id).map fun list => given id list request := by
  have edited (other : SpriteId) (edit : ActionList → ActionList) :
      (perform stage (editActions other edit)).program? id =
        (stage.program? id).map fun list => if other = id then edit list else list := by
    rw [perform_editActions]
    by_cases here : other = id
    · subst here
      cases kept : stage.program? other with
      | none => exact kept
      | some list => simp [Stage.program?_keepProgram]
    · cases stage.program? other <;> simp [Stage.program?_keepProgram, here, Ne.symm here]
  cases request with
  | addSprite name => exact Stage.program?_keepProgram _ _ _ _
  | addSpriteAt name position => exact Stage.program?_keepProgram _ _ _ _
  | removeSprite other =>
    rw [perform_removeSprite]
    by_cases there : other ∈ stage.store.ids <;> simp [there, Stage.program?_without]
  | editActions other edit => exact edited other edit
  | setActions other list => exact edited other fun _ => list
  | ofStore request => exact Option.map_id'.symm

variable {stage : Stage} {id : SpriteId} {config : StageConfig}

theorem program?_arrival {arrival : StageRequest}
    (new : (arrival.toRequest config).isAdd = true) (isNew : id = ⟨stage.store.issued + 1⟩)
    (unknown : stage.program? id = none) :
    (arrival.perform stage).program? id = lastGiven id arrival [] := by
  rw [program?_perform]
  cases arrival with
  | addSprite name => exact if_pos isNew
  | addSpriteAt name position => exact if_pos isNew
  | ofStore request => rw [unknown]; rfl
  | _ => cases new

theorem program?_stay {request : StageRequest}
    (old : (request.toRequest config).isAdd = true → id ≠ ⟨stage.store.issued + 1⟩)
    (stays : request.toRequest config ≠ .remove id) :
    (request.perform stage).program? id =
      (stage.program? id).map fun list => given id list request := by
  rw [program?_perform]
  cases request with
  | addSprite name => exact (if_neg (old rfl)).trans Option.map_id'.symm
  | addSpriteAt name position => exact (if_neg (old rfl)).trans Option.map_id'.symm
  | removeSprite other =>
    have other : ¬(other ∈ stage.store.ids ∧ id = other) := fun gone =>
      stays (congrArg Request.remove gone.2.symm)
    exact (if_neg other).trans Option.map_id'.symm
  | _ => rfl

theorem program?_unknown {request : StageRequest}
    (old : (request.toRequest config).isAdd = true → id ≠ ⟨stage.store.issued + 1⟩)
    (unknown : stage.program? id = none) : (request.perform stage).program? id = none := by
  rw [program?_perform, unknown]
  cases request with
  | addSprite name => exact if_neg (old rfl)
  | addSpriteAt name position => exact if_neg (old rfl)
  | removeSprite other => exact ite_self none
  | _ => rfl

end StageRequest

end SpriteStage
