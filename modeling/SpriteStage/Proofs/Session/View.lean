import SpriteStage.Proofs.Performance.Outline
import SpriteStage.Proofs.Store.Lookup

/-! # Positions without angles, angles without positions

Someone who cannot see which way sprites face, or where they are, sees a simpler stage on which the
same goes on: seen like this, a session does what it does.

* `View` — what is looked at
* `View.request_perform` — what is seen of a store after a request
* `View.aspect` — what is seen of a session
-/

namespace SpriteStage

set_option autoImplicit false

/-- What of a pose is looked at. -/
inductive View where
  | positions
  | angles

namespace View

variable (view : View)

/-! ## Sprites -/

def position : View → Position → Position
  | positions, position => position
  | angles, _ => ⟨0, 0⟩

def angle : View → Float → Float
  | positions, _ => 0
  | angles, angle => angle

def pose (pose : Pose) : Pose :=
  ⟨view.position pose.position, view.angle pose.angle⟩

def sprite (sprite : Sprite) : Sprite :=
  sprite.withPose (view.pose sprite.pose)

def store (store : Store) : Store :=
  { store with sprites := store.sprites.map view.sprite }

/-- Which run it is is not looked at. -/
def event : Event → Event
  | .poseCommitted sprite pose time => .poseCommitted sprite (view.pose pose) time
  | event => event.withoutRun

def step : Step → Step
  | .commit pose => .commit (view.pose pose)
  | step => step

@[simp] theorem id_sprite (s : Sprite) : (view.sprite s).id = s.id := rfl

@[simp] theorem pose_sprite (s : Sprite) : (view.sprite s).pose = view.pose s.pose := rfl

theorem sprite_fresh (id : SpriteId) (name : String) (place : Position) :
    view.sprite (.fresh id name place) = .fresh id name (view.position place) := by
  cases view <;> rfl

/-! ## Stores -/

theorem store_modify (s : Store) (id : SpriteId) {change change' : Sprite → Sprite}
    (same : ∀ s, view.sprite (change s) = change' (view.sprite s)) :
    view.store (s.modify id change) = (view.store s).modify id change' := by
  simp only [store, Store.modify, List.map_map]
  refine congrArg (Store.mk _) (List.map_congr_left fun sprite _ => ?_)
  by_cases here : sprite.id = id <;> simp [here, same]

theorem store_commitPose (s : Store) (id : SpriteId) (pose : Pose) :
    view.store (s.commitPose id pose) = (view.store s).commitPose id (view.pose pose) := by
  refine view.store_modify s id ?_
  exact fun _ => rfl

theorem store_setBubble (s : Store) (id : SpriteId) (bubble : Option Bubble) :
    view.store (s.setBubble id bubble) = (view.store s).setBubble id bubble := by
  refine view.store_modify s id ?_
  exact fun _ => rfl

theorem store_publish (s : Store) (poses : List (SpriteId × Pose)) :
    view.store (s.publish poses) =
      (view.store s).publish (poses.map fun entry => (entry.1, view.pose entry.2)) := by
  unfold Store.publish
  induction poses generalizing s with
  | nil => rfl
  | cons entry rest ih => rw [List.foldl_cons, ih, store_commitPose, List.map_cons, List.foldl_cons]

def request : Request → Request
  | .add name position => .add name (view.position position)
  | .drag id position => .drag id (view.position position)
  | .setAngle id angle => .setAngle id (view.angle angle)
  | .commitPose id pose => .commitPose id (view.pose pose)
  | .publish poses => .publish (poses.map fun entry => (entry.1, view.pose entry.2))
  | request => request

theorem request_perform (request : Request) (s : Store) :
    view.store (request.perform s) = (view.request request).perform (view.store s) := by
  cases request with
  | look => rfl
  | add name position =>
    simp only [View.request, Request.perform, Store.add, store, List.map_append, List.map_cons,
      sprite_fresh, List.map_nil]
  | remove id =>
    change view.store (Request.perform s (.remove id)) = Request.perform (view.store s) (.remove id)
    rw [Request.perform_remove, Request.perform_remove]
    simp only [store, Store.without, List.filter_map]
    rfl
  | drag id position =>
    rw [View.request, Request.perform_drag, Request.perform_drag]
    refine view.store_modify s id ?_
    exact fun _ => rfl
  | setAngle id angle =>
    rw [View.request, Request.perform_setAngle, Request.perform_setAngle]
    refine view.store_modify s id ?_
    exact fun _ => rfl
  | commitPose id pose => exact view.store_commitPose s id pose
  | setBubble id bubble => exact view.store_setBubble s id bubble
  | publish poses => exact view.store_publish s poses

/-! ## Sessions -/

def visit (visit : Visit) : Visit :=
  { visit with request := view.request visit.request }

def session (s : Session) : Session where
  now := s.now
  store := view.store s.store
  journal := s.journal.map fun entry => ⟨view.event entry.event, view.store entry.store⟩
  states := s.states
  visits := s.visits.map view.visit
  sights := s.sights.map fun sight => ⟨view.store sight.store, sight.states⟩

theorem session_start (s : Store) (visits : List Visit) :
    view.session (.start s visits) = .start (view.store s) (visits.map view.visit) := by
  simp [session, Session.start]

theorem events_session (s : Session) : (view.session s).events = s.events.map view.event := by
  simp [session, Session.events, Function.comp_def]

theorem session_emit (s : Session) (event : Event) :
    (view.session s).emit (view.event event) = view.session (s.emit event) := by
  simp [session, Session.emit]

theorem session_receive (s : Session) (visit : Visit) :
    (view.session s).receive (view.visit visit) = view.session (s.receive visit) := by
  simp [session, Session.receive, View.visit, request_perform]

theorem foldl_receive (visits : List Visit) (s : Session) :
    (visits.map view.visit).foldl Session.receive (view.session s) =
      view.session (visits.foldl Session.receive s) := by
  induction visits generalizing s with
  | nil => rfl
  | cons visit rest ih => rw [List.map_cons, List.foldl_cons, session_receive, ih, List.foldl_cons]

theorem session_advanceTo (s : Session) (time : Nat) :
    (view.session s).advanceTo time = view.session (s.advanceTo time) := by
  have due : (s.visits.map view.visit).takeWhile (fun visit => decide (visit.time < time)) =
      (s.visits.takeWhile fun visit => decide (visit.time < time)).map view.visit :=
    List.takeWhile_map ..
  have later : (s.visits.map view.visit).dropWhile (fun visit => decide (visit.time < time)) =
      (s.visits.dropWhile fun visit => decide (visit.time < time)).map view.visit :=
    List.dropWhile_map ..
  have received : (view.session s).receiveBefore time = view.session (s.receiveBefore time) := by
    rw [Session.receiveBefore, Session.receiveBefore, ← foldl_receive]
    simp only [session, due, later]
  rw [Session.advanceTo, received, Session.advanceTo]
  rfl

theorem session_performStep (s : Session) (id : SpriteId) (step : Step) :
    (view.session s).performStep id (view.step step) = view.session (s.performStep id step) := by
  cases step with
  | enter state => rfl
  | showBubble bubble time =>
    rw [Session.performStep, ← session_emit]
    simp only [View.step, Session.performStep, session, Session.changeStore, store_setBubble]
    rfl
  | clearBubble =>
    rw [Session.performStep, ← session_emit]
    simp only [View.step, Session.performStep, session, Session.changeStore, store_setBubble]
    rfl
  | commit pose =>
    rw [Session.performStep, ← session_emit]
    simp only [View.step, Session.performStep, session, Session.changeStore, store_commitPose]
    rfl
  | wait ms => rfl

/-- What is seen of a session. -/
def aspect : Aspect where
  session := view.session
  step := view.step
  event := view.event
  now _ := rfl
  emit := view.session_emit
  advanceTo := view.session_advanceTo
  performStep := view.session_performStep
  wait _ := rfl
  eq_wait {step ms} same := by
    cases step with
    | wait => exact same
    | _ => cases same
  collision _ _ _ := rfl

end View

end SpriteStage
