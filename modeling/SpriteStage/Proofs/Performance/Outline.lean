import SpriteStage.Proofs.Performance.Aspect

/-! # What a run does not depend on

The outline of a session leaves out the store, the visits and which run it is. A run does the same to
the outline as to the session itself, so that two sessions with one outline take the same course,
whatever the store and the visits of each of them.

* `Session.outline` — the outline
* `Session.performAll_outline`, `Session.reconcile_outline` — runs keep to it
-/

namespace SpriteStage

set_option autoImplicit false

/-! ## Outlines -/

/-- An event without the id of the run. -/
def Event.withoutRun : Event → Event
  | playStarted _ sprites => playStarted .nil sprites
  | playFinished _ time => playFinished .nil time
  | event => event

namespace Session

/-- A session without its store, its visits and the id of the run. -/
def outline (s : Session) : Session where
  now := s.now
  store := .empty
  journal := s.journal.map fun entry => ⟨entry.event.withoutRun, .empty⟩
  states := s.states
  visits := []
  sights := #[]

@[simp] theorem now_outline (s : Session) : s.outline.now = s.now := rfl

theorem events_outline (s : Session) : s.outline.events = s.events.map Event.withoutRun := by
  simp [outline, events, Function.comp_def]

theorem emit_outline (s : Session) (event : Event) :
    s.outline.emit event.withoutRun = (s.emit event).outline := by
  simp [outline, emit]

/-! ### Time -/

theorem states_foldl_receive (visits : List Visit) (s : Session) :
    (visits.foldl receive s).states = s.states := by
  induction visits generalizing s with
  | nil => rfl
  | cons visit rest ih => exact ih (s.receive visit)

theorem advanceTo_outline (s : Session) (time : Nat) :
    s.outline.advanceTo time = (s.advanceTo time).outline := by
  have journal : (s.receiveBefore time).journal = s.journal := journal_foldl_receive _ _
  have states : (s.receiveBefore time).states = s.states := states_foldl_receive _ _
  simp only [advanceTo, outline, journal, states]
  rfl

/-! ### Steps -/

theorem performStep_outline (s : Session) (id : SpriteId) (step : Step) :
    s.outline.performStep id step = (s.performStep id step).outline := by
  cases step with
  | enter state => rfl
  | showBubble bubble time =>
    exact emit_outline (s.changeStore fun store => store.setBubble id (some bubble))
      (.messageShown id bubble.kind bubble.text s.elapsed (.ofDelay time))
  | clearBubble =>
    exact emit_outline (s.changeStore fun store => store.setBubble id none)
      (.messageCleared id s.elapsed)
  | commit pose =>
    exact emit_outline (s.changeStore fun store => store.commitPose id pose)
      (.poseCommitted id pose s.elapsed)
  | wait ms => rfl

end Session

/-! ## Runs -/

/-- What remains of a session without its store. -/
def Aspect.outline : Aspect where
  session := Session.outline
  step := id
  event := Event.withoutRun
  now _ := rfl
  emit := Session.emit_outline
  advanceTo := Session.advanceTo_outline
  performStep := Session.performStep_outline
  wait _ := rfl
  eq_wait same := same
  collision _ _ _ := rfl

def Reconciliation.outline (r : Reconciliation) : Reconciliation :=
  { r with session := r.session.outline }

namespace Session

/-- What a performance announces and how long it takes do not depend on the store. -/
theorem performAll_outline (order : TurnOrder) (limit : Option Nat) (ps : List Performer)
    (s : Session) :
    performAll order limit ps s.outline = (performAll order limit ps s).outline := by
  have everyone : ps.map Aspect.outline.performer = ps := by
    have nothing : Aspect.outline.performer = id :=
      funext fun p => congrArg (Performer.mk _ _ _) p.steps.map_id
    rw [nothing, List.map_id]
  have commutes := Aspect.outline.performAll order limit ps s
  rwa [everyone] at commutes

/-- Which sprites are put back does not depend on the store. -/
theorem reconcile_outline (threshold : Float) (pause : Int64) (snapshot : Snapshot) (s : Session)
    (poses : List (SpriteId × Pose)) :
    s.outline.reconcile threshold pause snapshot poses =
      (s.reconcile threshold pause snapshot poses).outline := by
  have everyone (poses : List (SpriteId × Pose)) : poses.map (Aspect.facing id) = poses :=
    poses.map_id
  have commutes := Aspect.outline.reconcile id threshold pause snapshot s poses
  rw [Aspect.reconciliation, everyone, everyone] at commutes
  exact commutes

end Session

end SpriteStage
