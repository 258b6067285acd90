import SpriteStage.Performance.Ensemble
import SpriteStage.Proofs.Collision.Reconcile

/-! # Aspects of a run

An aspect of a session is what remains of it when something is left out. Where each single operation
does the same to what remains as to the whole, so do performances, and so does putting sprites back:
two sessions of which the same remains take the same course in this respect.

* `Aspect` — the operations that have to respect what is left out
* `Aspect.performAll` — performances do then
* `Aspect.reconcile` — so does putting sprites back, as long as positions are not left out
-/

namespace SpriteStage

set_option autoImplicit false

/-- What remains of sessions, of the steps of sprites, and of events. -/
structure Aspect where
  session : Session → Session
  step : Step → Step
  event : Event → Event
  now : ∀ s, (session s).now = s.now
  emit : ∀ s e, (session s).emit (event e) = session (s.emit e)
  advanceTo : ∀ s time, (session s).advanceTo time = session (s.advanceTo time)
  performStep : ∀ s id x, (session s).performStep id (step x) = session (s.performStep id x)
  wait : ∀ ms, step (.wait ms) = .wait ms
  eq_wait : ∀ {x ms}, step x = .wait ms → x = .wait ms
  collision : ∀ first second time,
    event (.collisionResolved first second time) = .collisionResolved first second time

namespace Aspect

variable (aspect : Aspect)

/-! ## Turns -/

def performer (p : Performer) : Performer :=
  { p with steps := p.steps.map aspect.step }

def turn (t : Turn) : Turn :=
  { t with session := aspect.session t.session, rest := t.rest.map aspect.performer }

def round (r : Round) : Round where
  session := aspect.session r.session
  waiting := r.waiting.map aspect.performer
  heldUp := r.heldUp.map aspect.performer

theorem takeSteps (sprite : SpriteId) (place : Nat) (allowance : Allowance) (deadline : Option Nat)
    (steps : List Step) (s : Session) :
    Performer.takeSteps sprite place allowance deadline (steps.map aspect.step) (aspect.session s) =
      aspect.turn (Performer.takeSteps sprite place allowance deadline steps s) := by
  fun_induction Performer.takeSteps sprite place allowance deadline steps s with
  | case1 => rfl
  | case2 allowance deadline ms rest s time ended ih =>
    rw [List.map_cons, aspect.wait, Performer.takeSteps, aspect.now, if_pos ended, ih]
  | case3 allowance deadline ms rest s time waits =>
    rw [List.map_cons, aspect.wait, Performer.takeSteps, aspect.now, if_neg waits, turn,
      Option.map_some, performer, List.map_cons, aspect.wait]
  | case4 allowance deadline step rest s other ih =>
    rw [List.map_cons, Performer.takeSteps, aspect.performStep, ih]
    exact fun ms same => other ms (aspect.eq_wait same)

theorem goOn (p : Performer) (allowance : Allowance) (s : Session) :
    (aspect.performer p).goOn allowance (aspect.session s) = aspect.turn (p.goOn allowance s) :=
  aspect.takeSteps _ _ _ _ _ _

/-! ## Rounds -/

theorem withTurn (r : Round) (turn : Turn) :
    (aspect.round r).withTurn (aspect.turn turn) = aspect.round (r.withTurn turn) := by
  obtain ⟨session, allowance, rest⟩ := turn
  cases rest with
  | none => rfl
  | some q =>
    by_cases used : allowance = some 0 <;>
      simp [Round.withTurn, Aspect.turn, Aspect.round, used]

theorem oneRound (allowance : Allowance) (ps : List Performer) (s : Session) :
    Session.round allowance (ps.map aspect.performer) (aspect.session s) =
      aspect.round (Session.round allowance ps s) := by
  induction ps generalizing allowance s with
  | nil => rfl
  | cons p rest ih =>
    rw [List.map_cons, Session.round, Session.round, aspect.goOn, ← withTurn, ← ih]
    rfl

theorem afterHoldUp (order : TurnOrder) (ps : List Performer) :
    order.afterHoldUp (ps.map aspect.performer) = (order.afterHoldUp ps).map aspect.performer := by
  cases order with
  | byRoster => rfl
  | byArrival => exact List.map_reverse.symm

theorem rounds (order : TurnOrder) (limit : Option Nat) (waiting ps : List Performer)
    (s : Session) :
    Session.rounds order limit (waiting.map aspect.performer) (ps.map aspect.performer)
        (aspect.session s) =
      (aspect.session (Session.rounds order limit waiting ps s).1,
        (Session.rounds order limit waiting ps s).2.map aspect.performer) := by
  fun_induction Session.rounds order limit waiting ps s with
  | case1 => rw [List.map_nil, Session.rounds]
  | case2 waiting p rest s r ih =>
    rw [← ih, List.map_cons, Session.rounds, ← List.map_cons, oneRound, List.map_append,
      ← afterHoldUp]
    rfl

/-! ## The whole performance -/

theorem arrange (order : TurnOrder) (ps : List Performer) :
    order.arrange (ps.map aspect.performer) = (order.arrange ps).map aspect.performer := by
  cases order with
  | byRoster =>
    have sorted : ((ps.mergeSort fun p q => decide (p.place ≤ q.place)).map aspect.performer) =
        (ps.map aspect.performer).mergeSort fun p q => decide (p.place ≤ q.place) :=
      List.map_mergeSort fun p _ q _ => rfl
    exact sorted.symm
  | byArrival => rfl

theorem nextTime? (ps : List Performer) :
    SpriteStage.nextTime? (ps.map aspect.performer) = SpriteStage.nextTime? ps := by
  rw [SpriteStage.nextTime?, List.filterMap_map, SpriteStage.nextTime?]
  rfl

theorem dueAt (time : Nat) (ps : List Performer) :
    SpriteStage.dueAt time (ps.map aspect.performer) =
      (SpriteStage.dueAt time ps).map aspect.performer := by
  rw [SpriteStage.dueAt, List.filter_map, SpriteStage.dueAt]
  rfl

theorem notDueAt (time : Nat) (ps : List Performer) :
    SpriteStage.notDueAt time (ps.map aspect.performer) =
      (SpriteStage.notDueAt time ps).map aspect.performer := by
  rw [SpriteStage.notDueAt, List.filter_map, SpriteStage.notDueAt]
  rfl

theorem perform (order : TurnOrder) (limit : Option Nat) (waiting : List Performer) (s : Session) :
    Session.perform order limit (waiting.map aspect.performer) (aspect.session s) =
      aspect.session (Session.perform order limit waiting s) := by
  fun_induction Session.perform order limit waiting s with
  | case1 waiting s nobody =>
    rw [Session.perform]
    split
    · rfl
    · rename_i time next
      rw [nextTime?, nobody] at next
      cases next
  | case2 waiting s time next due after ih =>
    rw [Session.perform]
    split
    · rename_i nobody
      rw [nextTime?, next] at nobody
      cases nobody
    · rename_i time' next'
      rw [nextTime?, next] at next'
      obtain rfl : time = time' := Option.some.inj next'
      simp only [aspect.advanceTo, aspect.dueAt, aspect.notDueAt, aspect.arrange, aspect.rounds]
      exact ih

theorem performAll (order : TurnOrder) (limit : Option Nat) (ps : List Performer) (s : Session) :
    Session.performAll order limit (ps.map aspect.performer) (aspect.session s) =
      aspect.session (Session.performAll order limit ps s) := by
  have first := aspect.rounds order limit [] ps s
  rw [List.map_nil] at first
  simp only [Session.performAll, first, aspect.perform]

/-! ## Putting sprites back -/

theorem pause (s : Session) (ms : Int64) :
    (aspect.session s).pause ms = aspect.session (s.pause ms) := by
  unfold Session.pause
  split
  · rfl
  · rw [aspect.now, aspect.advanceTo]

/-- A sprite and its pose, of whose angle something may be left out. -/
def facing (angle : Float → Float) (entry : SpriteId × Pose) : SpriteId × Pose :=
  (entry.1, { entry.2 with angle := angle entry.2.angle })

def reconciliation (angle : Float → Float) (r : Reconciliation) : Reconciliation where
  session := aspect.session r.session
  poses := r.poses.map (facing angle)
  collisions := r.collisions

variable (angle : Float → Float) (threshold : Float) (ms : Int64) (snapshot : Snapshot)

theorem collisionAt? (poses : List (SpriteId × Pose)) (pair : Nat × Nat) :
    SpriteStage.collisionAt? threshold (poses.map (facing angle)) pair =
      SpriteStage.collisionAt? threshold poses pair := by
  simp only [SpriteStage.collisionAt?, List.getElem?_map]
  cases poses[pair.1]? with
  | none => rfl
  | some a => cases poses[pair.2]? <;> rfl

theorem modify_rollBack (poses : List (SpriteId × Pose)) (place : Nat) :
    (poses.map (facing angle)).modify place (rollBack snapshot) =
      (poses.modify place (rollBack snapshot)).map (facing angle) := by
  induction poses generalizing place with
  | nil => rw [List.map_nil, List.modify_nil, List.map_nil]
  | cons entry rest ih =>
    cases place with
    | zero => rfl
    | succ place =>
      rw [List.map_cons, List.modify_succ_cons, ih, List.modify_succ_cons, List.map_cons]

theorem reconcilePair (r : Reconciliation) (pair : Nat × Nat) :
    Session.reconcilePair threshold ms snapshot (aspect.reconciliation angle r) pair =
      aspect.reconciliation angle (Session.reconcilePair threshold ms snapshot r pair) := by
  have found : SpriteStage.collisionAt? threshold (aspect.reconciliation angle r).poses pair =
      SpriteStage.collisionAt? threshold r.poses pair := collisionAt? angle threshold r.poses pair
  rw [Session.reconcilePair, found, Session.reconcilePair]
  split
  · rename_i collision _
    have emitted := aspect.emit (r.session.pause ms)
      (.collisionResolved collision.first collision.second (r.session.pause ms).elapsed)
    rw [aspect.collision] at emitted
    simp only [Reconciliation.resolve, reconciliation, aspect.pause, modify_rollBack]
    rw [Session.elapsed, aspect.now, ← emitted]
    rfl
  · rfl

/-- Sprites that overlap are put back whatever is left out of angles, but not of positions. -/
theorem reconcile (s : Session) (poses : List (SpriteId × Pose)) :
    (aspect.session s).reconcile threshold ms snapshot (poses.map (facing angle)) =
      aspect.reconciliation angle (s.reconcile threshold ms snapshot poses) := by
  have every : ∀ (places : List (Nat × Nat)) (r : Reconciliation),
      places.foldl (Session.reconcilePair threshold ms snapshot) (aspect.reconciliation angle r) =
        aspect.reconciliation angle
          (places.foldl (Session.reconcilePair threshold ms snapshot) r) := by
    intro places r
    induction places generalizing r with
    | nil => rfl
    | cons pair rest ih => rw [List.foldl_cons, aspect.reconcilePair, ih, List.foldl_cons]
  rw [Session.reconcile, List.length_map]
  exact every (pairs poses.length) ⟨s, poses, []⟩

end Aspect

end SpriteStage
