import SpriteStage.Proofs.Collision.Reconcile
import SpriteStage.Proofs.Performance.Invariant
import SpriteStage.Proofs.Session.Visits

/-! # Visitors and performers

A performance changes the sprites that perform and no others, and it changes no roster. All the rest
is as visitors have made it, at any time of a run.

* `Session.Apart` — at any time, visitors alone have made the roster and all other sprites
* `Session.keeps_apart`, `Session.Apart.reconcile` — a run keeps to that
-/

namespace SpriteStage

set_option autoImplicit false

namespace Session

/--
Visitors alone have made the roster and the sprites that do not perform: in the store as it is, and
in the store as it was at each event.
-/
structure Apart (origin : Store) (script : List Visit) (s : Session) : Prop where
  visits : s.visits = remaining s.now script
  store : s.store.AgreesBut origin.ids (origin.visited (arrivals s.now script))
  journal : ∀ entry ∈ s.journal, ∃ time, entry.event.time = .ofMillis time ∧
    entry.store.AgreesBut origin.ids (origin.visited (arrivals time script))

variable {origin : Store} {script : List Visit} {s : Session}

namespace Apart

theorem start (store : Store) (script : List Visit) : Apart store script (.start store script) := by
  refine ⟨(remaining_zero script).symm, ?_, fun entry mem => absurd mem (Array.not_mem_empty _)⟩
  rw [show (Session.start store script).now = 0 from rfl, arrivals_zero]
  exact .refl store.ids store

theorem emit (h : Apart origin script s) {event : Event} (now : event.time = .ofMillis s.now) :
    Apart origin script (s.emit event) := by
  refine ⟨h.visits, h.store, fun entry mem => ?_⟩
  rcases Array.mem_push.mp mem with before | rfl
  · exact h.journal entry before
  · exact ⟨s.now, now, h.store⟩

theorem changeStore (h : Apart origin script s) {change : Store → Store}
    (keeps : ∀ {other : Store}, s.store.AgreesBut origin.ids other →
      (change s.store).AgreesBut origin.ids other) :
    Apart origin script (s.changeStore change) :=
  ⟨h.visits, keeps h.store, h.journal⟩

theorem advanceTo (h : Apart origin script s) {time : Nat} (later : s.now ≤ time) :
    Apart origin script (s.advanceTo time) := by
  obtain ⟨come, stay⟩ := arrivals_append later script
  refine ⟨?_, ?_, ?_⟩
  · rw [visits_advanceTo, h.visits, stay, now_advanceTo]
  · rw [store_advanceTo, h.visits, now_advanceTo, ← come, Store.visited_append]
    exact h.store.visited _
  · rw [journal_advanceTo]
    exact h.journal

theorem pause (h : Apart origin script s) (ms : Int64) : Apart origin script (s.pause ms) := by
  unfold Session.pause
  split
  · exact h
  · exact h.advanceTo (Nat.le_add_right _ _)

theorem performStep (h : Apart origin script s) {id : SpriteId} (member : id ∈ origin.ids)
    (step : Step) : Apart origin script (s.performStep id step) := by
  cases step with
  | enter state => exact ⟨h.visits, h.store, h.journal⟩
  | showBubble bubble time =>
    refine emit (changeStore h fun agree => ?_) rfl
    exact agree.modify member fun sprite => sprite.id_withBubble (some bubble)
  | clearBubble =>
    refine emit (changeStore h fun agree => ?_) rfl
    exact agree.modify member fun sprite => sprite.id_withBubble none
  | commit pose =>
    refine emit (changeStore h fun agree => ?_) rfl
    exact agree.modify member fun sprite => sprite.id_withPose pose
  | wait ms => exact h

end Apart

theorem keeps_apart (origin : Store) (script : List Visit) :
    Keeps origin.ids (Apart origin script) :=
  ⟨fun step h member => h.performStep member step, fun h later => h.advanceTo later⟩

theorem Apart.reconcile (h : Apart origin script s) (threshold : Float) (pause : Int64)
    (snapshot : Snapshot) (poses : List (SpriteId × Pose)) :
    Apart origin script (s.reconcile threshold pause snapshot poses).session := by
  refine foldl_reconcilePair_induction (P := fun r => Apart origin script r.session)
    (pairs poses.length) h ?_
  intro r pair collision _ apart _
  exact (apart.pause pause).emit rfl

end Session

end SpriteStage
