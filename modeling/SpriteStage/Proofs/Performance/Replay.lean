import SpriteStage.Proofs.Collision.Reconcile
import SpriteStage.Proofs.Performance.FinalPose
import SpriteStage.Proofs.Performance.Invariant
import SpriteStage.Proofs.Session.Still

/-! # Replaying a log

The sprites can be told from the log: every event says what becomes of the sprite it is about. As
long as nobody else uses the store, the sprites there are those of the log, at every event.

* `Sprite.told`, `replay` — a sprite after an event, and a roster after a log
* `pose_told` — the last pose made known is the one that the sprite is in
* `Session.Faithful`, `Session.keeps_faithful` — the store is as its log tells
-/

namespace SpriteStage

set_option autoImplicit false

/-! ## What a log tells -/

/-- A sprite after an event; one that is put back goes to where it was at the beginning. -/
def Sprite.told (home : Position) (sprite : Sprite) : Event → Sprite
  | .poseCommitted id pose _ => if sprite.id = id then sprite.withPose pose else sprite
  | .messageShown id kind text _ _ =>
    if sprite.id = id then sprite.withBubble (some ⟨kind, text⟩) else sprite
  | .messageCleared id _ => if sprite.id = id then sprite.withBubble none else sprite
  | .collisionResolved first second _ =>
    if sprite.id = first ∨ sprite.id = second then sprite.withPosition home else sprite
  | _ => sprite

/-- A roster after a log, given the roster at the beginning. -/
def replay (roster : List Sprite) (log : List Event) : List Sprite :=
  roster.map fun sprite => log.foldl (Sprite.told sprite.position) sprite

@[simp] theorem Sprite.id_told (home : Position) (sprite : Sprite) (event : Event) :
    (sprite.told home event).id = sprite.id := by
  cases event <;> simp only [told] <;> split <;> rfl

theorem id_foldl_told (home : Position) (log : List Event) (sprite : Sprite) :
    (log.foldl (Sprite.told home) sprite).id = sprite.id := by
  induction log generalizing sprite with
  | nil => rfl
  | cons event rest ih => rw [List.foldl_cons, ih, Sprite.id_told]

theorem replay_append (roster : List Sprite) (log : List Event) (event : Event) :
    replay roster (log ++ [event]) = roster.map fun sprite =>
      (log.foldl (Sprite.told sprite.position) sprite).told sprite.position event := by
  simp only [replay, List.foldl_append, List.foldl_cons, List.foldl_nil]

theorem replay_of_quiet {event : Event} (quiet : ∀ home sprite, Sprite.told home sprite event = sprite)
    (roster : List Sprite) (log : List Event) :
    replay roster (log ++ [event]) = replay roster log := by
  rw [replay_append]
  simp only [quiet]
  rfl

/-- An event that tells of one sprite goes with a change to this sprite. -/
theorem sprites_modify_of_told {store : Store} {roster : List Sprite} {log : List Event}
    (same : store.sprites = replay roster log) {event : Event} {id : SpriteId}
    {change : Sprite → Sprite}
    (tells : ∀ home sprite, Sprite.told home sprite event =
      if sprite.id = id then change sprite else sprite) :
    (store.modify id change).sprites = replay roster (log ++ [event]) := by
  rw [replay_append, Store.modify, same, replay, List.map_map]
  refine List.map_congr_left fun sprite _ => ?_
  rw [Function.comp_apply, tells]

/-! ### Poses -/

theorem pose_told {home : Position} {sprite : Sprite} {event : Event}
    (noCollision : event.collision? = none) :
    (sprite.told home event).pose =
      if event.sprite? = some sprite.id then event.poseAfter sprite.pose else sprite.pose := by
  cases event with
  | collisionResolved first second time => cases noCollision
  | poseCommitted id pose time =>
    simp only [Sprite.told, Event.sprite?, Option.some_inj, Event.poseAfter, eq_comm (a := id)]
    split
    · rfl
    · rfl
  | messageShown id kind text time duration =>
    have same : (sprite.told home (.messageShown id kind text time duration)).pose = sprite.pose := by
      rw [Sprite.told]
      split
      · rfl
      · rfl
    rw [same]
    exact (ite_self _).symm
  | messageCleared id time =>
    have same : (sprite.told home (.messageCleared id time)).pose = sprite.pose := by
      rw [Sprite.told]
      split
      · rfl
      · rfl
    rw [same]
    exact (ite_self _).symm
  | _ => simp [Sprite.told, Event.sprite?]

/-- As long as nobody is put back, the events of a sprite itself tell where it is. -/
theorem pose_foldl_told {home : Position} {log : List Event}
    (noCollision : ∀ event ∈ log, event.collision? = none) (sprite : Sprite) :
    (log.foldl (Sprite.told home) sprite).pose =
      (log.filter fun event => event.sprite? = some sprite.id).foldl Event.poseAfter sprite.pose := by
  induction log generalizing sprite with
  | nil => rfl
  | cons event rest ih =>
    have others : ∀ later ∈ rest, later.collision? = none := fun later mem =>
      noCollision later (List.mem_cons_of_mem _ mem)
    rw [List.foldl_cons, ih others, Sprite.id_told, pose_told (noCollision event List.mem_cons_self),
      List.filter_cons]
    by_cases own : event.sprite? = some sprite.id
    · simp only [own, if_true, decide_true, List.foldl_cons]
    · simp only [own, if_false, decide_false, Bool.false_eq_true]

/-! ## The store and its log -/

namespace Session

/--
Nobody else changes the store, and it is as the log tells: now, and at each event as the log up to
this event tells.
-/
structure Faithful (origin : Store) (s : Session) : Prop where
  looks : ∀ visit ∈ s.visits, visit.request = .look
  store : s.store.sprites = replay origin.sprites s.events
  journal : ∀ (log : List Entry) (entry : Entry), log ++ [entry] <+: s.journal.toList →
    entry.store.sprites = replay origin.sprites ((log ++ [entry]).map Entry.event)

variable {origin : Store} {s : Session}

theorem faithful_start {visits : List Visit} (looks : ∀ visit ∈ visits, visit.request = .look) :
    Faithful origin (.start origin visits) := by
  refine ⟨looks, ?_, fun log entry initial => ?_⟩
  · rw [events_start, replay]
    exact (List.map_id' _).symm
  · have none := List.prefix_nil.mp initial
    cases log <;> cases none

namespace Faithful

theorem announce (h : Faithful origin s) {change : Store → Store} {event : Event}
    (tells : (change s.store).sprites = replay origin.sprites (s.events ++ [event])) :
    Faithful origin ((s.changeStore change).emit event) := by
  refine ⟨h.looks, ?_, fun log entry initial => ?_⟩
  · rw [events_emit, events_changeStore]
    exact tells
  · rw [emit, Array.toList_push, List.prefix_concat_iff] at initial
    rcases initial with all | before
    · obtain ⟨rfl, last⟩ := List.append_inj' all rfl
      rw [List.cons.injEq] at last
      rw [last.1, List.map_append]
      exact tells
    · exact h.journal log entry before

theorem emit (h : Faithful origin s) {event : Event}
    (quiet : ∀ home sprite, Sprite.told home sprite event = sprite) :
    Faithful origin (s.emit event) := by
  have unchanged : Faithful origin ((s.changeStore fun store => store).emit event) := by
    refine announce h ?_
    rw [replay_of_quiet quiet]
    exact h.store
  exact unchanged

theorem performStep (h : Faithful origin s) (id : SpriteId) (step : Step) :
    Faithful origin (s.performStep id step) := by
  cases step with
  | enter state => exact ⟨h.looks, h.store, h.journal⟩
  | showBubble bubble time => exact announce h (sprites_modify_of_told h.store fun _ _ => rfl)
  | clearBubble => exact announce h (sprites_modify_of_told h.store fun _ _ => rfl)
  | commit pose => exact announce h (sprites_modify_of_told h.store fun _ _ => rfl)
  | wait ms => exact h

theorem advanceTo (h : Faithful origin s) (time : Nat) : Faithful origin (s.advanceTo time) := by
  have still := still_advanceTo h.looks time
  refine ⟨fun visit mem => h.looks visit (still.visits visit mem), ?_, ?_⟩
  · rw [still.store, events_advanceTo]
    exact h.store
  · rw [journal_advanceTo]
    exact h.journal

end Faithful

theorem keeps_faithful (cast : List SpriteId) (origin : Store) : Keeps cast (Faithful origin) :=
  ⟨fun {_ id} step h _ => h.performStep id step, fun {_ time} h _ => h.advanceTo time⟩

end Session

end SpriteStage
