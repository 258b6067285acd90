import SpriteStage.Proofs.Performance.Units
import SpriteStage.Proofs.Stage.Play

/-! # The log of a play

What a play tells keeps to a protocol, whatever visitors do and in any order of turns: a beginning,
the units of the sprites side by side, the collisions, and an end, in the order of time.

* `Session.InOrder` — times do not go back in a log
* `Stage.inOrder_playIn`, `Stage.units_playIn` — the log of a play, and the part of one sprite
* `Stage.protocol_playIn` — the whole protocol
-/

namespace SpriteStage

set_option autoImplicit false

/-! ## The order of time -/

namespace Session

/-- Times have not gone back in the log, and nothing in it is later than now. -/
structure InOrder (s : Session) : Prop where
  ordered : s.events.Pairwise fun a b => a.time.nanos ≤ b.time.nanos
  past : ∀ event ∈ s.events, event.time.nanos ≤ s.elapsed.nanos

namespace InOrder

variable {s : Session}

theorem start (store : Store) (visits : List Visit) : InOrder (.start store visits) :=
  ⟨.nil, List.forall_mem_nil _⟩

theorem emit (h : InOrder s) {event : Event} (now : event.time = s.elapsed) :
    InOrder (s.emit event) := by
  refine ⟨?_, ?_⟩
  · rw [events_emit]
    apply List.pairwise_append.mpr
    refine ⟨h.ordered, List.pairwise_singleton _ _, ?_⟩
    intro a aMem b bMem
    rw [List.mem_singleton.mp bMem, now]
    exact h.past a aMem
  · intro a mem
    rw [events_emit, List.mem_append, List.mem_singleton] at mem
    rcases mem with before | rfl
    · exact h.past a before
    · rw [now]
      exact Nat.le_refl _

theorem changeStore (h : InOrder s) (change : Store → Store) : InOrder (s.changeStore change) :=
  ⟨h.ordered, h.past⟩

theorem advanceTo (h : InOrder s) {time : Nat} (le : s.now ≤ time) : InOrder (s.advanceTo time) := by
  refine ⟨?_, ?_⟩
  · rw [events_advanceTo]
    exact h.ordered
  · intro event mem
    rw [events_advanceTo] at mem
    have before := h.past event mem
    have later : s.elapsed.nanos ≤ (s.advanceTo time).elapsed.nanos :=
      Nat.mul_le_mul_right _ le
    omega

theorem pause (h : InOrder s) (ms : Int64) : InOrder (s.pause ms) := by
  unfold Session.pause
  split
  · exact h
  · exact h.advanceTo (Nat.le_add_right _ _)

theorem performStep (h : InOrder s) (id : SpriteId) (step : Step) :
    InOrder (s.performStep id step) := by
  cases step with
  | enter state => exact ⟨h.ordered, h.past⟩
  | showBubble bubble time => exact (h.changeStore _).emit rfl
  | clearBubble => exact (h.changeStore _).emit rfl
  | commit pose => exact (h.changeStore _).emit rfl
  | wait ms => exact h

theorem reconcile (h : InOrder s) (threshold : Float) (pause : Int64) (snapshot : Snapshot)
    (poses : List (SpriteId × Pose)) :
    InOrder (s.reconcile threshold pause snapshot poses).session := by
  refine foldl_reconcilePair_induction (P := fun r => InOrder r.session) (pairs poses.length) h ?_
  intro r pair collision _ before _
  exact (before.pause pause).emit rfl

end InOrder

theorem keeps_inOrder (cast : List SpriteId) : Keeps cast InOrder :=
  ⟨fun {_ id} step h _ => h.performStep id step, fun h le => h.advanceTo le⟩

end Session

/-! ## The log of a play -/

namespace Stage

variable (stage : Stage) (order : TurnOrder) (limit : Option Nat) (runId : RunId)
  (startedAt : Timestamp) (visits : List Visit)

theorem inOrder_playIn :
    (stage.playIn order limit runId startedAt visits).session.events.Pairwise
      fun a b => a.time.nanos ≤ b.time.nanos := by
  have begin : Session.InOrder ((Session.start stage.store visits).emit
      (.playStarted runId (UInt64.ofNat stage.store.size))) :=
    (Session.InOrder.start _ _).emit Duration.ofMillis_zero.symm
  have performed : Session.InOrder (stage.performed order limit runId visits) :=
    (Session.keeps_inOrder stage.store.ids).performAll order limit stage.allOf_performersOf
      (stage.deadline_performersOf _) begin
  have putBack : Session.InOrder (stage.putBack (stage.performed order limit runId visits)).session :=
    performed.reconcile _ _ _ _
  have ended : Session.InOrder ((stage.putBack (stage.performed order limit runId
      visits)).session.emit (.playFinished runId
        (stage.putBack (stage.performed order limit runId visits)).session.elapsed)) :=
    putBack.emit rfl
  rw [playIn, events_conclude, ← Session.events_emit]
  exact ended.ordered

theorem units_playIn {stage : Stage} (distinct : stage.store.ids.Nodup) (id : SpriteId) :
    Units id ((stage.playIn order limit runId startedAt visits).session.events.filter
      fun event => event.sprite? = some id) := by
  by_cases member : id ∈ stage.store.ids
  · obtain ⟨sprite, there, rfl⟩ := List.mem_map.mp member
    rw [own_playIn order limit runId startedAt visits distinct there, events_solo]
    exact .of_performance sprite.id 0 _ _ _
  · obtain ⟨merged, resolved, log, isMerge, same⟩ :=
      stage.parts_playIn order limit runId startedAt visits
    have stranger : ∀ event ∈ merged, event.sprite? ≠ some id := by
      intro event mem about
      obtain ⟨sprite, there, told⟩ := stage.sprite?_merged isMerge mem
      rw [about, Option.some_inj] at told
      exact member (told ▸ List.mem_map_of_mem there)
    have nothing : ((stage.playIn order limit runId startedAt visits).session.events.filter
        fun event => event.sprite? = some id) = [] := by
      rw [List.filter_eq_nil_iff, log]
      intro event mem
      simp only [List.mem_append, List.mem_cons, List.not_mem_nil, or_false] at mem
      rcases mem with (rfl | performing) | resolving | rfl
      · simp [Event.sprite?]
      · simpa using stranger event performing
      · simp [sprite?_of_resolved same resolving]
      · simp [Event.sprite?]
    rw [nothing]
    exact .nil

/-- Once a collision has been told of, no more is told of a single sprite. -/
theorem collisionsLast_playIn :
    (stage.playIn order limit runId startedAt visits).session.events.Pairwise
      fun a b => a.collision?.isSome → b.sprite? = none := by
  obtain ⟨merged, resolved, log, isMerge, same⟩ :=
    stage.parts_playIn order limit runId startedAt visits
  have early : ∀ event ∈ .playStarted runId (UInt64.ofNat stage.store.size) :: merged,
      event.collision? = none := by
    intro event mem
    rcases List.mem_cons.mp mem with rfl | performing
    · rfl
    · obtain ⟨sprite, -, about⟩ := stage.sprite?_merged isMerge performing
      exact Event.collision?_of_sprite? about
  have late : ∀ event ∈ resolved ++ [.playFinished runId
      (stage.playIn order limit runId startedAt visits).outcome.elapsed], event.sprite? = none := by
    intro event mem
    rcases List.mem_append.mp mem with resolving | ending
    · exact sprite?_of_resolved same resolving
    · rw [List.mem_singleton.mp ending]
      rfl
  rw [log]
  apply List.pairwise_append.mpr
  refine ⟨?_, ?_, ?_⟩
  · apply List.pairwise_of_forall_mem_list
    intro a aMem b _ told
    rw [early a aMem] at told
    cases told
  · apply List.pairwise_of_forall_mem_list
    intro a _ b bMem _
    exact late b bMem
  · intro a _ b bMem _
    exact late b bMem

theorem collision?_playIn :
    (stage.playIn order limit runId startedAt visits).session.events.filterMap Event.collision? =
      (stage.playIn order limit runId startedAt visits).outcome.collisions := by
  obtain ⟨merged, resolved, log, isMerge, same⟩ :=
    stage.parts_playIn order limit runId startedAt visits
  have quiet : merged.filterMap Event.collision? = [] := by
    rw [List.filterMap_eq_nil_iff]
    intro event performing
    obtain ⟨sprite, -, about⟩ := stage.sprite?_merged isMerge performing
    exact Event.collision?_of_sprite? about
  have told : resolved.filterMap Event.collision? =
      (stage.playIn order limit runId startedAt visits).outcome.collisions := by
    have unwrapped := congrArg (List.filterMap id) same
    simpa [List.filterMap_map, Function.comp_def] using unwrapped
  rw [log, List.filterMap_append, List.filterMap_cons, List.filterMap_append, quiet, told]
  simp [Event.collision?]

/-! ### Bubbles -/

theorem countP_shows_own (id : SpriteId) (log : List Event) :
    (log.filter fun event => event.sprite? = some id).countP (Event.shows id) =
      log.countP (Event.shows id) := by
  rw [List.countP_filter]
  refine List.countP_congr fun event _ => ?_
  cases event <;> simp [Event.shows, Event.sprite?]

theorem countP_clears_own (id : SpriteId) (log : List Event) :
    (log.filter fun event => event.sprite? = some id).countP (Event.clears id) =
      log.countP (Event.clears id) := by
  rw [List.countP_filter]
  refine List.countP_congr fun event _ => ?_
  cases event <;> simp [Event.clears, Event.sprite?]

/-- At any event of a play there is one bubble of a sprite that is not yet gone, or none. -/
theorem open_le_playIn {stage : Stage} (distinct : stage.store.ids.Nodup) (id : SpriteId)
    {before : List Event}
    (initial : before <+: (stage.playIn order limit runId startedAt visits).session.events) :
    before.countP (Event.clears id) ≤ before.countP (Event.shows id) ∧
      before.countP (Event.shows id) ≤ before.countP (Event.clears id) + 1 := by
  have units := units_playIn order limit runId startedAt visits distinct id
  have own := units.open_le (initial.filter fun event => event.sprite? = some id)
  rwa [countP_shows_own, countP_clears_own] at own

/-- When a collision is told of, all bubbles are gone. -/
theorem closed_playIn {stage : Stage} (distinct : stage.store.ids.Nodup) (id : SpriteId)
    {before : List Event} {event : Event} (told : event.collision?.isSome)
    (initial : before ++ [event] <+:
      (stage.playIn order limit runId startedAt visits).session.events) :
    before.countP (Event.shows id) = before.countP (Event.clears id) := by
  have units := (units_playIn order limit runId startedAt visits distinct id).closed
  have last := stage.collisionsLast_playIn order limit runId startedAt visits
  obtain ⟨after, log⟩ := initial
  rw [← log, List.append_assoc, List.pairwise_append] at last
  -- neither the collision nor anything behind it is about this sprite
  have own : ((before ++ [event] ++ after).filter fun event => event.sprite? = some id) =
      before.filter fun event => event.sprite? = some id := by
    have behind : ∀ later ∈ event :: after, ¬decide (later.sprite? = some id) = true := by
      intro later mem
      have nobody : later.sprite? = none := by
        rcases List.mem_cons.mp mem with rfl | mem
        · cases later with
          | collisionResolved first second time => rfl
          | _ => cases told
        · exact (List.pairwise_cons.mp last.2.1).1 later mem told
      simp [nobody]
    rw [List.append_assoc, List.filter_append, List.singleton_append,
      List.filter_eq_nil_iff.mpr behind, List.append_nil]
  rw [← log, own, countP_shows_own, countP_clears_own] at units
  exact units

/-! ### The whole protocol -/

/--
A play tells of its beginning first and of its end last, and in between of messages, poses and
collisions only, in the order of time. What it tells of a sprite comes in units, and before all
collisions, which are those of the report. So no bubble of a sprite appears before the last one is
gone, and none is left when the first collision is resolved.
-/
theorem protocol_playIn {stage : Stage} (distinct : stage.store.ids.Nodup) (order : TurnOrder)
    (limit : Option Nat) (runId : RunId) (startedAt : Timestamp) (visits : List Visit) :
    let run := stage.playIn order limit runId startedAt visits
    let log := run.session.events
    (∃ between, log = .playStarted runId (UInt64.ofNat stage.store.size) :: between ++
        [.playFinished runId run.outcome.elapsed] ∧
      ∀ event ∈ between, event.sprite?.isSome ∨ event.collision?.isSome) ∧
    log.Pairwise (fun a b => a.time.nanos ≤ b.time.nanos) ∧
    log.Pairwise (fun a b => a.collision?.isSome → b.sprite? = none) ∧
    log.filterMap Event.collision? = run.outcome.collisions ∧
    (∀ id, Units id (log.filter fun event => event.sprite? = some id)) ∧
    (∀ id before, before <+: log →
      before.countP (Event.clears id) ≤ before.countP (Event.shows id) ∧
        before.countP (Event.shows id) ≤ before.countP (Event.clears id) + 1) ∧
    ∀ id before event, event.collision?.isSome → before ++ [event] <+: log →
      before.countP (Event.shows id) = before.countP (Event.clears id) := by
  intro run log
  refine ⟨?_, ?_, ?_, ?_, ?_, ?_, ?_⟩
  · obtain ⟨merged, resolved, parts, isMerge, same⟩ :=
      stage.parts_playIn order limit runId startedAt visits
    refine ⟨merged ++ resolved, parts.trans (by simp [run]), ?_⟩
    · intro event mem
      rcases List.mem_append.mp mem with performing | resolving
      · obtain ⟨sprite, -, about⟩ := stage.sprite?_merged isMerge performing
        exact .inl (by simp [about])
      · have told : event.collision? ∈ resolved.map Event.collision? :=
          List.mem_map_of_mem resolving
        rw [same] at told
        obtain ⟨collision, -, eq⟩ := List.mem_map.mp told
        exact .inr (by simp [← eq])
  · exact stage.inOrder_playIn order limit runId startedAt visits
  · exact stage.collisionsLast_playIn order limit runId startedAt visits
  · exact stage.collision?_playIn order limit runId startedAt visits
  · exact units_playIn order limit runId startedAt visits distinct
  · exact fun id before => open_le_playIn order limit runId startedAt visits distinct id
  · exact fun id before event => closed_playIn order limit runId startedAt visits distinct id

/-- Two sprites that overlap, of which the first speaks for no time at all, and once again. -/
def echo : Stage where
  config := .standard
  store := ⟨2, [.fresh ⟨1⟩ "Cat" ⟨0, 0⟩, .fresh ⟨2⟩ "Dog" ⟨5, 0⟩]⟩
  programs := [(⟨1⟩, ⟨[.speak (.text "Hi") (.number (-5)), .again (.number 1)]⟩),
    (⟨2⟩, ⟨[.think (.text "Hm") (.number 20)]⟩)]

/-- The bubbles of the first sprite come and go at one time, and all are gone before the collision. -/
theorem protocol_playIn_echo :
    let log := (echo.playIn .byRoster none .nil ⟨0, 0⟩ [⟨20, .remove ⟨2⟩⟩]).session.events
    let before := log.take 11
    let resolved : Event := .collisionResolved ⟨1⟩ ⟨2⟩ (.ofMillis 2000)
    echo.store.ids.Nodup ∧ before ++ [resolved] <+: log ∧
      before.countP (Event.shows ⟨1⟩) = before.countP (Event.clears ⟨1⟩) ∧
      before.countP (Event.shows ⟨1⟩) = 2 ∧
      Units ⟨1⟩ (log.filter fun event => event.sprite? = some ⟨1⟩) ∧
      log.Pairwise (fun a b => a.time.nanos ≤ b.time.nanos) := by
  intro log before resolved
  have distinct : echo.store.ids.Nodup := by decide
  have initial : before ++ [resolved] <+: log := by decide +kernel
  obtain ⟨-, ordered, -, -, units, -, closed⟩ :=
    protocol_playIn distinct .byRoster none .nil ⟨0, 0⟩ [⟨20, .remove ⟨2⟩⟩]
  exact ⟨distinct, initial, closed ⟨1⟩ before resolved rfl initial, by decide +kernel, units ⟨1⟩,
    ordered⟩

end Stage

end SpriteStage
