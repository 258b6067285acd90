import SpriteStage.Proofs.Collision.Reconcile
import SpriteStage.Proofs.Performance.Invariant
import SpriteStage.Proofs.Performance.Merge
import SpriteStage.Proofs.Performance.Solo
import SpriteStage.Stage.Play

/-! # The journal of a play

A play announces its beginning, then the performances, then the collisions, then its end. The
performances are those of the sprites performing alone, in whatever order the turns are taken.

* `Stage.solo` — a sprite of a stage performs alone
* `Stage.performed_events` — what has been announced when the last sprite has finished
* `Stage.putBack_eq` — where those who overlap are put back from
* `Stage.events_conclude`, `Stage.playIn_events` — everything that a play announces
* `Stage.parts_playIn`, `Stage.own_playIn` — its parts, and what it tells of one sprite
-/

namespace SpriteStage

set_option autoImplicit false

namespace Stage

/-! ## Sprites performing alone -/

/-- A sprite of a stage performs alone, from time zero and from the pose that it is in. -/
def solo (stage : Stage) (sprite : Sprite) : Session × Pose :=
  (Session.start stage.store []).performAlone sprite.id stage.config.repeatDelay
    ((stage.program? sprite.id).getD .empty).compile sprite.pose

/-- What each sprite of the roster announces when it performs alone. -/
def soloLogs (stage : Stage) : List (List Event) :=
  stage.store.sprites.map fun sprite => (stage.solo sprite).1.events

theorem blocksOf_eq (stage : Stage) (sprite : Sprite) :
    stage.blocksOf sprite = ((stage.program? sprite.id).getD .empty).compile := by
  rw [blocksOf]
  cases stage.program? sprite.id <;> rfl

theorem performanceOf_eq (stage : Stage) (sprite : Sprite) :
    stage.performanceOf sprite = performance stage.config.repeatDelay
      ((stage.program? sprite.id).getD .empty).compile sprite.pose := by
  rw [performanceOf, blocksOf_eq]

theorem events_solo (stage : Stage) (sprite : Sprite) :
    (stage.solo sprite).1.events = trace sprite.id 0 none (stage.performanceOf sprite).1 := by
  rw [solo, Session.events_performAlone, Session.events_start, List.nil_append, performanceOf_eq]
  rfl

theorem pose_solo (stage : Stage) (sprite : Sprite) :
    (stage.solo sprite).2 = (stage.performanceOf sprite).2 := by
  rw [performanceOf_eq]
  rfl

theorem finalPose_solo (stage : Stage) (sprite : Sprite) :
    (stage.solo sprite).2 = (stage.solo sprite).1.events.foldl Event.poseAfter sprite.pose := by
  rw [events_solo, performanceOf_eq, solo, Session.finalPose_performAlone]
  rfl

/-! ## Sprites performing together -/

theorem strict_performersOf (stage : Stage) (roster : List Sprite) :
    (stage.performersOf roster).Pairwise fun p q => p.place < q.place := by
  rw [performersOf, List.pairwise_iff_getElem]
  intro i j hi hj less
  simpa using less

theorem deadline_performersOf (stage : Stage) (roster : List Sprite) :
    ∀ p ∈ stage.performersOf roster, p.deadline = none := by
  intro p mem
  obtain ⟨place, there, rfl⟩ := List.mem_mapIdx.mp mem
  rfl

/-- What the performer at a place has to announce is what the sprite announces alone. -/
theorem agenda_performersOf (stage : Stage) (place : Nat) :
    agenda place 0 (stage.performersOf stage.store.sprites) = (stage.soloLogs[place]?).getD [] := by
  by_cases there : place < stage.store.sprites.length
  · have member : ⟨stage.store.sprites[place].id, place, none,
        (stage.performanceOf stage.store.sprites[place]).1⟩ ∈
        stage.performersOf stage.store.sprites :=
      List.mem_iff_getElem.mpr ⟨place, by simpa [performersOf] using there, by simp [performersOf]⟩
    have own := agenda_of_mem (stage.strict_performersOf _) member 0
    simpa [soloLogs, there, events_solo, Performer.trace] using own
  · have nobody : headcount place (stage.performersOf stage.store.sprites) = 0 := by
      refine headcount_eq_zero fun p mem here => there ?_
      obtain ⟨i, hi, rfl⟩ := List.mem_iff_getElem.mp mem
      simp only [performersOf, List.getElem_mapIdx, List.length_mapIdx] at here hi
      exact here ▸ hi
    rw [agenda_of_headcount nobody, List.getElem?_eq_none (by simpa [soloLogs] using there)]
    rfl

theorem allOf_performersOf (stage : Stage) :
    AllOf stage.store.ids (stage.performersOf stage.store.sprites) := by
  intro p mem
  obtain ⟨place, there, rfl⟩ := List.mem_mapIdx.mp mem
  exact List.mem_map_of_mem (List.getElem_mem there)

/-! ### Merged logs -/

/-- An event that comes from a place tells of the sprite that stands there. -/
theorem sprite?_turn (stage : Stage) {turns : List (Nat × Event)}
    (own : ∀ place, fromPlace place turns = (stage.soloLogs[place]?).getD [])
    {turn : Nat × Event} (mem : turn ∈ turns) :
    ∃ sprite, stage.store.sprites[turn.1]? = some sprite ∧ turn.2.sprite? = some sprite.id := by
  have shown : turn.2 ∈ fromPlace turn.1 turns := mem_fromPlace.mpr mem
  rw [own, soloLogs, List.getElem?_map] at shown
  cases there : stage.store.sprites[turn.1]? with
  | none =>
    rw [there] at shown
    cases shown
  | some sprite =>
    rw [there, Option.map_some, Option.getD_some, events_solo] at shown
    exact ⟨sprite, rfl, sprite?_trace shown⟩

/-- Merged logs tell of the sprites of the roster and of nothing else. -/
theorem sprite?_merged (stage : Stage) {byPlace : Prop} {merged : List Event}
    (h : MergedBy byPlace stage.soloLogs merged) {event : Event} (shown : event ∈ merged) :
    ∃ sprite ∈ stage.store.sprites, event.sprite? = some sprite.id := by
  obtain ⟨turns, rfl, -, own⟩ := h
  obtain ⟨turn, mem, rfl⟩ := List.mem_map.mp shown
  obtain ⟨sprite, there, about⟩ := stage.sprite?_turn own mem
  exact ⟨sprite, List.mem_of_getElem? there, about⟩

/-- What merged logs tell of a sprite is what it announces alone. -/
theorem filter_merged {stage : Stage} (distinct : stage.store.ids.Nodup) {byPlace : Prop}
    {merged : List Event} (h : MergedBy byPlace stage.soloLogs merged) {sprite : Sprite}
    (member : sprite ∈ stage.store.sprites) :
    (merged.filter fun event => event.sprite? = some sprite.id) = (stage.solo sprite).1.events := by
  obtain ⟨turns, rfl, -, own⟩ := h
  obtain ⟨place, here⟩ := List.mem_iff_getElem?.mp member
  have inside : place < stage.store.ids.length := by
    rw [Store.ids, List.length_map]
    exact (List.getElem?_eq_some_iff.mp here).1
  have about : ∀ turn ∈ turns, turn.2.sprite? = some sprite.id ↔ turn.1 = place := by
    intro turn mem
    obtain ⟨other, there, tells⟩ := stage.sprite?_turn own mem
    have same : other.id = sprite.id ↔ place = turn.1 := by
      rw [← List.getElem?_inj inside distinct, Store.ids, List.getElem?_map, List.getElem?_map,
        here, there, Option.map_some, Option.map_some, Option.some_inj]
      exact eq_comm
    rw [tells, Option.some_inj, same]
    exact eq_comm
  have byPlace : (turns.filter fun turn => turn.2.sprite? = some sprite.id) =
      turns.filter fun turn => turn.1 = place :=
    List.filter_congr fun turn mem => decide_eq_decide.mpr (about turn mem)
  have part := own place
  rw [fromPlace, ← byPlace, soloLogs, List.getElem?_map, here] at part
  rw [List.filter_map]
  exact part

variable (stage : Stage) (order : TurnOrder) (limit : Option Nat) (runId : RunId)
  (startedAt : Timestamp) (visits : List Visit)

/-- When the last sprite has finished, the merged logs of all sprites have been announced. -/
theorem performed_events :
    ∃ merged : List Event,
      (stage.performed order limit runId visits).events =
        .playStarted runId (UInt64.ofNat stage.store.size) :: merged ∧
      MergedBy (order = .byRoster ∧ limit = none) stage.soloLogs merged := by
  have strict := stage.strict_performersOf stage.store.sprites
  obtain ⟨turns, shows, ordered⟩ := Session.performAll_shows order limit
    (s := (Session.start stage.store visits).emit
      (.playStarted runId (UInt64.ofNat stage.store.size)))
    (distinct_of_strict strict) (stage.deadline_performersOf _) (strict.imp Nat.le_of_lt)
  refine ⟨turns.map Prod.snd, ?_, turns, rfl, ordered, fun place => ?_⟩
  · rw [performed, shows.events, Session.events_emit, Session.events_start]
    rfl
  · have own := shows.agenda place
    rw [show agenda place _ [] = [] from rfl, List.append_nil] at own
    exact own.symm.trans (stage.agenda_performersOf place)

/-! ## The end of a play -/

theorem events_conclude (r : Reconciliation) :
    (conclude runId startedAt r).session.events =
      r.session.events ++ [.playFinished runId r.session.elapsed] := by
  rw [conclude, Session.events_settle, Session.events_emit, Session.events_changeStore]
  rfl

theorem journal_conclude (r : Reconciliation) :
    (conclude runId startedAt r).session.journal = r.session.journal.push
      ⟨.playFinished runId r.session.elapsed, r.session.store.publish r.poses⟩ := by
  rw [conclude, Session.journal_settle]
  rfl

theorem sprites_conclude (r : Reconciliation) :
    (conclude runId startedAt r).outcome.sprites = (r.session.store.publish r.poses).sprites := rfl

/-- Those that overlap are put back from the poses in which the sprites end when they perform alone. -/
theorem putBack_eq (s : Session) :
    stage.putBack s = s.reconcile stage.config.collisionThreshold stage.config.collisionPause
      stage.store.snapshot
      (stage.store.sprites.map fun sprite => (sprite.id, (stage.solo sprite).2)) := by
  simp only [putBack, finalPoses, pose_solo]

theorem ids_finalPoses : stage.finalPoses.map Prod.fst = stage.store.ids := by
  rw [finalPoses, List.map_map]
  rfl

theorem ids_putBack (s : Session) : (stage.putBack s).poses.map Prod.fst = stage.store.ids :=
  (Session.ids_reconcile _ _ _ s _).trans stage.ids_finalPoses

/-- After the performances, a play announces its collisions and then its end. -/
theorem playIn_events :
    ∃ resolved : List Event,
      (stage.playIn order limit runId startedAt visits).session.events =
        (stage.performed order limit runId visits).events ++ resolved ++
          [.playFinished runId (stage.playIn order limit runId startedAt visits).outcome.elapsed] ∧
      resolved.map Event.collision? =
        (stage.playIn order limit runId startedAt visits).outcome.collisions.map some := by
  obtain ⟨resolved, events, same⟩ := Session.reconcile_events stage.config.collisionThreshold
    stage.config.collisionPause stage.store.snapshot (stage.performed order limit runId visits)
    stage.finalPoses
  refine ⟨resolved, ?_, same⟩
  rw [playIn, events_conclude, putBack, events]
  rfl

/-- The log of a play: its beginning, the merged performances, the collisions and its end. -/
theorem parts_playIn :
    ∃ merged resolved : List Event,
      (stage.playIn order limit runId startedAt visits).session.events =
        (.playStarted runId (UInt64.ofNat stage.store.size) :: merged) ++ (resolved ++
          [.playFinished runId (stage.playIn order limit runId startedAt visits).outcome.elapsed]) ∧
      MergedBy (order = .byRoster ∧ limit = none) stage.soloLogs merged ∧
      resolved.map Event.collision? =
        (stage.playIn order limit runId startedAt visits).outcome.collisions.map some := by
  obtain ⟨merged, performed, isMerge⟩ := stage.performed_events order limit runId visits
  obtain ⟨resolved, events, same⟩ := stage.playIn_events order limit runId startedAt visits
  refine ⟨merged, resolved, ?_, isMerge, same⟩
  rw [events, performed, List.append_assoc]

/-- What a play tells of a sprite is what the sprite announces alone. -/
theorem own_playIn {stage : Stage} (distinct : stage.store.ids.Nodup) {sprite : Sprite}
    (member : sprite ∈ stage.store.sprites) :
    ((stage.playIn order limit runId startedAt visits).session.events.filter
      fun event => event.sprite? = some sprite.id) = (stage.solo sprite).1.events := by
  obtain ⟨merged, resolved, log, isMerge, same⟩ :=
    stage.parts_playIn order limit runId startedAt visits
  have nothing : (resolved.filter fun event => event.sprite? = some sprite.id) = [] := by
    rw [List.filter_eq_nil_iff]
    intro event mem
    simp [sprite?_of_resolved same mem]
  have own := filter_merged distinct isMerge member
  rw [log, List.filter_append, List.filter_append, nothing]
  simpa [Event.sprite?] using own

end Stage

end SpriteStage
