import SpriteStage.Proofs.Collision.Posed
import SpriteStage.Proofs.Performance.Replay
import SpriteStage.Proofs.Stage.Play
import SpriteStage.Proofs.Store.Snapshot

/-! # Replaying a play

If nobody else changes the store, the log of a play tells everything about it: the sprites at each
event before the first collision, and those of the report.

* `Stage.faithful_performed` — the store is as the log tells until the last sprite has finished
* `Stage.posed_putBack` — the poses to be published are those that the log tells
* `Stage.replay_playIn` — the store and the report of a play, told from its log
-/

namespace SpriteStage

set_option autoImplicit false

open Store (posed posed_of_mem)

namespace Stage

variable (stage : Stage) (order : TurnOrder) (limit : Option Nat) (runId : RunId)
  (startedAt : Timestamp) (visits : List Visit)

/-! ## The performances -/

variable {visits} in
theorem faithful_performed (looks : ∀ visit ∈ visits, visit.request = .look) :
    Session.Faithful stage.store (stage.performed order limit runId visits) := by
  have begin : Session.Faithful stage.store ((Session.start stage.store visits).emit
      (.playStarted runId (UInt64.ofNat stage.store.size))) :=
    (Session.faithful_start looks).emit fun _ _ => rfl
  exact (Session.keeps_faithful stage.store.ids stage.store).performAll order limit
    stage.allOf_performersOf (stage.deadline_performersOf _) begin

/-- Before anybody is put back, the log tells of the pose in which a sprite has finished. -/
theorem pose_performed {stage : Stage} (distinct : stage.store.ids.Nodup) {sprite : Sprite}
    (member : sprite ∈ stage.store.sprites) :
    ((stage.performed order limit runId visits).events.foldl
      (Sprite.told sprite.position) sprite).pose = (stage.performanceOf sprite).2 := by
  obtain ⟨merged, performed, isMerge⟩ := stage.performed_events order limit runId visits
  have noCollision : ∀ event ∈ merged, event.collision? = none := by
    intro event mem
    obtain ⟨other, -, about⟩ := stage.sprite?_merged isMerge mem
    cases event <;> first | rfl | cases about
  have quiet : sprite.told sprite.position
      (.playStarted runId (UInt64.ofNat stage.store.size)) = sprite := rfl
  rw [performed, List.foldl_cons, quiet, pose_foldl_told noCollision,
    filter_merged distinct isMerge member, ← finalPose_solo, pose_solo]

/-! ## The collisions -/

/-- When sprites are put back, the poses to be published are those that the log tells. -/
theorem posed_putBack {stage : Stage} (distinct : stage.store.ids.Nodup) {s : Session}
    (finished : ∀ sprite ∈ stage.store.sprites,
      (s.events.foldl (Sprite.told sprite.position) sprite).pose = (stage.performanceOf sprite).2) :
    ∀ sprite ∈ stage.store.sprites,
      posed (stage.putBack s).poses (s.events.foldl (Sprite.told sprite.position) sprite) =
        (stage.putBack s).session.events.foldl (Sprite.told sprite.position) sprite := by
  refine (Session.foldl_reconcilePair_induction
    (P := fun r => r.poses.map Prod.fst = stage.store.ids ∧ ∀ sprite ∈ stage.store.sprites,
      posed r.poses (s.events.foldl (Sprite.told sprite.position) sprite) =
        r.session.events.foldl (Sprite.told sprite.position) sprite)
    (pairs stage.finalPoses.length) ⟨stage.ids_finalPoses, ?_⟩ ?_).2
  · intro sprite member
    have own : ((s.events.foldl (Sprite.told sprite.position) sprite).id,
        (stage.performanceOf sprite).2) ∈ stage.finalPoses := by
      rw [id_foldl_told]
      exact List.mem_map_of_mem member
    rw [posed_of_mem (stage.ids_finalPoses ▸ distinct) own, ← finished sprite member]
    rfl
  · rintro r pair collision - ⟨ids, told⟩ found
    refine ⟨(Session.ids_resolve _ _ r pair collision).trans ids, fun sprite member => ?_⟩
    have home : stage.store.snapshot.position?
        (s.events.foldl (Sprite.told sprite.position) sprite).id = some sprite.position := by
      rw [id_foldl_told]
      exact Store.position?_snapshot distinct member
    rw [posed_resolve (ids ▸ distinct) found home, Session.events_resolve, List.foldl_append,
      List.foldl_cons, List.foldl_nil, ← told sprite member, Sprite.told, Store.id_posed]

/-- What has been announced since the last sprite finished are collisions. -/
theorem collision?_putBack {s : Session} {entries : List Entry}
    (journal : (stage.putBack s).session.journal.toList = s.journal.toList ++ entries) :
    ∀ entry ∈ entries, entry.event.collision? ≠ none := by
  obtain ⟨resolved, events, collisions⟩ := Session.reconcile_events stage.config.collisionThreshold
    stage.config.collisionPause stage.store.snapshot s stage.finalPoses
  have together : s.events ++ entries.map Entry.event = s.events ++ resolved := by
    rw [← events, Session.events, ← List.map_append, ← journal]
    rfl
  have same := List.append_cancel_left together
  intro entry mem none
  have told : entry.event.collision? ∈ resolved.map Event.collision? :=
    List.mem_map_of_mem (same ▸ List.mem_map_of_mem mem)
  rw [collisions, none] at told
  obtain ⟨collision, -, eq⟩ := List.mem_map.mp told
  cases eq

/-! ## The report -/

variable {visits} in
/-- The report of a play is what its log tells. -/
theorem sprites_playIn {stage : Stage} (distinct : stage.store.ids.Nodup)
    (looks : ∀ visit ∈ visits, visit.request = .look) :
    (stage.playIn order limit runId startedAt visits).outcome.sprites =
      replay stage.store.sprites
        (stage.playIn order limit runId startedAt visits).session.events := by
  have faithful := stage.faithful_performed order limit runId looks
  have still := Session.still_reconcile faithful.looks stage.config.collisionThreshold
    stage.config.collisionPause stage.store.snapshot stage.finalPoses
  have told := posed_putBack distinct fun sprite =>
    pose_performed order limit runId visits distinct
  rw [playIn, sprites_conclude, events_conclude, replay_of_quiet fun _ _ => rfl, Store.publish_eq,
    putBack, still.store, faithful.store, replay, List.map_map, replay]
  exact List.map_congr_left told

variable {visits} in
/--
If visitors only look, a play can be told from its log, in any order of turns. At each event up to
the first collision, the sprites of the store are those that the log up to this event tells. While
sprites are put back the store does not change. The sprites of the report are those that the whole
log tells.
-/
theorem replay_playIn {stage : Stage} (distinct : stage.store.ids.Nodup) (order : TurnOrder)
    (limit : Option Nat) (runId : RunId) (startedAt : Timestamp)
    (looks : ∀ visit ∈ visits, visit.request = .look) :
    let run := stage.playIn order limit runId startedAt visits
    let performed := stage.performed order limit runId visits
    (∀ (log : List Entry) (entry : Entry), log ++ [entry] <+: run.session.journal.toList →
      (∀ earlier ∈ log ++ [entry], earlier.event.collision? = none) →
      entry.store.sprites = replay stage.store.sprites ((log ++ [entry]).map Entry.event)) ∧
    performed.Still (stage.putBack performed).session ∧
    run.outcome.sprites = replay stage.store.sprites run.session.events := by
  intro run performed
  have faithful := stage.faithful_performed order limit runId looks
  have still : performed.Still (stage.putBack performed).session :=
    Session.still_reconcile faithful.looks _ _ _ _
  have report := sprites_playIn order limit runId startedAt distinct looks
  refine ⟨fun log entry initial quiet => ?_, still, report⟩
  have whole : run.session.journal.toList = (stage.putBack performed).session.journal.toList ++
      [⟨.playFinished runId (stage.putBack performed).session.elapsed,
        (stage.putBack performed).session.store.publish (stage.putBack performed).poses⟩] := by
    rw [show run = conclude runId startedAt (stage.putBack performed) from rfl, journal_conclude,
      Array.toList_push]
  rw [whole, List.prefix_concat_iff] at initial
  rcases initial with all | before
  · -- the end of a play without collisions, when the poses have been published
    obtain ⟨-, last⟩ := List.append_inj' all rfl
    rw [all, ← whole, (List.cons.inj last).1]
    exact report
  · obtain ⟨entries, journal, -⟩ := still.journal
    have collisions := stage.collision?_putBack journal
    rw [journal] at before
    rcases List.prefix_or_prefix_of_prefix before (List.prefix_append _ entries) with inside | beyond
    · exact faithful.journal log entry inside
    · obtain ⟨rest, split⟩ := beyond
      cases rest with
      | nil => exact faithful.journal log entry ⟨[], by rw [← split, List.append_nil, List.append_nil]⟩
      | cons first more =>
        rw [← split, List.prefix_append_right_inj] at before
        have mem : first ∈ log ++ [entry] := by
          rw [← split]
          exact List.mem_append_right _ List.mem_cons_self
        exact absurd (quiet first mem) (collisions first (before.subset List.mem_cons_self))

/-- Two sprites that overlap, of which the first speaks, walks on and turns. -/
def greeting : Stage where
  config := .standard
  store := ⟨2, [.fresh ⟨1⟩ "Cat" ⟨0, 0⟩, .fresh ⟨2⟩ "Dog" ⟨8, 0⟩]⟩
  programs := [(⟨1⟩, ⟨[.speak (.text "Hello") (.number 100), .moveBy (.number 4),
    .turnBy (.number 90)]⟩)]

/-- The first sprite is put back, and keeps the angle that it has turned to. -/
theorem replay_playIn_greeting :
    let visits : List Visit := [⟨50, .look⟩]
    let run := greeting.playIn .byRoster none .nil ⟨0, 0⟩ visits
    greeting.store.ids.Nodup ∧ (∀ visit ∈ visits, visit.request = .look) ∧
      run.outcome.sprites = replay greeting.store.sprites run.session.events ∧
      run.outcome.sprites = [(Sprite.fresh ⟨1⟩ "Cat" ⟨0, 0⟩).withAngle 90,
        .fresh ⟨2⟩ "Dog" ⟨8, 0⟩] := by
  intro visits run
  have distinct : greeting.store.ids.Nodup := by decide
  have looks : ∀ visit ∈ visits, visit.request = .look := by decide
  have told := replay_playIn distinct .byRoster none .nil ⟨0, 0⟩ looks
  exact ⟨distinct, looks, told.2.2, by decide +kernel⟩

end Stage

end SpriteStage
