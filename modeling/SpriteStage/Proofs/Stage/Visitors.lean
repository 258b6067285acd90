import SpriteStage.Proofs.Performance.Apart
import SpriteStage.Proofs.Performance.Outline
import SpriteStage.Proofs.Stage.Play
import SpriteStage.Proofs.Store.Snapshot

/-! # Visitors of a play

Whatever visitors do to the store, a play takes the same course. What they do to the poses of sprites
who perform is undone when the poses are published: these are the poses in which the sprites end when
they perform alone, but for those that collide. The roster and all other sprites are the visitors'.

* `Stage.outline_performed`, `Stage.outline_putBack` — the course of a play without its visitors
* `Stage.apart_performed`, `Stage.apart_playIn` — the roster and the other sprites at any time
* `Stage.pose_playIn` — those who have performed, in the report
* `Stage.playIn_undisturbed` — all of this together
-/

namespace SpriteStage

set_option autoImplicit false

namespace Stage

variable (stage : Stage) (order : TurnOrder) (limit : Option Nat) (runId : RunId)
  (startedAt : Timestamp) (script : List Visit)

/-! ## The course of a play -/

theorem outline_performed (other : RunId) (others : List Visit) :
    (stage.performed order limit runId script).outline =
      (stage.performed order limit other others).outline := by
  rw [performed, performed, ← Session.performAll_outline, ← Session.performAll_outline,
    ← Session.emit_outline, ← Session.emit_outline]
  rfl

theorem outline_putBack {s t : Session} (same : s.outline = t.outline) :
    (stage.putBack s).outline = (stage.putBack t).outline := by
  rw [putBack, putBack, ← Session.reconcile_outline, ← Session.reconcile_outline, same]

theorem withoutRun_conclude {r r' : Reconciliation} (same : r.outline = r'.outline)
    (other : RunId) (startedAt' : Timestamp) :
    (conclude runId startedAt r).session.events.map Event.withoutRun =
      (conclude other startedAt' r').session.events.map Event.withoutRun := by
  have events := congrArg (fun r => r.session.events) same
  have now : r.session.now = r'.session.now := congrArg (fun r => r.session.now) same
  simp only [Reconciliation.outline, Session.events_outline] at events
  rw [events_conclude, events_conclude, List.map_append, List.map_append, events]
  simp only [List.map_cons, Event.withoutRun, Session.elapsed, now, List.map_nil]

/-! ## The roster and the other sprites -/

theorem apart_performed :
    Session.Apart stage.store script (stage.performed order limit runId script) := by
  have begin : Session.Apart stage.store script ((Session.start stage.store script).emit
      (.playStarted runId (UInt64.ofNat stage.store.size))) :=
    (Session.Apart.start stage.store script).emit Duration.ofMillis_zero.symm
  exact (Session.keeps_apart stage.store script).performAll order limit stage.allOf_performersOf
    (stage.deadline_performersOf _) begin

theorem apart_putBack :
    Session.Apart stage.store script
      (stage.putBack (stage.performed order limit runId script)).session :=
  (stage.apart_performed order limit runId script).reconcile _ _ _ _

theorem agrees_playIn :
    let r := stage.putBack (stage.performed order limit runId script)
    (r.session.store.publish r.poses).AgreesBut stage.store.ids
      (stage.store.visited (arrivals r.session.now script)) := by
  refine (stage.apart_putBack order limit runId script).store.publish fun id known => ?_
  rwa [ids_putBack] at known

/-- At each event of a play, visitors alone have made the roster and the other sprites. -/
theorem apart_playIn {entry : Entry}
    (mem : entry ∈ (stage.playIn order limit runId startedAt script).session.journal) :
    ∃ time, entry.event.time = .ofMillis time ∧
      entry.store.AgreesBut stage.store.ids (stage.store.visited (arrivals time script)) := by
  have apart := stage.apart_putBack order limit runId script
  rw [playIn, journal_conclude] at mem
  rcases Array.mem_push.mp mem with before | rfl
  · exact apart.journal entry before
  · exact ⟨_, rfl, stage.agrees_playIn order limit runId script⟩

/-! ## Events and collisions -/

theorem sprite?_playIn {event : Event}
    (shown : event ∈ (stage.playIn order limit runId startedAt script).session.events)
    {id : SpriteId} (about : event.sprite? = some id) : id ∈ stage.store.ids := by
  obtain ⟨merged, performed, isMerge⟩ := stage.performed_events order limit runId script
  obtain ⟨resolved, events, collisions⟩ := stage.playIn_events order limit runId startedAt script
  rw [events, performed, List.mem_append, List.mem_append, List.mem_cons] at shown
  rcases shown with ((rfl | performing) | resolving) | ending
  · cases about
  · obtain ⟨sprite, member, same⟩ := stage.sprite?_merged isMerge performing
    rw [same, Option.some_inj] at about
    exact about ▸ List.mem_map_of_mem member
  · have told : event.collision? ∈ resolved.map Event.collision? := List.mem_map_of_mem resolving
    rw [collisions] at told
    obtain ⟨collision, -, eq⟩ := List.mem_map.mp told
    cases event with
    | collisionResolved first second time => cases about
    | _ => cases eq
  · rw [List.mem_singleton.mp ending] at about
    cases about

theorem collisions_playIn {collision : Collision}
    (mem : collision ∈ (stage.playIn order limit runId startedAt script).outcome.collisions) :
    collision.first ∈ stage.store.ids ∧ collision.second ∈ stage.store.ids := by
  obtain ⟨pair, -, first, second⟩ := Session.isAt_reconcile _ _ _ _ _ collision mem
  rw [ids_finalPoses] at first second
  exact ⟨List.mem_of_getElem? first, List.mem_of_getElem? second⟩

/-! ## The report -/

/-- A sprite of the play that is still there in the end is reported in the pose it was given. -/
theorem pose_playIn {stage : Stage} (distinct : stage.store.ids.Nodup) {sprite : Sprite}
    (reported : sprite ∈ (stage.playIn order limit runId startedAt script).outcome.sprites)
    (performer : sprite.id ∈ stage.store.ids) :
    (sprite.id, sprite.pose) ∈ (stage.putBack (stage.performed order limit runId script)).poses := by
  rw [← stage.ids_putBack (stage.performed order limit runId script)] at distinct performer
  rw [playIn, sprites_conclude] at reported
  exact Store.mem_of_publish distinct reported performer

/-- Two plays are told alike, but for which run it is, and come to the same. -/
def Alike (a b : Run PlayReport) : Prop :=
  a.session.events.map Event.withoutRun = b.session.events.map Event.withoutRun ∧
    a.outcome.elapsed = b.outcome.elapsed ∧ a.outcome.collisions = b.outcome.collisions

/--
Whatever visitors do, a play takes the same course, in any order of turns. Take the poses in which the
sprites end when they perform alone, and put those back that overlap: visitors have no part in this,
and in these poses are, in the end, all who have performed and are still on the roster. The roster
itself is that of the visitors, at each event and in the report: who has been taken off it does not
come back. Who has come to it since stays as the visitors have made it, and has no part in any
performance or collision.
-/
theorem playIn_undisturbed {stage : Stage} (sound : stage.store.Sound) (order : TurnOrder)
    (limit : Option Nat) (runId other : RunId) (startedAt otherStart : Timestamp)
    (script others : List Visit) :
    let run := stage.playIn order limit runId startedAt script
    let poses := stage.store.sprites.map fun sprite => (sprite.id, (stage.solo sprite).2)
    let reconciled := (Session.start stage.store []).reconcile stage.config.collisionThreshold
      stage.config.collisionPause stage.store.snapshot poses
    Alike run (stage.playIn order limit other otherStart others) ∧
    run.outcome.collisions = reconciled.collisions ∧
    (∀ sprite ∈ run.outcome.sprites, sprite.id ∈ stage.store.ids →
      reconciled.poses.lookup sprite.id = some sprite.pose) ∧
    (∃ ended, run.outcome.elapsed = .ofMillis ended ∧
      let come := arrivals ended script
      let theirs := stage.store.visited come
      run.outcome.sprites.map Sprite.id = theirs.ids ∧
      (∀ id, id ∉ stage.store.ids →
        (run.outcome.sprites.find? fun sprite => sprite.id == id) = theirs.find? id) ∧
      (stage.store.issued.toNat + come.length < UInt64.size →
        (∀ before time id after, come = before ++ ⟨time, .remove id⟩ :: after →
          id ∈ (stage.store.visited before).ids → id ∉ run.outcome.sprites.map Sprite.id) ∧
        (∀ before time name position after, come = before ++ ⟨time, .add name position⟩ :: after →
          ((stage.store.visited before).add name position).1 ∉ stage.store.ids))) ∧
    (∀ entry ∈ run.session.journal, ∃ time, entry.event.time = .ofMillis time ∧
      entry.store.AgreesBut stage.store.ids (stage.store.visited (arrivals time script))) ∧
    (∀ event ∈ run.session.events, ∀ id, event.sprite? = some id → id ∈ stage.store.ids) ∧
    ∀ collision ∈ run.outcome.collisions,
      collision.first ∈ stage.store.ids ∧ collision.second ∈ stage.store.ids := by
  intro run poses reconciled
  have same := stage.outline_putBack (stage.outline_performed order limit runId script other others)
  have collisions := congrArg Reconciliation.collisions same
  have final := stage.agrees_playIn order limit runId script
  -- visitors have been in the session of the play, but they do not change what is put back
  have alone := Session.reconcile_congr stage.config.collisionThreshold stage.config.collisionPause
    stage.store.snapshot (stage.performed order limit runId script) (.start stage.store []) poses
  rw [← putBack_eq] at alone
  let ended := (stage.putBack (stage.performed order limit runId script)).session.now
  refine ⟨⟨?_, ?_, collisions⟩, alone.2, ?_,
    ⟨ended, rfl, final.ids, ?_, fun room => ⟨?_, ?_⟩⟩, ?_, ?_, ?_⟩
  · exact withoutRun_conclude runId startedAt same other otherStart
  · exact congrArg (fun r => r.session.elapsed) same
  · intro sprite reported performer
    have known := stage.pose_playIn order limit runId startedAt script sound.distinct reported
      performer
    rw [← alone.1]
    exact lookup_of_mem (stage.ids_putBack _ ▸ sound.distinct) known
  · exact fun id stranger => final.found id stranger
  · -- who has gone at some time is not on the roster of the visitors in the end
    intro before time id after split there
    rw [split] at room
    have gone := Store.not_mem_visited sound room there
    rw [← split, ← final.ids] at gone
    exact gone
  · intro before time name position after split
    rw [split] at room
    exact Store.add_not_mem sound room
  · exact fun entry => stage.apart_playIn order limit runId startedAt script
  · exact fun event shown id => stage.sprite?_playIn order limit runId startedAt script shown
  · exact fun collision => stage.collisions_playIn order limit runId startedAt script

/--
Three sprites. The first walks and greets, twice with a delay between; the second turns round and
comes to where the first will be; the third thinks before it moves.
-/
def encounter : Stage where
  config := .standard
  store := ⟨3, [.fresh ⟨1⟩ "Cat" ⟨0, 0⟩, .fresh ⟨2⟩ "Dog" ⟨100, 0⟩, .fresh ⟨3⟩ "Owl" ⟨500, 500⟩]⟩
  programs := [
    (⟨1⟩, ⟨[.moveBy (.number 40), .speak (.text "Hello") (.number 100), .again (.number 1)]⟩),
    (⟨2⟩, ⟨[.turnBy (.number 90), .goTo (.number 85) (.number 0)]⟩),
    (⟨3⟩, ⟨[.think (.text "Who?") (.number 300), .moveBy (.number 7)]⟩)]

/--
While the first sprite greets, visitors take its bubble away and give it another pose. The third is
taken off the roster in the middle of its thought, which it goes on to tell of, and a fourth comes to
where the other two meet. More is changed while these are put back.
-/
theorem playIn_undisturbed_encounter :
    let script : List Visit := [
      ⟨0, .drag ⟨1⟩ ⟨900, 900⟩⟩,
      ⟨50, .setBubble ⟨1⟩ none⟩,
      ⟨50, .commitPose ⟨1⟩ ⟨⟨700, 700⟩, 45⟩⟩,
      ⟨100, .remove ⟨3⟩⟩,
      ⟨150, .add "Fox" ⟨80, 0⟩⟩,
      ⟨1100, .setAngle ⟨2⟩ 1⟩,
      ⟨1500, .publish [(⟨1⟩, ⟨⟨3, 3⟩, 3⟩), (⟨3⟩, ⟨⟨3, 3⟩, 3⟩)]⟩,
      ⟨2000, .drag ⟨2⟩ ⟨300, 300⟩⟩]
    let run := encounter.playIn .byRoster none .nil ⟨0, 0⟩ script
    let alone := encounter.store.sprites.map fun sprite => (sprite.id, (encounter.solo sprite).2)
    let reconciled := (Session.start encounter.store []).reconcile
      encounter.config.collisionThreshold encounter.config.collisionPause encounter.store.snapshot
      alone
    encounter.store.Sound ∧ Alike run (encounter.playIn .byRoster none .nil ⟨0, 0⟩ []) ∧
      alone = [(⟨1⟩, ⟨⟨80, 0⟩, 0⟩), (⟨2⟩, ⟨⟨85, 0⟩, 90⟩), (⟨3⟩, ⟨⟨507, 500⟩, 0⟩)] ∧
      run.outcome.collisions = reconciled.collisions ∧ reconciled.collisions = [⟨⟨1⟩, ⟨2⟩⟩] ∧
      (∀ sprite ∈ run.outcome.sprites, sprite.id ∈ encounter.store.ids →
        reconciled.poses.lookup sprite.id = some sprite.pose) ∧
      (run.outcome.sprites.map fun sprite => (sprite.id, sprite.pose)) =
        [(⟨1⟩, ⟨⟨0, 0⟩, 0⟩), (⟨2⟩, ⟨⟨100, 0⟩, 90⟩), (⟨4⟩, ⟨⟨80, 0⟩, 0⟩)] ∧
      (run.session.events.filter fun event => event.sprite? = some ⟨3⟩) =
        [.messageShown ⟨3⟩ .thought "Who?" (.ofMillis 0) (.ofMillis 300),
          .messageCleared ⟨3⟩ (.ofMillis 300),
          .poseCommitted ⟨3⟩ ⟨⟨500, 500⟩, 0⟩ (.ofMillis 300),
          .poseCommitted ⟨3⟩ ⟨⟨507, 500⟩, 0⟩ (.ofMillis 300)] := by
  intro script run alone reconciled
  have sound : encounter.store.Sound := ⟨by decide, by decide⟩
  obtain ⟨alike, collisions, reported, -⟩ :=
    playIn_undisturbed sound .byRoster none .nil .nil ⟨0, 0⟩ ⟨0, 0⟩ script []
  exact ⟨sound, alike, by decide +kernel, collisions, by decide +kernel, reported,
    by decide +kernel, by decide +kernel⟩

end Stage

end SpriteStage
