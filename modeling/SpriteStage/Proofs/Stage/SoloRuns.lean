import SpriteStage.Proofs.Stage.Play

/-! # A play and its sprites performing alone

Sprites that perform together do not get into each other's way: the part of a play that tells of the
performances is what they announce alone, merged by time and roster, and each of them ends in the
pose in which it ends alone.

* `performanceEvents` — the part of a play that tells of the performances
* `Stage.opening_playIn` — where it ends
* `Stage.merge_of_solo_logs` — it is the merge of the logs of the sprites performing alone
-/

namespace SpriteStage

set_option autoImplicit false

/-! ## The part that tells of the performances -/

/-- The event belongs to the end of a play, when all sprites have finished. -/
def Event.isAfterPerformances : Event → Bool
  | collisionResolved .. => true
  | playFinished .. => true
  | _ => false

/--
What a play announces between its beginning and the first collision that is resolved. If none is,
it is what the play announces between its beginning and its end.
-/
def performanceEvents (events : List Event) : List Event :=
  events.tail.takeWhile fun event => !event.isAfterPerformances

theorem Event.isAfterPerformances_of_sprite? {event : Event} {id : SpriteId}
    (h : event.sprite? = some id) : event.isAfterPerformances = false := by
  cases event <;> first | rfl | cases h

theorem Event.isAfterPerformances_of_collision? {event : Event} {collision : Collision}
    (h : event.collision? = some collision) : event.isAfterPerformances = true := by
  cases event <;> first | rfl | cases h

theorem takeWhile_resolved {resolved : List Event} {collisions : List Collision}
    (same : resolved.map Event.collision? = collisions.map some) (runId : RunId)
    (time : Duration) :
    (resolved ++ [Event.playFinished runId time]).takeWhile
      (fun event => !event.isAfterPerformances) = [] := by
  cases resolved with
  | nil => rfl
  | cons event later =>
    have first : event.collision? ∈ collisions.map some := by
      rw [← same]
      exact List.mem_cons_self
    obtain ⟨collision, -, eq⟩ := List.mem_map.mp first
    rw [List.cons_append, List.takeWhile_cons_of_neg]
    simp [Event.isAfterPerformances_of_collision? eq.symm]

namespace Stage

variable (stage : Stage)

variable (order : TurnOrder) (limit : Option Nat) (runId : RunId) (startedAt : Timestamp)
  (visits : List Visit)

/-- Up to the first collision or the end, a play announces what it does until all have finished. -/
theorem opening_playIn :
    ((stage.playIn order limit runId startedAt visits).session.events.takeWhile
      fun event => !event.isAfterPerformances) =
      (stage.performed order limit runId visits).events := by
  obtain ⟨merged, performed, isMerge⟩ := stage.performed_events order limit runId visits
  obtain ⟨resolved, events, collisions⟩ := stage.playIn_events order limit runId startedAt visits
  have during : ∀ event ∈ (stage.performed order limit runId visits).events,
      (!event.isAfterPerformances) = true := by
    intro event shown
    rw [performed] at shown
    rcases List.mem_cons.mp shown with rfl | shown
    · rfl
    · obtain ⟨sprite, -, about⟩ := stage.sprite?_merged isMerge shown
      rw [Event.isAfterPerformances_of_sprite? about]
      rfl
  rw [events, List.append_assoc, List.takeWhile_append_of_pos during,
    takeWhile_resolved collisions, List.append_nil]

/-- In any order of turns, the performances are those of the sprites performing alone. -/
theorem performanceEvents_playIn :
    MergedBy (order = .byRoster ∧ limit = none) stage.soloLogs
      (performanceEvents (stage.playIn order limit runId startedAt visits).session.events) := by
  obtain ⟨merged, performed, isMerge⟩ := stage.performed_events order limit runId visits
  obtain ⟨resolved, events, -⟩ := stage.playIn_events order limit runId startedAt visits
  have opening := stage.opening_playIn order limit runId startedAt visits
  rw [events, performed, List.cons_append, List.cons_append] at opening
  have part : performanceEvents (stage.playIn order limit runId startedAt visits).session.events
      = merged := by
    rw [performanceEvents, events, performed, List.cons_append, List.cons_append, List.tail_cons]
    exact (List.cons.inj opening).2
  rw [part]
  exact isMerge

/-! ## Merged by time and roster -/

/--
The performances of a play are what the sprites announce when they perform alone, merged by time and
roster where turns are taken in the order of the roster, and whatever visitors do. The poses that are
tested for collisions are those in which the sprites end when they perform alone, which they have
announced last. Turns are taken in this order by up to thirty sprites; in a larger crowd too, nothing
is lost, added or changed, and times do not go back.
-/
theorem merge_of_solo_logs (runId : RunId) (startedAt : Timestamp) (visits : List Visit) :
    let byRoster := stage.playIn .byRoster none runId startedAt visits
    let poses := stage.store.sprites.map fun sprite => (sprite.id, (stage.solo sprite).2)
    (byRoster.session.events.head? =
        some (.playStarted runId (UInt64.ofNat stage.store.size)) ∧
      ∀ merged, MergedBy True stage.soloLogs merged ↔
        merged = performanceEvents byRoster.session.events) ∧
    (byRoster = conclude runId startedAt
        ((stage.performed .byRoster none runId visits).reconcile stage.config.collisionThreshold
          stage.config.collisionPause stage.store.snapshot poses) ∧
      ∀ sprite ∈ stage.store.sprites, (stage.solo sprite).2 =
        (stage.solo sprite).1.events.foldl Event.poseAfter sprite.pose) ∧
    (stage.store.size ≤ 30 → stage.play runId startedAt visits = byRoster) ∧
    MergedBy False stage.soloLogs
      (performanceEvents (stage.play runId startedAt visits).session.events) := by
  intro byRoster poses
  have merge : MergedBy True stage.soloLogs (performanceEvents byRoster.session.events) :=
    (stage.performanceEvents_playIn .byRoster none runId startedAt visits).imp
      fun _ => ⟨rfl, rfl⟩
  refine ⟨⟨?_, fun merged => ⟨fun other => other.unique merge, ?_⟩⟩, ⟨?_, ?_⟩, ?_, ?_⟩
  · obtain ⟨merged, performed, -⟩ := stage.performed_events .byRoster none runId visits
    obtain ⟨resolved, events, -⟩ := stage.playIn_events .byRoster none runId startedAt visits
    rw [events, performed]
    rfl
  · rintro rfl
    exact merge
  · exact congrArg (conclude runId startedAt) (stage.putBack_eq _)
  · exact fun sprite _ => stage.finalPose_solo sprite
  · intro few
    rw [play, playWithin, TurnOrder.ofCount, if_pos few]
  · exact (stage.performanceEvents_playIn (.ofCount stage.store.size) none runId startedAt
      visits).imp False.elim

end Stage

end SpriteStage
