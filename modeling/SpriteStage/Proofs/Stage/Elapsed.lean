import SpriteStage.Proofs.Performance.Units
import SpriteStage.Proofs.Stage.Play

/-! # How long a play takes

A sprite takes the time that its blocks take, whoever performs beside it. A play takes as long as the
sprite that takes longest, and after that a pause for each collision.

* `Stage.playingTimeOf` — how long a sprite performs
* `Stage.now_performed` — when the last sprite has finished
* `Stage.elapsed_playIn` — how long the sprites and the play take
-/

namespace SpriteStage

set_option autoImplicit false

namespace Stage

/-- The milliseconds that the blocks of a sprite take. -/
def playingTimeOf (stage : Stage) (sprite : Sprite) : Nat :=
  playingTime stage.config.repeatDelay (stage.blocksOf sprite)

theorem now_solo (stage : Stage) (sprite : Sprite) :
    (stage.solo sprite).1.now = stage.playingTimeOf sprite := by
  have begins : (Session.start stage.store []).now = 0 := rfl
  rw [solo, Session.now_performAlone, begins, Nat.zero_add, playingTimeOf, blocksOf_eq]

theorem finish_performersOf (stage : Stage) (roster : List Sprite) :
    finish 0 (stage.performersOf roster) = (roster.map stage.playingTimeOf).foldr max 0 := by
  have ends : ∀ (place : Nat) (sprite : Sprite),
      Performer.endTime ⟨sprite.id, place, none, (stage.performanceOf sprite).1⟩ 0 =
        stage.playingTimeOf sprite := by
    intro place sprite
    rw [Performer.endTime, endTime_none, performanceOf, total_duration_performance, Nat.zero_add]
    rfl
  have times : ((stage.performersOf roster).map fun p => p.endTime 0) =
      roster.map stage.playingTimeOf := by
    apply List.ext_getElem
    · simp [performersOf]
    · intro place inside _
      simp [performersOf, ends]
  rw [finish, times]

variable (stage : Stage) (order : TurnOrder) (limit : Option Nat) (runId : RunId)
  (startedAt : Timestamp) (visits : List Visit)

theorem now_performed :
    (stage.performed order limit runId visits).now =
      (stage.store.sprites.map stage.playingTimeOf).foldr max 0 := by
  rw [performed, Session.now_performAll order limit (stage.deadline_performersOf _)]
  exact stage.finish_performersOf stage.store.sprites

/--
In any order of turns and whatever visitors do, each sprite takes the time that its blocks take, and
makes known as many poses as they do; the last of them comes when this time is over. The play takes as
long as the sprite that takes longest, and a pause for each collision; it ends when it tells so.
-/
theorem elapsed_playIn {stage : Stage} (distinct : stage.store.ids.Nodup) (order : TurnOrder)
    (limit : Option Nat) (runId : RunId) (startedAt : Timestamp) (visits : List Visit) :
    let run := stage.playIn order limit runId startedAt visits
    (∀ sprite ∈ stage.store.sprites,
      let blocks := stage.blocksOf sprite
      let time := repetitions blocks * delayLength stage.config.repeatDelay +
        (1 + repetitions blocks) * bubbleTime blocks
      let own := run.session.events.filter fun event => event.sprite? = some sprite.id
      stage.playingTimeOf sprite = time ∧ (stage.solo sprite).1.now = time ∧
      own = (stage.solo sprite).1.events ∧
      own.countP Event.isPose = (body blocks).length * (1 + repetitions blocks) + againCount blocks ∧
      own.getLast?.map Event.time = if blocks.isEmpty then none else some (.ofMillis time)) ∧
    run.outcome.elapsed = .ofMillis ((stage.store.sprites.map stage.playingTimeOf).foldr max 0 +
      delayLength stage.config.collisionPause * run.outcome.collisions.length) ∧
    run.session.events.getLast? = some (.playFinished runId run.outcome.elapsed) := by
  intro run
  refine ⟨fun sprite member => ?_, ?_, ?_⟩
  · intro blocks time own
    have solo : own = (stage.solo sprite).1.events :=
      own_playIn order limit runId startedAt visits distinct member
    have alone : own = trace sprite.id 0 none
        (performance stage.config.repeatDelay blocks sprite.pose).1 :=
      solo.trans (stage.events_solo sprite)
    refine ⟨rfl, stage.now_solo sprite, solo, ?_, ?_⟩
    · rw [alone, countP_isPose_trace, total_poses_performance]
      rfl
    · cases empty : blocks with
      | nil =>
        rw [alone, empty]
        simp [performance, sequence, walk, againCount, trace, Step.event?]
      | cons block rest =>
        have nonempty : blocks ≠ [] := by simp [empty]
        obtain ⟨last, ends⟩ := getLast?_performance sprite.id 0 stage.config.repeatDelay nonempty
          sprite.pose
        rw [alone, ends, Nat.zero_add]
        rfl
  · have resolved := Session.now_reconcile stage.config.collisionThreshold
      stage.config.collisionPause stage.store.snapshot
      (stage.performed order limit runId visits) stage.finalPoses
    rw [now_performed] at resolved
    exact congrArg Duration.ofMillis resolved
  · obtain ⟨resolved, events, -⟩ := stage.playIn_events order limit runId startedAt visits
    rw [events, List.getLast?_concat]

/-- Two sprites, of which the first goes through its walk and its thought twice again. -/
def refrain : Stage where
  config := .standard
  store := ⟨2, [.fresh ⟨1⟩ "Cat" ⟨0, 0⟩, .fresh ⟨2⟩ "Dog" ⟨15, 0⟩]⟩
  programs := [(⟨1⟩, ⟨[.moveBy (.number 4), .again (.number 2),
    .think (.text "Once more") (.number 100)]⟩)]

/-- Two rounds of a second each, three thoughts, and a collision, whoever drags the second sprite. -/
theorem elapsed_playIn_refrain :
    let run := refrain.playIn .byRoster none .nil ⟨0, 0⟩ [⟨50, .drag ⟨2⟩ ⟨900, 0⟩⟩]
    let cat : Sprite := .fresh ⟨1⟩ "Cat" ⟨0, 0⟩
    let own := run.session.events.filter fun event => event.sprite? = some cat.id
    refrain.store.ids.Nodup ∧ cat ∈ refrain.store.sprites ∧
      (refrain.solo cat).1.now = 2300 ∧ own.countP Event.isPose = 7 ∧
      own.getLast?.map Event.time = some (.ofMillis 2300) ∧
      run.outcome.elapsed = .ofMillis 3300 := by
  intro run cat own
  have distinct : refrain.store.ids.Nodup := by decide
  have member : cat ∈ refrain.store.sprites := by decide +kernel
  obtain ⟨sprites, elapsed, -⟩ := elapsed_playIn distinct .byRoster none .nil ⟨0, 0⟩
    [⟨50, .drag ⟨2⟩ ⟨900, 0⟩⟩]
  obtain ⟨-, alone, -, poses, last⟩ := sprites cat member
  exact ⟨distinct, member, alone.trans (by decide +kernel), poses.trans (by decide +kernel),
    last.trans (by decide +kernel), elapsed.trans (by decide +kernel)⟩

end Stage

end SpriteStage
