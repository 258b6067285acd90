import SpriteStage.Proofs.Performance.Bubbles
import SpriteStage.Proofs.Performance.Score
import SpriteStage.Proofs.Performance.States
import SpriteStage.Proofs.Store.Lookup

/-! # A performance as it is observed

Whoever looks at a sprite that performs alone finds it as its log tells up to that time: in the pose
that it has made known last, with the bubble that is open, or with none once one has been shown.

* `trace_doneBy`, `ordered_trace` — the log up to some time
* `Step.change`, `Session.tracks_sprite` — what the steps of a sprite make of it
* `foldl_told_trace` — their events tell the same
* `Request.Spares` — a request that leaves the sprite as it is
* `Session.performAlone_observed` — the states of a performance, and what an onlooker finds
-/

namespace SpriteStage

set_option autoImplicit false

/-! ## The log up to some time -/

theorem Event.isBy_of_isFrom {time late : Nat} {event : Event} (h : event.IsFrom late)
    (later : time < late) : event.isBy time = false := by
  obtain ⟨moment, le, same⟩ := h
  refine decide_eq_false ?_
  rw [same]
  simp only [Duration.ofMillis]
  omega

theorem trace_of_quick (id : SpriteId) (now : Nat) {step : Step} (quick : ∀ ms, step ≠ .wait ms)
    (rest : List Step) :
    trace id now none (step :: rest) = (step.event? id now).toList ++ trace id now none rest := by
  cases step with
  | wait ms => exact absurd rfl (quick ms)
  | _ => rfl

/-- The steps done by some time announce the log up to that time. -/
theorem trace_doneBy (id : SpriteId) (steps : List Step) {now time : Nat} (later : now ≤ time) :
    trace id now none (doneBy time now steps) = (trace id now none steps).filter (Event.isBy time) := by
  induction steps using Step.induction generalizing now with
  | nil => rfl
  | wait ms rest ih =>
    rw [doneBy, trace, Option.getD_none]
    split
    · next early =>
      refine (List.filter_eq_nil_iff.mpr fun event mem => ?_).symm
      rw [Event.isBy_of_isFrom (isFrom_trace mem) early]
      exact Bool.false_ne_true
    · next ended => exact ih (Nat.le_of_not_lt ended)
  | quick step rest quick ih =>
    have own : (step.event? id now).toList.filter (Event.isBy time) =
        (step.event? id now).toList := by
      refine List.filter_eq_self.mpr fun event mem => decide_eq_true ?_
      rw [Step.time_event (Option.mem_toList.mp mem)]
      exact Nat.mul_le_mul_right _ later
    rw [doneBy_of_quick _ _ quick, trace_of_quick _ _ quick, trace_of_quick _ _ quick,
      List.filter_append, own, ih later]

theorem ordered_trace (id : SpriteId) (now : Nat) (steps : List Step) :
    Ordered (trace id now none steps) := by
  induction steps using Step.induction generalizing now with
  | nil => exact .nil
  | wait ms rest ih => exact ih _
  | quick step rest quick ih =>
    have single : Ordered (step.event? id now).toList := by
      cases step.event? id now with
      | none => exact .nil
      | some event => exact List.pairwise_singleton _ _
    rw [trace_of_quick _ _ quick]
    refine List.pairwise_append.mpr ⟨single, ih now, fun a first b later => ?_⟩
    obtain ⟨time, le, same⟩ := isFrom_trace later
    rw [Step.time_event (Option.mem_toList.mp first), same]
    exact Nat.mul_le_mul_right _ le

/-! ## The sprite that the log tells of -/

/-- What a step does to the sprite that takes it. -/
def Step.change (sprite : Sprite) : Step → Sprite
  | showBubble bubble _ => sprite.withBubble (some bubble)
  | clearBubble => sprite.withBubble none
  | commit pose => sprite.withPose pose
  | _ => sprite

theorem Step.id_change (sprite : Sprite) (step : Step) : (step.change sprite).id = sprite.id := by
  cases step <;> rfl

theorem Session.tracks_sprite (id : SpriteId) :
    Session.Tracks id (fun sight => sight.store.find? id)
      fun found step => found.map fun sprite => step.change sprite := by
  intro s step
  have changed : ∀ change : Sprite → Sprite, (∀ sprite, (change sprite).id = sprite.id) →
      (s.store.modify id change).find? id = (s.store.find? id).map change := by
    intro change keeps
    rw [s.store.find?_modify id id keeps]
    simp
  cases step with
  | showBubble bubble time => exact changed _ fun _ => rfl
  | clearBubble => exact changed _ fun _ => rfl
  | commit pose => exact changed _ fun _ => rfl
  | _ => exact Option.map_id'.symm

/-- The request leaves a sprite as it is, whatever the store. -/
def Request.Spares (id : SpriteId) (request : Request) : Prop :=
  ∀ store : Store, (request.perform store).find? id = store.find? id

theorem Request.look_spares (id : SpriteId) : Request.look.Spares id :=
  fun _ => rfl

theorem Session.unnoticed_sprite {id : SpriteId} {visit : Visit} (spares : visit.request.Spares id) :
    Session.Unnoticed (fun sight => sight.store.find? id) visit :=
  fun s => spares s.store

theorem foldl_change_some (steps : List Step) (sprite : Sprite) :
    steps.foldl (fun found step => found.map fun sprite => step.change sprite) (some sprite) =
      some (steps.foldl Step.change sprite) := by
  induction steps generalizing sprite with
  | nil => rfl
  | cons step rest ih => exact ih _

theorem foldl_told_event {id : SpriteId} (home : Position) (now : Nat) (step : Step) {sprite : Sprite}
    (own : sprite.id = id) :
    (step.event? id now).toList.foldl (Sprite.told home) sprite = step.change sprite := by
  cases step <;> simp [Step.event?, Sprite.told, Step.change, own]

/-- Some steps make of their sprite what their events tell. -/
theorem foldl_told_trace {id : SpriteId} (home : Position) (now : Nat) (steps : List Step)
    {sprite : Sprite} (own : sprite.id = id) :
    (trace id now none steps).foldl (Sprite.told home) sprite = steps.foldl Step.change sprite := by
  induction steps using Step.induction generalizing now sprite with
  | nil => rfl
  | wait ms rest ih => exact ih _ own
  | quick step rest quick ih =>
    rw [trace_of_quick _ _ quick, List.foldl_append, foldl_told_event home now step own,
      List.foldl_cons]
    exact ih now ((step.id_change sprite).trans own)

theorem pose_foldl_change (steps : List Step) (sprite : Sprite) :
    (steps.foldl Step.change sprite).pose = steps.foldl Step.poseAfter sprite.pose := by
  induction steps generalizing sprite with
  | nil => rfl
  | cons step rest ih =>
    rw [List.foldl_cons, ih]
    cases step <;> rfl

/-- The pose that an event makes known. -/
def Event.pose? : Event → Option Pose
  | poseCommitted _ pose _ => some pose
  | _ => none

theorem foldl_poseAfter (log : List Event) (pose : Pose) :
    log.foldl Event.poseAfter pose = (log.filterMap Event.pose?).getLast?.getD pose := by
  induction log generalizing pose with
  | nil => rfl
  | cons event rest ih =>
    rw [List.foldl_cons, ih]
    cases event with
    | poseCommitted id next time =>
      have own : (Event.poseCommitted id next time).pose? = some next := rfl
      rw [List.filterMap_cons_some own, List.getLast?_cons]
      rfl
    | _ => rw [List.filterMap_cons_none rfl]; rfl

/-! ## What an onlooker finds -/

/-- The steps that a sprite has done by some time make of it what the log up to then tells. -/
theorem foldl_change_doneBy {id : SpriteId} (home : Position) (steps : List Step) (time : Nat)
    {sprite : Sprite} (own : sprite.id = id) :
    (doneBy time 0 steps).foldl Step.change sprite =
      ((trace id 0 none steps).filter (Event.isBy time)).foldl (Sprite.told home) sprite := by
  rw [← trace_doneBy id steps (Nat.zero_le time), foldl_told_trace home 0 _ own]

/-- It is in the pose that it has made known last, or in its old one if there is none. -/
theorem pose_foldl_doneBy (id : SpriteId) (steps : List Step) (time : Nat) (sprite : Sprite) :
    ((doneBy time 0 steps).foldl Step.change sprite).pose =
      (((trace id 0 none steps).filter (Event.isBy time)).filterMap Event.pose?).getLast?.getD
        sprite.pose := by
  rw [pose_foldl_change, ← poseAfter_trace id 0 none, trace_doneBy id steps (Nat.zero_le time),
    foldl_poseAfter]

namespace Session

theorem events_start_performAlone (store : Store) (visits : List Visit) (id : SpriteId) (delay : Int64)
    (blocks : List Block) (pose : Pose) :
    ((start store visits).performAlone id delay blocks pose).1.events =
      trace id 0 none (performance delay blocks pose).1 := by
  rw [events_performAlone, events_start, List.nil_append]
  rfl

variable {store : Store} {visits : List Visit} (sorted : visits.Pairwise fun a b => a.time ≤ b.time)
  (id : SpriteId) (delay : Int64) (blocks : List Block) (pose : Pose) {k : Nat} {visit : Visit}
  (there : visits[k]? = some visit)
include sorted there

theorem sight_state : ∃ sight,
    ((start store visits).performAlone id delay blocks pose).1.settle.sights[k]? = some sight ∧
      sight.stateOf id =
        if visit.time < playingTime delay blocks then .suspended else .completed := by
  have shown := view_sight (tracks_state id) (performance delay blocks pose).1 store sorted
    (fun visit _ => unnoticed_state id visit) there
  have begins : Sight.stateOf ⟨store, []⟩ id = .idle := rfl
  rw [← performAlone_eq_foldl, Array.getElem?_toList, begins, state_doneBy_performance] at shown
  exact Option.map_eq_some_iff.mp shown

theorem sight_sprite (spared : ∀ visit ∈ visits, visit.request.Spares id) {before : Sprite}
    (present : store.find? id = some before) :
    let run := ((start store visits).performAlone id delay blocks pose).1
    ∃ sight seen, run.settle.sights[k]? = some sight ∧ sight.store.find? id = some seen ∧
      seen.pose =
        ((run.events.filter (Event.isBy visit.time)).filterMap Event.pose?).getLast?.getD
          before.pose ∧
      Bubbles id run.events visit.time before seen := by
  intro run
  let steps := (performance delay blocks pose).1
  have own : before.id = id := by
    have same := List.find?_some (p := fun sprite : Sprite => sprite.id == id) present
    exact eq_of_beq same
  have log : run.events = trace id 0 none steps :=
    events_start_performAlone store visits id delay blocks pose
  have shown := view_sight (tracks_sprite id) steps store sorted
    (fun visit mem => unnoticed_sprite (spared visit mem)) there
  rw [← performAlone_eq_foldl, Array.getElem?_toList, present, foldl_change_some] at shown
  obtain ⟨sight, looked, found⟩ := Option.map_eq_some_iff.mp shown
  refine ⟨sight, _, looked, found, ?_, ?_⟩
  · rw [log]
    exact pose_foldl_doneBy id steps visit.time before
  · rw [log, foldl_change_doneBy before.position steps visit.time own]
    exact (Units.of_performance id 0 delay blocks pose).reflects (ordered_trace id 0 steps)
      visit.time before.position before own

end Session

/--
A sprite that performs alone begins by running, is suspended and runs again so many times, and is
completed in the end. Whoever comes meanwhile finds it suspended, and who comes when all delays are over
finds it completed. If nobody else changes the sprite, it is found in the pose that it has made known
last, and with the bubble that is open.
-/
theorem Session.performAlone_observed {store : Store} {visits : List Visit}
    (sorted : visits.Pairwise fun a b => a.time ≤ b.time) (id : SpriteId) (delay : Int64)
    (blocks : List Block) (pose : Pose) :
    let steps := (performance delay blocks pose).1
    let run := ((start store visits).performAlone id delay blocks pose).1
    (run = steps.foldl (carryOut id) (start store visits) ∧
      (start store visits).passed id steps = .idle :: .running ::
        ((List.replicate (pauseCount blocks) [PerformerState.suspended, .running]).flatten ++
          [.completed])) ∧
    run.now = playingTime delay blocks ∧
    (∀ (k : Nat) (visit : Visit), visits[k]? = some visit →
      ∃ sight, run.settle.sights[k]? = some sight ∧ sight.stateOf id =
        if visit.time < playingTime delay blocks then .suspended else .completed) ∧
    ∀ before, store.find? id = some before → (∀ visit ∈ visits, visit.request.Spares id) →
      ∀ (k : Nat) (visit : Visit), visits[k]? = some visit →
        ∃ sight seen, run.settle.sights[k]? = some sight ∧ sight.store.find? id = some seen ∧
          seen.pose =
            ((run.events.filter (Event.isBy visit.time)).filterMap Event.pose?).getLast?.getD
              before.pose ∧
          Bubbles id run.events visit.time before seen := by
  refine ⟨⟨?_, ?_⟩, ?_, ?_, ?_⟩
  · exact performAlone_eq_foldl _ id delay blocks pose
  · rw [passed_eq]
    exact statesFrom_performance delay blocks pose
  · exact (now_performAlone _ id delay blocks pose).trans (Nat.zero_add _)
  · exact fun _ _ there => sight_state sorted id delay blocks pose there
  · exact fun _ present spared _ _ there =>
      sight_sprite sorted id delay blocks pose there spared present

/-- A sprite that still shows what it thought before. -/
def daydreamer : Sprite :=
  (Sprite.fresh ⟨1⟩ "Cat" ⟨0, 0⟩).withBubble (some ⟨.thought, "Hm"⟩)

/--
The sprite speaks twice, with nothing in between. Before the first time its thought is still seen; where
one bubble follows on the other, the other one is seen; and when all is over, nothing is.
-/
theorem Session.performAlone_observed_encore :
    let store : Store := ⟨1, [daydreamer]⟩
    let visits : List Visit := [⟨5, .look⟩, ⟨30, .look⟩, ⟨50, .look⟩]
    let blocks : List Block := [.again 1, .bubble .speech "Hi" 20]
    let run := ((start store visits).performAlone ⟨1⟩ 10 blocks daydreamer.pose).1
    let finds := fun (k : Nat) (state : PerformerState) (bubble : Option Bubble) =>
      (∃ sight, run.settle.sights[k]? = some sight ∧ sight.stateOf ⟨1⟩ = state) ∧
      ∃ sight seen, run.settle.sights[k]? = some sight ∧ sight.store.find? ⟨1⟩ = some seen ∧
        seen.Shows bubble
    ((visits.Pairwise fun a b => a.time ≤ b.time) ∧ store.find? ⟨1⟩ = some daydreamer ∧
        ∀ visit ∈ visits, visit.request.Spares ⟨1⟩) ∧
      (start store visits).passed ⟨1⟩ (performance 10 blocks daydreamer.pose).1 =
        [.idle, .running, .suspended, .running, .suspended, .running, .suspended, .running,
          .completed] ∧
      run.now = 50 ∧
      finds 0 .suspended (some ⟨.thought, "Hm"⟩) ∧
      finds 1 .suspended (some ⟨.speech, "Hi"⟩) ∧
      finds 2 .completed none := by
  intro store visits blocks run finds
  have sorted : visits.Pairwise fun a b => a.time ≤ b.time := by decide
  have present : store.find? ⟨1⟩ = some daydreamer := by decide +kernel
  have spared : ∀ visit ∈ visits, visit.request.Spares ⟨1⟩ := by
    have looks : ∀ visit ∈ visits, visit.request = .look := by decide
    exact fun visit mem => looks visit mem ▸ Request.look_spares ⟨1⟩
  obtain ⟨⟨-, passed⟩, now, states, sprites⟩ :=
    performAlone_observed sorted ⟨1⟩ 10 blocks daydreamer.pose
  have log : run.events = [.messageShown ⟨1⟩ .speech "Hi" (.ofMillis 10) (.ofDelay 20),
      .messageCleared ⟨1⟩ (.ofMillis 30), .poseCommitted ⟨1⟩ daydreamer.pose (.ofMillis 30),
      .poseCommitted ⟨1⟩ daydreamer.pose (.ofMillis 30),
      .messageShown ⟨1⟩ .speech "Hi" (.ofMillis 30) (.ofDelay 20),
      .messageCleared ⟨1⟩ (.ofMillis 50), .poseCommitted ⟨1⟩ daydreamer.pose (.ofMillis 50)] := by
    rw [events_start_performAlone, trace_performance]
    rfl
  have told : TellsOf ⟨1⟩ run.events ⟨.speech, "Hi"⟩ (.ofMillis 30) (.ofMillis 50) := by
    refine ⟨.ofDelay 20, run.events.take 4, run.events.drop 6, ?_⟩
    rw [log]
    rfl
  have seen := sprites daydreamer present spared
  refine ⟨⟨sorted, present, spared⟩, passed, now, ⟨?_, ?_⟩, ⟨?_, ?_⟩, ⟨?_, ?_⟩⟩
  · exact states 0 _ rfl
  · obtain ⟨sight, sprite, looked, found, -, bubbles⟩ := seen 0 _ rfl
    refine ⟨sight, sprite, looked, found, ?_⟩
    have ⟨text, kind⟩ := bubbles.untouched (by rw [log]; decide +kernel)
    exact ⟨text, kind⟩
  · exact states 1 _ rfl
  · obtain ⟨sight, sprite, looked, found, -, bubbles⟩ := seen 1 _ rfl
    exact ⟨sight, sprite, looked, found, bubbles.opened _ ⟨_, _, told, by decide, by decide⟩⟩
  · exact states 2 _ rfl
  · obtain ⟨sight, sprite, looked, found, -, bubbles⟩ := seen 2 _ rfl
    refine ⟨sight, sprite, looked, found, bubbles.ended _ _ told ?_⟩
    rw [log]
    decide +kernel

end SpriteStage
