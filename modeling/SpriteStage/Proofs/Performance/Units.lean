import SpriteStage.Proofs.Performance.Finish
import SpriteStage.Proofs.Performance.Phrases

/-! # The units of a performance

A block makes its pose known, and a bubble is shown and taken away before that. So the events of a
sprite come in units, however its blocks go through each other again.

* `Units` — events that come in units
* `Phrases.units`, `Units.of_performance` — the events of phrases and of a performance do
* `Units.open_le`, `Units.closed` — no bubble appears before the last one is gone
* `Event.isPose`, `countP_isPose_trace`, `getLast?_performance` — the poses, and when the last comes
-/

namespace SpriteStage

set_option autoImplicit false

/-! ## Parts of a trace -/

theorem trace_append (id : SpriteId) (now : Nat) (first later : List Step) :
    trace id now none (first ++ later) =
      trace id now none first ++ trace id (endTime now none first) none later := by
  induction first generalizing now with
  | nil => rfl
  | cons step rest ih =>
    cases step with
    | wait ms => exact ih (now + delayLength ms)
    | _ => simp [trace, endTime, ih]

/-- Beginning and completing are not announced. -/
theorem trace_performance_eq (id : SpriteId) (now : Nat) (delay : Int64) (blocks : List Block)
    (pose : Pose) : trace id now none (performance delay blocks pose).1 =
      trace id now none (sequence delay blocks pose).1 := by
  have begins : trace id now none (performance delay blocks pose).1 =
      trace id now none ((sequence delay blocks pose).1 ++ [.enter .completed]) := rfl
  have ends : ∀ time, trace id time none [.enter .completed] = [] := fun _ => rfl
  rw [begins, trace_append, ends, List.append_nil]

/-! ## Units -/

/--
The events of a sprite in units: a pose alone, or a bubble that appears and is gone when its time is
over, and then a pose. No bubble is waited for longer than a delay can last.
-/
inductive Units (id : SpriteId) : List Event → Prop where
  | nil : Units id []
  | pose (pose : Pose) (time : Duration) {rest : List Event} (later : Units id rest) :
      Units id (.poseCommitted id pose time :: rest)
  | bubble (kind : BubbleKind) (text : String) (duration : Duration) (pose : Pose)
      {shown cleared time : Duration} {rest : List Event}
      (gone : cleared.nanos =
        shown.nanos + min duration.nanos (Duration.ofMillis longestDelay).nanos)
      (later : Units id rest) :
      Units id (.messageShown id kind text shown duration :: .messageCleared id cleared ::
        .poseCommitted id pose time :: rest)

/-! ### Steps that come in units -/

theorem over_delay (now : Nat) (time : Int64) :
    (Duration.ofMillis (now + delayLength time)).nanos = (Duration.ofMillis now).nanos +
      min (Duration.ofDelay time).nanos (Duration.ofMillis longestDelay).nanos := by
  simp only [Duration.ofMillis, Duration.ofDelay, delayLength]
  omega

/-- Steps in phrases are announced in units, whoever takes them and at whatever time. -/
theorem Phrases.units {steps : List Step} (h : Phrases steps) (id : SpriteId) (now : Nat) :
    Units id (trace id now none steps) := by
  induction h generalizing now with
  | nil => exact .nil
  | pose pose _ ih => exact .pose pose (.ofMillis now) (ih now)
  | pause ms _ ih => exact ih (now + delayLength ms)
  | bubble bubble time pose _ ih =>
    exact .bubble bubble.kind bubble.text (.ofDelay time) pose (over_delay now time)
      (ih (now + delayLength time))

/-- A sprite announces its performance in units. -/
theorem Units.of_performance (id : SpriteId) (now : Nat) (delay : Int64) (blocks : List Block)
    (pose : Pose) : Units id (trace id now none (performance delay blocks pose).1) := by
  rw [trace_performance_eq]
  exact (phrases_sequence delay blocks pose).units id now

/-! ### Bubbles -/

/-- The event tells that a bubble of the sprite has appeared. -/
def Event.shows (id : SpriteId) : Event → Bool
  | messageShown sprite .. => sprite = id
  | _ => false

/-- The event tells that a bubble of the sprite is gone. -/
def Event.clears (id : SpriteId) : Event → Bool
  | messageCleared sprite _ => sprite = id
  | _ => false

/-- In the end every bubble is gone. -/
theorem Units.closed {id : SpriteId} {log : List Event} (h : Units id log) :
    log.countP (Event.shows id) = log.countP (Event.clears id) := by
  induction h with
  | nil => rfl
  | pose pose time _ ih => simpa [List.countP_cons, Event.shows, Event.clears] using ih
  | bubble kind text duration pose gone _ ih =>
    simpa [List.countP_cons, Event.shows, Event.clears] using ih

/-- At any time there is one bubble that is not yet gone, or none. -/
theorem Units.open_le {id : SpriteId} {log before : List Event} (h : Units id log)
    (initial : before <+: log) :
    before.countP (Event.clears id) ≤ before.countP (Event.shows id) ∧
      before.countP (Event.shows id) ≤ before.countP (Event.clears id) + 1 := by
  induction h generalizing before with
  | nil => simp [List.prefix_nil.mp initial]
  | pose pose time _ ih =>
    rcases List.prefix_cons_iff.mp initial with rfl | ⟨more, rfl, inside⟩
    · simp
    · have rest := ih inside
      simpa [List.countP_cons, Event.shows, Event.clears] using rest
  | bubble kind text duration pose gone _ ih =>
    rcases List.prefix_cons_iff.mp initial with rfl | ⟨afterShown, rfl, fromCleared⟩
    · simp
    rcases List.prefix_cons_iff.mp fromCleared with rfl | ⟨afterCleared, rfl, fromPose⟩
    · simp [Event.shows, Event.clears]
    rcases List.prefix_cons_iff.mp fromPose with rfl | ⟨more, rfl, inside⟩
    · simp [Event.shows, Event.clears]
    · have rest := ih inside
      simpa [List.countP_cons, Event.shows, Event.clears] using rest

/-! ## Poses -/

/-- The event tells of a pose. -/
def Event.isPose : Event → Bool
  | poseCommitted .. => true
  | _ => false

theorem countP_isPose_trace (id : SpriteId) (now : Nat) (steps : List Step) :
    (trace id now none steps).countP Event.isPose = total Step.poses steps := by
  induction steps generalizing now with
  | nil => rfl
  | cons step rest ih =>
    cases step with
    | wait ms =>
      have noPose : Step.poses (.wait ms) = 0 := rfl
      rw [trace, ih, total_cons, noPose, Nat.zero_add]
    | commit pose =>
      have own : Event.isPose (.poseCommitted id pose (.ofMillis now)) = true := rfl
      have onePose : Step.poses (.commit pose) = 1 := rfl
      rw [trace, Step.event?, Option.toList_some, List.singleton_append, List.countP_cons_of_pos own,
        ih, total_cons, onePose, Nat.add_comm]
      intro ms same
      cases same
    | _ => simp [trace, ih, Step.event?, Event.isPose, Step.poses]

/-- Some steps, of which the last makes a pose known. -/
def EndsInPose (steps : List Step) : Prop :=
  ∃ first last, steps = first ++ [.commit last]

theorem EndsInPose.prepend {steps : List Step} (h : EndsInPose steps) (first : List Step) :
    EndsInPose (first ++ steps) := by
  obtain ⟨between, last, rfl⟩ := h
  exact ⟨first ++ between, last, (List.append_assoc _ _ _).symm⟩

theorem endsInPose_blockSteps (delay : Int64) (round : Pose → List Step × Pose) (block : Block)
    (pose : Pose) : EndsInPose (blockSteps delay round block pose).1 := by
  cases block <;> exact ⟨_, _, rfl⟩

theorem endsInPose_walk (delay : Int64) (round : Pose → List Step × Pose) {blocks : List Block}
    (nonempty : blocks ≠ []) (pose : Pose) : EndsInPose (walk delay round blocks pose).1 := by
  induction blocks generalizing pose with
  | nil => exact absurd rfl nonempty
  | cons first rest ih =>
    by_cases single : rest = []
    · have own := endsInPose_blockSteps delay round first pose
      simpa [single, walk] using own
    · exact (ih single _).prepend _

theorem endsInPose_sequence (delay : Int64) {blocks : List Block} (nonempty : blocks ≠ [])
    (pose : Pose) : EndsInPose (sequence delay blocks pose).1 := by
  rw [sequence]
  split
  · exact endsInPose_walk delay _ nonempty pose
  · exact endsInPose_walk delay _ nonempty pose

/-- The last event of a performance is a pose, made known when all its steps have lasted. -/
theorem getLast?_performance (id : SpriteId) (now : Nat) (delay : Int64) {blocks : List Block}
    (nonempty : blocks ≠ []) (pose : Pose) :
    ∃ last, (trace id now none (performance delay blocks pose).1).getLast? =
      some (.poseCommitted id last (.ofMillis (now + playingTime delay blocks))) := by
  obtain ⟨steps, last, own⟩ := endsInPose_sequence delay nonempty pose
  have split : (performance delay blocks pose).1 =
      (.enter .running :: steps) ++ [.commit last, .enter .completed] := by
    simp [performance, own]
  have lasts := total_duration_performance delay blocks pose
  rw [split, total_append] at lasts
  have ends : endTime now none (.enter .running :: steps) = now + playingTime delay blocks := by
    have quiet : total Step.duration [.commit last, .enter .completed] = 0 := rfl
    rw [endTime_none]
    omega
  refine ⟨last, ?_⟩
  rw [split, trace_append, ends]
  exact List.getLast?_concat

end SpriteStage
