import SpriteStage.Proofs.Performance.Alike
import SpriteStage.Proofs.Stage.Replay
import SpriteStage.Proofs.Stage.SoloRuns

/-! # Angles do not move anyone, and positions turn no one

Plays on two stages that differ in angles and turns alone look the same to someone who looks at
positions. If they differ in where sprites are and go, and in when sprites overlap, what is seen of
the angles and the bubbles is the same, although other sprites may be put back.

* `Stage.AlikeIn` — two stages differ at most in what is left out
* `Stage.session_performed` — the performances on both look alike
* `Stage.reconciliation_putBack` — so do the collisions, as long as positions are looked at
* `Stage.angles_putBack` — no angle changes when sprites are put back
* `Stage.views_of_play` — what is seen of both plays
-/

namespace SpriteStage

set_option autoImplicit false

namespace Stage

/-- The stages differ at most in what is left out, and in settings for the end of a play. -/
structure AlikeIn (view : View) (a b : Stage) : Prop where
  store : view.store a.store = view.store b.store
  delay : a.config.repeatDelay = b.config.repeatDelay
  programs : ∀ id ∈ a.store.ids,
    Option.Rel (ActionList.AlikeIn view) (a.program? id) (b.program? id)

/-! ## The performances -/

namespace AlikeIn

variable {view : View} {a b : Stage} (h : a.AlikeIn view b)

include h

theorem length_sprites : a.store.sprites.length = b.store.sprites.length := by
  have same := congrArg (fun store : Store => store.sprites.length) h.store
  simpa [View.store] using same

theorem sprite_getElem {place : Nat} (here : place < a.store.sprites.length)
    (there : place < b.store.sprites.length) :
    view.sprite a.store.sprites[place] = view.sprite b.store.sprites[place] := by
  have same := congrArg (fun store : Store => store.sprites[place]?) h.store
  simpa [View.store, here, there] using same

theorem blocksOf {s t : Sprite} (member : s ∈ a.store.sprites) (same : s.id = t.id) :
    (a.blocksOf s).map view.block = (b.blocksOf t).map view.block := by
  have programs := h.programs s.id (List.mem_map_of_mem member)
  rw [Stage.blocksOf, Stage.blocksOf, ← same]
  generalize a.program? s.id = first at programs
  generalize b.program? s.id = second at programs
  cases programs with
  | some alike => exact View.block_compile alike
  | none => rfl

theorem performanceOf {s t : Sprite} (member : s ∈ a.store.sprites)
    (same : view.sprite s = view.sprite t) :
    view.outcome (a.performanceOf s) = view.outcome (b.performanceOf t) := by
  have id : s.id = t.id := by simpa using congrArg Sprite.id same
  have pose : view.pose s.pose = view.pose t.pose := by simpa using congrArg Sprite.pose same
  rw [Stage.performanceOf, Stage.performanceOf, h.delay]
  exact View.alike_performance _ (h.blocksOf member id) s.pose t.pose pose

theorem performersOf :
    (a.performersOf a.store.sprites).map view.aspect.performer =
      (b.performersOf b.store.sprites).map view.aspect.performer := by
  refine List.ext_getElem (by simp [Stage.performersOf, h.length_sprites]) fun place here there => ?_
  simp only [Stage.performersOf, List.length_map, List.length_mapIdx] at here there
  have same := h.sprite_getElem here there
  have steps := congrArg Prod.fst (h.performanceOf (List.getElem_mem here) same)
  have id : a.store.sprites[place].id = b.store.sprites[place].id := by
    simpa using congrArg Sprite.id same
  simp only [View.outcome] at steps
  simp only [Stage.performersOf, List.getElem_map, List.getElem_mapIdx, Aspect.performer,
    View.aspect, steps, id]

theorem finalPoses :
    (a.finalPoses.map fun entry => (entry.1, view.pose entry.2)) =
      b.finalPoses.map fun entry => (entry.1, view.pose entry.2) := by
  refine List.ext_getElem (by simp [Stage.finalPoses, h.length_sprites]) fun place here there => ?_
  simp only [Stage.finalPoses, List.length_map] at here there
  have same := h.sprite_getElem here there
  have pose := congrArg Prod.snd (h.performanceOf (List.getElem_mem here) same)
  have id : a.store.sprites[place].id = b.store.sprites[place].id := by
    simpa using congrArg Sprite.id same
  simp only [View.outcome] at pose
  simp only [Stage.finalPoses, List.getElem_map, pose, id]

end AlikeIn

variable {view : View} {a b : Stage} (order : TurnOrder) (limit : Option Nat) (runId other : RunId)
  (startedAt otherStart : Timestamp) (visits : List Visit)

theorem session_performed (h : a.AlikeIn view b) :
    view.session (a.performed order limit runId visits) =
      view.session (b.performed order limit other visits) := by
  have size : a.store.size = b.store.size := h.length_sprites
  change view.aspect.session _ = view.aspect.session _
  rw [performed, performed, ← Aspect.performAll, ← Aspect.performAll, h.performersOf,
    ← view.aspect.emit, ← view.aspect.emit, size]
  have begin : view.aspect.session (.start a.store visits) =
      view.aspect.session (.start b.store visits) := by
    change view.session _ = view.session _
    rw [View.session_start, View.session_start, h.store]
  rw [begin]
  rfl

theorem events_performed (h : a.AlikeIn view b) :
    (a.performed order limit runId visits).events.map view.event =
      (b.performed order limit other visits).events.map view.event := by
  rw [← View.events_session, session_performed order limit runId other visits h,
    View.events_session]

/-! ## The end of a play -/

theorem sprites_conclude_seen {r r' : Reconciliation}
    (store : view.store r.session.store = view.store r'.session.store)
    (poses : (r.poses.map fun entry => (entry.1, view.pose entry.2)) =
      r'.poses.map fun entry => (entry.1, view.pose entry.2)) :
    (conclude runId startedAt r).outcome.sprites.map view.sprite =
      (conclude other otherStart r').outcome.sprites.map view.sprite := by
  have published : view.store (r.session.store.publish r.poses) =
      view.store (r'.session.store.publish r'.poses) := by
    rw [view.store_publish, view.store_publish, store, poses]
  exact congrArg Store.sprites published

theorem snapshot_store (store : Store) : (View.positions.store store).snapshot = store.snapshot := by
  rw [Store.snapshot, View.store, List.map_map, Store.snapshot]
  rfl

theorem AlikeIn.reconciliation_putBack (h : a.AlikeIn .positions b) (config : a.config = b.config)
    {s t : Session} (same : View.positions.session s = View.positions.session t) :
    View.positions.aspect.reconciliation (fun _ => 0) (a.putBack s) =
      View.positions.aspect.reconciliation (fun _ => 0) (b.putBack t) := by
  have poses : a.finalPoses.map (Aspect.facing fun _ => 0) =
      b.finalPoses.map (Aspect.facing fun _ => 0) := h.finalPoses
  have snapshots : a.store.snapshot = b.store.snapshot := by
    rw [← snapshot_store, h.store, snapshot_store]
  have sessions : View.positions.aspect.session s = View.positions.aspect.session t := same
  rw [putBack, putBack, ← Aspect.reconcile, ← Aspect.reconcile, sessions, poses, snapshots, config]

theorem angles_modify_rollBack (snapshot : Snapshot) (poses : List (SpriteId × Pose)) (place : Nat) :
    ((poses.modify place (rollBack snapshot)).map fun entry =>
        (entry.1, View.angles.pose entry.2)) =
      poses.map fun entry => (entry.1, View.angles.pose entry.2) := by
  induction poses generalizing place with
  | nil => rw [List.modify_nil]
  | cons entry rest ih =>
    cases place with
    | zero => rfl
    | succ place => rw [List.modify_succ_cons, List.map_cons, ih, List.map_cons]

/-- No angle changes when sprites are put back. -/
theorem angles_putBack (stage : Stage) (s : Session) :
    ((stage.putBack s).poses.map fun entry => (entry.1, View.angles.pose entry.2)) =
      stage.finalPoses.map fun entry => (entry.1, View.angles.pose entry.2) := by
  refine Session.foldl_reconcilePair_induction
    (P := fun r => (r.poses.map fun entry => (entry.1, View.angles.pose entry.2)) =
      stage.finalPoses.map fun entry => (entry.1, View.angles.pose entry.2))
    (pairs stage.finalPoses.length) rfl ?_
  intro r pair collision _ same _
  rw [Reconciliation.resolve, angles_modify_rollBack, angles_modify_rollBack, same]

end Stage

/-! ## Messages -/

/-- The event tells of a bubble. -/
def Event.isMessage : Event → Bool
  | messageShown .. => true
  | messageCleared .. => true
  | _ => false

theorem Event.isMessage_of_collision? {event : Event} {collision : Collision}
    (h : event.collision? = some collision) : event.isMessage = false := by
  cases event <;> first | rfl | cases h

theorem View.filter_isMessage (view : View) (events : List Event) :
    (events.map view.event).filter Event.isMessage = events.filter Event.isMessage := by
  induction events with
  | nil => rfl
  | cons event rest ih =>
    cases event <;> simp [List.filter_cons, ih, View.event, Event.withoutRun, Event.isMessage]

namespace Stage

variable {view : View} {a b : Stage} (order : TurnOrder) (limit : Option Nat) (runId other : RunId)
  (startedAt otherStart : Timestamp) (visits : List Visit)

/-- All bubbles are announced before the first sprite is put back. -/
theorem messages_playIn (stage : Stage) :
    (stage.playIn order limit runId startedAt visits).session.events.filter Event.isMessage =
      (stage.performed order limit runId visits).events.filter Event.isMessage := by
  obtain ⟨resolved, events, collisions⟩ := stage.playIn_events order limit runId startedAt visits
  have none : resolved.filter Event.isMessage = [] := by
    rw [List.filter_eq_nil_iff]
    intro event mem
    have told : event.collision? ∈ resolved.map Event.collision? := List.mem_map_of_mem mem
    rw [collisions] at told
    obtain ⟨collision, -, eq⟩ := List.mem_map.mp told
    simp [Event.isMessage_of_collision? eq.symm]
  rw [events, List.filter_append, List.filter_append, none]
  simp [Event.isMessage]

/-! ## Both plays -/

theorem positions_playIn (h : a.AlikeIn .positions b) (config : a.config = b.config) :
    let run := a.playIn order limit runId startedAt visits
    let run' := b.playIn order limit other otherStart visits
    run.session.events.map View.positions.event = run'.session.events.map View.positions.event ∧
      run.outcome.elapsed = run'.outcome.elapsed ∧
      run.outcome.collisions = run'.outcome.collisions ∧
      run.outcome.sprites.map View.positions.sprite =
        run'.outcome.sprites.map View.positions.sprite := by
  intro run run'
  have same := h.reconciliation_putBack config
    (session_performed order limit runId other visits h)
  have elapsed : run.outcome.elapsed = run'.outcome.elapsed :=
    congrArg (fun r => r.session.elapsed) same
  refine ⟨?_, elapsed, congrArg (fun r => r.collisions) same, ?_⟩
  · have events := congrArg (fun r => r.session.events) same
    simp only [Aspect.reconciliation, View.aspect, View.events_session] at events
    simp only [run, run', playIn, events_conclude, List.map_append, events]
    exact congrArg (fun time => _ ++ [Event.playFinished .nil time]) elapsed
  · exact sprites_conclude_seen runId other startedAt otherStart
      (congrArg (fun r => r.session.store) same) (congrArg (fun r => r.poses) same)

variable {visits} in
theorem angles_playIn (h : a.AlikeIn .angles b) (looks : ∀ visit ∈ visits, visit.request = .look) :
    let run := a.playIn order limit runId startedAt visits
    let run' := b.playIn order limit other otherStart visits
    run.outcome.sprites.map View.angles.sprite = run'.outcome.sprites.map View.angles.sprite ∧
      run.session.events.filter Event.isMessage = run'.session.events.filter Event.isMessage ∧
      (run.session.events.takeWhile fun event => !event.isAfterPerformances).map View.angles.event =
        (run'.session.events.takeWhile fun event => !event.isAfterPerformances).map
          View.angles.event := by
  intro run run'
  have events := events_performed order limit runId other visits h
  refine ⟨?_, ?_, ?_⟩
  · -- other sprites may be put back, but visitors only look on meanwhile, so both stores stay still
    have still := Session.still_reconcile (a.faithful_performed order limit runId looks).looks
      a.config.collisionThreshold a.config.collisionPause a.store.snapshot a.finalPoses
    have still' := Session.still_reconcile (b.faithful_performed order limit other looks).looks
      b.config.collisionThreshold b.config.collisionPause b.store.snapshot b.finalPoses
    refine sprites_conclude_seen runId other startedAt otherStart ?_ ?_
    · rw [putBack, putBack, still.store, still'.store]
      exact congrArg Session.store (session_performed order limit runId other visits h)
    · rw [angles_putBack, angles_putBack]
      exact h.finalPoses
  · rw [messages_playIn, messages_playIn, ← View.angles.filter_isMessage, events,
      View.filter_isMessage]
  · rw [opening_playIn, opening_playIn, events]

theorem playIn_of_apart (stage : Stage)
    (apart : (stage.playIn order limit runId startedAt visits).outcome.collisions = []) :
    (stage.playIn order limit runId startedAt visits).outcome.elapsed =
        (stage.performed order limit runId visits).elapsed ∧
      (stage.playIn order limit runId startedAt visits).session.events =
        (stage.performed order limit runId visits).events ++
          [.playFinished runId (stage.performed order limit runId visits).elapsed] := by
  obtain ⟨resolved, events, collisions⟩ := stage.playIn_events order limit runId startedAt visits
  have now := Session.now_reconcile stage.config.collisionThreshold stage.config.collisionPause
    stage.store.snapshot (stage.performed order limit runId visits) stage.finalPoses
  have nobody : (stage.putBack (stage.performed order limit runId visits)).collisions = [] := apart
  rw [← putBack, nobody, List.length_nil, Nat.mul_zero, Nat.add_zero] at now
  have elapsed : (stage.playIn order limit runId startedAt visits).outcome.elapsed =
      (stage.performed order limit runId visits).elapsed := congrArg Duration.ofMillis now
  rw [apart, List.map_nil, List.map_eq_nil_iff] at collisions
  rw [collisions, List.append_nil, elapsed] at events
  exact ⟨elapsed, events⟩

variable {order limit runId other startedAt otherStart visits} in
/-- If nobody is put back on either stage, all that is announced looks alike. -/
theorem angles_playIn_of_apart (h : a.AlikeIn .angles b)
    (apart : (a.playIn order limit runId startedAt visits).outcome.collisions = [])
    (apart' : (b.playIn order limit other otherStart visits).outcome.collisions = []) :
    (a.playIn order limit runId startedAt visits).session.events.map View.angles.event =
        (b.playIn order limit other otherStart visits).session.events.map View.angles.event ∧
      (a.playIn order limit runId startedAt visits).outcome.elapsed =
        (b.playIn order limit other otherStart visits).outcome.elapsed := by
  have performed := events_performed order limit runId other visits h
  have time : (a.performed order limit runId visits).elapsed =
      (b.performed order limit other visits).elapsed :=
    congrArg (fun s => s.elapsed) (session_performed order limit runId other visits h)
  obtain ⟨elapsed, events⟩ := playIn_of_apart order limit runId startedAt visits a apart
  obtain ⟨elapsed', events'⟩ := playIn_of_apart order limit other otherStart visits b apart'
  refine ⟨?_, by rw [elapsed, elapsed', time]⟩
  rw [events, events', List.map_append, List.map_append, performed, time]
  rfl

/--
Two plays, whichever runs they are, on stages that differ in angles and turns alone: what is announced
is the same but for the angles, they take the same time, the same sprites collide, and everyone ends
in the same place with the same bubble. If the stages differ in where sprites are and go, and in the
threshold and the pause of collisions, everyone ends with the same angle and bubble; the bubbles are
announced at the same times, and so is everything up to the first collision.
-/
theorem views_of_play {a b : Stage} (limit : Option Nat) (runId other : RunId)
    (startedAt otherStart : Timestamp) (visits : List Visit) :
    let run := playWithin limit a runId startedAt visits
    let run' := playWithin limit b other otherStart visits
    (a.AlikeIn .positions b → a.config = b.config →
      run.session.events.map View.positions.event = run'.session.events.map View.positions.event ∧
      run.outcome.elapsed = run'.outcome.elapsed ∧
      run.outcome.collisions = run'.outcome.collisions ∧
      run.outcome.sprites.map View.positions.sprite =
        run'.outcome.sprites.map View.positions.sprite) ∧
    (a.AlikeIn .angles b → (∀ visit ∈ visits, visit.request = .look) →
      (run.outcome.sprites.map View.angles.sprite = run'.outcome.sprites.map View.angles.sprite ∧
      run.session.events.filter Event.isMessage = run'.session.events.filter Event.isMessage ∧
      (run.session.events.takeWhile fun event => !event.isAfterPerformances).map View.angles.event =
        (run'.session.events.takeWhile fun event => !event.isAfterPerformances).map
          View.angles.event) ∧
      (run.outcome.collisions = [] → run'.outcome.collisions = [] →
        run.session.events.map View.angles.event = run'.session.events.map View.angles.event ∧
        run.outcome.elapsed = run'.outcome.elapsed)) := by
  simp only [playWithin]
  refine ⟨fun h config => ?_, fun h looks => ?_⟩
  · have size : a.store.size = b.store.size := h.length_sprites
    rw [size]
    exact positions_playIn _ limit runId other startedAt otherStart visits h config
  · have size : a.store.size = b.store.size := h.length_sprites
    rw [size]
    exact ⟨angles_playIn _ limit runId other startedAt otherStart h looks,
      fun apart apart' => angles_playIn_of_apart h apart apart'⟩

/-- A dog, and a cat that faces some way, speaks, walks and turns. -/
def meeting (angle : Float) (place : Position) (steps degrees : Param) : Stage where
  config := .standard
  store := ⟨2, [(Sprite.fresh ⟨1⟩ "Cat" ⟨0, 0⟩).withAngle angle, .fresh ⟨2⟩ "Dog" place]⟩
  programs := [(⟨1⟩, ⟨[.speak (.text "Hello") (.number 100), .moveBy steps, .turnBy degrees]⟩)]

theorem alikeIn_meeting {view : View} {angle angle' : Float} {place place' : Position}
    {steps steps' degrees degrees' : Param}
    (store : view.store (meeting angle place steps degrees).store =
      view.store (meeting angle' place' steps' degrees').store)
    (moves : (BlockInstance.moveBy steps).AlikeIn view (.moveBy steps'))
    (turns : (BlockInstance.turnBy degrees).AlikeIn view (.turnBy degrees')) :
    (meeting angle place steps degrees).AlikeIn view (meeting angle' place' steps' degrees') := by
  refine ⟨store, rfl, fun id mem => ?_⟩
  rcases List.mem_pair.mp mem with rfl | rfl
  · exact .some (.cons (.refl view _) (.cons moves (.cons turns .nil)))
  · exact .none

theorem value?_withValue_empty (kind : BlockKind) (name : String) {other : String}
    (h : name ≠ other) (value : Param) :
    ((BlockInstance.ofKind kind).withValue name value).value? other = none := by
  simp [BlockInstance.ofKind, BlockInstance.withValue, BlockInstance.value?, Values.insert,
    Values.insertEntry, Values.get?, Values.empty, h]

/-- The cat turns another way, and is put back all the same. It is not, where the dog is far away. -/
theorem views_of_play_meeting :
    let near := meeting 0 ⟨8, 0⟩ (.number 4) (.number 90)
    let turned := meeting 45 ⟨8, 0⟩ (.number 4) (.text "-30")
    let far := meeting 0 ⟨99, 0⟩ (.text "1") (.number 90)
    let play := fun stage => playWithin none stage .nil ⟨0, 0⟩ []
    near.AlikeIn .positions turned ∧ near.AlikeIn .angles far ∧
      (play near).session.events.map View.positions.event =
        (play turned).session.events.map View.positions.event ∧
      (play near).outcome.sprites.map View.angles.sprite =
        (play far).outcome.sprites.map View.angles.sprite ∧
      (play near).outcome.collisions = [⟨⟨1⟩, ⟨2⟩⟩] ∧ (play far).outcome.collisions = [] := by
  intro near turned far play
  have turns : (BlockInstance.turnBy (.number 90)).AlikeIn .positions (.turnBy (.text "-30")) := by
    refine ⟨rfl, fun name seen => ?_⟩
    have other : "degrees" ≠ name := fun same => seen ⟨rfl, same.symm⟩
    exact (value?_withValue_empty .turn _ other _).trans (value?_withValue_empty .turn _ other _).symm
  have moves : (BlockInstance.moveBy (.number 4)).AlikeIn .angles (.moveBy (.text "1")) := by
    refine ⟨rfl, fun name seen => ?_⟩
    have other : "steps" ≠ name := fun same => seen (.inl ⟨rfl, same.symm⟩)
    exact (value?_withValue_empty .move _ other _).trans (value?_withValue_empty .move _ other _).symm
  have first : near.AlikeIn .positions turned :=
    alikeIn_meeting (by decide +kernel) (.refl _ _) turns
  have second : near.AlikeIn .angles far :=
    alikeIn_meeting (by decide +kernel) moves (.refl _ _)
  refine ⟨first, second, ?_, ?_, by decide +kernel, by decide +kernel⟩
  · exact ((views_of_play none .nil .nil ⟨0, 0⟩ ⟨0, 0⟩ []).1 first rfl).1
  · exact ((views_of_play none .nil .nil ⟨0, 0⟩ ⟨0, 0⟩ []).2 second (List.forall_mem_nil _)).1.1

end Stage

end SpriteStage
