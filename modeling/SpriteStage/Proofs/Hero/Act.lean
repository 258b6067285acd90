import SpriteStage.Hero
import SpriteStage.Proofs.Session.Journal
import SpriteStage.Proofs.Store.Lookup

/-! # Running acts

An act goes on as long as nothing is refused. What is refused is something about a sprite that is not
on the roster at that moment, and it leaves the session as it is.

* `Session.act_bind_of_ok`, `Session.act_bind_of_error` — an act that goes on, and one that stops
* `Session.act_look_of_some`, `Session.act_drag_of_mem` — single acts
* `Session.act_walkBy_of_mem`, `Session.act_stride` — a sprite walks, and both do
* `Session.act_meet` — a mark appears and goes, and both sprites return
-/

namespace SpriteStage

set_option autoImplicit false

namespace Session

/-! ## One act after the other -/

section Bind

variable {α β : Type} {s t : Session} {x : Act α}

theorem act_bind_of_ok {a : α} (h : s.act x = (.ok a, t)) (f : α → Act β) :
    s.act (x >>= f) = t.act (f a) := by
  have run : x s = (.ok a, t) := h
  show (ExceptT.bind x f).run s = _
  simp [ExceptT.bind, ExceptT.mk, ExceptT.run, bind, StateT.bind, run, ExceptT.bindCont, act]

theorem act_bind_of_error {fault : Fault} (h : s.act x = (.error fault, t)) (f : α → Act β) :
    s.act (x >>= f) = (.error fault, t) := by
  have run : x s = (.error fault, t) := h
  show (ExceptT.bind x f).run s = _
  simp [ExceptT.bind, ExceptT.mk, ExceptT.run, bind, StateT.bind, run, ExceptT.bindCont, pure]
  rfl

end Bind

/-! ## Single acts -/

variable (s : Session) {id : SpriteId}

theorem act_announce (event : Duration → Event) :
    s.act (Act.announce event) = (.ok (), s.emit (event s.elapsed)) := rfl

theorem act_pause (ms : Int64) : s.act (Act.pause ms) = (.ok (), s.pause ms) := rfl

theorem act_get : s.act (get : Act Session) = (.ok s, s) := rfl

variable {s}

theorem act_look_of_some {sprite : Sprite} (found : s.store.find? id = some sprite) :
    s.act (Act.look id) = (.ok sprite, s) := by
  rw [Act.look, act_bind_of_ok s.act_get, Store.get, found]
  rfl

theorem act_look_of_absent (absent : id ∉ s.store.ids) :
    s.act (Act.look id) = (.error (.spriteNotFound id), s) := by
  rw [Act.look, act_bind_of_ok s.act_get, Store.get, (s.store.find?_eq_none_iff id).mpr absent]
  rfl

theorem act_drag_of_mem (mem : id ∈ s.store.ids) (position : Position) :
    s.act (Act.drag id position) = (.ok (), s.changeStore fun store =>
      store.modify id fun sprite => sprite.withPosition position) := by
  rw [Act.drag, act_bind_of_ok s.act_get, Store.drag, Store.update,
    if_pos ((s.store.contains_iff id).mpr mem)]
  rfl

theorem act_drag_of_absent (absent : id ∉ s.store.ids) (position : Position) :
    s.act (Act.drag id position) = (.error (.spriteNotFound id), s) := by
  rw [Act.drag, act_bind_of_ok s.act_get, Store.drag, Store.update,
    if_neg (mt (s.store.contains_iff id).mp absent)]
  rfl

theorem act_announcePose_of_some {sprite : Sprite} (found : s.store.find? id = some sprite) :
    s.act (Act.announcePose id) = (.ok (), s.emit (.poseCommitted id sprite.pose s.elapsed)) := by
  rw [Act.announcePose, act_bind_of_ok (act_look_of_some found)]
  rfl

/-! ## A sprite walks -/

theorem found_drag {sprite : Sprite} (found : s.store.find? id = some sprite) (position : Position) :
    (s.store.modify id fun sprite => sprite.withPosition position).find? id =
      some (sprite.withPosition position) := by
  rw [s.store.find?_modify id id fun sprite => sprite.id_withPosition position, found]
  simp

theorem found_drag_other {other : SpriteId} (different : other ≠ id) (position : Position) :
    (s.store.modify id fun sprite => sprite.withPosition position).find? other =
      s.store.find? other := by
  rw [s.store.find?_modify id other fun sprite => sprite.id_withPosition position]
  simp [different]

theorem act_walkBy_of_some {sprite : Sprite} (found : s.store.find? id = some sprite) (dx : Float) :
    let next : Position := ⟨sprite.position.x + dx, sprite.position.y⟩
    let dragged := s.changeStore fun store => store.modify id fun sprite => sprite.withPosition next
    s.act (Act.walkBy id dx) =
      (.ok next, dragged.emit (.poseCommitted id ⟨next, sprite.angle⟩ s.elapsed)) := by
  intro next dragged
  have there : dragged.store.find? id = some (sprite.withPosition next) := found_drag found next
  rw [Act.walkBy, act_bind_of_ok (act_look_of_some found),
    act_bind_of_ok (act_drag_of_mem (Store.mem_ids_of_find? found) next),
    act_bind_of_ok (act_announcePose_of_some there)]
  rfl

/-- A sprite of the roster makes known where it has walked to. -/
theorem act_walkBy_of_mem (mem : id ∈ s.store.ids) (dx : Float) :
    ∃ (pose : Pose) (t : Session), s.act (Act.walkBy id dx) = (.ok pose.position, t) ∧
      t.events = s.events ++ [.poseCommitted id pose s.elapsed] := by
  obtain ⟨sprite, found⟩ := s.store.exists_find?_of_mem mem
  refine ⟨⟨⟨sprite.position.x + dx, sprite.position.y⟩, sprite.angle⟩, _,
    act_walkBy_of_some found dx, ?_⟩
  rw [events_emit, events_changeStore]

theorem act_walkBy_of_absent (absent : id ∉ s.store.ids) (dx : Float) :
    s.act (Act.walkBy id dx) = (.error (.spriteNotFound id), s) := by
  rw [Act.walkBy, act_bind_of_error (act_look_of_absent absent)]

/-! ## Both sprites walk -/

/-- One sprite after the other makes its pose known. -/
def bothCommit (config : HeroConfig) (a b : Pose) (timeA timeB : Duration) : List Event :=
  [.poseCommitted config.spriteA a timeA, .poseCommitted config.spriteB b timeB]

/-- Both walk, with a rest before and after, unless one of them is missed. -/
theorem act_stride {β : Type} (s : Session) (config : HeroConfig) (f : Position → Position → Act β) :
    let stride : Act β := do
      Act.pause config.cadence
      let a ← Act.walkBy config.spriteA config.step
      let b ← Act.walkBy config.spriteB (-config.step)
      Act.pause config.cadence
      f a b
    (∃ (a b : Pose) (timeA timeB : Duration) (t : Session),
      s.act stride = t.act (f a.position b.position) ∧
      t.events = s.events ++ bothCommit config a b timeA timeB) ∨
    (∃ t : Session, s.act stride = (.error (.spriteNotFound config.spriteA), t) ∧
      t.events = s.events ∧ config.spriteA ∉ t.store.ids) ∨
    ∃ (a : Pose) (time : Duration) (t : Session),
      s.act stride = (.error (.spriteNotFound config.spriteB), t) ∧
      t.events = s.events ++ [.poseCommitted config.spriteA a time] ∧
      config.spriteB ∉ t.store.ids := by
  intro stride
  let rested := s.pause config.cadence
  have heard : rested.events = s.events := s.events_pause config.cadence
  rw [act_bind_of_ok (s.act_pause config.cadence)]
  by_cases thereA : config.spriteA ∈ rested.store.ids
  case neg =>
    right; left
    exact ⟨rested, act_bind_of_error (act_walkBy_of_absent thereA config.step) _, heard, thereA⟩
  obtain ⟨a, walkedA, walkA, toldA⟩ := act_walkBy_of_mem thereA config.step
  rw [heard] at toldA
  rw [act_bind_of_ok walkA]
  by_cases thereB : config.spriteB ∈ walkedA.store.ids
  case neg =>
    right; right
    exact ⟨a, rested.elapsed, walkedA,
      act_bind_of_error (act_walkBy_of_absent thereB (-config.step)) _, toldA, thereB⟩
  left
  obtain ⟨b, walkedB, walkB, toldB⟩ := act_walkBy_of_mem thereB (-config.step)
  refine ⟨a, b, rested.elapsed, walkedA.elapsed, walkedB.pause config.cadence, ?_, ?_⟩
  · rw [act_bind_of_ok walkB, act_bind_of_ok (walkedB.act_pause config.cadence)]
  · rw [events_pause, toldB, toldA, List.append_assoc]
    rfl

/-! ## Both sprites return -/

/-- Both sprites are put where they started, and make it known. -/
def goHome (config : HeroConfig) : Act Unit := do
  Act.drag config.spriteA config.startA
  Act.drag config.spriteB config.startB
  Act.announcePose config.spriteA
  Act.announcePose config.spriteB

theorem act_goHome {config : HeroConfig} (different : config.spriteA ≠ config.spriteB) :
    (∃ (homeA homeB : Pose) (t : Session), s.act (goHome config) = (.ok (), t) ∧
      t.events = s.events ++ bothCommit config homeA homeB s.elapsed s.elapsed ∧
      homeA.position = config.startA ∧ homeB.position = config.startB) ∨
    ∃ (id : SpriteId) (t : Session), s.act (goHome config) = (.error (.spriteNotFound id), t) ∧
      t.events = s.events ∧ (id = config.spriteA ∨ id = config.spriteB) ∧ id ∉ t.store.ids := by
  by_cases thereA : config.spriteA ∈ s.store.ids
  case neg =>
    right
    refine ⟨config.spriteA, s, ?_, rfl, .inl rfl, thereA⟩
    rw [goHome, act_bind_of_error (act_drag_of_absent thereA config.startA)]
  let draggedA := s.changeStore fun store =>
    store.modify config.spriteA fun sprite => sprite.withPosition config.startA
  have dragA := act_drag_of_mem thereA config.startA
  by_cases thereB : config.spriteB ∈ draggedA.store.ids
  case neg =>
    right
    refine ⟨config.spriteB, draggedA, ?_, rfl, .inr rfl, thereB⟩
    rw [goHome, act_bind_of_ok dragA, act_bind_of_error (act_drag_of_absent thereB config.startB)]
  left
  let draggedB := draggedA.changeStore fun store =>
    store.modify config.spriteB fun sprite => sprite.withPosition config.startB
  obtain ⟨spriteA, foundA⟩ := s.store.exists_find?_of_mem thereA
  obtain ⟨spriteB, foundB⟩ := draggedA.store.exists_find?_of_mem thereB
  have homeA : draggedB.store.find? config.spriteA = some (spriteA.withPosition config.startA) :=
    (found_drag_other different config.startB).trans (found_drag foundA config.startA)
  have homeB : draggedB.store.find? config.spriteB = some (spriteB.withPosition config.startB) :=
    found_drag foundB config.startB
  let toldA := draggedB.emit
    (.poseCommitted config.spriteA (spriteA.withPosition config.startA).pose draggedB.elapsed)
  have stillB : toldA.store.find? config.spriteB = some (spriteB.withPosition config.startB) :=
    homeB
  refine ⟨(spriteA.withPosition config.startA).pose, (spriteB.withPosition config.startB).pose,
    toldA.emit (.poseCommitted config.spriteB (spriteB.withPosition config.startB).pose
      toldA.elapsed), ?_, ?_, rfl, rfl⟩
  · rw [goHome, act_bind_of_ok dragA, act_bind_of_ok (act_drag_of_mem thereB config.startB),
      act_bind_of_ok (act_announcePose_of_some homeA)]
    exact act_announcePose_of_some stillB
  · rw [events_emit, events_emit, List.append_assoc]
    rfl

/-! ## The two meet -/

/-- The mark of a meeting, which appears at some time and is gone when its delay is over. -/
def marks (config : HeroConfig) (marker : Position) (now : Nat) : List Event :=
  [.markerShown marker (.ofMillis now),
    .markerCleared (.ofMillis (now + delayLength config.marker))]

theorem act_meet_goHome (s : Session) (config : HeroConfig) (marker : Position) :
    ∃ t : Session, t.events = s.events ++ marks config marker s.now ∧
      s.act (meet config marker) = t.act (goHome config) := by
  let shown := s.emit (.markerShown marker s.elapsed)
  let waited := shown.pause config.marker
  refine ⟨waited.emit (.markerCleared waited.elapsed), ?_, ?_⟩
  · have later : waited.elapsed = .ofMillis (s.now + delayLength config.marker) :=
      congrArg Duration.ofMillis (now_pause shown config.marker)
    rw [events_emit, events_pause, events_emit, later, List.append_assoc]
    rfl
  · rw [meet, act_bind_of_ok (s.act_announce _), act_bind_of_ok (shown.act_pause _),
      act_bind_of_ok (waited.act_announce _)]
    rfl

/-- The mark comes and goes in any case, before both return or one of them is missed. -/
theorem act_meet {config : HeroConfig} (different : config.spriteA ≠ config.spriteB) (s : Session)
    (marker : Position) :
    (∃ (homeA homeB : Pose) (time : Duration) (t : Session),
      s.act (meet config marker) = (.ok (), t) ∧
      t.events = s.events ++ (marks config marker s.now ++ bothCommit config homeA homeB time time) ∧
      homeA.position = config.startA ∧ homeB.position = config.startB) ∨
    ∃ (id : SpriteId) (t : Session), s.act (meet config marker) = (.error (.spriteNotFound id), t) ∧
      t.events = s.events ++ marks config marker s.now ∧
      (id = config.spriteA ∨ id = config.spriteB) ∧ id ∉ t.store.ids := by
  obtain ⟨marked, told, meeting⟩ := act_meet_goHome s config marker
  rw [meeting]
  obtain ⟨homeA, homeB, t, home, toldHome, starts⟩ | ⟨id, t, home, toldHome, who⟩ :=
    marked.act_goHome different
  · left
    refine ⟨homeA, homeB, marked.elapsed, t, home, ?_, starts⟩
    rw [toldHome, told, List.append_assoc]
  · right
    refine ⟨id, t, home, ?_, who⟩
    rw [toldHome, told]

end Session

end SpriteStage
