import Mathlib.Data.Nat.Find
import Mathlib.Tactic.Ring
import SpriteStage.Proofs.Hero.Refusal

/-! # How two sprites approach each other

While others only look, a hero scene is known beforehand: both sprites walk in step, from where they
start, until they are close for the first time or have walked as often as they may.

* `HeroConfig.placeA`, `HeroConfig.placeB` — where they are after some walks
* `HeroConfig.FirstMeeting` — the walk after which they are close for the first time
* `HeroConfig.walks` — what they make known meanwhile
* `Session.Standing` — both stand somewhere in a store that is otherwise as it was
* `Session.act_approach_walks` — some walks without a meeting
* `Stage.hero_of_valid` — outcome, duration, store and log of a scene
-/

namespace SpriteStage

set_option autoImplicit false

open Session (bothCommit marks)

/-! ## Where they are, and when -/

/-- Where one gets to who walks so many times along `x`. -/
def Position.walked (start : Position) (dx : Float) : Nat → Position
  | 0 => start
  | count + 1 => ⟨(start.walked dx count).x + dx, start.y⟩

@[simp] theorem Position.y_walked (start : Position) (dx : Float) (count : Nat) :
    (start.walked dx count).y = start.y := by
  cases count <;> rfl

namespace HeroConfig

variable (config : HeroConfig) (threshold : Float)

def placeA (count : Nat) : Position :=
  config.startA.walked config.step count

def placeB (count : Nat) : Position :=
  config.startB.walked (-config.step) count

/-- The milliseconds that so many rests take. -/
def rests (count : Nat) : Nat :=
  count * delayLength config.cadence

/-- The two are close after a walk that they may take. -/
def MeetsAt (count : Nat) : Prop :=
  1 ≤ count ∧ count ≤ config.maxIterations.toNat ∧
    collides (config.placeA count) (config.placeB count) threshold = true

/-- The two are close after a walk, and have not been close after an earlier one. -/
def FirstMeeting (count : Nat) : Prop :=
  config.MeetsAt threshold count ∧ ∀ earlier < count, ¬config.MeetsAt threshold earlier

/-- The two make known how far a walk has taken them, facing as they do. -/
def walk (angleA angleB : Float) (count : Nat) : List Event :=
  let time := Duration.ofMillis (config.rests (2 * count - 1))
  bothCommit config ⟨config.placeA count, angleA⟩ ⟨config.placeB count, angleB⟩ time time

/-- What the two make known in their first walks. -/
def walks (angleA angleB : Float) (count : Nat) : List Event :=
  (List.range' 1 count).flatMap (config.walk angleA angleB)

variable {config threshold}

theorem exists_firstMeeting {count : Nat} (meets : config.MeetsAt threshold count) :
    ∃ first, config.FirstMeeting threshold first := by
  classical
  have some : ∃ count, config.MeetsAt threshold count := ⟨count, meets⟩
  exact ⟨Nat.find some, Nat.find_spec some, fun _ less => Nat.find_min some less⟩

theorem FirstMeeting.unique {count other : Nat} (h₁ : config.FirstMeeting threshold count)
    (h₂ : config.FirstMeeting threshold other) : count = other := by
  have := mt (h₁.2 other) (not_not.mpr h₂.1)
  have := mt (h₂.2 count) (not_not.mpr h₁.1)
  omega

theorem placeA_succ (config : HeroConfig) (count : Nat) :
    config.placeA (count + 1) =
      ⟨(config.placeA count).x + config.step, (config.placeA count).y⟩ := by
  simp [placeA, Position.walked]

theorem placeB_succ (config : HeroConfig) (count : Nat) :
    config.placeB (count + 1) =
      ⟨(config.placeB count).x + -config.step, (config.placeB count).y⟩ := by
  simp [placeB, Position.walked]

theorem walks_succ (angleA angleB : Float) (count : Nat) :
    config.walks angleA angleB (count + 1) =
      config.walks angleA angleB count ++ config.walk angleA angleB (count + 1) := by
  simp [walks, List.range'_concat, Nat.add_comm 1 count]

end HeroConfig

/-! ## Both stand somewhere -/

/-- The store with the two at given places, and everything else as it is. -/
def Store.standing (store : Store) (config : HeroConfig) (a b : Position) : Store :=
  (store.modify config.spriteA fun sprite => sprite.withPosition a).modify config.spriteB
    fun sprite => sprite.withPosition b

section Standing

variable {config : HeroConfig} (different : config.spriteA ≠ config.spriteB) (store : Store)
variable (a b next : Position)

include different in
theorem Store.standing_drag_first :
    ((store.standing config a b).modify config.spriteA fun sprite => sprite.withPosition next) =
      store.standing config next b := by
  rw [standing, modify_comm _ (fun sprite => sprite.id_withPosition b)
    (fun sprite => sprite.id_withPosition next) different.symm,
    modify_modify _ _ fun sprite => sprite.id_withPosition a]
  rfl

theorem Store.standing_drag_second :
    ((store.standing config a b).modify config.spriteB fun sprite => sprite.withPosition next) =
      store.standing config a next := by
  rw [standing, modify_modify _ _ fun sprite => sprite.id_withPosition b]
  rfl

end Standing

namespace Session

/-- The two stand at given places in what is otherwise the given store, and others only look. -/
structure Standing (store : Store) (config : HeroConfig) (a b : Position) (s : Session) :
    Prop where
  store : s.store = store.standing config a b
  looks : ∀ visit ∈ s.visits, visit.request = .look

/-- A store in which two different sprites are the ones of the scene. -/
structure Cast (store : Store) (config : HeroConfig) (first second : Sprite) : Prop where
  different : config.spriteA ≠ config.spriteB
  first : store.find? config.spriteA = some first
  second : store.find? config.spriteB = some second

/-- After a while, in which some events have been made known, the two stand at given places. -/
structure Reaches (store : Store) (config : HeroConfig) (a b : Position) (delay : Nat)
    (log : List Event) (s t : Session) : Prop where
  standing : Standing store config a b t
  now : t.now = s.now + delay
  events : t.events = s.events ++ log

/-- Between two moments they have walked so many times, from where they start. -/
def Walked (store : Store) (config : HeroConfig) (first second : Sprite) (count : Nat)
    (s t : Session) : Prop :=
  Reaches store config (config.placeA count) (config.placeB count) (config.rests (2 * count))
    (config.walks first.angle second.angle count) s t

section Acts

variable {store : Store} {config : HeroConfig} {first second : Sprite} {a b c d : Position}
variable {s t u : Session}

theorem Reaches.trans {delay more : Nat} {log later : List Event}
    (h₁ : Reaches store config a b delay log s t) (h₂ : Reaches store config c d more later t u) :
    Reaches store config c d (delay + more) (log ++ later) s u := by
  refine ⟨h₂.standing, ?_, ?_⟩
  · rw [h₂.now, h₁.now, Nat.add_assoc]
  · rw [h₂.events, h₁.events, List.append_assoc]

namespace Standing

variable (h : Standing store config a b s)

include h

theorem emit (event : Event) : Standing store config a b (s.emit event) :=
  ⟨h.store, h.looks⟩

theorem pause (ms : Int64) : Standing store config a b (s.pause ms) := by
  have still := still_pause h.looks ms
  exact ⟨still.store.trans h.store, fun visit mem => h.looks visit (still.visits visit mem)⟩

theorem drag_first (different : config.spriteA ≠ config.spriteB) (next : Position) :
    Standing store config next b (s.changeStore fun store =>
      store.modify config.spriteA fun sprite => sprite.withPosition next) := by
  refine ⟨?_, h.looks⟩
  rw [← store.standing_drag_first different a b next, ← h.store]
  rfl

theorem drag_second (next : Position) :
    Standing store config a next (s.changeStore fun store =>
      store.modify config.spriteB fun sprite => sprite.withPosition next) := by
  refine ⟨?_, h.looks⟩
  rw [← store.standing_drag_second a b next, ← h.store]
  rfl

theorem found_first (cast : Cast store config first second) :
    s.store.find? config.spriteA = some (first.withPosition a) := by
  rw [h.store, Store.standing, Store.find?_modify _ _ _ fun sprite => sprite.id_withPosition b,
    Store.find?_modify _ _ _ fun sprite => sprite.id_withPosition a, cast.first]
  simp [cast.different]

theorem found_second (cast : Cast store config first second) :
    s.store.find? config.spriteB = some (second.withPosition b) := by
  rw [h.store, Store.standing, Store.find?_modify _ _ _ fun sprite => sprite.id_withPosition b,
    Store.find?_modify _ _ _ fun sprite => sprite.id_withPosition a, cast.second]
  simp [cast.different.symm]

end Standing

/-! ## Single acts -/

theorem Standing.reaches_pause (h : Standing store config a b s) (ms : Int64) :
    Reaches store config a b (delayLength ms) [] s (s.pause ms) :=
  ⟨h.pause ms, s.now_pause ms, by simp⟩

theorem Standing.reaches_emit (h : Standing store config a b s) (event : Event) :
    Reaches store config a b 0 [event] s (s.emit event) :=
  ⟨h.emit event, rfl, s.events_emit event⟩

variable (cast : Cast store config first second) (h : Standing store config a b s)

include cast h

theorem reaches_walk_first (dx : Float) :
    let next : Position := ⟨a.x + dx, a.y⟩
    ∃ t, s.act (Act.walkBy config.spriteA dx) = (.ok next, t) ∧
      Reaches store config next b 0
        [.poseCommitted config.spriteA ⟨next, first.angle⟩ s.elapsed] s t := by
  intro next
  have moved := h.drag_first cast.different next
  exact ⟨_, act_walkBy_of_some (h.found_first cast) dx, moved.emit _, rfl, events_emit _ _⟩

theorem reaches_walk_second (dx : Float) :
    let next : Position := ⟨b.x + dx, b.y⟩
    ∃ t, s.act (Act.walkBy config.spriteB dx) = (.ok next, t) ∧
      Reaches store config a next 0
        [.poseCommitted config.spriteB ⟨next, second.angle⟩ s.elapsed] s t := by
  intro next
  have moved := h.drag_second next
  exact ⟨_, act_walkBy_of_some (h.found_second cast) dx, moved.emit _, rfl, events_emit _ _⟩

theorem reaches_goHome :
    ∃ t, s.act (goHome config) = (.ok (), t) ∧
      Reaches store config config.startA config.startB 0
        (bothCommit config ⟨config.startA, first.angle⟩ ⟨config.startB, second.angle⟩ s.elapsed
          s.elapsed) s t := by
  have dragA := act_drag_of_mem (Store.mem_ids_of_find? (h.found_first cast)) config.startA
  have movedA := h.drag_first cast.different config.startA
  have dragB := act_drag_of_mem (Store.mem_ids_of_find? (movedA.found_second cast)) config.startB
  have movedB := movedA.drag_second config.startB
  have toldA := movedB.reaches_emit
    (.poseCommitted config.spriteA ⟨config.startA, first.angle⟩ s.elapsed)
  have toldB := toldA.standing.reaches_emit
    (.poseCommitted config.spriteB ⟨config.startB, second.angle⟩ s.elapsed)
  have both := toldA.trans toldB
  refine ⟨_, ?_, both.standing, both.now, both.events⟩
  rw [goHome, act_bind_of_ok dragA, act_bind_of_ok dragB,
    act_bind_of_ok (act_announcePose_of_some (movedB.found_first cast))]
  exact act_announcePose_of_some (toldA.standing.found_second cast)

/-! ## What both do -/

/-- Both walk, one rest before they make it known and one rest after. -/
theorem reaches_stride {β : Type} (f : Position → Position → Act β) :
    let stride : Act β := do
      Act.pause config.cadence
      let a ← Act.walkBy config.spriteA config.step
      let b ← Act.walkBy config.spriteB (-config.step)
      Act.pause config.cadence
      f a b
    let nextA : Position := ⟨a.x + config.step, a.y⟩
    let nextB : Position := ⟨b.x + -config.step, b.y⟩
    let time := Duration.ofMillis (s.now + config.rests 1)
    ∃ t, s.act stride = t.act (f nextA nextB) ∧
      Reaches store config nextA nextB (config.rests 2)
        (bothCommit config ⟨nextA, first.angle⟩ ⟨nextB, second.angle⟩ time time) s t := by
  intro stride nextA nextB time
  have rest := h.reaches_pause config.cadence
  obtain ⟨t, walkA, toA⟩ := reaches_walk_first cast rest.standing config.step
  obtain ⟨u, walkB, toB⟩ := reaches_walk_second cast toA.standing (-config.step)
  have whole := ((rest.trans toA).trans toB).trans (toB.standing.reaches_pause config.cadence)
  refine ⟨u.pause config.cadence, ?_, whole.standing, ?_, ?_⟩
  · rw [act_bind_of_ok (s.act_pause config.cadence), act_bind_of_ok walkA, act_bind_of_ok walkB,
      act_bind_of_ok (u.act_pause config.cadence)]
  · rw [whole.now, HeroConfig.rests]
    omega
  · rw [whole.events]
    simp [bothCommit, elapsed, toA.now, time, HeroConfig.rests, nextA, nextB]

/-- A mark appears and goes, and both return. -/
theorem reaches_meet (marker : Position) :
    let time := Duration.ofMillis (s.now + delayLength config.marker)
    ∃ t, s.act (meet config marker) = (.ok (), t) ∧
      Reaches store config config.startA config.startB (delayLength config.marker)
        (marks config marker s.now ++
          bothCommit config ⟨config.startA, first.angle⟩ ⟨config.startB, second.angle⟩ time time)
        s t := by
  intro time
  let shown := s.emit (.markerShown marker s.elapsed)
  let waited := shown.pause config.marker
  have appears : Reaches store config a b 0 _ s shown := h.reaches_emit _
  have stays : Reaches store config a b _ [] shown waited :=
    appears.standing.reaches_pause config.marker
  have goes := stays.standing.reaches_emit (.markerCleared waited.elapsed)
  obtain ⟨t, home, returns⟩ := reaches_goHome cast goes.standing
  have whole := ((appears.trans stays).trans goes).trans returns
  refine ⟨t, ?_, whole.standing, ?_, ?_⟩
  · rw [meet, act_bind_of_ok (s.act_announce _), act_bind_of_ok (shown.act_pause _),
      act_bind_of_ok (waited.act_announce _)]
    exact home
  · rw [whole.now]
    omega
  · rw [whole.events]
    simp [marks, elapsed, time, waited, shown]

/-! ## Walk after walk -/

omit h in
/-- One more walk, after which they meet or go on. -/
theorem act_approach_succ {count : Nat} (walked : Walked store config first second count s t)
    (now : s.now = 0) (threshold : Float) (done : UInt64) (left : Nat) :
    let a := config.placeA (count + 1)
    let b := config.placeB (count + 1)
    ∃ u, Walked store config first second (count + 1) s u ∧
      t.act (approach config threshold done (left + 1)) = u.act (
        if collides a b threshold then do
          meet config (a.midpoint b)
          return ⟨true, done + 1, some (a.midpoint b)⟩
        else approach config threshold (done + 1) left) := by
  intro a b
  obtain ⟨u, stride, strode⟩ := reaches_stride cast walked.standing fun a b =>
    if collides a b threshold then do
      meet config (a.midpoint b)
      return ⟨true, done + 1, some (a.midpoint b)⟩
    else approach config threshold (done + 1) left
  rw [← config.placeA_succ, ← config.placeB_succ] at stride strode
  have whole := walked.trans strode
  refine ⟨u, ⟨whole.standing, ?_, ?_⟩, stride⟩
  · rw [whole.now, HeroConfig.rests, HeroConfig.rests, HeroConfig.rests]
    ring
  · have time : t.now + config.rests 1 = config.rests (2 * (count + 1) - 1) := by
      rw [walked.now, now, Nat.mul_succ, HeroConfig.rests, HeroConfig.rests, HeroConfig.rests,
        Nat.add_sub_assoc (by decide)]
      ring
    rw [whole.events, time, HeroConfig.walks_succ]
    rfl

omit h in
/-- The two have walked some times and have not been close after a walk. -/
theorem act_approach_walks {threshold : Float} (count : Nat)
    (starts : Standing store config config.startA config.startB s) (now : s.now = 0)
    (apart : ∀ k, 1 ≤ k → k ≤ count →
      collides (config.placeA k) (config.placeB k) threshold = false) (left : Nat) :
    ∃ t, Walked store config first second count s t ∧
      s.act (approach config threshold 0 (count + left)) =
        t.act (approach config threshold (UInt64.ofNat count) left) := by
  induction count generalizing left with
  | zero =>
    refine ⟨s, ⟨starts, ?_, (List.append_nil _).symm⟩, by rw [Nat.zero_add]; rfl⟩
    simp [HeroConfig.rests]
  | succ count ih =>
    obtain ⟨t, walked, run⟩ := ih (fun k least most => apart k least (by omega)) (left + 1)
    obtain ⟨u, further, next⟩ :=
      act_approach_succ cast walked now threshold (UInt64.ofNat count) left
    have far := apart (count + 1) (by omega) (Nat.le_refl _)
    refine ⟨u, further, ?_⟩
    rw [Nat.add_assoc, Nat.add_comm 1 left, run, next, far, UInt64.ofNat_add]
    rfl

end Acts

/-! ## The scene -/

section Scene

variable {store : Store} {config : HeroConfig} {first second : Sprite} {s : Session}
variable (cast : Cast store config first second)

include cast

/-- At the beginning both are put where they start. -/
theorem act_hero_begins (looks : ∀ visit ∈ s.visits, visit.request = .look)
    (same : s.store = store) (threshold : Float) :
    ∃ t, s.act (hero config threshold) =
        t.act (approach config threshold 0 config.maxIterations.toNat) ∧
      Reaches store config config.startA config.startB 0 [] s t := by
  subst same
  let placedA := s.changeStore fun store =>
    store.modify config.spriteA fun sprite => sprite.withPosition config.startA
  have dragA := act_drag_of_mem (Store.mem_ids_of_find? cast.first) config.startA
  have thereB : placedA.store.find? config.spriteB = some second :=
    (found_drag_other cast.different.symm config.startA).trans cast.second
  have dragB := act_drag_of_mem (Store.mem_ids_of_find? thereB) config.startB
  let placedB := placedA.changeStore fun store =>
    store.modify config.spriteB fun sprite => sprite.withPosition config.startB
  refine ⟨placedB, ?_, ⟨rfl, looks⟩, rfl, (List.append_nil _).symm⟩
  rw [hero, act_bind_of_ok dragA, act_bind_of_ok dragB]

variable (looks : ∀ visit ∈ s.visits, visit.request = .look) (same : s.store = store)
variable (now : s.now = 0) {threshold : Float}

include looks same now

/-- They are close for the first time: the mark comes and goes, and both return. -/
theorem act_hero_of_firstMeeting {count : Nat} (meets : config.FirstMeeting threshold count) :
    let marker := (config.placeA count).midpoint (config.placeB count)
    let met := config.rests (2 * count)
    let parted := Duration.ofMillis (met + delayLength config.marker)
    ∃ t, s.act (hero config threshold) = (.ok ⟨true, UInt64.ofNat count, some marker⟩, t) ∧
      Reaches store config config.startA config.startB (met + delayLength config.marker)
        (config.walks first.angle second.angle count ++ (marks config marker met ++
          bothCommit config ⟨config.startA, first.angle⟩ ⟨config.startB, second.angle⟩
            parted parted)) s t := by
  intro marker met parted
  obtain ⟨⟨least, most, close⟩, first⟩ := meets
  obtain ⟨earlier, rfl⟩ : ∃ earlier, count = earlier + 1 := ⟨count - 1, by omega⟩
  obtain ⟨left, room⟩ : ∃ left, config.maxIterations.toNat = earlier + (left + 1) :=
    ⟨config.maxIterations.toNat - (earlier + 1), by omega⟩
  have apart : ∀ k, 1 ≤ k → k ≤ earlier →
      collides (config.placeA k) (config.placeB k) threshold = false := by
    intro k positive before
    rw [← Bool.not_eq_true]
    exact fun closer => first k (by omega) ⟨positive, by omega, closer⟩
  obtain ⟨placed, begin, starts⟩ := act_hero_begins cast looks same threshold
  have early : placed.now = 0 := starts.now.trans now
  obtain ⟨t, walked, walk⟩ := act_approach_walks cast earlier starts.standing early apart (left + 1)
  obtain ⟨u, further, last⟩ :=
    act_approach_succ cast walked early threshold (UInt64.ofNat earlier) left
  obtain ⟨v, meeting, returns⟩ := reaches_meet cast further.standing marker
  have whole := (starts.trans further).trans returns
  have time : u.now = met := by
    rw [further.now, early, Nat.zero_add]
  refine ⟨v, ?_, whole.standing, ?_, ?_⟩
  · rw [begin, room, walk, last, if_pos close, act_bind_of_ok meeting, UInt64.ofNat_add]
    rfl
  · rw [whole.now, Nat.zero_add]
  · rw [whole.events, time]
    rfl

/-- They are never close: both stay where their last walk has taken them. -/
theorem act_hero_of_apart (apart : ∀ count, ¬config.MeetsAt threshold count) :
    let most := config.maxIterations.toNat
    ∃ t, s.act (hero config threshold) = (.ok ⟨false, config.maxIterations, none⟩, t) ∧
      Walked store config first second most s t := by
  intro most
  obtain ⟨placed, begin, starts⟩ := act_hero_begins cast looks same threshold
  have far : ∀ k, 1 ≤ k → k ≤ most →
      collides (config.placeA k) (config.placeB k) threshold = false := by
    intro k positive within
    rw [← Bool.not_eq_true]
    exact fun close => apart k ⟨positive, within, close⟩
  obtain ⟨t, walked, walk⟩ :=
    act_approach_walks cast most starts.standing (starts.now.trans now) far 0
  have whole := starts.trans walked
  refine ⟨t, ?_, whole.standing, ?_, whole.events⟩
  · rw [begin, ← Nat.add_zero config.maxIterations.toNat, walk]
    rfl
  · rw [whole.now, Nat.zero_add]

end Scene

end Session

/-! ## The scene on a stage -/

namespace Stage

open Session (start Reaches Cast)

/-- A scene that is played to its end, after which everything is as the scene has left it. -/
theorem hero_of_reaches {stage : Stage} {visits : List Visit} {outcome : HeroOutcome} {t : Session}
    {a b : Position} {delay : Nat} {log : List Event}
    (valid : stage.config.check = .ok ())
    (played : (start stage.store visits).act
      (SpriteStage.hero stage.config.hero stage.config.collisionThreshold) = (.ok outcome, t))
    (reaches : Reaches stage.store stage.config.hero a b delay log (start stage.store visits) t) :
    let run := stage.hero visits
    run.outcome = .ok outcome ∧ run.elapsed = .ofMillis delay ∧
      run.session.store = stage.store.standing stage.config.hero a b ∧
      run.session.events = log := by
  intro run
  have whole : run = ⟨.ok outcome, t.elapsed, t.settle⟩ := by
    show stage.hero visits = _
    rw [hero, act_heroAct_of_valid valid, played]
  rw [whole]
  refine ⟨rfl, ?_, ?_, ?_⟩
  · show Duration.ofMillis t.now = _
    rw [reaches.now, Session.start, Nat.zero_add]
  · exact (Session.store_settle reaches.standing.looks).trans reaches.standing.store
  · rw [Session.events_settle, reaches.events]
    rfl

end Stage

end SpriteStage
