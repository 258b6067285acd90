import SpriteStage.Proofs.Hero.Act

/-! # The log of the hero scene

Whatever others do to the store meanwhile, the log explains how the scene ended. The course of a
scene follows the recursion of `approach`; all that is said of a log is said by induction on it.

* `Course` — the log and the result of two sprites who approach each other
* `Meets`, `Misses` — the log of a meeting, and of walks without one
* `Session.course_hero` — every scene takes such a course
* `Session.log_explains_hero` — the outcome, or the refusal, in terms of the log
-/

namespace SpriteStage

set_option autoImplicit false

open Session (bothCommit)

/-! ## Logs -/

/-- The mark of a meeting comes or goes. -/
def Event.isMark : Event → Bool
  | markerShown .. => true
  | markerCleared _ => true
  | _ => false

/-- Where a sprite has made known to be. -/
def Event.positionOf? (id : SpriteId) : Event → Option Position
  | poseCommitted sprite pose _ => if sprite = id then some pose.position else none
  | _ => none

/-- The positions that a sprite has made known, one after the other. -/
def committed (id : SpriteId) (log : List Event) : List Position :=
  log.filterMap (Event.positionOf? id)

section Logs

variable {config : HeroConfig} (different : config.spriteA ≠ config.spriteB)
variable (a b : Pose) (timeA timeB : Duration) (log : List Event)

include different in
theorem committed_bothCommit_first :
    committed config.spriteA (bothCommit config a b timeA timeB ++ log) =
      a.position :: committed config.spriteA log := by
  simp [committed, bothCommit, Event.positionOf?, different.symm]

include different in
theorem committed_bothCommit_second :
    committed config.spriteB (bothCommit config a b timeA timeB ++ log) =
      b.position :: committed config.spriteB log := by
  simp [committed, bothCommit, Event.positionOf?, different]

theorem filter_isMark_bothCommit :
    (bothCommit config a b timeA timeB ++ log).filter Event.isMark = log.filter Event.isMark := rfl

theorem committed_marks (id : SpriteId) (marker : Position) (now : Nat) :
    committed id (Session.marks config marker now ++ log) = committed id log := rfl

end Logs

/-! ## The course of a scene -/

/--
The log and the result of two sprites who have walked `done` times and walk up to `left` more times.
The roster is the one that they leave behind.
-/
inductive Course (config : HeroConfig) (threshold : Float) (roster : List SpriteId) :
    UInt64 → Nat → List Event → Except Fault HeroOutcome → Prop where
  /-- They have walked far enough. -/
  | tired (done : UInt64) :
    Course config threshold roster done 0 [] (.ok ⟨false, config.maxIterations, none⟩)
  /-- They walk, do not meet, and go on. -/
  | goOn {done : UInt64} {left : Nat} {a b : Pose} {timeA timeB : Duration} {later : List Event}
    {result : Except Fault HeroOutcome} (far : collides a.position b.position threshold = false)
    (rest : Course config threshold roster (done + 1) left later result) :
    Course config threshold roster done (left + 1) (bothCommit config a b timeA timeB ++ later)
      result
  /-- They walk, meet, and return. -/
  | met {done : UInt64} {left : Nat} {a b homeA homeB : Pose} {timeA timeB : Duration} {now : Nat}
    {homeTimeA homeTimeB : Duration} (close : collides a.position b.position threshold = true)
    (startA : homeA.position = config.startA) (startB : homeB.position = config.startB) :
    Course config threshold roster done (left + 1)
      (bothCommit config a b timeA timeB ++
        (Session.marks config (a.position.midpoint b.position) now ++
          bothCommit config homeA homeB homeTimeA homeTimeB))
      (.ok ⟨true, done + 1, some (a.position.midpoint b.position)⟩)
  /-- One of them is gone before they walk. -/
  | gone {done : UInt64} {left : Nat} {id : SpriteId}
    (who : id = config.spriteA ∨ id = config.spriteB) (absent : id ∉ roster) :
    Course config threshold roster done left [] (.error (.spriteNotFound id))
  /-- The first has walked when the other one is found to be gone. -/
  | alone {done : UInt64} {left : Nat} {a : Pose} {time : Duration}
    (absent : config.spriteB ∉ roster) :
    Course config threshold roster done (left + 1) [.poseCommitted config.spriteA a time]
      (.error (.spriteNotFound config.spriteB))
  /-- They have met, and one of them is gone before it can return. -/
  | homeless {done : UInt64} {left : Nat} {a b : Pose} {timeA timeB : Duration} {now : Nat}
    {id : SpriteId} (who : id = config.spriteA ∨ id = config.spriteB) (absent : id ∉ roster) :
    Course config threshold roster done (left + 1)
      (bothCommit config a b timeA timeB ++
        Session.marks config (a.position.midpoint b.position) now)
      (.error (.spriteNotFound id))

/-! ## Every scene takes such a course -/

namespace Session

variable {config : HeroConfig} (different : config.spriteA ≠ config.spriteB) (threshold : Float)

include different in
theorem course_approach (left : Nat) (done : UInt64) (s : Session) :
    ∃ (log : List Event) (result : Except Fault HeroOutcome) (t : Session),
      s.act (approach config threshold done left) = (result, t) ∧
      t.events = s.events ++ log ∧
      Course config threshold t.store.ids done left log result := by
  induction left generalizing done s with
  | zero => exact ⟨[], _, s, rfl, (List.append_nil _).symm, .tired done⟩
  | succ left ih =>
    rw [approach]
    obtain ⟨a, b, timeA, timeB, tested, walked, told⟩ | ⟨t, missed, told, absent⟩ |
        ⟨a, time, t, missed, told, absent⟩ := s.act_stride config fun a b =>
      if collides a b threshold then do
        meet config (a.midpoint b)
        return ⟨true, done + 1, some (a.midpoint b)⟩
      else approach config threshold (done + 1) left
    · by_cases close : collides a.position b.position threshold = true
      case neg =>
        rw [if_neg close] at walked
        obtain ⟨later, result, t, run, toldLater, course⟩ := ih (done + 1) tested
        rw [told, List.append_assoc] at toldLater
        exact ⟨_, result, t, walked.trans run, toldLater, .goOn (Bool.eq_false_iff.mpr close) course⟩
      rw [if_pos close] at walked
      obtain ⟨homeA, homeB, time, t, meeting, toldHome, startA, startB⟩ |
          ⟨id, t, meeting, toldMarks, who, absent⟩ :=
        act_meet different tested (a.position.midpoint b.position)
      · rw [told, List.append_assoc] at toldHome
        exact ⟨_, _, t, walked.trans (act_bind_of_ok meeting _), toldHome,
          .met close startA startB⟩
      · rw [told, List.append_assoc] at toldMarks
        exact ⟨_, _, t, walked.trans (act_bind_of_error meeting _), toldMarks,
          .homeless who absent⟩
    · exact ⟨[], _, t, missed, told.trans (List.append_nil _).symm, .gone (.inl rfl) absent⟩
    · exact ⟨_, _, t, missed, told, .alone absent⟩

include different in
theorem course_hero (s : Session) :
    ∃ (log : List Event) (result : Except Fault HeroOutcome) (t : Session),
      s.act (hero config threshold) = (result, t) ∧ t.events = s.events ++ log ∧
      Course config threshold t.store.ids 0 config.maxIterations.toNat log result := by
  rw [hero]
  by_cases thereA : config.spriteA ∈ s.store.ids
  case neg =>
    exact ⟨[], _, s, act_bind_of_error (act_drag_of_absent thereA config.startA) _,
      (List.append_nil _).symm, .gone (.inl rfl) thereA⟩
  have dragA := act_drag_of_mem thereA config.startA
  rw [act_bind_of_ok dragA]
  let placedA := s.changeStore fun store =>
    store.modify config.spriteA fun sprite => sprite.withPosition config.startA
  by_cases thereB : config.spriteB ∈ placedA.store.ids
  case neg =>
    exact ⟨[], _, placedA, act_bind_of_error (act_drag_of_absent thereB config.startB) _,
      (List.append_nil _).symm, .gone (.inr rfl) thereB⟩
  rw [act_bind_of_ok (act_drag_of_mem thereB config.startB)]
  exact course_approach different threshold config.maxIterations.toNat 0 _

end Session

/-! ## What a log says -/

/-- The log of two sprites who walked apart some times, met at the next, and returned. -/
structure Meets (config : HeroConfig) (threshold : Float) (walks : List (Position × Position))
    (a b : Position) (log : List Event) : Prop where
  walkA : committed config.spriteA log = walks.map Prod.fst ++ [a, config.startA]
  walkB : committed config.spriteB log = walks.map Prod.snd ++ [b, config.startB]
  apart : ∀ walk ∈ walks, collides walk.1 walk.2 threshold = false
  close : collides a b threshold = true
  marked : ∃ now, log.filter Event.isMark = Session.marks config (a.midpoint b) now
  home : ∃ (before : List Event) (homeA homeB : Pose) (timeA timeB : Duration),
    log = before ++ [.poseCommitted config.spriteA homeA timeA,
      .poseCommitted config.spriteB homeB timeB] ∧
    homeA.position = config.startA ∧ homeB.position = config.startB

/-- The log of two sprites who walked apart all the time. -/
structure Misses (config : HeroConfig) (threshold : Float) (walks : List (Position × Position))
    (log : List Event) : Prop where
  walkA : committed config.spriteA log = walks.map Prod.fst
  walkB : committed config.spriteB log = walks.map Prod.snd
  apart : ∀ walk ∈ walks, collides walk.1 walk.2 threshold = false
  unmarked : log.filter Event.isMark = []

section Walks

variable {config : HeroConfig} {threshold : Float} {walks : List (Position × Position)}
variable {log : List Event} {p q : Pose}

theorem Meets.afterWalk {a b : Position} (h : Meets config threshold walks a b log)
    (different : config.spriteA ≠ config.spriteB)
    (far : collides p.position q.position threshold = false) (timeA timeB : Duration) :
    Meets config threshold ((p.position, q.position) :: walks) a b
      (bothCommit config p q timeA timeB ++ log) := by
  refine ⟨?_, ?_, List.forall_mem_cons.mpr ⟨far, h.apart⟩, h.close, h.marked, ?_⟩
  · rw [committed_bothCommit_first different, h.walkA]
    rfl
  · rw [committed_bothCommit_second different, h.walkB]
    rfl
  · obtain ⟨before, homeA, homeB, homeTimeA, homeTimeB, ends, starts⟩ := h.home
    refine ⟨bothCommit config p q timeA timeB ++ before, homeA, homeB, homeTimeA, homeTimeB, ?_,
      starts⟩
    rw [ends, List.append_assoc]

theorem Misses.afterWalk (h : Misses config threshold walks log)
    (different : config.spriteA ≠ config.spriteB)
    (far : collides p.position q.position threshold = false) (timeA timeB : Duration) :
    Misses config threshold ((p.position, q.position) :: walks)
      (bothCommit config p q timeA timeB ++ log) := by
  refine ⟨?_, ?_, List.forall_mem_cons.mpr ⟨far, h.apart⟩, h.unmarked⟩
  · rw [committed_bothCommit_first different, h.walkA]
    rfl
  · rw [committed_bothCommit_second different, h.walkB]
    rfl

end Walks

namespace Course

variable {config : HeroConfig} {threshold : Float} {roster : List SpriteId} {done : UInt64}
variable {left : Nat} {log : List Event} {result : Except Fault HeroOutcome}

theorem marks (h : Course config threshold roster done left log result) :
    log.filter Event.isMark = [] ∨
      ∃ marker now, log.filter Event.isMark = Session.marks config marker now := by
  induction h with
  | tired _ => exact .inl rfl
  | goOn _ _ ih => rwa [filter_isMark_bothCommit]
  | met _ _ _ => exact .inr ⟨_, _, rfl⟩
  | gone _ _ => exact .inl rfl
  | alone _ => exact .inl rfl
  | homeless _ _ => exact .inr ⟨_, _, rfl⟩

theorem meets (h : Course config threshold roster done left log result)
    (different : config.spriteA ≠ config.spriteB) {outcome : HeroOutcome}
    (ok : result = .ok outcome) (collided : outcome.collided = true) :
    ∃ walks a b, Meets config threshold walks a b log ∧ walks.length < left ∧
      outcome.iterations = done + UInt64.ofNat (walks.length + 1) ∧
      outcome.marker = some (a.midpoint b) := by
  induction h with
  | tired _ =>
    cases ok
    cases collided
  | goOn far _ ih =>
    rename_i done left p q timeA timeB later result _
    obtain ⟨walks, a, b, meets, within, iterations, marker⟩ := ih ok
    refine ⟨(p.position, q.position) :: walks, a, b, meets.afterWalk different far timeA timeB,
      Nat.succ_lt_succ within, ?_, marker⟩
    rw [iterations, List.length_cons, UInt64.ofNat_add (walks.length + 1) 1, UInt64.add_assoc,
      UInt64.add_comm 1]
    rfl
  | met close startA startB =>
    rename_i done left a b homeA homeB timeA timeB now homeTimeA homeTimeB
    cases ok
    refine ⟨[], a.position, b.position, ⟨?_, ?_, List.forall_mem_nil _, close, ⟨now, rfl⟩, ?_⟩,
      Nat.succ_pos left, rfl, rfl⟩
    · rw [committed_bothCommit_first different, committed_marks, ← startA]
      exact congrArg (List.cons _)
        (committed_bothCommit_first different homeA homeB homeTimeA homeTimeB [])
    · rw [committed_bothCommit_second different, committed_marks, ← startB]
      exact congrArg (List.cons _)
        (committed_bothCommit_second different homeA homeB homeTimeA homeTimeB [])
    · exact ⟨_, homeA, homeB, homeTimeA, homeTimeB, (List.append_assoc _ _ _).symm, startA, startB⟩
  | gone _ _ => cases ok
  | alone _ => cases ok
  | homeless _ _ => cases ok

theorem misses (h : Course config threshold roster done left log result)
    (different : config.spriteA ≠ config.spriteB) {outcome : HeroOutcome}
    (ok : result = .ok outcome) (apart : outcome.collided = false) :
    (∃ walks, Misses config threshold walks log ∧ walks.length = left) ∧
      outcome.iterations = config.maxIterations ∧ outcome.marker = none := by
  induction h with
  | tired _ =>
    cases ok
    exact ⟨⟨[], ⟨rfl, rfl, List.forall_mem_nil _, rfl⟩, rfl⟩, rfl, rfl⟩
  | goOn far _ ih =>
    rename_i done left p q timeA timeB later result _
    obtain ⟨⟨walks, misses, all⟩, unmarked⟩ := ih ok
    exact ⟨⟨_, misses.afterWalk different far timeA timeB, congrArg Nat.succ all⟩, unmarked⟩
  | met _ _ _ =>
    cases ok
    cases apart
  | gone _ _ => cases ok
  | alone _ => cases ok
  | homeless _ _ => cases ok

theorem refused (h : Course config threshold roster done left log result) {fault : Fault}
    (error : result = .error fault) :
    ∃ id, fault = .spriteNotFound id ∧ (id = config.spriteA ∨ id = config.spriteB) ∧
      id ∉ roster := by
  induction h with
  | tired _ => cases error
  | goOn _ _ ih => exact ih error
  | met _ _ _ => cases error
  | gone who absent =>
    cases error
    exact ⟨_, rfl, who, absent⟩
  | alone absent =>
    cases error
    exact ⟨_, rfl, .inr rfl, absent⟩
  | homeless who absent =>
    cases error
    exact ⟨_, rfl, who, absent⟩

end Course

/-! ## The scene -/

/--
The log of the scene among any visits. There is at most one mark, and it is taken away one delay
later. If the two meet, they do so at the last walk and not before, and are put back; if they do not,
they walk as often as they may. Only a sprite that has gone from the roster ends the scene early.
-/
theorem Session.log_explains_hero (store : Store) (visits : List Visit) (config : HeroConfig)
    (threshold : Float) (different : config.spriteA ≠ config.spriteB) :
    ∃ (result : Except Fault HeroOutcome) (t : Session),
      (start store visits).act (hero config threshold) = (result, t) ∧
      (t.events.filter Event.isMark = [] ∨ ∃ marker now, t.events.filter Event.isMark =
        [.markerShown marker (.ofMillis now),
          .markerCleared (.ofMillis (now + delayLength config.marker))]) ∧
      (∀ outcome, result = .ok outcome → outcome.collided = true →
        ∃ walks a b, Meets config threshold walks a b t.events ∧
          outcome.iterations.toNat = walks.length + 1 ∧ outcome.marker = some (a.midpoint b)) ∧
      (∀ outcome, result = .ok outcome → outcome.collided = false →
        ∃ walks, Misses config threshold walks t.events ∧
          walks.length = config.maxIterations.toNat ∧
          outcome.iterations = config.maxIterations ∧ outcome.marker = none) ∧
      ∀ fault, result = .error fault → ∃ id, fault = .spriteNotFound id ∧
        (id = config.spriteA ∨ id = config.spriteB) ∧ id ∉ t.store.ids := by
  obtain ⟨log, result, t, run, told, course⟩ := course_hero different threshold (start store visits)
  have told : log = t.events := told.symm
  subst told
  refine ⟨result, t, run, course.marks, fun outcome ok collided => ?_, fun outcome ok apart => ?_,
    fun fault error => course.refused error⟩
  · obtain ⟨walks, a, b, meets, within, iterations, marker⟩ := course.meets different ok collided
    refine ⟨walks, a, b, meets, ?_, marker⟩
    have fits : walks.length + 1 < UInt64.size :=
      Nat.lt_of_le_of_lt within config.maxIterations.toNat_lt_size
    rw [iterations, UInt64.zero_add, UInt64.toNat_ofNat_of_lt' fits]
  · obtain ⟨⟨walks, misses, all⟩, iterations, marker⟩ := course.misses different ok apart
    exact ⟨walks, misses, all, iterations, marker⟩

/-- Two sprites who set out from 0 and 40 and walk ten at a time. -/
def stroll : HeroConfig :=
  ⟨⟨1⟩, ⟨2⟩, ⟨0, 0⟩, ⟨40, 0⟩, 10, 10, 5, 50⟩

/-- The first one is dragged back to 6 after its first walk, and they meet at their second. -/
theorem Session.log_explains_hero_stroll :
    let store : Store := ⟨2, [.fresh ⟨1⟩ "Cat" ⟨9, 9⟩, .fresh ⟨2⟩ "Dog" ⟨9, 9⟩]⟩
    let run := (start store [⟨15, .drag ⟨1⟩ ⟨6, 0⟩⟩]).act (hero stroll 5)
    stroll.spriteA ≠ stroll.spriteB ∧ run.1.toOption = some ⟨true, 2, some ⟨18, 0⟩⟩ ∧
      ∃ walks a b, Meets stroll 5 walks a b run.2.events ∧ walks.length = 1 ∧
        a.midpoint b = ⟨18, 0⟩ := by
  intro store run
  have different : stroll.spriteA ≠ stroll.spriteB := by decide
  have ends : run.1.toOption = some ⟨true, 2, some ⟨18, 0⟩⟩ := by decide +kernel
  refine ⟨different, ends, ?_⟩
  obtain ⟨result, t, same, -, met, -⟩ :=
    log_explains_hero store [⟨15, .drag ⟨1⟩ ⟨6, 0⟩⟩] stroll 5 different
  have same : run = (result, t) := same
  rw [same] at ends ⊢
  cases result with
  | error fault => cases ends
  | ok outcome =>
    obtain rfl : outcome = ⟨true, 2, some ⟨18, 0⟩⟩ := Option.some.inj ends
    obtain ⟨walks, a, b, meets, walked, marker⟩ := met _ rfl rfl
    exact ⟨walks, a, b, meets, (Nat.succ.inj walked).symm, (Option.some.inj marker).symm⟩

end SpriteStage
