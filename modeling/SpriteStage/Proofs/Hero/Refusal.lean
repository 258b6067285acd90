import SpriteStage.Proofs.Hero.Course
import SpriteStage.Proofs.Session.Still
import SpriteStage.Stage.Play

/-! # Hero scenes that are refused

If others only look, nobody leaves the roster while the scene goes on. So a scene is refused before
it has begun or not at all: because of the settings, or because a sprite is missing. By then nothing
has been announced, but the first sprite may have been moved already.

* `Session.Roster` — nobody comes or goes from one moment to another
* `Act.KeepsRoster`, `keepsRoster_hero` — an act in which nobody does
* `Session.act_hero_of_mem` — with both sprites on the roster the scene takes place
* `Stage.refused_hero` — when a scene is refused, and what it has done until then
-/

namespace SpriteStage

set_option autoImplicit false

/-! ## Nobody comes or goes -/

namespace Session

/-- Nobody comes or goes from one moment to another, and no visits are planned in between. -/
structure Roster (s t : Session) : Prop where
  ids : t.store.ids = s.store.ids
  visits : ∀ visit ∈ t.visits, visit ∈ s.visits

theorem Roster.refl (s : Session) : Roster s s :=
  ⟨rfl, fun _ mem => mem⟩

theorem Roster.trans {s t u : Session} (h₁ : Roster s t) (h₂ : Roster t u) : Roster s u :=
  ⟨h₂.ids.trans h₁.ids, fun visit mem => h₁.visits visit (h₂.visits visit mem)⟩

theorem Still.roster {s t : Session} (h : Still s t) : Roster s t :=
  ⟨congrArg Store.ids h.store, h.visits⟩

end Session

namespace Act

open Session (Roster)

/-- In the act nobody comes or goes, as long as others only look. -/
def KeepsRoster {α : Type} (act : Act α) : Prop :=
  ∀ s : Session, (∀ visit ∈ s.visits, visit.request = .look) → Roster s (s.act act).2

section Sequences

variable {α β : Type}

theorem keepsRoster_pure (value : α) : KeepsRoster (pure value) :=
  fun s _ => .refl s

theorem KeepsRoster.bind {x : Act α} {f : α → Act β} (first : x.KeepsRoster)
    (later : ∀ value, (f value).KeepsRoster) : (x >>= f).KeepsRoster := by
  intro s looks
  have kept := first s looks
  cases run : s.act x with
  | mk result t =>
    rw [run] at kept
    cases result with
    | ok value =>
      rw [Session.act_bind_of_ok run]
      exact kept.trans (later value t fun visit mem => looks visit (kept.visits visit mem))
    | error fault =>
      rw [Session.act_bind_of_error run]
      exact kept

end Sequences

theorem keepsRoster_announce (event : Duration → Event) : KeepsRoster (announce event) :=
  fun s _ => (s.still_emit _).roster

theorem keepsRoster_pause (ms : Int64) : KeepsRoster (pause ms) :=
  fun _ looks => (Session.still_pause looks ms).roster

theorem keepsRoster_look (id : SpriteId) : KeepsRoster (look id) := by
  intro s _
  by_cases there : id ∈ s.store.ids
  · obtain ⟨sprite, found⟩ := s.store.exists_find?_of_mem there
    rw [Session.act_look_of_some found]
    exact .refl s
  · rw [Session.act_look_of_absent there]
    exact .refl s

theorem keepsRoster_drag (id : SpriteId) (position : Position) :
    KeepsRoster (drag id position) := by
  intro s _
  by_cases there : id ∈ s.store.ids
  · rw [Session.act_drag_of_mem there]
    exact ⟨s.store.ids_modify id fun sprite => sprite.id_withPosition position, fun _ mem => mem⟩
  · rw [Session.act_drag_of_absent there]
    exact .refl s

theorem keepsRoster_announcePose (id : SpriteId) : KeepsRoster (announcePose id) :=
  (keepsRoster_look id).bind fun _ => keepsRoster_announce _

theorem keepsRoster_walkBy (id : SpriteId) (dx : Float) : KeepsRoster (walkBy id dx) :=
  (keepsRoster_look id).bind fun _ => (keepsRoster_drag id _).bind fun _ =>
    (keepsRoster_announcePose id).bind fun _ => keepsRoster_pure _

end Act

open Act

variable (config : HeroConfig)

theorem keepsRoster_meet (marker : Position) : (meet config marker).KeepsRoster :=
  (keepsRoster_announce _).bind fun _ => (keepsRoster_pause _).bind fun _ =>
    (keepsRoster_announce _).bind fun _ => (keepsRoster_drag _ _).bind fun _ =>
    (keepsRoster_drag _ _).bind fun _ => (keepsRoster_announcePose _).bind fun _ =>
    keepsRoster_announcePose _

theorem keepsRoster_approach (threshold : Float) (done : UInt64) (left : Nat) :
    (approach config threshold done left).KeepsRoster := by
  induction left generalizing done with
  | zero => exact keepsRoster_pure _
  | succ left ih =>
    refine (keepsRoster_pause _).bind fun _ => (keepsRoster_walkBy _ _).bind fun a =>
      (keepsRoster_walkBy _ _).bind fun b => (keepsRoster_pause _).bind fun _ => ?_
    split
    · exact (keepsRoster_meet config _).bind fun _ => keepsRoster_pure _
    · exact ih (done + 1)

theorem keepsRoster_hero (threshold : Float) : (hero config threshold).KeepsRoster :=
  (keepsRoster_drag _ _).bind fun _ => (keepsRoster_drag _ _).bind fun _ =>
    keepsRoster_approach config threshold 0 _

/-! ## The scene -/

namespace Session

variable {config} {s : Session}

theorem act_hero_of_absent (absent : config.spriteA ∉ s.store.ids) (threshold : Float) :
    s.act (hero config threshold) = (.error (.spriteNotFound config.spriteA), s) := by
  rw [hero, act_bind_of_error (act_drag_of_absent absent config.startA)]

/-- The first sprite has been put where it starts when the other one is missed. -/
theorem act_hero_of_other_absent (there : config.spriteA ∈ s.store.ids)
    (absent : config.spriteB ∉ s.store.ids) (threshold : Float) :
    s.act (hero config threshold) = (.error (.spriteNotFound config.spriteB),
      s.changeStore fun store =>
        store.modify config.spriteA fun sprite => sprite.withPosition config.startA) := by
  have still : config.spriteB ∉ (s.changeStore fun store => store.modify config.spriteA
      fun sprite => sprite.withPosition config.startA).store.ids := by
    have ids := s.store.ids_modify config.spriteA fun sprite => sprite.id_withPosition config.startA
    exact ids ▸ absent
  rw [hero, act_bind_of_ok (act_drag_of_mem there config.startA),
    act_bind_of_error (act_drag_of_absent still config.startB)]

/-- With both sprites on the roster and others who only look, the scene is not refused. -/
theorem act_hero_of_mem (looks : ∀ visit ∈ s.visits, visit.request = .look)
    (different : config.spriteA ≠ config.spriteB) (thereA : config.spriteA ∈ s.store.ids)
    (thereB : config.spriteB ∈ s.store.ids) (threshold : Float) :
    ∃ outcome t, s.act (hero config threshold) = (.ok outcome, t) := by
  -- a refusal names a sprite that is missing in the end, but both have been there all the time
  have kept := keepsRoster_hero config threshold s looks
  obtain ⟨log, result, t, run, -, course⟩ := course_hero different threshold s
  rw [run] at kept
  cases result with
  | ok outcome => exact ⟨outcome, t, run⟩
  | error fault =>
    obtain ⟨id, -, who, absent⟩ := course.refused rfl
    rw [kept.ids] at absent
    rcases who with rfl | rfl
    · exact absurd thereA absent
    · exact absurd thereB absent

theorem store_settle (looks : ∀ visit ∈ s.visits, visit.request = .look) :
    s.settle.store = s.store :=
  (still_foldl_receive looks { s with visits := [] }).store

end Session

theorem StageConfig.different_of_check {config : StageConfig} (valid : config.check = .ok ()) :
    config.hero.spriteA ≠ config.hero.spriteB := by
  intro same
  rw [check, if_pos same] at valid
  split at valid
  · cases valid
  · cases valid

/-- A result that has failed: not all that it needed was there, and so it is told how it failed. -/
theorem taken_iff_of_error {ε α : Type} {result : Except ε α} {fault : ε} {needed : Prop}
    {how : ε → Prop} (failed : result = .error fault) (unmet : ¬needed) (told : how fault) :
    ((∃ value, result = .ok value) ↔ needed) ∧ ∀ fault, result = .error fault → how fault := by
  subst failed
  refine ⟨iff_of_false (fun ⟨value, ok⟩ => nomatch ok) unmet, fun fault same => ?_⟩
  cases same
  exact told

namespace Stage

open Session (start act_bind_of_ok act_bind_of_error)

variable {s : Session} {config : StageConfig}

theorem act_heroAct_of_rejected {fault : Fault} (invalid : config.check = .error fault) :
    s.act (heroAct config) = (.error fault, s) := by
  have refused : s.act (Act.ofExcept config.check) = (.error fault, s) := by
    rw [invalid]
    rfl
  rw [heroAct, act_bind_of_error refused]

theorem act_heroAct_of_valid (valid : config.check = .ok ()) :
    s.act (heroAct config) = s.act (SpriteStage.hero config.hero config.collisionThreshold) := by
  have passed : s.act (Act.ofExcept config.check) = (.ok (), s) := by
    rw [valid]
    rfl
  rw [heroAct, act_bind_of_ok passed]

/-- A scene that is refused before any time has gone by, and before anything has been announced. -/
theorem hero_of_refused {stage : Stage} {visits : List Visit} {fault : Fault} {t : Session}
    (looks : ∀ visit ∈ visits, visit.request = .look)
    (refused : (start stage.store visits).act (heroAct stage.config) = (.error fault, t))
    (now : t.now = 0) (events : t.events = []) (toCome : t.visits = visits) :
    (stage.hero visits).outcome = .error fault ∧ (stage.hero visits).session.events = [] ∧
      (stage.hero visits).elapsed = .zero ∧ (stage.hero visits).session.store = t.store := by
  have run : stage.hero visits = ⟨.error fault, t.elapsed, t.settle⟩ := by
    rw [hero, refused]
  rw [run]
  refine ⟨rfl, ?_, ?_, Session.store_settle (toCome ▸ looks)⟩
  · rw [Session.events_settle, events]
  · rw [Session.elapsed, now, Duration.ofMillis_zero]

theorem hero_of_mem {stage : Stage} {visits : List Visit}
    (looks : ∀ visit ∈ visits, visit.request = .look) (valid : stage.config.check = .ok ())
    (thereA : stage.config.hero.spriteA ∈ stage.store.ids)
    (thereB : stage.config.hero.spriteB ∈ stage.store.ids) :
    ∃ value, (stage.hero visits).outcome = .ok value := by
  obtain ⟨value, t, took⟩ := Session.act_hero_of_mem (s := start stage.store visits) looks
    (StageConfig.different_of_check valid) thereA thereB stage.config.collisionThreshold
  have run : stage.hero visits = ⟨.ok value, t.elapsed, t.settle⟩ := by
    rw [hero, act_heroAct_of_valid valid, took]
  exact ⟨value, congrArg Run.outcome run⟩

/--
While others only look, the hero scene takes place just if the settings are valid and both sprites
are on the roster. Otherwise it is refused at once and nothing is announced. The store stays as it
is, with one exception: if the second sprite alone is missing, the first has been put where it
starts.
-/
theorem refused_hero (stage : Stage) {visits : List Visit}
    (looks : ∀ visit ∈ visits, visit.request = .look) :
    let run := stage.hero visits
    let config := stage.config.hero
    let before := stage.store
    let after := run.session.store
    ((∃ outcome, run.outcome = .ok outcome) ↔
      stage.config.check = .ok () ∧ config.spriteA ∈ before.ids ∧ config.spriteB ∈ before.ids) ∧
    ∀ fault, run.outcome = .error fault →
      run.session.events = [] ∧ run.elapsed = .zero ∧
      (stage.config.check = .error fault ∧ after = before ∨
        stage.config.check = .ok () ∧ fault = .spriteNotFound config.spriteA ∧
          config.spriteA ∉ before.ids ∧ after = before ∨
        stage.config.check = .ok () ∧ fault = .spriteNotFound config.spriteB ∧
          config.spriteA ∈ before.ids ∧ config.spriteB ∉ before.ids ∧
          after = before.modify config.spriteA
            fun sprite => sprite.withPosition config.startA) := by
  intro run config before after
  cases check : stage.config.check with
  | error invalid =>
    obtain ⟨outcome, events, elapsed, store⟩ := hero_of_refused looks
      (act_heroAct_of_rejected check) rfl (Session.events_start _ _) rfl
    exact taken_iff_of_error outcome (fun ⟨valid, _⟩ => nomatch valid)
      ⟨events, elapsed, .inl ⟨rfl, store⟩⟩
  | ok valid =>
    have begins := act_heroAct_of_valid (s := start stage.store visits) check
    by_cases thereA : config.spriteA ∈ before.ids
    case neg =>
      obtain ⟨outcome, events, elapsed, store⟩ := hero_of_refused looks
        (begins.trans (Session.act_hero_of_absent thereA _)) rfl (Session.events_start _ _) rfl
      exact taken_iff_of_error outcome (fun ⟨_, there, _⟩ => thereA there)
        ⟨events, elapsed, .inr (.inl ⟨rfl, rfl, thereA, store⟩)⟩
    by_cases thereB : config.spriteB ∈ before.ids
    case neg =>
      obtain ⟨outcome, events, elapsed, store⟩ := hero_of_refused looks
        (begins.trans (Session.act_hero_of_other_absent thereA thereB _)) rfl
        (Session.events_start _ _) rfl
      exact taken_iff_of_error outcome (fun ⟨_, _, there⟩ => thereB there)
        ⟨events, elapsed, .inr (.inr ⟨rfl, rfl, thereA, thereB, store⟩)⟩
    obtain ⟨value, taken⟩ := hero_of_mem looks check thereA thereB
    refine ⟨iff_of_true ⟨value, taken⟩ ⟨rfl, thereA, thereB⟩, fun fault refused => ?_⟩
    cases taken.symm.trans refused

/-- The first sprite is missing, and the other one has not been moved. -/
theorem refused_hero_dog :
    let stage : Stage := ⟨.standard, ⟨2, [.fresh ⟨2⟩ "Dog" ⟨600, 200⟩]⟩, []⟩
    let run := stage.hero [⟨50, .look⟩]
    run.outcome = .error (.spriteNotFound ⟨1⟩) ∧ run.session.events = [] ∧
      run.session.store = stage.store := by
  intro stage run
  have absent : (⟨1⟩ : SpriteId) ∉ stage.store.ids := by decide
  have valid : stage.config.check.toOption = some () := by decide +kernel
  have looks : ∀ visit ∈ [(⟨50, .look⟩ : Visit)], visit.request = .look := by simp
  obtain ⟨takes, refused⟩ := refused_hero stage looks
  cases outcome : run.outcome with
  | ok value => exact absurd (takes.mp ⟨value, outcome⟩).2.1 absent
  | error fault =>
    obtain ⟨events, -, how⟩ := refused fault outcome
    rcases how with ⟨invalid, -⟩ | ⟨-, rfl, -, store⟩ | ⟨-, -, there, -⟩
    · rw [invalid] at valid
      cases valid
    · exact ⟨rfl, events, store⟩
    · exact absurd there absent

/-- The second sprite is missing, and the first has been moved nevertheless. -/
theorem cat_moved_before_refusal :
    let stage : Stage := ⟨.standard, ⟨1, [.fresh ⟨1⟩ "Cat" ⟨600, 200⟩]⟩, []⟩
    let run := stage.hero []
    run.outcome = .error (.spriteNotFound ⟨2⟩) ∧
      run.session.store = ⟨1, [.fresh ⟨1⟩ "Cat" ⟨300, 200⟩]⟩ ∧ run.session.store ≠ stage.store := by
  refine ⟨?_, by decide +kernel, by decide +kernel⟩
  rfl

end Stage

end SpriteStage
