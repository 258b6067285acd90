import SpriteStage.Proofs.Json.RoundTrips

/-! # Settings, saved and loaded

Saving checks nothing, and a text has no form for a double that is not finite. So what has been saved
comes back only if loading finds every number and passes the check, and then it is what was saved.

* `fromUTF8?_toUTF8`, `StageConfig.ofFile_toUTF8` — the bytes of a text are read as that text
* `StageConfig.isThreshold_iff` — the finite doubles that are thresholds
* `Revealing` — values whose doubles are finite whenever they can be read back
* `StageConfig.ofFile_fileText` — what loading makes of saved settings
-/

namespace SpriteStage

set_option autoImplicit false

open Json (Record Kept record?_ofMembers parse?_pretty)
open Float.Model (UnpackedFloat)

/-! ## Files -/

theorem fromUTF8?_toUTF8 (text : String) : String.fromUTF8? text.toUTF8 = some text :=
  dif_pos text.isValidUTF8

theorem StageConfig.ofFile_toUTF8 (text : String) : ofFile (.ok text.toUTF8) = ofText text := by
  rw [ofFile, Json.textOfBytes, fromUTF8?_toUTF8]

theorem passed_iff {α : Type} {check : Except Fault Unit} {a b : α} :
    (check.map fun _ => a) = .ok b ↔ a = b ∧ check = .ok () := by
  cases check <;> simp [Except.map]

/-- Whatever is loaded has been read, and has passed the check. -/
theorem StageConfig.ofText_eq_ok_iff {text : String} {config : StageConfig} :
    ofText text = .ok config ↔ readText ofJson? text = some config ∧ config.check = .ok () := by
  rw [ofText, readText]
  cases Json.parse? text >>= ofJson? with
  | none => simp
  | some read =>
    refine passed_iff.trans ?_
    constructor
    · rintro ⟨rfl, passed⟩
      exact ⟨rfl, passed⟩
    · rintro ⟨⟨⟩, passed⟩
      exact ⟨rfl, passed⟩

/-! ## Checks -/

theorem unpack_zero : (0 : Float).toModel.unpack = .zero .positive := by rfl

namespace StageConfig

/-- A finite double is at least zero unless it is below zero, minus zero included. -/
theorem isThreshold_iff {x : Float} (finite : x.isFinite = true) :
    isThreshold x = true ↔ ¬ x < 0 := by
  have least : (0 ≤ x) ↔ (UnpackedFloat.zero .positive).le x.toModel.unpack = true := by
    rw [← unpack_zero]
    exact decide_eq_true_iff
  have below : (x < 0) ↔ x.toModel.unpack.lt (.zero .positive) = true := by
    rw [← unpack_zero]
    exact decide_eq_true_iff
  have known : x.toModel.unpack.isFinite = true := finite
  rw [isThreshold, finite, Bool.true_and, decide_eq_true_iff, least, below]
  generalize x.toModel.unpack = u at known
  cases u with
  | notANumber => cases known
  | infinity s => cases known
  | zero s => exact ⟨fun _ below => (by cases below), fun _ => rfl⟩
  | finite s m e positive =>
    cases s with
    | positive => exact ⟨fun _ below => (by cases below), fun _ => rfl⟩
    | negative => exact ⟨fun least => (by cases least), fun other => absurd rfl other⟩

variable (config : StageConfig)

/-- A bad threshold is reported before hero sprites that are the same. -/
theorem check_of_finite (finite : config.collisionThreshold.isFinite = true) :
    config.check = if config.collisionThreshold < 0 then .error (.badThreshold config.collisionThreshold)
      else if config.hero.spriteA = config.hero.spriteB then
        .error (.sameHeroSprites config.hero.spriteA)
      else .ok () := by
  have passes := isThreshold_iff finite
  rw [check]
  by_cases below : config.collisionThreshold < 0
  · have fails : isThreshold config.collisionThreshold = false :=
      Bool.eq_false_iff.mpr fun passed => passes.mp passed below
    rw [fails, if_pos below]
    rfl
  · rw [passes.mpr below, if_neg below]
    rfl

end StageConfig

/-! ## Numbers that have no form -/

/-- If a value can be read back at all, its doubles are finite. -/
def Revealing {α : Type} (write : α → Json) (read? : Json → Option α) (floats : α → List Float) :
    Prop :=
  ∀ a b, read? (write a) = some b → ∀ x ∈ floats a, x.isFinite = true

theorem revealing_float : Revealing Json.ofFloat Json.toFloat? fun x => [x] := by
  intro x y found z member
  obtain rfl := List.mem_singleton.mp member
  rw [Json.ofFloat] at found
  split at found
  · assumption
  · cases found

theorem Position.revealing : Revealing toJson ofJson? floats := by
  intro p q found
  simp only [ofJson?, Option.bind_eq_bind, Option.bind_eq_some_iff, Option.pure_def,
    Option.some.injEq] at found
  obtain ⟨r, fields, x, first, y, second, -⟩ := found
  rw [toJson, record?_ofMembers (by rfl) (by decide)] at fields
  cases fields
  exact List.forall_mem_append.mpr ⟨revealing_float p.x x first, revealing_float p.y y second⟩

theorem HeroConfig.revealing : Revealing toJson ofJson? floats := by
  intro config other found
  simp only [ofJson?, Option.bind_eq_bind, Option.bind_eq_some_iff, Option.pure_def,
    Option.some.injEq] at found
  obtain ⟨r, fields, _, -, _, -, a, readA, b, readB, x, readStep, -⟩ := found
  rw [toJson, record?_ofMembers (by rfl) (by decide)] at fields
  cases fields
  simp only [floats, List.forall_mem_append]
  exact ⟨Position.revealing config.startA a readA, Position.revealing config.startB b readB,
    revealing_float config.step x readStep⟩

theorem StageConfig.revealing : Revealing toJson ofJson? floats := by
  intro config other found
  simp only [ofJson?, Option.bind_eq_bind, Option.bind_eq_some_iff, Option.pure_def,
    Option.some.injEq] at found
  obtain ⟨r, fields, x, readThreshold, _, -, _, -, p, readSpawn, hero, readHero, -⟩ := found
  rw [toJson, record?_ofMembers (by rfl) (by decide)] at fields
  cases fields
  simp only [floats, List.forall_mem_append]
  exact ⟨revealing_float config.collisionThreshold x readThreshold,
    Position.revealing config.spawnPosition p readSpawn,
    HeroConfig.revealing config.hero hero readHero⟩

/-! ## What comes back -/

namespace StageConfig

theorem ofFile_fileText_eq (config : StageConfig) :
    ofFile (.ok config.fileText.toUTF8) = match ofJson? config.toJson with
      | none => .error .malformedJson
      | some loaded => loaded.check.map fun _ => loaded := by
  rw [ofFile_toUTF8, ofText, fileText, parse?_pretty]
  rfl

theorem ofFile_fileText_of_finite {config : StageConfig}
    (digits : ∀ x ∈ config.floats, DigitsReadBack x)
    (finite : ∀ x ∈ config.floats, x.isFinite = true) :
    ofFile (.ok config.fileText.toUTF8) =
      if config.collisionThreshold < 0 then .error (.badThreshold config.collisionThreshold)
      else if config.hero.spriteA = config.hero.spriteB then
        .error (.sameHeroSprites config.hero.spriteA)
      else .ok config := by
  have back : ofJson? config.toJson = some config := faithful.back config fun x member =>
    ⟨finite x member, digits x member (finite x member)⟩
  have threshold : config.collisionThreshold.isFinite = true :=
    finite _ (List.mem_append_left _ List.mem_cons_self)
  rw [ofFile_fileText_eq, back]
  dsimp only
  rw [check_of_finite config threshold]
  split
  · rfl
  · split <;> rfl

theorem ofFile_fileText_of_not_finite {config : StageConfig}
    (infinite : ¬ ∀ x ∈ config.floats, x.isFinite = true) :
    ofFile (.ok config.fileText.toUTF8) = .error .malformedJson := by
  have unread : ofJson? config.toJson = none :=
    Option.eq_none_iff_forall_ne_some.mpr fun other found =>
      infinite (revealing config other found)
  rw [ofFile_fileText_eq, unread]

/--
Settings that are saved and loaded again. If a double among them is not finite, the text cannot be
read; otherwise the threshold and the hero sprites are checked, in this order; and what passes is what
was saved. So of the settings that pass the check, those with finite doubles come back.
-/
theorem ofFile_fileText (config : StageConfig) (digits : ∀ x ∈ config.floats, DigitsReadBack x) :
    let loaded := ofFile (.ok config.fileText.toUTF8)
    let finite := ∀ x ∈ config.floats, x.isFinite = true
    (loaded = .error .malformedJson ↔ ¬ finite) ∧
    (loaded = .error (.badThreshold config.collisionThreshold) ↔
      finite ∧ config.collisionThreshold < 0) ∧
    (loaded = .error (.sameHeroSprites config.hero.spriteA) ↔
      finite ∧ ¬ config.collisionThreshold < 0 ∧ config.hero.spriteA = config.hero.spriteB) ∧
    (loaded = .ok config ↔
      finite ∧ ¬ config.collisionThreshold < 0 ∧ config.hero.spriteA ≠ config.hero.spriteB) ∧
    (config.check = .ok () → (loaded = .ok config ↔ finite)) := by
  intro loaded finite
  by_cases all : finite
  · have result : loaded = _ := ofFile_fileText_of_finite digits all
    have checked := config.check_of_finite (all _ (List.mem_append_left _ List.mem_cons_self))
    by_cases below : config.collisionThreshold < 0
    · rw [if_pos below] at result checked
      simp [result, checked, all, below]
    · rw [if_neg below] at result checked
      by_cases same : config.hero.spriteA = config.hero.spriteB
      · rw [if_pos same] at result checked
        simp [result, checked, all, below, same]
      · rw [if_neg same] at result
        simp [result, all, below, same]
  · have result : loaded = _ := ofFile_fileText_of_not_finite all
    simp [result, all]

/-- Settings with a threshold and a delay of their own, and any step for the hero scene. -/
def strolling (step : Float) : StageConfig :=
  { standard with
    collisionThreshold := 4
    repeatDelay := 10
    hero := { HeroConfig.standard with step } }

/-- They come back if the step is a number, and are not read if it is none. -/
theorem ofFile_fileText_strolling :
    ((∀ x ∈ (strolling (-0.0)).floats, DigitsReadBack x) ∧
      ofFile (.ok (strolling (-0.0)).fileText.toUTF8) = .ok (strolling (-0.0))) ∧
    (∀ x ∈ (strolling (0 / 0)).floats, DigitsReadBack x) ∧
    (strolling (0 / 0)).check = .ok () ∧
    ofFile (.ok (strolling (0 / 0)).fileText.toUTF8) = .error .malformedJson := by
  have stroll : ∀ x ∈ (strolling (-0.0)).floats, DigitsReadBack x := by
    unfold DigitsReadBack
    decide +kernel
  have nowhere : ∀ x ∈ (strolling (0 / 0)).floats, DigitsReadBack x := by
    unfold DigitsReadBack
    decide +kernel
  have finite : ∀ x ∈ (strolling (-0.0)).floats, x.isFinite = true := by decide +kernel
  have infinite : ¬ ∀ x ∈ (strolling (0 / 0)).floats, x.isFinite = true := by decide +kernel
  have passes : (strolling (0 / 0)).check = .ok () := by decide +kernel
  have ⟨_, _, _, returns, _⟩ := ofFile_fileText (strolling (-0.0)) stroll
  have ⟨unread, _⟩ := ofFile_fileText (strolling (0 / 0)) nowhere
  exact ⟨⟨stroll, returns.mpr ⟨finite, by decide +kernel, by decide⟩⟩, nowhere, passes,
    unread.mpr infinite⟩

end StageConfig

end SpriteStage
