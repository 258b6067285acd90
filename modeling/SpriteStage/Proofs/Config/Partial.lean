import SpriteStage.Proofs.Config.Saved
import SpriteStage.Proofs.Json.Fields

/-! # Settings, some of them left out

A file may give any of the settings, in any order and among members of no meaning; those that are left
out are the standard ones. A setting that is given twice, or by a value that can be none, spoils the
file.

* `HeroConfig.keeping`, `StageConfig.keeping` — the chosen settings, and the standard ones for the others
* `HeroConfig.Gives`, `StageConfig.Gives` — members that are read as the chosen settings
* `HeroConfig.Writes`, `StageConfig.Writes` — members that the chosen settings are written as
* `StageConfig.ofFile_of_members` — what a file with some of the settings is read as
* `StageConfig.ofFile_misread` — digits that are not read as the double they were written for
-/

namespace SpriteStage

set_option autoImplicit false

open Json (Record Kept HasChosen Spoils Refuses Spaced default?_knownFields record?_of_hasChosen
  record?_obj_eq_some not_spoils_of_record? faithful_float toInt64?_ofInt64 toUInt64?_ofUInt64
  refuses_toFloat? refuses_toInt64? refuses_toUInt64? refuses_record?)

/-! ## Numbers and positions -/

theorem SpriteId.refuses : Refuses SpriteId.ofJson? := by
  intro j bare
  rw [ofJson?, refuses_toUInt64? j bare]
  rfl

theorem Position.refuses : Refuses Position.ofJson? := by
  intro j bare
  rw [ofJson?, refuses_record? _ j bare]
  rfl

/-! ## The settings of the hero scene -/

namespace HeroConfig

/-- The names of the settings of the hero scene. -/
def fieldNames : List String :=
  ["sprite_a", "sprite_b", "start_a", "start_b", "step", "cadence_ms", "max_iterations", "marker_ms"]

/-- The chosen settings, and the standard ones for the others. -/
def keeping (config : HeroConfig) (chosen : String → Bool) : HeroConfig where
  spriteA := if chosen "sprite_a" then config.spriteA else standard.spriteA
  spriteB := if chosen "sprite_b" then config.spriteB else standard.spriteB
  startA := if chosen "start_a" then config.startA else standard.startA
  startB := if chosen "start_b" then config.startB else standard.startB
  step := if chosen "step" then config.step else standard.step
  cadence := if chosen "cadence_ms" then config.cadence else standard.cadence
  maxIterations := if chosen "max_iterations" then config.maxIterations else standard.maxIterations
  marker := if chosen "marker_ms" then config.marker else standard.marker

variable {config : HeroConfig} {chosen : String → Bool} {members : List (String × Json)}

/-- Of the settings the members have the chosen ones, each by a value that is read as it. -/
structure Gives (config : HeroConfig) (chosen : String → Bool) (members : List (String × Json)) :
    Prop where
  names : HasChosen fieldNames chosen members
  spriteA : ∀ value, ("sprite_a", value) ∈ members → SpriteId.ofJson? value = some config.spriteA
  spriteB : ∀ value, ("sprite_b", value) ∈ members → SpriteId.ofJson? value = some config.spriteB
  startA : ∀ value, ("start_a", value) ∈ members → Position.ofJson? value = some config.startA
  startB : ∀ value, ("start_b", value) ∈ members → Position.ofJson? value = some config.startB
  step : ∀ value, ("step", value) ∈ members → value.toFloat? = some config.step
  cadence : ∀ value, ("cadence_ms", value) ∈ members → value.toInt64? = some config.cadence
  maxIterations : ∀ value, ("max_iterations", value) ∈ members →
    value.toUInt64? = some config.maxIterations
  marker : ∀ value, ("marker_ms", value) ∈ members → value.toInt64? = some config.marker

theorem ofJson?_of_gives (gives : config.Gives chosen members) :
    ofJson? (.ofMembers members) = some (config.keeping chosen) := by
  have has := gives.names
  have record := record?_of_hasChosen has
  have spriteA := default?_knownFields has (by decide) gives.spriteA standard.spriteA
  have spriteB := default?_knownFields has (by decide) gives.spriteB standard.spriteB
  have startA := default?_knownFields has (by decide) gives.startA standard.startA
  have startB := default?_knownFields has (by decide) gives.startB standard.startB
  have step := default?_knownFields has (by decide) gives.step standard.step
  have cadence := default?_knownFields has (by decide) gives.cadence standard.cadence
  have maxIterations :=
    default?_knownFields has (by decide) gives.maxIterations standard.maxIterations
  have marker := default?_knownFields has (by decide) gives.marker standard.marker
  change ((Json.ofMembers members).record? fieldNames >>= _) = _
  rw [record]
  simp only [spriteA, spriteB, startA, startB, step, cadence, maxIterations, marker,
    Option.bind_eq_bind, Option.bind_some]
  rfl

/-! ### As they are written -/

/-- The settings under their names, as they are written. -/
def written (config : HeroConfig) : List (String × Json) := [
  ("sprite_a", config.spriteA.toJson),
  ("sprite_b", config.spriteB.toJson),
  ("start_a", config.startA.toJson),
  ("start_b", config.startB.toJson),
  ("step", .ofFloat config.step),
  ("cadence_ms", .ofInt64 config.cadence),
  ("max_iterations", .ofUInt64 config.maxIterations),
  ("marker_ms", .ofInt64 config.marker)]

theorem ofMembers_written (config : HeroConfig) : .ofMembers config.written = config.toJson :=
  rfl

/-- Of the settings the members have the chosen ones, as they are written. -/
structure Writes (config : HeroConfig) (chosen : String → Bool) (members : List (String × Json)) :
    Prop where
  names : HasChosen fieldNames chosen members
  values : ∀ member ∈ members, member.1 ∈ fieldNames → member ∈ config.written

theorem Writes.mem (writes : config.Writes chosen members) {name : String} {value : Json}
    (known : name ∈ fieldNames) (member : (name, value) ∈ members) :
    chosen name = true ∧ (name, value) ∈ config.written :=
  ⟨(writes.names.chosen_iff known).mpr ⟨value, member⟩, writes.values _ member known⟩

/-- Only the doubles that are chosen have to be such that they are read back. -/
theorem Writes.gives (writes : config.Writes chosen members)
    (kept : ∀ x ∈ (config.keeping chosen).floats, Kept x) : config.Gives chosen members := by
  simp only [floats, keeping, List.forall_mem_append] at kept
  obtain ⟨keptA, keptB, keptStep⟩ := kept
  constructor
  case names => exact writes.names
  all_goals
    intro value member
    obtain ⟨there, member⟩ := writes.mem (by decide) member
    simp only [written, List.mem_cons, Prod.mk.injEq, String.reduceEq, true_and, false_and,
      List.not_mem_nil, or_false, false_or] at member
    subst member
  case spriteA => exact SpriteId.ofJson?_toJson config.spriteA
  case spriteB => exact SpriteId.ofJson?_toJson config.spriteB
  case startA =>
    rw [if_pos there] at keptA
    exact Position.faithful.back config.startA keptA
  case startB =>
    rw [if_pos there] at keptB
    exact Position.faithful.back config.startB keptB
  case step =>
    rw [if_pos there] at keptStep
    exact faithful_float.back config.step keptStep
  case cadence => exact toInt64?_ofInt64 config.cadence
  case maxIterations => exact toUInt64?_ofUInt64 config.maxIterations
  case marker => exact toInt64?_ofInt64 config.marker

/-! ### Spoilt members -/

theorem not_spoils {members : List (Literal × Json)} (found : ofJson? (.obj members) = some config) :
    ¬ Spoils fieldNames members := by
  simp only [ofJson?, Option.bind_eq_bind, Option.bind_eq_some_iff, Option.pure_def,
    Option.some.injEq] at found
  obtain ⟨r, record, _, spriteA, _, spriteB, _, startA, _, startB, _, step, _, cadence, _,
    maxIterations, _, marker, -⟩ := found
  refine not_spoils_of_record? record fun name known value there => ?_
  simp only [fieldNames, List.mem_cons, List.not_mem_nil, or_false] at known
  rcases known with rfl | rfl | rfl | rfl | rfl | rfl | rfl | rfl
  · exact SpriteId.refuses.not_bare spriteA there
  · exact SpriteId.refuses.not_bare spriteB there
  · exact Position.refuses.not_bare startA there
  · exact Position.refuses.not_bare startB there
  · exact refuses_toFloat?.not_bare step there
  · exact refuses_toInt64?.not_bare cadence there
  · exact refuses_toUInt64?.not_bare maxIterations there
  · exact refuses_toInt64?.not_bare marker there

theorem refuses : Refuses ofJson? := by
  intro j bare
  rw [ofJson?, refuses_record? _ j bare]
  rfl

end HeroConfig

/-! ## The settings of a stage -/

namespace StageConfig

/-- The names of the settings. -/
def fieldNames : List String :=
  ["collision_threshold", "repeat_delay_ms", "collision_pause_ms", "spawn_position", "hero"]

/-- The chosen settings, and the standard ones for the others. -/
def keeping (config : StageConfig) (chosen heroChosen : String → Bool) : StageConfig where
  collisionThreshold :=
    if chosen "collision_threshold" then config.collisionThreshold else standard.collisionThreshold
  repeatDelay := if chosen "repeat_delay_ms" then config.repeatDelay else standard.repeatDelay
  collisionPause :=
    if chosen "collision_pause_ms" then config.collisionPause else standard.collisionPause
  spawnPosition := if chosen "spawn_position" then config.spawnPosition else standard.spawnPosition
  hero := if chosen "hero" then config.hero.keeping heroChosen else .standard

variable {config : StageConfig} {chosen heroChosen : String → Bool} {members : List (String × Json)}

/-- Of the settings the members have the chosen ones, each by a value that is read as it. -/
structure Gives (config : StageConfig) (chosen heroChosen : String → Bool)
    (members : List (String × Json)) : Prop where
  names : HasChosen fieldNames chosen members
  collisionThreshold : ∀ value, ("collision_threshold", value) ∈ members →
    value.toFloat? = some config.collisionThreshold
  repeatDelay : ∀ value, ("repeat_delay_ms", value) ∈ members →
    value.toInt64? = some config.repeatDelay
  collisionPause : ∀ value, ("collision_pause_ms", value) ∈ members →
    value.toInt64? = some config.collisionPause
  spawnPosition : ∀ value, ("spawn_position", value) ∈ members →
    Position.ofJson? value = some config.spawnPosition
  hero : ∀ value, ("hero", value) ∈ members →
    ∃ heroMembers, value = .ofMembers heroMembers ∧ config.hero.Gives heroChosen heroMembers

theorem ofJson?_of_gives (gives : config.Gives chosen heroChosen members) :
    ofJson? (.ofMembers members) = some (config.keeping chosen heroChosen) := by
  have has := gives.names
  have record := record?_of_hasChosen has
  have readsHero : ∀ value, ("hero", value) ∈ members →
      HeroConfig.ofJson? value = some (config.hero.keeping heroChosen) := by
    intro value member
    obtain ⟨heroMembers, rfl, given⟩ := gives.hero value member
    exact HeroConfig.ofJson?_of_gives given
  have collisionThreshold :=
    default?_knownFields has (by decide) gives.collisionThreshold standard.collisionThreshold
  have repeatDelay := default?_knownFields has (by decide) gives.repeatDelay standard.repeatDelay
  have collisionPause :=
    default?_knownFields has (by decide) gives.collisionPause standard.collisionPause
  have spawnPosition :=
    default?_knownFields has (by decide) gives.spawnPosition standard.spawnPosition
  have hero := default?_knownFields has (by decide) readsHero standard.hero
  change ((Json.ofMembers members).record? fieldNames >>= _) = _
  rw [record]
  simp only [collisionThreshold, repeatDelay, collisionPause, spawnPosition, hero,
    Option.bind_eq_bind, Option.bind_some]
  rfl

/-! ### As they are written -/

/-- The settings under their names, as they are written. -/
def written (config : StageConfig) : List (String × Json) := [
  ("collision_threshold", .ofFloat config.collisionThreshold),
  ("repeat_delay_ms", .ofInt64 config.repeatDelay),
  ("collision_pause_ms", .ofInt64 config.collisionPause),
  ("spawn_position", config.spawnPosition.toJson),
  ("hero", config.hero.toJson)]

theorem ofMembers_written (config : StageConfig) : .ofMembers config.written = config.toJson :=
  rfl

/--
Of the settings the members have the chosen ones, as they are written; only the settings of the hero
scene may be some of them once more.
-/
structure Writes (config : StageConfig) (chosen heroChosen : String → Bool)
    (members : List (String × Json)) : Prop where
  names : HasChosen fieldNames chosen members
  values : ∀ member ∈ members, member.1 ∈ fieldNames → member.1 ≠ "hero" → member ∈ config.written
  hero : ∀ value, ("hero", value) ∈ members →
    ∃ heroMembers, value = .ofMembers heroMembers ∧ config.hero.Writes heroChosen heroMembers

theorem Writes.mem (writes : config.Writes chosen heroChosen members) {name : String} {value : Json}
    (known : name ∈ fieldNames) (other : name ≠ "hero") (member : (name, value) ∈ members) :
    chosen name = true ∧ (name, value) ∈ config.written :=
  ⟨(writes.names.chosen_iff known).mpr ⟨value, member⟩, writes.values _ member known other⟩

/-- Only the doubles that are chosen have to be such that they are read back. -/
theorem Writes.gives (writes : config.Writes chosen heroChosen members)
    (kept : ∀ x ∈ (config.keeping chosen heroChosen).floats, Kept x) :
    config.Gives chosen heroChosen members := by
  simp only [floats, keeping, List.forall_mem_append] at kept
  obtain ⟨keptThreshold, keptSpawn, keptHero⟩ := kept
  constructor
  case names => exact writes.names
  case hero =>
    intro value member
    obtain ⟨heroMembers, rfl, heroWrites⟩ := writes.hero value member
    rw [if_pos ((writes.names.chosen_iff (by decide)).mpr ⟨_, member⟩)] at keptHero
    exact ⟨heroMembers, rfl, heroWrites.gives keptHero⟩
  all_goals
    intro value member
    obtain ⟨there, member⟩ := writes.mem (by decide) (by decide) member
    simp only [written, List.mem_cons, Prod.mk.injEq, String.reduceEq, true_and, false_and,
      List.not_mem_nil, or_false, false_or] at member
    subst member
  case collisionThreshold =>
    rw [if_pos there] at keptThreshold
    exact faithful_float.back config.collisionThreshold keptThreshold
  case repeatDelay => exact toInt64?_ofInt64 config.repeatDelay
  case collisionPause => exact toInt64?_ofInt64 config.collisionPause
  case spawnPosition =>
    rw [if_pos there] at keptSpawn
    exact Position.faithful.back config.spawnPosition keptSpawn

/-! ### Spoilt members -/

/-- The members of a file, or those of the hero scene in it, are spoilt. -/
def Spoilt (members : List (Literal × Json)) : Prop :=
  Spoils fieldNames members ∨ ∃ heroMembers, (some "hero", .obj heroMembers) ∈ members ∧
    Spoils HeroConfig.fieldNames heroMembers

theorem not_spoilt {members : List (Literal × Json)} (found : ofJson? (.obj members) = some config) :
    ¬ Spoilt members := by
  simp only [ofJson?, Option.bind_eq_bind, Option.bind_eq_some_iff, Option.pure_def,
    Option.some.injEq] at found
  obtain ⟨r, record, _, collisionThreshold, _, repeatDelay, _, collisionPause, _, spawnPosition, _,
    hero, -⟩ := found
  rintro (spoils | ⟨heroMembers, member, spoils⟩)
  · refine not_spoils_of_record? record (fun name known value there => ?_) spoils
    simp only [List.mem_cons, List.not_mem_nil, or_false] at known
    rcases known with rfl | rfl | rfl | rfl | rfl
    · exact refuses_toFloat?.not_bare collisionThreshold there
    · exact refuses_toInt64?.not_bare repeatDelay there
    · exact refuses_toInt64?.not_bare collisionPause there
    · exact Position.refuses.not_bare spawnPosition there
    · exact HeroConfig.refuses.not_bare hero there
  · have there := (record?_obj_eq_some record (by decide)).2 _ member
    rw [Record.default?, there] at hero
    exact HeroConfig.not_spoils hero spoils

/-! ## What a file with some of the settings is read as -/

/--
A file that gives the chosen settings, whatever else is in it and in whatever order, is read as these
settings and the standard ones for the others; then they are checked. The values may be anything that is
read as the settings, such as what they are written as when the digits of the chosen doubles are read
back, with any white space. A setting given twice, or by null, a boolean or a string, makes the file
unreadable whatever else is in it, and so does a setting of the hero scene.
-/
theorem ofFile_of_members (config : StageConfig) (chosen heroChosen : String → Bool)
    (members : List (String × Json)) :
    (config.Gives chosen heroChosen members →
      ∀ text, Json.parse? text = some (.ofMembers members) →
        readText ofJson? text = some (config.keeping chosen heroChosen) ∧
        ofFile (.ok text.toUTF8) =
          (config.keeping chosen heroChosen).check.map fun _ => config.keeping chosen heroChosen) ∧
    (config.Writes chosen heroChosen members →
      (∀ x ∈ (config.keeping chosen heroChosen).floats, x.isFinite = true ∧ DigitsReadBack x) →
        config.Gives chosen heroChosen members) ∧
    (∀ (j : Json) (text : String), Spaced j.tokens text.toList → Json.parse? text = some j) ∧
    ∀ (others : List (Literal × Json)) (text : String), Spoilt others →
      Json.parse? text = some (.obj others) → ofFile (.ok text.toUTF8) = .error .malformedJson := by
  refine ⟨fun gives text parsed => ?_, fun writes kept => ?_, fun j text spaced => ?_,
    fun others text spoilt parsed => ?_⟩
  · have read : (Json.parse? text >>= ofJson?) = some (config.keeping chosen heroChosen) := by
      rw [parsed]
      exact ofJson?_of_gives gives
    refine ⟨read, ?_⟩
    rw [ofFile_toUTF8, ofText, read]
  · exact writes.gives fun x member => ⟨(kept x member).1, (kept x member).2 (kept x member).1⟩
  · exact Json.parse?_spaced spaced
  · have unread : (Json.parse? text >>= ofJson?) = none := by
      rw [parsed]
      exact Option.eq_none_iff_forall_ne_some.mpr fun config found => not_spoilt found spoilt
    rw [ofFile_toUTF8, ofText, unread]

/-- Settings with a threshold and a cadence of their own. -/
def brisk : StageConfig :=
  { standard with
    collisionThreshold := 2.5
    hero := { HeroConfig.standard with cadence := 7 } }

/-- Those two settings among members of no meaning. -/
def briskMembers : List (String × Json) := [
  ("hero", .ofMembers [("mood", .null), ("cadence_ms", .ofInt64 7)]),
  ("zoom", .arr []),
  ("collision_threshold", .num ⟨false, 2, [5], none⟩)]

def briskText : String :=
  "\t\x7b\"hero\":\x7b\"mood\":null,\n\"cadence_ms\":7\x7d, \"zoom\":[]" ++
    ",\"collision_threshold\" :2.5\x7d "

/-- The hero scene, twice. -/
def encoreText : String :=
  "\x7b\"hero\":[],\"hero\":[]\x7d"

/-- They are read as these settings, and a file with the hero scene twice is not read. -/
theorem ofFile_of_members_brisk :
    let chosen := fun name => name == "hero" || name == "collision_threshold"
    let heroChosen := fun name => name == "cadence_ms"
    brisk.Writes chosen heroChosen briskMembers ∧ brisk.keeping chosen heroChosen = brisk ∧
      (∀ x ∈ brisk.floats, x.isFinite = true ∧ DigitsReadBack x) ∧
      Json.parse? briskText = some (.ofMembers briskMembers) ∧
      readText ofJson? briskText = some brisk ∧ ofFile (.ok briskText.toUTF8) = .ok brisk ∧
      ofFile (.ok encoreText.toUTF8) = .error .malformedJson := by
  intro chosen heroChosen
  have same : brisk.keeping chosen heroChosen = brisk := by rfl
  have number : Json.ofFloat 2.5 = .num ⟨false, 2, [5], none⟩ := by
    have digits : Numeral.ofFloat 2.5 = ⟨false, 2, [5], none⟩ := by decide +kernel
    rw [Json.ofFloat, if_pos (by decide +kernel), digits]
  have writes : brisk.Writes chosen heroChosen briskMembers := by
    refine ⟨by decide, ?_, ?_⟩
    · simp [briskMembers, written, brisk, number, fieldNames]
    · intro value member
      refine ⟨[("mood", .null), ("cadence_ms", .ofInt64 7)], ?_, by decide, ?_⟩
      · simpa [briskMembers] using member
      · simp [HeroConfig.fieldNames, HeroConfig.written, brisk]
  have kept : ∀ x ∈ brisk.floats, x.isFinite = true ∧ DigitsReadBack x := by
    unfold DigitsReadBack
    decide +kernel
  have parsed : Json.parse? briskText = some (.ofMembers briskMembers) := by rfl
  have twice : Json.parse? encoreText =
      some (.obj [(some "hero", .arr []), (some "hero", .arr [])]) := by rfl
  have passes : brisk.check = .ok () := by decide +kernel
  have ⟨reads, given, _, spoils⟩ := ofFile_of_members brisk chosen heroChosen briskMembers
  have ⟨read, loaded⟩ := reads (given writes (same ▸ kept)) briskText parsed
  rw [same] at read loaded
  rw [passes] at loaded
  exact ⟨writes, same, kept, parsed, read, loaded,
    spoils _ encoreText (.inl ⟨"hero", by decide, .inl (by decide)⟩) twice⟩

/-! ### Digits that are misread -/

/-- Settings with a threshold of sixteen digits. -/
def sixteen : StageConfig :=
  { standard with collisionThreshold := 943.2975078310775 }

def sixteenText : String :=
  "\x7b\"collision_threshold\":943.2975078310775\x7d"

/-- Reading rounds twice, so that the digits of a finite double may be read as its neighbour. -/
theorem ofFile_misread :
    let chosen := fun name => name == "collision_threshold"
    let members := [("collision_threshold", Json.ofFloat sixteen.collisionThreshold)]
    (∀ x ∈ sixteen.floats, x.isFinite = true) ∧ sixteen.check = .ok () ∧
      sixteen.Writes chosen (fun _ => false) members ∧
      sixteen.keeping chosen (fun _ => false) = sixteen ∧
      sixteenText = (Json.ofMembers members).compact ∧
      readText ofJson? sixteenText ≠ some sixteen ∧
      ofFile (.ok sixteenText.toUTF8) ≠ .ok sixteen := by
  intro chosen members
  have writes : sixteen.Writes chosen (fun _ => false) members := by
    refine ⟨by decide, ?_, ?_⟩
    · simp [members, written, fieldNames]
    · simp [members]
  have finite : sixteen.collisionThreshold.isFinite = true := by decide +kernel
  have digits : Numeral.ofFloat sixteen.collisionThreshold =
      ⟨false, 943, [2, 9, 7, 5, 0, 7, 8, 3, 1, 0, 7, 7, 5], none⟩ := by decide +kernel
  have text : sixteenText = (Json.ofMembers members).compact := by
    simp only [members]
    rw [Json.ofFloat, if_pos finite, digits]
    rfl
  have other : readText ofJson? sixteenText ≠ some sixteen := by decide +kernel
  refine ⟨by decide +kernel, by decide +kernel, writes, by rfl, text, other, fun loaded => other ?_⟩
  rw [ofFile_toUTF8] at loaded
  exact (ofText_eq_ok_iff.mp loaded).1

end StageConfig

end SpriteStage
