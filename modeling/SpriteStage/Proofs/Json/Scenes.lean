import SpriteStage.Proofs.Json.Blocks
import SpriteStage.Scene

/-! # Scenes, written and read

Scenes read back as they were written, before they are checked: the settings with all their
numbers, and the sprites with their programs. A sprite without a position is written with null in
its place, and that is read as no position.

* `Position.faithful`, `StageConfig.faithful` — positions and settings
* `SceneSprite.faithful`, `Scene.faithful` — sprites and scenes
-/

namespace SpriteStage

set_option autoImplicit false

open Json (Record Kept Faithful faithful_float record?_ofMembers toInt64?_ofInt64 toUInt64?_ofUInt64
  toString?_ofString)

/-! ## Positions -/

namespace Position

/-- The coordinates of a position. -/
def floats (p : Position) : List Float :=
  [p.x, p.y]

theorem faithful : Faithful toJson ofJson? floats where
  back p kept := by
    have x := faithful_float.back p.x fun x member => kept x (by simp_all [floats])
    have y := faithful_float.back p.y fun y member => kept y (by simp_all [floats])
    simp [ofJson?, toJson, record?_ofMembers, Record.require?, Record.find?, x, y]
  finite j p found := by
    obtain ⟨r, -, found⟩ := Option.bind_eq_some_iff.mp found
    obtain ⟨x, first, found⟩ := Option.bind_eq_some_iff.mp found
    obtain ⟨y, second, found⟩ := Option.bind_eq_some_iff.mp found
    cases found
    have first := Record.holds_require? faithful_float.finite first
    have second := Record.holds_require? faithful_float.finite second
    exact List.forall_mem_append.mpr ⟨first, second⟩

end Position

/-! ## Settings -/

theorem SpriteId.ofJson?_toJson (id : SpriteId) : ofJson? id.toJson = some id := by
  rw [ofJson?, toJson, toUInt64?_ofUInt64]
  rfl

namespace HeroConfig

/-- The doubles among the settings of the hero scene. -/
def floats (config : HeroConfig) : List Float :=
  config.startA.floats ++ (config.startB.floats ++ [config.step])

theorem finite_standard : ∀ x ∈ standard.floats, x.isFinite = true := by
  decide +kernel

theorem faithful : Faithful toJson ofJson? floats where
  back config kept := by
    simp only [floats, List.forall_mem_append] at kept
    have ⟨startA, startB, step⟩ := kept
    have startA := Position.faithful.back config.startA startA
    have startB := Position.faithful.back config.startB startB
    have step := faithful_float.back config.step step
    simp [ofJson?, toJson, record?_ofMembers, Record.default?, Record.find?, startA, startB, step,
      SpriteId.ofJson?_toJson, toInt64?_ofInt64, toUInt64?_ofUInt64]
  finite j config found := by
    have standard := finite_standard
    simp only [floats, List.forall_mem_append] at standard ⊢
    simp only [ofJson?, Option.bind_eq_bind, Option.bind_eq_some_iff, Option.pure_def,
      Option.some.injEq] at found
    obtain ⟨_, -, _, -, _, -, _, readA, _, readB, _, readStep, _, -, _, -, _, -, rfl⟩ := found
    exact ⟨Record.holds_default? standard.1 Position.faithful.finite readA,
      Record.holds_default? standard.2.1 Position.faithful.finite readB,
      Record.holds_default? standard.2.2 faithful_float.finite readStep⟩

end HeroConfig

namespace StageConfig

/-- The doubles among the settings. -/
def floats (config : StageConfig) : List Float :=
  [config.collisionThreshold] ++ (config.spawnPosition.floats ++ config.hero.floats)

theorem finite_standard : ∀ x ∈ standard.floats, x.isFinite = true := by
  decide +kernel

theorem faithful : Faithful toJson ofJson? floats where
  back config kept := by
    simp only [floats, List.forall_mem_append] at kept
    have ⟨threshold, spawn, hero⟩ := kept
    have threshold := faithful_float.back config.collisionThreshold threshold
    have spawn := Position.faithful.back config.spawnPosition spawn
    have hero := HeroConfig.faithful.back config.hero hero
    simp [ofJson?, toJson, record?_ofMembers, Record.default?, Record.find?, threshold, spawn, hero,
      toInt64?_ofInt64]
  finite j config found := by
    have standard := finite_standard
    simp only [floats, List.forall_mem_append] at standard ⊢
    simp only [ofJson?, Option.bind_eq_bind, Option.bind_eq_some_iff, Option.pure_def,
      Option.some.injEq] at found
    obtain ⟨_, -, _, readThreshold, _, -, _, -, _, readSpawn, _, readHero, rfl⟩ := found
    exact ⟨Record.holds_default? standard.1 faithful_float.finite readThreshold,
      Record.holds_default? standard.2.1 Position.faithful.finite readSpawn,
      Record.holds_default? standard.2.2 HeroConfig.faithful.finite readHero⟩

end StageConfig

/-! ## Sprites and scenes -/

namespace SceneSprite

/-- The doubles of a sprite and its program. -/
def floats (sprite : SceneSprite) : List Float :=
  sprite.position.toList.flatMap Position.floats ++ ([sprite.angle] ++ sprite.actions.floats)

theorem faithful_position :
    Faithful (Json.ofOption Position.toJson) (Record.nullable? Position.ofJson?)
      (fun position => position.toList.flatMap Position.floats) :=
  Position.faithful.nullable fun _ same => by cases same

theorem faithful : Faithful toJson ofJson? floats where
  back sprite kept := by
    simp only [floats, List.forall_mem_append] at kept
    have ⟨position, angle, actions⟩ := kept
    have position := faithful_position.back sprite.position position
    have angle := faithful_float.back sprite.angle angle
    have actions := ActionList.faithful.back sprite.actions actions
    simp [ofJson?, toJson, record?_ofMembers, Record.require?, Record.default?, Record.find?,
      position, angle, actions, toString?_ofString]
  finite j sprite found := by
    simp only [ofJson?, Option.bind_eq_bind, Option.bind_eq_some_iff, Option.pure_def,
      Option.some.injEq] at found
    obtain ⟨_, -, _, -, _, readPosition, _, readAngle, _, readActions, rfl⟩ := found
    simp only [floats, List.forall_mem_append]
    exact ⟨Record.holds_default? (by simp) faithful_position.finite readPosition,
      Record.holds_default? (by decide +kernel) faithful_float.finite readAngle,
      Record.holds_default? (by simp [ActionList.floats, ActionList.empty])
        ActionList.faithful.finite readActions⟩

end SceneSprite

namespace Scene

/-- The doubles of a scene. -/
def floats (scene : Scene) : List Float :=
  scene.config.floats ++ scene.sprites.flatMap SceneSprite.floats

theorem faithful : Faithful toJson ofJson? floats where
  back scene kept := by
    simp only [floats, List.forall_mem_append] at kept
    have ⟨config, sprites⟩ := kept
    have config := StageConfig.faithful.back scene.config config
    have sprites := SceneSprite.faithful.list.back scene.sprites sprites
    simp [ofJson?, toJson, record?_ofMembers, Record.default?, Record.find?, config, sprites]
  finite j scene found := by
    obtain ⟨r, -, found⟩ := Option.bind_eq_some_iff.mp found
    obtain ⟨config, readConfig, found⟩ := Option.bind_eq_some_iff.mp found
    obtain ⟨sprites, readSprites, found⟩ := Option.bind_eq_some_iff.mp found
    cases found
    simp only [floats, List.forall_mem_append]
    exact ⟨Record.holds_default? StageConfig.finite_standard StageConfig.faithful.finite readConfig,
      Record.holds_default? (by simp) SceneSprite.faithful.list.finite readSprites⟩

end Scene

end SpriteStage
