import Mathlib.Data.List.Induction
import Mathlib.Data.List.TakeWhile
import SpriteStage.CommandLine.Run
import SpriteStage.Proofs.Config.Saved
import SpriteStage.Proofs.Stage.Requests

/-! # The stage of a scene

A scene that passes its check is put on a stage sprite by sprite. Nothing of this can fail, and what a
sprite has been given is left alone by those who come after it.

* `trimmed` — a text without the blanks at its ends
* `Scene.check_eq_ok_iff`, `Scene.check_eq_error_iff` — which scenes pass, and why others do not
* `Scene.toStage_eq` — a scene that passes is put on a stage
* `Scene.Staged`, `Scene.staged_placed` — what is on the stage after some of the sprites
* `Scene.toStage_of_scene` — the stage of a scene, under its own settings and under others
-/

namespace SpriteStage

set_option autoImplicit false

/-! ## Blank names -/

/-- A text without the blanks in front and at the end. -/
def trimmed (text : String) : List Char :=
  ((text.toList.dropWhile isBlank).reverse.dropWhile isBlank).reverse

theorem trimmed_eq_nil_iff (text : String) : trimmed text = [] ↔ isAllBlank text = true := by
  rw [trimmed, List.reverse_eq_nil_iff, List.dropWhile_eq_nil_iff, isAllBlank, List.all_eq_true]
  constructor
  · intro later c mem
    rw [← List.takeWhile_append_dropWhile (p := isBlank) (l := text.toList)] at mem
    rcases List.mem_append.mp mem with front | back
    · exact List.mem_takeWhile_imp front
    · exact later c (List.mem_reverse.mpr back)
  · intro blank c mem
    exact blank c ((List.dropWhile_sublist _).subset (List.mem_reverse.mp mem))

namespace Scene

/-- The first sprite whose name is blank has this index. -/
def IsFirstBlank (sprites : List SceneSprite) (index : Nat) : Prop :=
  ∃ sprite, sprites[index]? = some sprite ∧ trimmed sprite.name = [] ∧
    ∀ earlier < index, ∀ other, sprites[earlier]? = some other → trimmed other.name ≠ []

theorem blankIndex?_eq_none_iff (sprites : List SceneSprite) :
    blankIndex? sprites = none ↔ ∀ sprite ∈ sprites, trimmed sprite.name ≠ [] := by
  simp only [blankIndex?, List.findIdx?_eq_none_iff, ne_eq, trimmed_eq_nil_iff, Bool.not_eq_true]

theorem blankIndex?_eq_some_iff (sprites : List SceneSprite) (index : Nat) :
    blankIndex? sprites = some index ↔ IsFirstBlank sprites index := by
  rw [blankIndex?, List.findIdx?_eq_some_iff_getElem]
  constructor
  · rintro ⟨inside, blank, before⟩
    refine ⟨_, List.getElem?_eq_getElem inside, (trimmed_eq_nil_iff _).mpr blank, ?_⟩
    intro earlier less other there
    obtain ⟨_, rfl⟩ := List.getElem?_eq_some_iff.mp there
    exact mt (trimmed_eq_nil_iff _).mp (before earlier less)
  · rintro ⟨sprite, there, blank, before⟩
    obtain ⟨inside, rfl⟩ := List.getElem?_eq_some_iff.mp there
    refine ⟨inside, (trimmed_eq_nil_iff _).mp blank, fun earlier less => ?_⟩
    have other := before earlier less _ (List.getElem?_eq_getElem (Nat.lt_trans less inside))
    exact mt (trimmed_eq_nil_iff _).mpr other

/-! ## The check -/

theorem check_eq_ok_iff (scene : Scene) :
    scene.check = .ok () ↔
      scene.config.check = .ok () ∧ ∀ sprite ∈ scene.sprites, trimmed sprite.name ≠ [] := by
  rw [← blankIndex?_eq_none_iff, check]
  cases scene.config.check with
  | error fault => exact ⟨nofun, nofun⟩
  | ok _ => cases blankIndex? scene.sprites <;> simp [bind, Except.bind]

/-- Bad settings come before blank names, and the first blank name before others. -/
theorem check_eq_error_iff (scene : Scene) (fault : Fault) :
    scene.check = .error fault ↔ scene.config.check = .error fault ∨
      scene.config.check = .ok () ∧
        ∃ index, fault = .blankName index ∧ IsFirstBlank scene.sprites index := by
  simp only [← blankIndex?_eq_some_iff, check]
  cases scene.config.check with
  | error other => simp [bind, Except.bind]
  | ok _ => cases blankIndex? scene.sprites <;> simp [bind, Except.bind, eq_comm]

/-! ## One sprite after the other -/

/-- The stage with one more sprite of a scene. -/
def placed (stage : Stage) (sprite : SceneSprite) : Stage :=
  let position := sprite.position.getD stage.config.spawnPosition
  let (id, added) := stage.addSpriteAt sprite.name position
  { added with store := added.store.modify id fun s => s.withAngle sprite.angle }.keepProgram id
    sprite.actions

/-- A sprite that has just come is there to be turned, and to be given its program. -/
theorem place_eq (stage : Stage) (sprite : SceneSprite) :
    place stage sprite = .ok (placed stage sprite) := by
  let position := sprite.position.getD stage.config.spawnPosition
  let id : SpriteId := ⟨stage.store.issued + 1⟩
  let added := (stage.addSpriteAt sprite.name position).2
  have there : added.store.contains id = true := by
    rw [Store.contains_iff]
    exact List.mem_map_of_mem (List.mem_append_right _ List.mem_cons_self)
  have turned : added.store.setAngle id sprite.angle =
      .ok (added.store.modify id fun s => s.withAngle sprite.angle) := by
    rw [Store.setAngle, Store.update, if_pos there]
  have given : ∀ store, ({ added with store } : Stage).setActions id sprite.actions =
      .ok (({ added with store } : Stage).keepProgram id sprite.actions) := by
    intro store
    have empty : ({ added with store } : Stage).program? id = some .empty := by
      have kept := Stage.program?_keepProgram
        { stage with store := (stage.store.add sprite.name position).2 } id id .empty
      rwa [if_pos rfl] at kept
    rw [Stage.setActions, Stage.editActions_eq, Stage.actions, empty]
    rfl
  change (added.store.setAngle id sprite.angle >>= fun store =>
    ({ added with store } : Stage).setActions id sprite.actions) = _
  rw [turned]
  exact given _

theorem program?_placed (stage : Stage) (sprite : SceneSprite) (id : SpriteId) :
    (placed stage sprite).program? id =
      if id = ⟨stage.store.issued + 1⟩ then some sprite.actions else stage.program? id := by
  let arrived := (stage.addSpriteAt sprite.name (sprite.position.getD stage.config.spawnPosition)).2
  have before : arrived.program? id =
      if id = ⟨stage.store.issued + 1⟩ then some .empty else stage.program? id :=
    Stage.program?_keepProgram _ _ _ _
  have given : (placed stage sprite).program? id =
      if id = ⟨stage.store.issued + 1⟩ then some sprite.actions else arrived.program? id :=
    Stage.program?_keepProgram _ _ _ _
  rw [given, before]
  split <;> rfl

theorem toStage_eq (scene : Scene) :
    scene.toStage = scene.check.map fun _ => scene.sprites.foldl placed (.empty scene.config) := by
  have all : ∀ stage, scene.sprites.foldlM place stage = .ok (scene.sprites.foldl placed stage) := by
    intro stage
    rw [show place = fun stage sprite => pure (placed stage sprite) from
      funext fun stage => funext fun sprite => place_eq stage sprite]
    exact List.foldlM_pure ..
  rw [toStage, all]
  cases scene.check <;> rfl

/-! ## What is on the stage -/

/-- A sprite of a scene with the id that its place in the scene gives it. -/
def spriteAt (config : StageConfig) (index : Nat) (sprite : SceneSprite) : Sprite where
  id := ⟨UInt64.ofNat (index + 1)⟩
  name := sprite.name
  position := sprite.position.getD config.spawnPosition
  angle := sprite.angle
  message := none
  messageKind := none

/-- Some sprites of a scene are on the stage, and nothing else. -/
structure Staged (config : StageConfig) (done : List SceneSprite) (stage : Stage) : Prop where
  sameConfig : stage.config = config
  issued : stage.store.issued = UInt64.ofNat done.length
  sprites : stage.store.sprites = done.mapIdx (spriteAt config)
  programs : ∀ (index : Nat) (sprite : SceneSprite), done[index]? = some sprite →
    stage.program? ⟨UInt64.ofNat (index + 1)⟩ = some sprite.actions

theorem staged_empty (config : StageConfig) : Staged config [] (.empty config) :=
  ⟨rfl, rfl, rfl, fun index sprite there => by cases there⟩

theorem ofNat_ne_of_lt {m n : Nat} (less : m < n) (small : n < UInt64.size) :
    UInt64.ofNat m ≠ UInt64.ofNat n := by
  intro same
  have numbers := congrArg UInt64.toNat same
  rw [UInt64.toNat_ofNat_of_lt' (Nat.lt_trans less small), UInt64.toNat_ofNat_of_lt' small] at numbers
  omega

/-- The next sprite gets the next id, so that it is turned and given its program and no other is. -/
theorem staged_placed {config : StageConfig} {done : List SceneSprite} {stage : Stage}
    (h : Staged config done stage) (sprite : SceneSprite)
    (room : done.length + 1 < UInt64.size) : Staged config (done ++ [sprite]) (placed stage sprite) := by
  have next : stage.store.issued + 1 = UInt64.ofNat (done.length + 1) := by
    rw [h.issued, UInt64.ofNat_add]
    rfl
  have old : ∀ index < done.length, (⟨UInt64.ofNat (index + 1)⟩ : SpriteId) ≠
      ⟨stage.store.issued + 1⟩ := by
    intro index earlier same
    rw [next] at same
    exact ofNat_ne_of_lt (Nat.succ_lt_succ earlier) room (congrArg SpriteId.number same)
  refine ⟨h.sameConfig, ?_, ?_, fun index other there => ?_⟩
  · rw [List.length_append, List.length_singleton, ← next]
    rfl
  · have unchanged : (stage.store.sprites.map fun s => if s.id = ⟨stage.store.issued + 1⟩ then
        s.withAngle sprite.angle else s) = stage.store.sprites := by
      refine (List.map_congr_left fun other mem => if_neg ?_).trans (List.map_id _)
      rw [h.sprites, List.mem_mapIdx] at mem
      obtain ⟨index, inside, rfl⟩ := mem
      exact old index inside
    change (stage.store.sprites ++ [_]).map _ = _
    rw [List.map_append, unchanged, h.sprites, List.mapIdx_concat, spriteAt, ← next, ← h.sameConfig]
    simp [Sprite.fresh, Sprite.withAngle]
  · rw [program?_placed]
    rcases Nat.lt_or_ge index done.length with earlier | last
    · rw [List.getElem?_append_left earlier] at there
      rw [if_neg (old index earlier)]
      exact h.programs index other there
    · obtain ⟨inside, -⟩ := List.getElem?_eq_some_iff.mp there
      rw [List.length_append, List.length_singleton] at inside
      obtain rfl : index = done.length := by omega
      rw [List.getElem?_concat_length] at there
      obtain rfl := Option.some.inj there
      rw [next, if_pos rfl]

theorem staged_foldl (config : StageConfig) (sprites : List SceneSprite)
    (room : sprites.length < UInt64.size) :
    Staged config sprites (sprites.foldl placed (.empty config)) := by
  induction sprites using List.reverseRecOn with
  | nil => exact staged_empty config
  | append_singleton done sprite ih =>
    rw [List.length_append, List.length_singleton] at room
    rw [List.foldl_append]
    exact staged_placed (ih (Nat.lt_of_succ_lt room)) sprite room

/-! ## The stage of a scene -/

open CommandLine (Files loadConfig loadScene loadStage withConfig)

theorem toStage_eq_error_iff (scene : Scene) (fault : Fault) :
    scene.toStage = .error fault ↔ scene.check = .error fault := by
  rw [toStage_eq]
  cases scene.check <;> simp [Except.map]

theorem exists_toStage_iff (scene : Scene) :
    (∃ stage, scene.toStage = .ok stage) ↔ scene.check = .ok () := by
  rw [toStage_eq]
  cases scene.check <;> simp [Except.map]

theorem staged_toStage {scene : Scene} {stage : Stage} (found : scene.toStage = .ok stage)
    (room : scene.sprites.length < UInt64.size) : Staged scene.config scene.sprites stage := by
  rw [toStage_eq] at found
  cases passed : scene.check with
  | error fault =>
    rw [passed] at found
    cases found
  | ok _ =>
    rw [passed] at found
    cases found
    exact staged_foldl scene.config scene.sprites room

/-! ### Under other settings -/

theorem check_of_ofText {text : String} {scene : Scene} (accepted : ofText text = .ok scene) :
    scene.check = .ok () := by
  unfold ofText at accepted
  split at accepted
  · cases accepted
  · obtain ⟨rfl, passed⟩ := passed_iff.mp accepted
    exact passed

theorem check_of_ofFile {content : Except FileFault ByteArray} {scene : Scene}
    (accepted : ofFile content = .ok scene) : scene.check = .ok () := by
  unfold ofFile at accepted
  split at accepted
  · cases accepted
  · split at accepted
    · exact check_of_ofText accepted
    · cases accepted

theorem check_of_settingsFile {content : Except FileFault ByteArray} {config : StageConfig}
    (accepted : StageConfig.ofFile content = .ok config) : config.check = .ok () := by
  unfold StageConfig.ofFile at accepted
  split at accepted
  · cases accepted
  · exact (StageConfig.ofText_eq_ok_iff.mp accepted).2

theorem ok_of_mapError {α : Type} {found : Except Fault α} {name : Fault → CommandLine.Failure}
    {a : α} (loaded : found.mapError name = .ok a) : found = .ok a := by
  cases found with
  | error fault => cases loaded
  | ok b =>
    cases loaded
    rfl

theorem check_of_loadScene {files : Files} {name : Option String} {scene : Scene}
    (loaded : loadScene files name = .ok scene) : scene.check = .ok () := by
  cases name with
  | none =>
    cases loaded
    rfl
  | some name => exact check_of_ofFile (ok_of_mapError loaded)

theorem check_of_loadConfig {files : Files} {name : Option String} {override : Option StageConfig}
    (loaded : loadConfig files name = .ok override) : ∀ config ∈ override, config.check = .ok () := by
  cases name with
  | none =>
    cases loaded
    exact nofun
  | some name =>
    rw [loadConfig] at loaded
    cases read : (StageConfig.ofFile (files name)).mapError (CommandLine.Failure.config name) with
    | error failure =>
      rw [read] at loaded
      cases loaded
    | ok config =>
      rw [read] at loaded
      cases loaded
      rintro _ ⟨⟩
      exact check_of_settingsFile (ok_of_mapError read)

theorem exists_toStage_withConfig {scene : Scene} (passed : scene.check = .ok ())
    {override : Option StageConfig} (checked : ∀ config ∈ override, config.check = .ok ()) :
    ∃ stage, (withConfig scene override).toStage = .ok stage := by
  rw [exists_toStage_iff]
  cases override with
  | none => exact passed
  | some config =>
    have names := ((check_eq_ok_iff scene).mp passed).2
    exact (check_eq_ok_iff _).mpr ⟨checked config rfl, names⟩

/--
A scene is put on a stage exactly if its settings pass and none of its names is blank; otherwise bad
settings are reported first, and then the first blank name. On the stage are the sprites of the scene
in their order, with their ids counted from one, and each has its own program; no list in memory is so
long that the ids do not suffice. A scene that has been read from a text is never refused, not even if
other settings that have been read from a file take the place of its own.
-/
theorem toStage_of_scene (scene : Scene) :
    ((∃ stage, scene.toStage = .ok stage) ↔
      scene.config.check = .ok () ∧ ∀ sprite ∈ scene.sprites, trimmed sprite.name ≠ []) ∧
    (∀ fault, scene.toStage = .error fault ↔ scene.config.check = .error fault ∨
      scene.config.check = .ok () ∧
        ∃ index, fault = .blankName index ∧ IsFirstBlank scene.sprites index) ∧
    (∀ stage, scene.toStage = .ok stage → scene.sprites.length < UInt64.size →
      stage.config = scene.config ∧
      stage.store.sprites = scene.sprites.mapIdx (spriteAt scene.config) ∧
      ∀ (index : Nat) (sprite : SceneSprite), scene.sprites[index]? = some sprite →
        stage.actions ⟨UInt64.ofNat (index + 1)⟩ = .ok sprite.actions) ∧
    (∀ text, ofText text = .ok scene → (∃ stage, scene.toStage = .ok stage) ∧
      ∀ content config, StageConfig.ofFile content = .ok config →
        ∃ stage, (withConfig scene (some config)).toStage = .ok stage) ∧
    ∀ files name settings override, loadScene files name = .ok scene →
      loadConfig files settings = .ok override →
        ∃ stage, loadStage files name override = .ok stage := by
  refine ⟨?_, fun fault => ?_, fun stage found room => ?_, fun text accepted => ⟨?_, ?_⟩, ?_⟩
  · rw [exists_toStage_iff, check_eq_ok_iff]
  · rw [toStage_eq_error_iff, check_eq_error_iff]
  · have staged := staged_toStage found room
    refine ⟨staged.sameConfig, staged.sprites, fun index sprite there => ?_⟩
    rw [Stage.actions, staged.programs index sprite there]
  · exact (exists_toStage_iff scene).mpr (check_of_ofText accepted)
  · intro content config read
    refine exists_toStage_withConfig (check_of_ofText accepted) ?_
    rintro _ ⟨⟩
    exact check_of_settingsFile read
  · intro files name settings override loaded read
    obtain ⟨stage, found⟩ := exists_toStage_withConfig (check_of_loadScene loaded)
      (check_of_loadConfig read)
    refine ⟨stage, ?_⟩
    rw [loadStage, loaded]
    change (withConfig scene override).toStage.mapError _ = _
    rw [found]
    rfl

theorem ofFile_toUTF8 (text : String) : ofFile (.ok text.toUTF8) = ofText text := by
  simp only [ofFile, fromUTF8?_toUTF8]

/-- A cat with a place and a program of its own, and a dog without. -/
def cast : Scene :=
  ⟨{ StageConfig.standard with repeatDelay := 10 },
    [⟨"Cat", some ⟨0, 0⟩, 45, ⟨[.moveBy (.text "10")]⟩⟩, ⟨"Dog", none, 0, .empty⟩]⟩

/-- That scene in one file, and in another settings that are the standard ones. -/
def castFiles : Files := fun name =>
  if name = "c.json" then .ok "\x7b\x7d".toUTF8 else .ok cast.toJson.pretty.toUTF8

/-- The settings in the file take the place of those of the scene, and both sprites are on the stage. -/
theorem toStage_of_scene_cast :
    (∃ stage, cast.toStage = .ok stage ∧ cast.sprites.length < UInt64.size ∧
      stage.store.sprites = [⟨⟨1⟩, "Cat", ⟨0, 0⟩, 45, none, none⟩,
        ⟨⟨2⟩, "Dog", ⟨600, 200⟩, 0, none, none⟩] ∧
      stage.actions ⟨1⟩ = .ok ⟨[.moveBy (.text "10")]⟩ ∧ stage.actions ⟨2⟩ = .ok .empty) ∧
    (ofText cast.toJson.pretty = .ok cast ∧
      StageConfig.ofFile (castFiles "c.json") = .ok .standard ∧
      ∃ stage, (withConfig cast (some .standard)).toStage = .ok stage) ∧
    loadScene castFiles (some "s.json") = .ok cast ∧
    loadConfig castFiles (some "c.json") = .ok (some .standard) ∧
    ∃ stage, loadStage castFiles (some "s.json") (some .standard) = .ok stage := by
  have room : cast.sprites.length < UInt64.size := by decide
  have finite : ∀ x ∈ cast.floats, x.isFinite = true := by decide +kernel
  have digits : ∀ x ∈ cast.floats, (Numeral.ofFloat x).toFloat? = some x := by decide +kernel
  have kept : ∀ x ∈ cast.floats, Json.Kept x := fun x member =>
    ⟨finite x member, digits x member⟩
  have text : ofText cast.toJson.pretty = .ok cast := by
    rw [ofText, Json.parse?_pretty, Option.bind_eq_bind, Option.bind_some, faithful.back cast kept]
    rfl
  have settings : StageConfig.ofFile (castFiles "c.json") = .ok .standard := by
    change StageConfig.ofFile (.ok (String.toUTF8 _)) = _
    rw [StageConfig.ofFile_toUTF8]
    rfl
  have scene : loadScene castFiles (some "s.json") = .ok cast := by
    have file : ofFile (castFiles "s.json") = .ok cast := (ofFile_toUTF8 _).trans text
    rw [loadScene, file]
    rfl
  have config : loadConfig castFiles (some "c.json") = .ok (some .standard) := by
    rw [loadConfig, settings]
    rfl
  have ⟨built, _, stands, read, loaded⟩ := toStage_of_scene cast
  obtain ⟨stage, found⟩ := built.mpr ⟨by rfl, by decide +kernel⟩
  obtain ⟨_, sprites, programs⟩ := stands stage found room
  exact ⟨⟨stage, found, room, sprites, programs 0 _ rfl, programs 1 _ rfl⟩,
    ⟨text, settings, (read _ text).2 _ _ settings⟩, scene, config,
    loaded castFiles "s.json" (some "c.json") (some .standard) scene config⟩

end Scene

end SpriteStage
