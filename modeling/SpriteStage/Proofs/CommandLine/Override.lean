import SpriteStage.CommandLine.Run
import SpriteStage.Proofs.Config.Saved

/-! # Settings that take the place of those of a scene

The settings of a scene are checked with the scene, before others can take their place. Once a scene
has passed, its own settings play no part; a scene that does not pass fails, whatever the others are.

* `Describes` — a file holds a scene, which need not pass
* `loadStage_of_described` — the stage of a scene under other settings
* `Invocation.run_of_described` — the answers about two scenes that differ in their settings
-/

namespace SpriteStage.CommandLine

set_option autoImplicit false

/-! ## Scenes in files -/

/-- The file holds the text of a scene. -/
def Describes (files : Files) (name : String) (scene : Scene) : Prop :=
  ∃ bytes text, files name = .ok bytes ∧ String.fromUTF8? bytes = some text ∧
    (Json.parse? text >>= Scene.ofJson?) = some scene

/-- The command is about the scene in the file. -/
def Command.IsAbout (name : String) : Command → Prop
  | catalog => False
  | play scene _ => scene = name
  | hero scene => scene = some name

variable {files files' : Files} {name : String} {scene scene' : Scene}

theorem loadScene_of_described (h : Describes files name scene) :
    loadScene files (some name) = (scene.check.mapError (.scene name)).map fun _ => scene := by
  obtain ⟨bytes, text, found, spelled, read⟩ := h
  have passed : Scene.ofFile (files name) = scene.check.map fun _ => scene := by
    simp only [found, Scene.ofFile, spelled, Scene.ofText, read]
  rw [loadScene, passed]
  cases scene.check <;> rfl

/-! ## Stages -/

/-- What a scene comes to under other settings depends on its own only through their check. -/
theorem loadStage_of_described (h : Describes files name scene) (config : StageConfig) :
    loadStage files (some name) (some config) = (do
      scene.config.check.mapError (.scene name)
      match Scene.blankIndex? scene.sprites with
      | some index => .error (.scene name (.blankName index))
      | none => (Scene.mk config scene.sprites).toStage.mapError .refused) := by
  rw [loadStage, loadScene_of_described h, Scene.check]
  cases scene.config.check with
  | error fault => rfl
  | ok _ => cases Scene.blankIndex? scene.sprites <;> rfl

theorem loadStage_congr (h : Describes files name scene) (h' : Describes files' name scene')
    (sprites : scene.sprites = scene'.sprites) (check : scene.config.check = scene'.config.check)
    (config : StageConfig) :
    loadStage files (some name) (some config) = loadStage files' (some name) (some config) := by
  rw [loadStage_of_described h, loadStage_of_described h', check, sprites]

theorem loadStage_of_rejected (h : Describes files name scene) {fault : Fault}
    (rejected : scene.config.check = .error fault) (config : StageConfig) :
    loadStage files (some name) (some config) = .error (.scene name fault) := by
  rw [loadStage_of_described h, rejected]
  rfl

/-! ## Answers -/

theorem Command.run_congr {command : Command} (about : command.IsAbout name)
    {config : Option StageConfig}
    (same : loadStage files (some name) config = loadStage files' (some name) config)
    (runId : RunId) (startedAt : Timestamp) :
    command.run files runId startedAt config = command.run files' runId startedAt config := by
  cases command with
  | catalog => cases about
  | play other json => rw [Command.run, Command.run, about, same]
  | hero other => rw [Command.run, Command.run, about, same]

theorem Command.run_of_unloaded {command : Command} (about : command.IsAbout name)
    {config : Option StageConfig} {failure : Failure}
    (unloaded : loadStage files (some name) config = .error failure)
    (runId : RunId) (startedAt : Timestamp) :
    command.run files runId startedAt config = .error failure := by
  cases command with
  | catalog => cases about
  | play other json => rw [Command.run, about, unloaded]; rfl
  | hero other => rw [Command.run, about, unloaded]; rfl

theorem Invocation.run_of_accepted {settings : String} {config : StageConfig}
    (accepted : StageConfig.ofFile (files settings) = .ok config) (runId : RunId)
    (startedAt : Timestamp) (command : Command) :
    run files runId startedAt ⟨some settings, command⟩ =
      match command.run files runId startedAt (some config) with
      | .ok lines => .done lines
      | .error failure => .failed failure := by
  have loaded : loadConfig files (some settings) = .ok (some config) := by
    rw [loadConfig, accepted]
    rfl
  rw [run, loaded]
  rfl

/--
Two scenes that have the same sprites, played or taken for a hero scene under the settings of the same
file. If their own settings pass, or fail for the same reason, the answers are the same. A scene whose
own settings fail is refused for that, even though they would not be used.
-/
theorem Invocation.run_of_described {settings : String} (shared : files settings = files' settings)
    {config : StageConfig} (accepted : StageConfig.ofFile (files settings) = .ok config)
    (h : Describes files name scene) (h' : Describes files' name scene')
    (sprites : scene.sprites = scene'.sprites) {command : Command} (about : command.IsAbout name)
    (runId : RunId) (startedAt : Timestamp) :
    let answer := fun files : Files => run files runId startedAt ⟨some settings, command⟩
    (scene.config.check = scene'.config.check → answer files = answer files') ∧
      ∀ fault, scene.config.check = .error fault → answer files = .failed (.scene name fault) := by
  intro answer
  have accepted' : StageConfig.ofFile (files' settings) = .ok config := shared ▸ accepted
  refine ⟨fun check => ?_, fun fault rejected => ?_⟩
  · have same := loadStage_congr h h' sprites check config
    simp only [answer]
    rw [run_of_accepted accepted, run_of_accepted accepted', Command.run_congr about same]
  · have unloaded := loadStage_of_rejected h rejected config
    simp only [answer]
    rw [run_of_accepted accepted, Command.run_of_unloaded about unloaded]

/-! ## A scene that does not pass -/

/-- A file without settings, and a scene without sprites that has settings of its own. -/
def emptyScene (ownSettings : String) : Files := fun name =>
  if name = "c.json" then .ok "\x7b\x7d".toUTF8
  else if name = "s.json" then
    .ok ("\x7b\"config\":\x7b" ++ ownSettings ++ "\x7d,\"sprites\":[]\x7d").toUTF8
  else .error .notFound

theorem describes_emptyScene {ownSettings : String} {scene : Scene}
    (read : (Json.parse? ("\x7b\"config\":\x7b" ++ ownSettings ++ "\x7d,\"sprites\":[]\x7d") >>=
      Scene.ofJson?) = some scene) : Describes (emptyScene ownSettings) "s.json" scene :=
  ⟨_, _, rfl, fromUTF8?_toUTF8 _, read⟩

theorem settings_emptyScene (ownSettings : String) :
    StageConfig.ofFile (emptyScene ownSettings "c.json") = .ok .standard := by
  change StageConfig.ofFile (.ok (String.toUTF8 _)) = _
  rw [StageConfig.ofFile_toUTF8]
  rfl

/-- The scene with a bad threshold of its own. -/
def failing : Scene :=
  ⟨{ StageConfig.standard with collisionThreshold := -1 }, []⟩

theorem check_failing : failing.config.check = .error (.badThreshold (-1)) := by
  have bad : StageConfig.isThreshold (-1) = false := by decide +kernel
  rw [StageConfig.check, failing, bad]
  rfl

theorem describes_failing :
    Describes (emptyScene "\"collision_threshold\":-1") "s.json" failing :=
  describes_emptyScene rfl

theorem describes_unset : Describes (emptyScene "") "s.json" ⟨.standard, []⟩ :=
  describes_emptyScene rfl

/-- With a bad threshold of its own the scene is refused, and with a delay of its own it is played. -/
theorem Invocation.run_of_described_emptyScene :
    let answer := fun files => run files .nil ⟨0, 0⟩ ⟨some "c.json", .play "s.json" false⟩
    failing.config.check = .error (.badThreshold (-1)) ∧
      answer (emptyScene "\"collision_threshold\":-1") =
        .failed (.scene "s.json" (.badThreshold (-1))) ∧
      answer (emptyScene "\"repeat_delay_ms\":5") = answer (emptyScene "") := by
  intro answer
  have delayed : Describes (emptyScene "\"repeat_delay_ms\":5") "s.json"
      ⟨{ StageConfig.standard with repeatDelay := 5 }, []⟩ := describes_emptyScene rfl
  have about : (Command.play "s.json" false).IsAbout "s.json" := rfl
  have shared (own : String) : emptyScene own "c.json" = emptyScene "" "c.json" := rfl
  have refused := run_of_described (shared _) (settings_emptyScene _) describes_failing
    describes_unset rfl about .nil ⟨0, 0⟩
  have played := run_of_described (shared _) (settings_emptyScene _) delayed describes_unset rfl
    about .nil ⟨0, 0⟩
  exact ⟨check_failing, refused.2 _ check_failing, played.1 rfl⟩

/-- The settings of a scene can count although others take their place. -/
theorem own_settings_count :
    ∃ (files files' : Files) (scene scene' : Scene) (invocation : Invocation),
      Invocation.ofArguments ["-c", "c.json", "play", "s.json"] = .ok invocation ∧
      files "c.json" = files' "c.json" ∧ StageConfig.ofFile (files "c.json") = .ok .standard ∧
      Describes files "s.json" scene ∧ Describes files' "s.json" scene' ∧
      scene.sprites = scene'.sprites ∧
      ∀ runId startedAt, (invocation.run files runId startedAt).code = 1 ∧
        (invocation.run files' runId startedAt).code = 0 := by
  have about : (Command.play "s.json" false).IsAbout "s.json" := rfl
  refine ⟨emptyScene "\"collision_threshold\":-1", emptyScene "", _, _,
    ⟨some "c.json", .play "s.json" false⟩, rfl, rfl, settings_emptyScene _, describes_failing,
    describes_unset, rfl, fun runId startedAt => ⟨?_, ?_⟩⟩
  · have refused := loadStage_of_rejected describes_failing check_failing .standard
    rw [Invocation.run_of_accepted (settings_emptyScene _), Command.run_of_unloaded about refused]
    rfl
  · have loaded : loadStage (emptyScene "") (some "s.json") (some .standard) = .ok (.empty .standard) := by
      rw [loadStage_of_described describes_unset]
      rfl
    rw [Invocation.run_of_accepted (settings_emptyScene _), Command.run, loaded]
    rfl

end SpriteStage.CommandLine
