import SpriteStage.CommandLine.Arguments
import SpriteStage.CommandLine.Printout
import SpriteStage.Scene

/-! # Running a command

What the program answers to an invocation, given the content of the files that it names.

* `Answer` — exit code and lines
* `roundLimit` — the limit of waits under which the program plays a scene
* `Invocation.run` — the answer to an invocation
-/

namespace SpriteStage.CommandLine

set_option autoImplicit false

/-! ## Failures -/

/-- Why a command fails. -/
inductive Failure where
  /-- The settings cannot be had from this file. -/
  | config (name : String) (fault : Fault)
  /-- The scene cannot be had from this file. -/
  | scene (name : String) (fault : Fault)
  /-- The command itself is refused. -/
  | refused (fault : Fault)
deriving DecidableEq

/-- The lines about a failure to load something, and about its cause. -/
def loadFailureLines (what name : String) (fault : Fault) : List String :=
  ["Error: Failed to load " ++ what ++ ": " ++ quoted name, "", "Caused by:",
    "    " ++ fault.message]

def Failure.lines : Failure → List String
  | config name fault => loadFailureLines "config" name fault
  | scene name fault => loadFailureLines "scene" name fault
  | refused fault => ["Error: " ++ fault.message]

/-! ## Answers -/

structure Answer where
  code : UInt32
  output : List Line
  errors : List String
deriving DecidableEq

/-- A command that has been carried out. -/
def Answer.done (output : List Line) : Answer :=
  ⟨0, output, []⟩

/-- A command that has failed before it came to anything. -/
def Answer.failed (failure : Failure) : Answer :=
  ⟨1, [], failure.lines⟩

/-! ## Loading -/

/-- What reading a file by its name comes to. -/
abbrev Files : Type :=
  String → Except FileFault ByteArray

/-- The scene of a hero scene for which none is given: a cat and a dog. -/
def defaultScene : Scene :=
  ⟨.standard, ["Cat", "Dog"].map fun name => ⟨name, none, 0, .empty⟩⟩

/-- The settings in a file, if one is given. -/
def loadConfig (files : Files) : Option String → Except Failure (Option StageConfig)
  | none => .ok none
  | some name => ((StageConfig.ofFile (files name)).mapError (.config name)).map some

/-- The scene in a file, or the default scene. -/
def loadScene (files : Files) : Option String → Except Failure Scene
  | none => .ok defaultScene
  | some name => (Scene.ofFile (files name)).mapError (.scene name)

/-- The scene with other settings, if there are any. -/
def withConfig (scene : Scene) : Option StageConfig → Scene
  | none => scene
  | some config => { scene with config }

/-- The stage of a scene, under the given settings if there are any. -/
def loadStage (files : Files) (name : Option String) (config : Option StageConfig) :
    Except Failure Stage := do
  let scene ← loadScene files name
  (withConfig scene config).toStage.mapError .refused

/-! ## Commands -/

/--
How many waits the sprites of a play together get past in one round, so that none of them, with
however many waits of no length, keeps the program from all else.
-/
def roundLimit : Nat :=
  128

/-- Carries out a command, under the given settings if there are any. -/
def Command.run (files : Files) (runId : RunId) (startedAt : Timestamp)
    (config : Option StageConfig) : Command → Except Failure (List Line)
  | catalog => .ok catalogLines
  | play scene json => do
    let stage ← loadStage files (some scene) config
    return playLines (Stage.playWithin (some roundLimit) stage runId startedAt []) json
  | hero scene => do
    let stage ← loadStage files scene config
    let run := stage.hero []
    match run.outcome with
    | .ok outcome => return heroLines run outcome
    | .error fault => throw (.refused fault)

/-- The settings are loaded first, whatever the command. -/
def Invocation.run (files : Files) (runId : RunId) (startedAt : Timestamp)
    (invocation : Invocation) : Answer :=
  let result := do
    let config ← loadConfig files invocation.config
    invocation.command.run files runId startedAt config
  match result with
  | .ok lines => .done lines
  | .error failure => .failed failure

/-- The names of the files that an invocation may read. -/
def Invocation.fileNames (invocation : Invocation) : List String :=
  let scene := match invocation.command with
    | .catalog => none
    | .play scene _ => some scene
    | .hero scene => scene
  invocation.config.toList ++ scene.toList

/-! ## Help -/

def usage : List String :=
  ["Block-programming sandbox engine",
    "",
    "Usage: sprite-stage [-c FILE] catalog",
    "       sprite-stage [-c FILE] play SCENE [--json]",
    "       sprite-stage [-c FILE] hero [--scene SCENE]",
    "",
    "  -c, --config FILE  settings that take the place of those of a scene",
    "  -h, --help         this text"]

/-- The answer to arguments that spell no invocation. -/
def Stop.answer : Stop → Answer
  | help => .done (usage.map fun text => ⟨0, text⟩)
  | misuse => ⟨2, [], usage⟩

end SpriteStage.CommandLine
