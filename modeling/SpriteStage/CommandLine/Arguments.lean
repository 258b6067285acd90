/-! # Arguments

The arguments of the program: an option for a settings file, a command, and what belongs to the
command.

* `Invocation` — what the program is asked to do
* `Argument.ofText` — the shape of one argument
* `Invocation.ofArguments` — the invocation that a row of arguments spells, unless it asks for help
  or spells none
-/

namespace SpriteStage.CommandLine

set_option autoImplicit false

/-! ## What can be asked for -/

inductive Command where
  /-- Lists the blocks. -/
  | catalog
  /-- Plays the scene in a file; at the end the report is printed, perhaps as JSON. -/
  | play (scene : String) (json : Bool)
  /-- Runs the hero scene, on the stage of a file or on a stage of its own. -/
  | hero (scene : Option String)
deriving DecidableEq

/-- A command, and a file whose settings take the place of those of a scene. -/
structure Invocation where
  config : Option String
  command : Command
deriving DecidableEq

/-- Why arguments spell no invocation. -/
inductive Stop where
  | help
  | misuse
deriving DecidableEq

/-! ## The shape of an argument -/

/-- The shapes of an argument. -/
inductive Argument where
  /-- Two hyphens: whatever follows stands for itself. -/
  | escape
  /-- Two hyphens and a name, perhaps with a value behind an equals sign. -/
  | long (name : String) (value : Option String)
  /-- One hyphen and at least one more character. -/
  | short (first : Char) (rest : List Char)
  /-- Anything else, such as a single hyphen. -/
  | plain

namespace Argument

/-- The value behind an equals sign, if there is one. -/
def valueAfter (cs : List Char) : Option String :=
  match cs with
  | [] => none
  | _ :: value => some (String.ofList value)

def ofText (text : String) : Argument :=
  match text.toList with
  | ['-', '-'] => escape
  | '-' :: '-' :: rest =>
    long (String.ofList (rest.takeWhile (· ≠ '='))) (valueAfter (rest.dropWhile (· ≠ '=')))
  | '-' :: first :: rest => short first rest
  | _ => plain

end Argument

/-! ## Reading a row of arguments -/

/-- What the arguments of a command may be. -/
structure Form where
  /-- The name of an option with a value. -/
  option : Option String
  /-- The letter that stands for the option. -/
  letter : Option Char
  /-- The name of an option without a value. -/
  flag : Option String
  /-- How many arguments may stand for themselves. -/
  places : Nat
  commands : List String

/-- A value that has been announced, or that has been given and not yet been looked at. -/
inductive Pending where
  | nothing
  | awaited
  | option (value : String)
  | operand (value : String)

/-- What has been read so far. -/
structure Reading where
  option : Option String
  flag : Bool
  operands : List String
  pending : Pending
  /-- All further arguments stand for themselves. -/
  escaped : Bool

namespace Reading

def start : Reading :=
  ⟨none, false, [], .nothing, false⟩

/-- Gives the option a value, which must not be empty. An option can be given once. -/
def setOption (r : Reading) (value : String) : Except Stop Reading :=
  if value.isEmpty || r.option.isSome then .error .misuse else .ok { r with option := some value }

def settle (r : Reading) : Except Stop Reading :=
  match r.pending with
  | .nothing => .ok r
  | .awaited => .error .misuse
  | .option value => { r with pending := .nothing }.setOption value
  | .operand value =>
    if value.isEmpty then .error .misuse
    else .ok { r with pending := .nothing, operands := r.operands ++ [value] }

/-- An argument that stands for itself. -/
def takeOperand (form : Form) (r : Reading) (text : String) : Except Stop Reading := do
  let r ← r.settle
  if r.operands.length < form.places then return { r with pending := .operand text }
  else throw .misuse

/-- The option, with its value or with the value to come. -/
def takeOption (r : Reading) (value : Option String) : Except Stop Reading := do
  let r ← r.settle
  match value with
  | some value => r.setOption value
  | none => return { r with pending := .awaited }

/-- Help is given once the arguments before have been looked at. -/
def takeHelp (r : Reading) : Except Stop Reading := do
  let _ ← r.settle
  throw .help

def takeLong (form : Form) (r : Reading) (name : String) (value : Option String) :
    Except Stop Reading :=
  if form.option = some name then r.takeOption value
  else if value.isSome then .error .misuse
  else if name = "help" then r.takeHelp
  else if form.flag = some name then do
    let r ← r.settle
    if r.flag then throw .misuse else return { r with flag := true }
  else .error .misuse

/-- The value of an option that stands right behind its letter, an equals sign left out. -/
def attached : List Char → Option String
  | [] => none
  | '=' :: value => some (String.ofList value)
  | value => some (String.ofList value)

def takeShort (form : Form) (r : Reading) (first : Char) (rest : List Char) : Except Stop Reading :=
  if form.letter = some first then r.takeOption (attached rest)
  else if first = 'h' then r.takeHelp
  else .error .misuse

/-- One argument that is not the name of a command. -/
def take (form : Form) (r : Reading) (text : String) : Except Stop Reading :=
  if r.escaped then r.takeOperand form text
  else match Argument.ofText text with
    | .escape => .ok { r with escaped := true }
    | .long name value => r.takeLong form name value
    | .short first rest => r.takeShort form first rest
    | .plain =>
      -- only a plain argument can be the value of the option in front of it
      match r.pending with
      | .awaited => .ok { r with pending := .option text }
      | _ => r.takeOperand form text

/-- The argument names a command, and is not the value of an option. -/
def isCommand (form : Form) (r : Reading) (text : String) : Bool :=
  match r.pending with
  | .awaited => false
  | _ => !r.escaped && form.commands.contains text

/-- Reads arguments up to the name of a command, which comes back with what follows it. -/
def read (form : Form) : List String → Reading → Except Stop (Reading × List String)
  | [], r => .ok (r, [])
  | text :: rest, r =>
    if r.isCommand form text then .ok (r, text :: rest)
    else do read form rest (← r.take form text)

/-- All arguments of a command behind which no other can follow. -/
def readAll (form : Form) (texts : List String) : Except Stop Reading := do
  let (r, _) ← read form texts start
  r.settle

end Reading

/-! ## The commands -/

def commandNames : List String :=
  ["catalog", "play", "hero", "help"]

/-- In front of the command: a file with settings. -/
def programForm : Form :=
  ⟨some "config", some 'c', none, 0, commandNames⟩

def catalogForm : Form :=
  ⟨none, none, none, 0, []⟩

def playForm : Form :=
  ⟨none, none, some "json", 1, []⟩

/-- The hero scene may take the file of a scene, as an option. -/
def heroForm : Form :=
  ⟨some "scene", none, none, 0, []⟩

/-- Help can be asked for in general or about one command. -/
def readHelp (texts : List String) : Except Stop Command :=
  match texts with
  | [] => .error .help
  | [name] => .error (if commandNames.contains name then .help else .misuse)
  | _ => .error .misuse

/-- The command of the given name, with its arguments. -/
def Command.ofArguments (name : String) (texts : List String) : Except Stop Command :=
  if name = "catalog" then (Reading.readAll catalogForm texts).map fun _ => .catalog
  else if name = "play" then do
    let r ← Reading.readAll playForm texts
    match r.operands with
    | [scene] => return .play scene r.flag
    | _ => throw .misuse
  else if name = "hero" then (Reading.readAll heroForm texts).map fun r => .hero r.option
  else readHelp texts

/-- The invocation that a row of arguments spells. The command is read before the last option in
front of it is looked at. -/
def Invocation.ofArguments (texts : List String) : Except Stop Invocation := do
  match ← Reading.read programForm texts .start with
  | (_, []) => throw .misuse
  | (r, name :: rest) =>
    let command ← Command.ofArguments name rest
    let r ← r.settle
    return ⟨r.option, command⟩

end SpriteStage.CommandLine
