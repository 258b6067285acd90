import SpriteStage.CommandLine.Run
import Std.Time.DateTime.Timestamp

/-! # The program

Reads the files that its arguments name, and prints the answer. Lines about a run appear when their
time has come.
-/

namespace SpriteStage.CommandLine

set_option autoImplicit false

def readContent (name : String) : IO (Except FileFault ByteArray) := do
  try
    return .ok (← IO.FS.readBinFile name)
  catch
    | .noFileOrDirectory .. => return .error .notFound
    | reason => return .error (.other (toString reason))

def readContents (names : List String) : IO Files := do
  let contents ← names.mapM fun name => do return (name, ← readContent name)
  return fun name => (contents.lookup name).getD (.error .notFound)

/-- A run id of random bits, marked as one of these. -/
def randomRunId : IO RunId := do
  let bytes ← IO.getRandomBytes 16
  let bits : BitVec 128 :=
    bytes.foldl (fun bits byte => bits <<< 8 ||| byte.toBitVec.setWidth 128) 0
  let version : BitVec 128 := 0xF <<< 76
  let variant : BitVec 128 := 0x3 <<< 62
  return ⟨bits &&& ~~~(version ||| variant) ||| 0x4 <<< 76 ||| 0x2 <<< 62⟩

def currentTime : IO Timestamp := do
  let nanos := (← Std.Time.Timestamp.now).toNanosecondsSinceUnixEpoch.val
  return ⟨Int.fdiv nanos 1000000000, (Int.fmod nanos 1000000000).toNat⟩

/-- Prints lines, each when so many milliseconds have passed. -/
def printPaced (start : Nat) (lines : List Line) : IO Unit := do
  for line in lines do
    let passed := (← IO.monoMsNow) - start
    if passed < line.time then
      IO.sleep (UInt32.ofNat (line.time - passed))
    IO.println line.text
    (← IO.getStdout).flush

def answer (arguments : List String) : IO Answer := do
  match Invocation.ofArguments arguments with
  | .error stop => return stop.answer
  | .ok invocation =>
    let files ← readContents invocation.fileNames
    return invocation.run files (← randomRunId) (← currentTime)

end SpriteStage.CommandLine

def main (arguments : List String) : IO UInt32 := do
  let start ← IO.monoMsNow
  let answer ← SpriteStage.CommandLine.answer arguments
  SpriteStage.CommandLine.printPaced start answer.output
  for line in answer.errors do
    IO.eprintln line
  return answer.code
