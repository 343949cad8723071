import QuietBox.Program

/-!
The command line. It reads the environment, the input and the history file, prints what the pure
modules answer, and decides nothing.
-/

set_option autoImplicit false

namespace QuietBox.Main

/-- The address given to texts that are boxed. -/
def place : Address := ⟨0x10000, by decide⟩

/-- The variables of this process, or the known ones where the whole list cannot be read. -/
def environment : IO Environment := do
  try
    let text := (String.fromUTF8? (← IO.FS.readBinFile "/proc/self/environ")).getD ""
    return (text.splitOn "\x00").map fun entry =>
      let name := entry.toList.takeWhile (· ≠ '=')
      (String.ofList name, String.ofList (entry.toList.drop (name.length + 1)))
  catch _ =>
    let names := ["NANBOX_RADIX", "NANBOX_HISTORY", "CLICOLOR_FORCE", "TERM"]
    let found ← names.mapM fun name => return (← IO.getEnv name).map (name, ·)
    return found.filterMap id

/-- Why a file could not be written. -/
def faultOf : IO.Error → FileFault
  | .inappropriateType .. => .directory
  | _ => .missing

/-- Prints an outcome. -/
def finish (outcome : Program.Outcome) : IO UInt32 := do
  (← IO.getStdout).putStr outcome.out
  (← IO.getStderr).putStr outcome.err
  return UInt32.ofNat outcome.code

/-- Answers each line when it has been read, and returns the lines that enter the history. -/
partial def answer (radix : Radix) (style : Prompt.Style) (entered : List (List Char)) :
    IO (List (List Char)) := do
  let output ← IO.getStdout
  output.putStr style.ask
  output.flush
  match Prompt.linesOf (← (← IO.getStdin).getLine).toList with
  | [] =>
    output.putStr Prompt.farewell
    return entered
  | line :: _ =>
    let turn := Prompt.turn place radix style line
    output.putStr turn.out
    (← IO.getStderr).putStr turn.err
    let entered := entered ++ turn.entered
    if turn.ends then return entered else answer radix style entered

/-- A session, and then its history. -/
def converse (env : Environment) (radix : Radix) : IO UInt32 := do
  let style := Program.styleIn env
  (← IO.getStdout).putStr (Prompt.greeting style)
  let entered ← answer radix style []
  match env.setting? "history" with
  | none => return 0
  | some path =>
    let text ← try IO.FS.readFile path catch _ => pure ""
    let outcome := Program.ending (some (.content text)) entered
    match outcome.saved with
    | none => finish outcome
    | some content =>
      try
        IO.FS.writeFile path content
        finish outcome
      catch e => finish (Program.ending (some (.unusable (faultOf e))) entered)

end QuietBox.Main

open QuietBox

/-- Runs the program. -/
def main (arguments : List String) : IO UInt32 := do
  let env ← Main.environment
  match Arguments.parse arguments with
  | .ok ⟨flag, .prompt⟩ =>
    match Radix.resolve flag (env.setting? "radix") with
    | .ok radix => Main.converse env radix
    | .error f => Main.finish (Program.failed f)
  | _ => Main.finish (Program.run Main.place env (fun _ => .unusable .missing) arguments "")
