import QuietBox.Arguments
import QuietBox.History
import QuietBox.Prompt
import QuietBox.Settings

/-!
The program: what it writes and how it ends, from its arguments, environment, input and history
file. Malformed arguments end it before the settings are read, and a malformed setting before any
value is.
-/

set_option autoImplicit false

namespace QuietBox.Program

/-- The file that keeps the history. -/
inductive HistoryFile where
  /-- It can be neither read nor written. -/
  | unusable (fault : FileFault)
  | content (text : String)
deriving DecidableEq, Repr

/-- What a run leaves behind. -/
structure Outcome where
  code : Nat
  out : String := ""
  err : String := ""
  /-- The new content of the history file, if it is written. -/
  saved : Option String := none
  /-- Diagnostics were asked for. What they add to either text is not told. -/
  diagnosed : Bool := false
deriving DecidableEq, Repr

def versionText : String := "nanbox-cli 0.1.0\n"

/-- A failure of the whole run. -/
def failed (f : Failure) : Outcome := { code := 1, err := f.block }

/-- One request and its report. -/
def once (place : Address) (radix : Radix) (request : Request) : Outcome :=
  match Report.ofRequest place request with
  | .ok r => { code := 0, out := r.line radix ++ "\n" }
  | .error f => failed f

/-- The history after a session that began with a file. -/
def historyAfter (file : HistoryFile) (entered : List (List Char)) : History :=
  let before : History :=
    match file with
    | .unusable _ => {}
    | .content text => History.load text.toList
  entered.foldl History.add before

/-- How a session ends: its history is saved, if there is a file for it. -/
def ending (history : Option HistoryFile) (entered : List (List Char)) : Outcome :=
  match history with
  | none => { code := 0 }
  | some file =>
    match (historyAfter file entered).save?, file with
    | none, _ => { code := 0 }
    | some _, .unusable fault => failed ⟨.file fault, [.file fault]⟩
    | some text, .content _ => { code := 0, saved := some (String.ofList text) }

/-- How a session looks in an environment. -/
def styleIn (env : Environment) : Prompt.Style := ⟨env.forcesColour, env.isPlainTerminal⟩

/-- A session at the prompt. -/
def converse (place : Address) (radix : Radix) (style : Prompt.Style)
    (history : Option HistoryFile) (input : String) : Outcome :=
  let transcript := Prompt.session place radix style (Prompt.linesOf input.toList)
  let last := ending history transcript.entered
  { last with
    out := Prompt.greeting style ++ transcript.out
    err := transcript.err ++ last.err }

/-- A run that reached its command. -/
def invoke (place : Address) (env : Environment) (files : String → HistoryFile) (input : String)
    (invocation : Invocation) : Outcome :=
  match Radix.resolve invocation.radix (env.setting? "radix") with
  | .error f => failed f
  | .ok radix =>
    match invocation.command with
    | .encode kind value => once place radix (.encode kind value)
    | .decode word => once place radix (.decode word)
    | .prompt =>
      converse place radix (styleIn env) ((env.setting? "history").map files) input

/-- A run as it is without diagnostics. -/
def undiagnosed (place : Address) (env : Environment) (files : String → HistoryFile)
    (arguments : List String) (input : String) : Outcome :=
  match Arguments.parse arguments with
  | .error .usage => { code := 2 }
  | .error .version => { code := 0, out := versionText }
  | .error .help => { code := 0 }
  | .ok invocation => invoke place env files input invocation

/-- A whole run. Texts that are boxed while it runs lie at `place`. The wording of usage errors and
of help is not modelled: of a run that ends in one of them only the exit code is told, and both
texts stay empty. Neither is that of diagnostics, which `diagnosed` allows for. -/
def run (place : Address) (env : Environment) (files : String → HistoryFile)
    (arguments : List String) (input : String) : Outcome :=
  { undiagnosed place env files arguments input with diagnosed := env.asksDiagnostics }

section Diagnostics

variable {place : Address} {env : Environment} {files : String → HistoryFile}
  {arguments : List String} {input : String}

theorem diagnosed_once (radix : Radix) (request : Request) :
    (once place radix request).diagnosed = false := by
  unfold once
  split <;> rfl

theorem diagnosed_ending (history : Option HistoryFile) (entered : List (List Char)) :
    (ending history entered).diagnosed = false := by
  unfold ending
  split
  · rfl
  · split <;> rfl

theorem diagnosed_invoke (invocation : Invocation) :
    (invoke place env files input invocation).diagnosed = false := by
  unfold invoke
  split
  · rfl
  · split
    · exact diagnosed_once _ _
    · exact diagnosed_once _ _
    · exact diagnosed_ending _ _

theorem diagnosed_undiagnosed :
    (undiagnosed place env files arguments input).diagnosed = false := by
  unfold undiagnosed
  split
  · rfl
  · rfl
  · rfl
  · exact diagnosed_invoke _

/-- Where nobody asks for diagnostics, the run is told in full. -/
theorem run_of_quiet (quiet : env.asksDiagnostics = false) :
    run place env files arguments input = undiagnosed place env files arguments input := by
  rw [run, quiet, ← diagnosed_undiagnosed]

end Diagnostics

end QuietBox.Program
