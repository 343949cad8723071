import QuietBox.Report
import QuietBox.Text.Backspace
import QuietBox.Text.Lines

/-!
The prompt: a greeting, and an answer to each line until a line asks to quit. Reports go to the
output and failures to the error output; a failure does not end the session. Blank lines are
skipped, and all others are entered into the history, the one that quits included. A line is taken
as its backspaces leave it.
-/

set_option autoImplicit false

namespace QuietBox.Prompt

/-- How a line is answered. -/
inductive Reply where
  | skipped
  | quit
  | report (line : String)
  | failure (message : String)
deriving DecidableEq, Repr

/-- The reply to a line. -/
def reply (place : Address) (radix : Radix) (line : List Char) : Reply :=
  let text := Text.trim line
  if text.isEmpty then .skipped
  else if text = ":quit".toList then .quit
  else
    match Report.ofLine place (String.ofList line) with
    | .ok r => .report (r.line radix)
    | .error f => .failure f.message

/-- How a session looks. -/
structure Style where
  /-- Some words are written in colours and weights. -/
  colour : Bool
  /-- The prompt is written out before each line is read. -/
  asks : Bool
deriving DecidableEq, Repr

/-- What is written before a line is read. -/
def Style.ask (s : Style) : String := if s.asks then "nanbox ❯ " else ""

/-- A text in a display mode, if colours are on. -/
def paint (s : Style) (mode text : String) : String :=
  if s.colour then "\x1b[" ++ mode ++ "m" ++ text ++ "\x1b[0m" else text

def bold : String := "1"
def underline : String := "4"
def green : String := "32"
def boldRed : String := "1;31"

def greeting (s : Style) : String :=
  paint s bold "NaNBox" ++ " © 2025 Huly Labs • " ++
    paint s underline "https://hulylabs.com" ++ "\nType " ++
    paint s boldRed ":quit" ++ " or press Ctrl+D to exit\n\n"

/-- What is written at the end of the input. -/
def farewell : String := "Bye!\n"

def reportLine (s : Style) (line : String) : String :=
  paint s green "OK" ++ ": " ++ line ++ "\n"

def failureLine (s : Style) (message : String) : String :=
  paint s boldRed "ERR" ++ ": " ++ message ++ "\n"

/-- The lines of an input as they are taken. -/
def linesOf (input : List Char) : List (List Char) := (Text.lines input).map Text.applyBackspaces

/-- What is written after the greeting, and the lines that enter the history. -/
structure Transcript where
  out : String := ""
  err : String := ""
  entered : List (List Char) := []
deriving DecidableEq, Repr

/-- What one line adds to a session. -/
structure Turn extends Transcript where
  /-- No line is read after it. -/
  ends : Bool := false
deriving DecidableEq, Repr

/-- The turn of a line with its reply. -/
def Reply.turn (style : Style) (line : List Char) : Reply → Turn
  | skipped => {}
  | quit => { entered := [line], ends := true }
  | report text => { out := reportLine style text, entered := [line] }
  | failure message => { err := failureLine style message, entered := [line] }

/-- The turn of a line. -/
def turn (place : Address) (radix : Radix) (style : Style) (line : List Char) : Turn :=
  (reply place radix line).turn style line

/-- The session over the lines of an input. -/
def session (place : Address) (radix : Radix) (style : Style) : List (List Char) → Transcript
  | [] => { out := style.ask ++ farewell }
  | line :: rest =>
    let now := turn place radix style line
    let later := if now.ends then {} else session place radix style rest
    { out := style.ask ++ now.out ++ later.out
      err := now.err ++ later.err
      entered := now.entered ++ later.entered }

end QuietBox.Prompt
