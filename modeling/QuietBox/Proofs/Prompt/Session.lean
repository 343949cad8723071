import QuietBox.Program
import QuietBox.Proofs.Text.Blanks
import QuietBox.Proofs.Text.PipedLines

/-!
A session is its lines one by one. What a line adds to either output depends on the line alone, and
the session is the sum of what its lines add, up to the first line that asks to quit.
-/

set_option autoImplicit false

namespace QuietBox

namespace Prompt

variable (place : Address) (radix : Radix) (style : Style)

/-- What a line adds to the output: its report, unless it is blank or fails. -/
def answer (line : List Char) : String :=
  if Text.Blanks line then ""
  else
    match Report.ofLine place (String.ofList line) with
    | .ok r => reportLine style (r.line radix)
    | .error _ => ""

/-- What a line adds to the error output: its failure, unless it is blank or succeeds. -/
def complaint (line : List Char) : String :=
  if Text.Blanks line then ""
  else
    match Report.ofLine place (String.ofList line) with
    | .ok _ => ""
    | .error f => failureLine style f.message

/-- Without the blanks around it, the line is the word that ends a session. -/
def asksToQuit (line : List Char) : Bool := Text.trim line = ":quit".toList

/-- The lines in front of the first one that asks to quit. -/
def beforeQuit (lines : List (List Char)) : List (List Char) :=
  lines.takeWhile fun line => !asksToQuit line

/-- What a session leaves in the history. -/
def entered (lines : List (List Char)) : List (List Char) :=
  (beforeQuit lines).filter (fun line => !decide (Text.Blanks line)) ++
    (lines.find? asksToQuit).toList

section Replies

variable {place : Address} {radix : Radix} {line : List Char}

theorem reply_of_blanks (h : Text.Blanks line) : reply place radix line = .skipped := by
  have none := Text.trim_eq_nil_iff.mpr h
  simp only [reply, none, List.isEmpty_nil, ↓reduceIte]

theorem reply_of_asksToQuit (h : asksToQuit line) : reply place radix line = .quit := by
  have word : Text.trim line = ":quit".toList := of_decide_eq_true h
  have some : ":quit".toList.isEmpty = false := by decide
  simp only [reply, word, some, Bool.false_eq_true, ↓reduceIte]

section Read

variable (nonblank : ¬Text.Blanks line) (stays : ¬asksToQuit line)

include nonblank stays

theorem not_skipped_nor_quit :
    (Text.trim line).isEmpty = false ∧ Text.trim line ≠ ":quit".toList := by
  constructor
  · exact Bool.eq_false_iff.mpr fun none =>
      nonblank (Text.trim_eq_nil_iff.mp (List.isEmpty_iff.mp none))
  · exact fun word => stays (decide_eq_true word)

theorem reply_of_ok {r : Report} (h : Report.ofLine place (String.ofList line) = .ok r) :
    reply place radix line = .report (r.line radix) := by
  obtain ⟨some, other⟩ := not_skipped_nor_quit nonblank stays
  simp only [reply, some, other, h, Bool.false_eq_true, ↓reduceIte]

theorem reply_of_error {f : Failure} (h : Report.ofLine place (String.ofList line) = .error f) :
    reply place radix line = .failure f.message := by
  obtain ⟨some, other⟩ := not_skipped_nor_quit nonblank stays
  simp only [reply, some, other, h, Bool.false_eq_true, ↓reduceIte]

end Read

end Replies

variable {place : Address} {radix : Radix} {style : Style}

/-- A line that does not quit adds its answer and its complaint, and the session goes on. -/
theorem turn_of_stays {line : List Char} (stays : ¬asksToQuit line) :
    turn place radix style line =
      { out := answer place radix style line
        err := complaint place style line
        entered := if Text.Blanks line then [] else [line] } := by
  by_cases blank : Text.Blanks line
  · simp only [turn, reply_of_blanks blank, Reply.turn, answer, complaint, blank, ↓reduceIte]
  · cases given : Report.ofLine place (String.ofList line) with
    | ok r =>
      simp only [turn, reply_of_ok blank stays given, Reply.turn, answer, complaint, blank, given,
        ↓reduceIte]
    | error f =>
      simp only [turn, reply_of_error blank stays given, Reply.turn, answer, complaint, blank,
        given, ↓reduceIte]

theorem turn_of_asksToQuit {line : List Char} (quit : asksToQuit line) :
    turn place radix style line = { entered := [line], ends := true } := by
  rw [turn, reply_of_asksToQuit quit, Reply.turn]

theorem session_cons_of_stays {line : List Char} (stays : ¬asksToQuit line)
    (rest : List (List Char)) :
    session place radix style (line :: rest) =
      { out :=
          style.ask ++ answer place radix style line ++ (session place radix style rest).out
        err := complaint place style line ++ (session place radix style rest).err
        entered :=
          (if Text.Blanks line then [] else [line]) ++
            (session place radix style rest).entered } := by
  simp only [session, turn_of_stays stays, Bool.false_eq_true, ↓reduceIte]

theorem session_cons_of_asksToQuit {line : List Char} (quit : asksToQuit line)
    (rest : List (List Char)) :
    session place radix style (line :: rest) = { out := style.ask, entered := [line] } := by
  simp only [session, turn_of_asksToQuit quit, ↓reduceIte, String.append_empty, List.append_nil]

/-- A session is the sum of what its lines add. -/
theorem session_eq (lines : List (List Char)) :
    session place radix style lines =
      { out :=
          String.join ((beforeQuit lines).map fun line =>
            style.ask ++ answer place radix style line) ++ style.ask ++
            if lines.any asksToQuit then "" else farewell
        err := String.join ((beforeQuit lines).map (complaint place style))
        entered := entered lines } := by
  induction lines with
  | nil => simp [session, beforeQuit, entered]
  | cons line rest ih =>
    by_cases quit : asksToQuit line
    · rw [session_cons_of_asksToQuit quit]
      simp [beforeQuit, entered, quit]
    · rw [session_cons_of_stays quit, ih]
      -- Only the history tells a blank line from others that write nothing.
      by_cases blank : Text.Blanks line
      · simp [beforeQuit, entered, quit, blank, String.append_assoc]
      · simp [beforeQuit, entered, quit, blank, String.append_assoc]

/-- What comes behind a line that quits is never read. -/
theorem beforeQuit_append {quit : List Char} (h : asksToQuit quit)
    (before more : List (List Char)) : beforeQuit (before ++ quit :: more) = beforeQuit before := by
  rw [beforeQuit, List.takeWhile_append, List.takeWhile_cons_of_neg (by simp [h]), List.append_nil]
  split
  · rename_i whole
    exact (List.takeWhile_prefix _).eq_of_length whole |>.symm
  · rfl

end Prompt

namespace Program

open Prompt

/-- Whatever is piped to the prompt, the session is its lines one by one: in front of the first one
that asks to quit, each line adds its report to the output or its failure to the error output, and
no line changes what another one adds. The end of the input is told unless a line quit. Lines are
taken as their backspaces leave them. Nobody is to ask for diagnostics. -/
theorem prompt_answers_line_by_line {env : Environment} {arguments : List String}
    {flag : Option Radix} {radix : Radix} {input : String} {lines taken : List (List Char)}
    (prompts : Arguments.parse arguments = .ok ⟨flag, .prompt⟩)
    (resolved : Radix.resolve flag (env.setting? "radix") = .ok radix)
    (noHistory : env.setting? "history" = none) (noAsking : env.isPlainTerminal = false)
    (quiet : env.asksDiagnostics = false)
    (piped : Text.Piped lines input.toList) (edited : lines.map Text.applyBackspaces = taken)
    (place : Address) (files : String → HistoryFile) :
    run place env files arguments input =
      { code := 0
        out :=
          greeting (styleIn env) ++
            String.join ((beforeQuit taken).map (answer place radix (styleIn env))) ++
            if taken.any asksToQuit then "" else farewell
        err := String.join ((beforeQuit taken).map (complaint place (styleIn env))) } ∧
    (Text.backspace ∉ input.toList → taken = lines) ∧
    (∀ before quit more, taken = before ++ quit :: more → asksToQuit quit →
      beforeQuit taken = beforeQuit before) ∧
    (env.forcesColour = false → ∀ text,
      reportLine (styleIn env) text = "OK: " ++ text ++ "\n" ∧
        failureLine (styleIn env) text = "ERR: " ++ text ++ "\n") := by
  refine ⟨?_, ?_, ?_, ?_⟩
  · have silent : (styleIn env).ask = "" := if_neg (by simp [styleIn, noAsking])
    have split : linesOf input.toList = taken := by
      rw [linesOf, Text.lines_of_piped piped, edited]
    rw [run_of_quiet quiet]
    simp only [undiagnosed, prompts, invoke, resolved, noHistory, Option.map_none, converse, ending,
      split, session_eq, silent, String.empty_append, String.append_empty, String.append_assoc]
  · intro none
    have kept : ∀ line ∈ lines, Text.applyBackspaces line = line := fun line member =>
      Text.applyBackspaces_of_notMem fun typed => none (Text.mem_of_piped piped member typed)
    rw [← edited, List.map_congr_left kept, List.map_id']
  · rintro before quit more rfl h
    exact beforeQuit_append h before more
  · intro plain text
    have unpainted (mode word : String) : paint (styleIn env) mode word = word :=
      if_neg (by simp [styleIn, plain])
    simp only [reportLine, failureLine, unpainted]
    exact ⟨rfl, rfl⟩

/-- Both line ends, a blank line, a failure, and a line that quits with one behind it. -/
theorem prompt_answers_line_by_line_until_quit :
    run ⟨0x1000, by decide⟩ [] (fun _ => .content "") ["--radix", "hex", "repl"]
        "uint 42\r\n\n nosuch\nnull\n :quit \nuint 1" =
      { code := 0
        out :=
          "NaNBox © 2025 Huly Labs • https://hulylabs.com\n" ++
            "Type :quit or press Ctrl+D to exit\n\n" ++
            "OK: 0x7FFE00000000002A  uint    42" ++
            "  [signature=0x0fff tag=uint payload=0x00000000002a]\n" ++
            "OK: 0x7FFB000000000000  null    null" ++
            "  [signature=0x0fff tag=null payload=0x000000000000]\n"
        err := "ERR: unknown kind `nosuch`\n" } := by
  have prompts : Arguments.parse ["--radix", "hex", "repl"] = .ok ⟨some .hex, .prompt⟩ := by
    decide +kernel
  have resolved : Radix.resolve (some .hex) (Environment.setting? [] "radix") = .ok .hex := rfl
  have piped : Text.Piped ["uint 42".toList, [], " nosuch".toList, "null".toList,
      " :quit ".toList, "uint 1".toList] "uint 42\r\n\n nosuch\nnull\n :quit \nuint 1".toList :=
    Text.piped_iff.mpr (by decide +kernel)
  have whole := prompt_answers_line_by_line prompts resolved rfl rfl rfl piped rfl
    ⟨0x1000, by decide⟩ fun _ => .content ""
  rw [whole.1]
  decide +kernel

end Program

end QuietBox
