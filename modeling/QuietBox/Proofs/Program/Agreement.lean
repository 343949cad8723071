import QuietBox.Proofs.Program.CommandLine
import QuietBox.Proofs.Prompt.Session

/-!
The command line and the prompt agree. A request that is spelled in arguments and the line that says
it come to the same report or the same failure, which the one writes and ends with and the other
writes as its answer. The line is edited before it is read: a backspace in it takes back what was
typed before, while the arguments are taken as they are.
-/

set_option autoImplicit false

namespace QuietBox

open Text

namespace Request

/-- The lines that say a request with its value, and the value. -/
inductive Says : String → Request → String → Prop
  | encode (kind : Kind) (value : String) :
      Says ("encode " ++ kind.name ++ " " ++ value) (.encode kind (some value)) value
  | kind (kind : Kind) (value : String) :
      Says (kind.name ++ " " ++ value) (.encode kind (some value)) value
  | decode (word : String) : Says ("decode " ++ word) (.decode word) word

/-- A text is put into memory, and the report shows where it lies. -/
def BoxesText : Request → Prop
  | .encode .string _ => True
  | .encode .auto (some value) => Literal.isQuoted value.toList
  | _ => False

section Says

variable {request : Request} {line text : String}

theorem spelled_name (kind : Kind) : kind.Spelled kind.name.toList := by
  rw [← Kind.ofText?_eq_some_iff]
  cases kind <;> decide

theorem ofLine_of_says (h : Says line request text) (bare : IsTrimmed text.toList) :
    Request.ofLine line = .ok request := by
  have gap : Blanks [' '] := by decide
  have some : [' '] ≠ [] := List.cons_ne_nil _ _
  have last : Follow [text.toList] ([' '] ++ text.toList ++ []) := .next some gap (.done blanks_nil)
  have value (v : String) (same : Option.some text = Option.some v) : IsTrimmed v.toList :=
    Option.some.inj same ▸ bare
  cases h with
  | encode kind =>
    have parts : Laid ["encode".toList, kind.name.toList, text.toList]
        ([] ++ "encode".toList ++ ([' '] ++ kind.name.toList ++ ([' '] ++ text.toList ++ []))) :=
      .line blanks_nil (.next some gap last)
    exact parse_of_asks (.encode (.kind (spelled_name kind) value)) (by simpa using parts)
  | kind kind =>
    have parts : Laid [kind.name.toList, text.toList]
        ([] ++ kind.name.toList ++ ([' '] ++ text.toList ++ [])) := .line blanks_nil last
    exact parse_of_asks (.kind (spelled_name kind) value) (by simpa using parts)
  | decode =>
    have parts : Laid ["decode".toList, text.toList]
        ([] ++ "decode".toList ++ ([' '] ++ text.toList ++ [])) := .line blanks_nil last
    exact parse_of_asks (.decode bare) (by simpa using parts)

/-- In front of the value a line has letters and spaces only. -/
theorem exists_front_of_says (h : Says line request text) :
    ∃ front, line.toList = front ++ text.toList ∧ ∀ c ∈ front, c = ' ' ∨ c.isLower := by
  have letters (kind : Kind) : ∀ c ∈ kind.name.toList, c = ' ' ∨ c.isLower := fun c member =>
    Or.inr (kind.isLower_of_mem_name c member)
  have space : ∀ c ∈ [' '], c = ' ' ∨ c.isLower := by simp
  cases h with
  | encode kind =>
    have word : ∀ c ∈ "encode ".toList, c = ' ' ∨ c.isLower := by simp
    refine ⟨"encode ".toList ++ kind.name.toList ++ [' '], by simp, ?_⟩
    exact List.forall_mem_append.mpr ⟨List.forall_mem_append.mpr ⟨word, letters kind⟩, space⟩
  | kind kind =>
    refine ⟨kind.name.toList ++ [' '], by simp, ?_⟩
    exact List.forall_mem_append.mpr ⟨letters kind, space⟩
  | decode =>
    have word : ∀ c ∈ "decode ".toList, c = ' ' ∨ c.isLower := by simp
    exact ⟨"decode ".toList, by simp, word⟩

theorem notMem_of_says (h : Says line request text) {c : Char} (other : ¬(c = ' ' ∨ c.isLower))
    (notMem : c ∉ text.toList) : c ∉ line.toList := by
  obtain ⟨front, split, plain⟩ := exists_front_of_says h
  rw [split, List.mem_append, not_or]
  exact ⟨fun member => other (plain c member), notMem⟩

end Says

/-- Where texts lie plays no part in other reports. -/
theorem ofRequest_of_not_boxesText {request : Request} (h : ¬request.BoxesText) (p q : Address) :
    Report.ofRequest p request = Report.ofRequest q request := by
  cases request with
  | decode word => rfl
  | encode kind value =>
    cases kind with
    | string => exact absurd trivial h
    | auto =>
      cases value with
      | none => rfl
      | some value =>
        have bare : ¬Literal.isQuoted value.toList := h
        change Report.auto p value.toList = Report.auto q value.toList
        simp only [Report.auto, bare, Bool.false_eq_true, ↓reduceIte]
    | _ => rfl

end Request

namespace Prompt

variable {line : List Char} {request : Request}

theorem not_blanks_of_parse (h : Request.parse line = .ok request) : ¬Blanks line := by
  intro blank
  rw [Request.parse_blanks blank] at h
  cases h

/-- The word that ends a session asks for nothing. -/
theorem not_asksToQuit_of_parse (h : Request.parse line = .ok request) : ¬asksToQuit line := by
  intro quit
  have word : trim line = ":quit".toList := of_decide_eq_true quit
  have refused : Request.parse ":quit".toList = .error (.of (.unknownKind ":quit")) := by
    decide +kernel
  rw [← Request.parse_trim, word, refused] at h
  cases h

end Prompt

namespace Program

open Prompt

/-- What a run with arguments and a session over one line make of the same request. The session ends
by itself in some way, whatever it answered. -/
inductive Agree (style : Style) (last : Outcome) : Outcome → Outcome → Prop
  | report (report : String) :
      Agree style last { code := 0, out := report ++ "\n" }
        { last with
          out := greeting style ++
            (style.ask ++ reportLine style report ++ (style.ask ++ farewell)) }
  | failure (f : Failure) :
      Agree style last { code := 1, err := f.block }
        { last with
          out := greeting style ++ (style.ask ++ (style.ask ++ farewell))
          err := failureLine style f.message ++ last.err }

/-- Where the run fails, the session says so. -/
theorem Agree.complains {style : Style} {last alone session : Outcome}
    (h : Agree style last alone session) (failed : alone.code = 1) : session.err ≠ "" := by
  cases h with
  | report => cases failed
  | failure f => simp [failureLine]

/-- A line that is typed without backspaces is the only line of its input. -/
theorem linesOf_line {line : List Char} (noFeed : '\n' ∉ line)
    (noReturn : line.getLast? ≠ some '\r') (typed : backspace ∉ line) :
    linesOf (line ++ ['\n']) = [line] := by
  rw [linesOf, lines_of_piped (.feed noFeed noReturn .done), List.map_singleton,
    applyBackspaces_of_notMem typed]

section Runs

variable {env : Environment} {arguments : List String} {flag : Option Radix} {radix : Radix}
  {command : Command} {place : Address} {files : String → HistoryFile} {input : String}

theorem undiagnosed_of_parse (accepted : Arguments.parse arguments = .ok ⟨flag, command⟩) :
    undiagnosed place env files arguments input = invoke place env files input ⟨flag, command⟩ := by
  simp only [undiagnosed, accepted]

variable (quiet : env.asksDiagnostics = false)
include quiet

theorem run_of_parse (accepted : Arguments.parse arguments = .ok ⟨flag, command⟩) :
    run place env files arguments input = invoke place env files input ⟨flag, command⟩ := by
  rw [run_of_quiet quiet, undiagnosed_of_parse accepted]

variable (resolved : Radix.resolve flag (env.setting? "radix") = .ok radix)
include resolved

theorem run_of_request {request : Request}
    (accepted : Arguments.parse arguments = .ok ⟨flag, request.command⟩) :
    run place env files arguments input = once place radix request := by
  rw [run_of_parse quiet accepted]
  simp only [invoke, resolved]
  cases request <;> rfl

theorem run_of_spell {request : Request} (spelled : Arguments.Spell arguments request) :
    run place env files (Arguments.radixFlag flag ++ arguments) input =
      once place radix request :=
  run_of_request quiet resolved (Arguments.parse_of_spell spelled flag)

theorem run_of_promptCommands (prompts : arguments ∈ Arguments.promptCommands) :
    run place env files (Arguments.radixFlag flag ++ arguments) input =
      converse place radix (styleIn env) ((env.setting? "history").map files) input := by
  rw [run_of_parse quiet (Arguments.parse_promptCommands prompts flag)]
  simp only [invoke, resolved]

end Runs

/-- One line at the prompt does what its request does, and then the session ends. -/
theorem agree_once_converse {request : Request} {line : List Char} {input : String}
    (split : linesOf input.toList = [line]) (read : Request.parse line = .ok request)
    (place : Address) (radix : Radix) (style : Style) (history : Option HistoryFile) :
    Agree style (ending history [line]) (once place radix request)
      (converse place radix style history input) := by
  have nonblank := not_blanks_of_parse read
  have stays := not_asksToQuit_of_parse read
  have asked : Report.ofLine place (String.ofList line) = Report.ofRequest place request := by
    rw [Report.ofLine, Request.ofLine, String.toList_ofList, read]
    rfl
  have whole : session place radix style (linesOf input.toList) =
      { out := style.ask ++ answer place radix style line ++ (style.ask ++ farewell)
        err := complaint place style line
        entered := [line] } := by
    rw [split, session_cons_of_stays stays, if_neg nonblank, session, String.append_empty,
      List.append_nil]
  cases given : Report.ofRequest place request with
  | ok r =>
    rw [given] at asked
    simp only [once, given, converse, whole, answer, complaint, nonblank, ↓reduceIte, asked,
      String.empty_append]
    exact .report (r.line radix)
  | error f =>
    rw [given] at asked
    simp only [once, given, converse, whole, answer, complaint, nonblank, ↓reduceIte, asked,
      String.append_empty]
    exact .failure f

/-- Arguments that spell a request and a line that says it come to the same, whatever the kind and
the value: one report, on a line of its own or behind `OK`, or one chain of causes, as a block or on
one line behind `ERR`. Where the value is boxed as a text, both are to put it at one place, and
nobody is to ask for diagnostics. -/
theorem prompt_agrees_with_arguments {env : Environment} {flag : Option Radix} {radix : Radix}
    {arguments commands : List String} {request : Request} {line text : String}
    (quiet : env.asksDiagnostics = false)
    (resolved : Radix.resolve flag (env.setting? "radix") = .ok radix)
    (spelled : Arguments.Spell arguments request) (said : Request.Says line request text)
    (bare : IsTrimmed text.toList) (noFeed : '\n' ∉ text.toList) (typed : backspace ∉ text.toList)
    (prompts : commands ∈ Arguments.promptCommands) {p q : Address}
    (apart : request.BoxesText → p = q) (files : String → HistoryFile) (input : String) :
    Agree (styleIn env) (ending ((env.setting? "history").map files) [line.toList])
      (run p env files (Arguments.radixFlag flag ++ arguments) input)
      (run q env files (Arguments.radixFlag flag ++ commands) (line ++ "\n")) := by
  have read : Request.parse line.toList = .ok request := Request.ofLine_of_says said bare
  have noReturn : line.toList.getLast? ≠ some '\r' := by
    obtain ⟨front, parts, -⟩ := Request.exists_front_of_says said
    rw [parts, List.getLast?_append_of_ne_nil _ bare.1]
    intro last
    have letter : isBlank '\r' = false := bare.2.2 _ last
    revert letter
    decide
  have split : linesOf (line ++ "\n").toList = [line.toList] := by
    rw [String.toList_append]
    exact linesOf_line (Request.notMem_of_says said (by decide) noFeed) noReturn
      (Request.notMem_of_says said (by decide) typed)
  have samePlace : once p radix request = once q radix request := by
    by_cases boxed : request.BoxesText
    · rw [apart boxed]
    · rw [once, once, Request.ofRequest_of_not_boxesText boxed p q]
  rw [run_of_spell quiet resolved spelled, run_of_promptCommands quiet resolved prompts, samePlace]
  exact agree_once_converse split read q radix (styleIn env) _

/-- A value with a minus behind `--` in binary, and a word to decode that is none. -/
theorem prompt_agrees_with_arguments_on_odd_values :
    Agree ⟨false, false⟩ { code := 0 }
        (run ⟨0x1000, by decide⟩ [] (fun _ => .content "")
          ["--radix", "bin", "encode", "sint", "--", "-5"] "")
        (run ⟨0x2000, by decide⟩ [] (fun _ => .content "") ["--radix", "bin"] "sint -5\n") ∧
      Agree ⟨false, false⟩ { code := 0 }
        (run ⟨0x1000, by decide⟩ [] (fun _ => .content "") ["decode", "0x 1"] "")
        (run ⟨0x2000, by decide⟩ [] (fun _ => .content "") ["repl"] "decode 0x 1\n") := by
  constructor
  · have resolved : Radix.resolve (some .bin) (Environment.setting? [] "radix") = .ok .bin := rfl
    have prompts : [] ∈ Arguments.promptCommands := by decide
    exact prompt_agrees_with_arguments rfl resolved (.encode .sint "-5") (.kind .sint "-5")
      (by decide) (by decide) (by decide) prompts (fun boxed => boxed.elim) _ _
  · have resolved : Radix.resolve none (Environment.setting? [] "radix") = .ok .hex := rfl
    have prompts : ["repl"] ∈ Arguments.promptCommands := by decide
    exact prompt_agrees_with_arguments rfl resolved (.decodePlain (by decide)) (.decode "0x 1")
      (by decide) (by decide) (by decide) prompts (fun boxed => boxed.elim) _ _

/-- A backspace in a value is part of the value in the arguments, which is then no integer, and
takes back a digit at the prompt. -/
theorem prompt_takes_back_typed_digit :
    IsTrimmed "43\x082".toList ∧ '\n' ∉ "43\x082".toList ∧ '\x00' ∉ "43\x082".toList ∧
      ¬Agree (styleIn []) (ending none ["encode uint 43\x082".toList])
        (run ⟨0x1000, by decide⟩ [] (fun _ => .content "") ["encode", "uint", "--", "43\x082"] "")
        (run ⟨0x1000, by decide⟩ [] (fun _ => .content "") [] "encode uint 43\x082\n") := by
  refine ⟨by decide, by decide, by decide, ?_⟩
  have alone : run ⟨0x1000, by decide⟩ [] (fun _ => .content "")
      ["encode", "uint", "--", "43\x082"] "" =
        { code := 1, err := "Error: invalid digit found in string\n" } := by decide +kernel
  have silent : (run ⟨0x1000, by decide⟩ [] (fun _ => .content "") []
      "encode uint 43\x082\n").err = "" := by decide +kernel
  intro agree
  exact agree.complains (by rw [alone]) silent

end Program

end QuietBox
