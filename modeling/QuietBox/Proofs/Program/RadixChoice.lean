import QuietBox.Proofs.Program.Agreement
import QuietBox.Proofs.Program.Settings
import QuietBox.Proofs.Report.LineReading

/-!
The radix is presentation only. A flag and a setting choose it, the flag first, and once it is
chosen it shows in the first column of a report and nowhere else. A setting that names no radix ends
a run that has no flag before anything else is read.
-/

set_option autoImplicit false

namespace QuietBox

namespace Radix

theorem ofName?_eq_some_iff {text : List Char} {r : Radix} :
    ofName? text = some r ↔ text = r.name.toList := by
  constructor
  · intro found
    unfold ofName? at found
    split at found
    · cases found
      assumption
    · split at found
      · cases found
        assumption
      · cases found
  · rintro rfl
    cases r <;> decide

variable {text : String}

theorem toList_toLower : text.toLower.toList = text.toList.map Char.toLower :=
  String.toList_map

/-- A setting names its radix in any ASCII case. -/
theorem resolve_setting_eq_ok_iff {r : Radix} :
    resolve none (some text) = .ok r ↔ text.toLower = r.name := by
  rw [← String.toList_inj, toList_toLower, ← ofName?_eq_some_iff, resolve, mapError_eq_ok_iff,
    ofText]
  cases ofName? (text.toList.map Char.toLower) <;> simp

theorem resolve_setting_of_unknown (unknown : ∀ r : Radix, text.toLower ≠ r.name) :
    resolve none (some text) =
      .error ⟨.invalidRadixSetting, [.unknownRadix text.toLower]⟩ := by
  have none : ofName? (text.toList.map Char.toLower) = Option.none := by
    refine Option.eq_none_iff_forall_ne_some.mpr fun r found => unknown r ?_
    rw [← String.toList_inj, toList_toLower]
    exact ofName?_eq_some_iff.mp found
  have lower : String.ofList (text.toList.map Char.toLower) = text.toLower := by
    rw [← toList_toLower, String.ofList_toList]
  simp only [resolve, ofText, none, lower]
  rfl

end Radix

namespace Program

/-- Two runs that differ in how the first column of a report is written, and in nothing else: both
report on one word and go on alike behind it, or both fail alike. -/
inductive Alike : Outcome → Outcome → Prop
  | report {w : Word} {first second : List Char} (rest : List Char) :
      ' ' ∉ first → Literal.readWord first = .ok w →
      ' ' ∉ second → Literal.readWord second = .ok w →
      Alike { code := 0, out := String.ofList (first ++ ' ' :: rest) }
        { code := 0, out := String.ofList (second ++ ' ' :: rest) }
  | failure (f : Failure) : Alike (failed f) (failed f)

theorem alike_line (r s : Radix) (report : Report) :
    Alike { code := 0, out := report.line r ++ "\n" }
      { code := 0, out := report.line s ++ "\n" } := by
  have split (radix : Radix) : report.line radix ++ "\n" =
      String.ofList (Report.wordText radix report.word ++ ' ' ::
        (' ' :: Report.typeColumn report.word.typeName ++
          ' ' :: report.rendering.toList ++ Report.bracket report.word ++ ['\n'])) := by
    rw [← String.toList_inj, String.toList_append, Report.toList_line, String.toList_ofList]
    simp
  rw [split r, split s]
  exact .report _ (Report.space_notMem_wordText r _) (Report.readWord_wordText r _)
    (Report.space_notMem_wordText s _) (Report.readWord_wordText s _)

theorem alike_once {p q : Address} {request : Request} (apart : request.BoxesText → p = q)
    (r s : Radix) : Alike (once p r request) (once q s request) := by
  have same : Report.ofRequest q request = Report.ofRequest p request := by
    by_cases boxed : request.BoxesText
    · rw [apart boxed]
    · exact Request.ofRequest_of_not_boxesText boxed q p
  rw [once, once, same]
  cases Report.ofRequest p request with
  | ok report => exact alike_line r s report
  | error f => exact .failure f

section Runs

variable {env first second : Environment} {arguments rest flag : List String}
  {given : Option Radix} {r : Radix} {command : Command} {text : String}
  {place : Address} {files : String → HistoryFile} {input : String}

/-- A setting that names no radix is told before anything else is. -/
theorem run_of_unknown_setting (quiet : env.asksDiagnostics = false)
    (unknown : ∀ r : Radix, text.toLower ≠ r.name)
    (set : env.setting? "radix" = some text)
    (accepted : Arguments.parse arguments = .ok ⟨none, command⟩) :
    run place env files arguments input =
      failed ⟨.invalidRadixSetting, [.unknownRadix text.toLower]⟩ := by
  rw [run_of_parse quiet accepted]
  simp only [invoke, set, Radix.resolve_setting_of_unknown unknown]

theorem run_of_no_setting (unset : env.setting? "radix" = none)
    (accepted : Arguments.parse rest = .ok ⟨none, command⟩) (h : Arguments.Flag flag (some .hex)) :
    run place env files rest input = run place env files (flag ++ rest) input := by
  rw [run, run, undiagnosed_of_parse accepted,
    undiagnosed_of_parse (Arguments.parse_flag_append h accepted)]
  simp only [invoke, unset]
  rfl

variable (same : first.without "radix" = second.without "radix")
include same

theorem styleIn_eq_of_without_eq : styleIn first = styleIn second := by
  have force : first.get? "CLICOLOR_FORCE" = second.get? "CLICOLOR_FORCE" :=
    Environment.get?_eq_of_without_eq same (by decide)
  have term : first.get? "TERM" = second.get? "TERM" :=
    Environment.get?_eq_of_without_eq same (by decide)
  simp only [styleIn, Environment.forcesColour, Environment.isPlainTerminal, force, term]

theorem asksDiagnostics_eq_of_without_radix_eq : first.asksDiagnostics = second.asksDiagnostics :=
  Environment.asksDiagnostics_eq_of_without_eq same (by decide)

/-- With a flag the setting is not read. -/
theorem run_of_flag (h : Arguments.Flag flag (some r)) (rest : List String) :
    run place first files (flag ++ rest) input = run place second files (flag ++ rest) input := by
  have history : first.setting? "history" = second.setting? "history" :=
    Environment.setting?_eq_of_without_eq same (by decide)
  rw [run, run, asksDiagnostics_eq_of_without_radix_eq same]
  cases accepted : Arguments.parse (flag ++ rest) with
  | error stop =>
    simp only [undiagnosed, accepted]
    cases stop <;> rfl
  | ok invocation =>
    have read := accepted
    rw [Arguments.parse_of_flag h] at read
    obtain ⟨_, command⟩ := invocation
    cases Arguments.radix_of_parseAfter read
    rw [undiagnosed_of_parse accepted, undiagnosed_of_parse accepted]
    simp only [invoke, Radix.resolve, history, styleIn_eq_of_without_eq same]

end Runs

/-- The radix is presentation only and a flag hides the setting. Two runs of one request that differ
in nothing but the flag and the setting, where both resolve, are alike; texts that are boxed are to
lie at one place. Behind a flag every command line runs the same under every setting. A setting
names `hex` or `bin` in any ASCII case; with any other, every command line without a flag fails in
the same way, whatever it asks for and wherever its input comes from. No setting stands for
hexadecimal. Nobody is to ask for diagnostics. -/
theorem radix_is_presentation {first second : Environment}
    (same : first.without "radix" = second.without "radix")
    (quiet : first.asksDiagnostics = false) (files : String → HistoryFile) (input : String) :
    (∀ {f g rest : List String} {given other : Option Radix} {r s : Radix}
      {request : Request} {p q : Address},
      Arguments.Flag f given → Radix.resolve given (first.setting? "radix") = .ok r →
      Arguments.Flag g other → Radix.resolve other (second.setting? "radix") = .ok s →
      Arguments.parse rest = .ok ⟨none, request.command⟩ → (request.BoxesText → p = q) →
        Alike (run p first files (f ++ rest) input) (run q second files (g ++ rest) input)) ∧
    (∀ {f : List String} {r : Radix} (rest : List String) (place : Address),
      Arguments.Flag f (some r) →
        run place first files (f ++ rest) input = run place second files (f ++ rest) input) ∧
    (∀ text : String,
      (∀ r, Radix.resolve none (some text) = .ok r ↔ text.toLower = r.name) ∧
      ((∃ r, Radix.resolve none (some text) = .ok r) ↔
        text.toLower = "hex" ∨ text.toLower = "bin")) ∧
    (∀ {text : String} {arguments : List String} {command : Command} (place : Address),
      text.toLower ≠ "hex" → text.toLower ≠ "bin" → first.setting? "radix" = some text →
      Arguments.parse arguments = .ok ⟨none, command⟩ →
        run place first files arguments input =
          { code := 1
            err := Failure.block ⟨.invalidRadixSetting, [.unknownRadix text.toLower]⟩ }) ∧
    (∀ {arguments : List String} {command : Command} (place : Address),
      first.setting? "radix" = none → Arguments.parse arguments = .ok ⟨none, command⟩ →
        run place first files arguments input =
          run place first files (["--radix", "hex"] ++ arguments) input) := by
  refine ⟨?_, ?_, ?_, ?_, ?_⟩
  · intro f g rest given other r s request p q left resolvesLeft right resolvesRight accepted apart
    have quietSecond := (asksDiagnostics_eq_of_without_radix_eq same).symm.trans quiet
    rw [run_of_request quiet resolvesLeft (Arguments.parse_flag_append left accepted),
      run_of_request quietSecond resolvesRight (Arguments.parse_flag_append right accepted)]
    exact alike_once apart r s
  · intro f r rest place flagged
    exact run_of_flag same flagged rest
  · intro text
    refine ⟨fun r => Radix.resolve_setting_eq_ok_iff, ?_⟩
    simp only [Radix.resolve_setting_eq_ok_iff]
    constructor
    · rintro ⟨r, named⟩
      cases r with
      | hex => exact Or.inl named
      | bin => exact Or.inr named
    · rintro (named | named)
      · exact ⟨.hex, named⟩
      · exact ⟨.bin, named⟩
  · intro text arguments command place notHex notBin set accepted
    have unknown (r : Radix) : text.toLower ≠ r.name := by
      cases r with
      | hex => exact notHex
      | bin => exact notBin
    exact run_of_unknown_setting quiet unknown set accepted
  · intro arguments command place unset accepted
    exact run_of_no_setting unset accepted (.apart .hex)

/-- A setting that is none, hidden by a flag and told to a session, and one in capitals. -/
theorem radix_is_presentation_under_malformed_setting :
    ∃ first second : Environment,
      first = [("NANBOX_RADIX", "Octal"), ("TERM", "dumb")] ∧
      second = [("TERM", "dumb"), ("nanbox_radix", "BIN")] ∧
      Alike (run ⟨0x1000, by decide⟩ first (fun _ => .content "")
          ["--radix=hex", "encode", "auto", "1.5"] "")
        (run ⟨0x2000, by decide⟩ second (fun _ => .content "") ["encode", "auto", "1.5"] "") ∧
      run ⟨0x1000, by decide⟩ first (fun _ => .content "") ["--radix=hex", "repl"] "null\n" =
        run ⟨0x1000, by decide⟩ second (fun _ => .content "") ["--radix=hex", "repl"] "null\n" ∧
      run ⟨0x1000, by decide⟩ first (fun _ => .content "") [] "null\n" =
        { code := 1
          err :=
            "Error: invalid NANBOX_RADIX setting\n\nCaused by:\n" ++
              "    unknown radix `octal`, expecting `hex` or `bin`\n" } := by
  have same : Environment.without [("NANBOX_RADIX", "Octal"), ("TERM", "dumb")] "radix" =
      Environment.without [("TERM", "dumb"), ("nanbox_radix", "BIN")] "radix" := by decide +kernel
  obtain ⟨alike, -, -, -, -⟩ := radix_is_presentation same rfl (fun _ => .content "") ""
  obtain ⟨-, hidden, -, told, -⟩ := radix_is_presentation same rfl (fun _ => .content "") "null\n"
  refine ⟨_, _, rfl, rfl, ?_, ?_, ?_⟩
  · have lower : "BIN".toLower = Radix.bin.name := by
      rw [← String.toList_inj, Radix.toList_toLower]
      decide
    have capitals : Environment.setting? [("TERM", "dumb"), ("nanbox_radix", "BIN")] "radix" =
        some "BIN" := by decide +kernel
    have resolved := Radix.resolve_setting_eq_ok_iff.mpr lower
    rw [← capitals] at resolved
    have accepted : Arguments.parse ["encode", "auto", "1.5"] =
        .ok ⟨none, (Request.encode .auto (some "1.5")).command⟩ := rfl
    have bare : ¬Literal.isQuoted "1.5".toList := by decide
    exact alike (.joined .hex) rfl .absent resolved accepted fun boxed => absurd boxed bare
  · exact hidden ["repl"] _ (.joined .hex)
  · have lower : "Octal".toLower = "octal" := by
      rw [← String.toList_inj, Radix.toList_toLower]
      decide
    have set : Environment.setting? [("NANBOX_RADIX", "Octal"), ("TERM", "dumb")] "radix" =
        some "Octal" := by decide +kernel
    refine (told ⟨0x1000, by decide⟩ ?_ ?_ set rfl).trans ?_
    · rw [lower]
      decide
    · rw [lower]
      decide
    · rw [lower]
      decide +kernel

end Program

end QuietBox
