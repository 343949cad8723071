import QuietBox.Proofs.Program.Agreement
import QuietBox.Proofs.Report.AutoKind

/-!
Integers as arguments. The minus of a negative one makes it an option, which no command takes, so
it is boxed only where it stands behind `--`.
-/

set_option autoImplicit false

namespace QuietBox

/-- The decimal text of a signed integer. -/
def integerText (v : Int32) : String := String.ofList (Numeral.integer v.toInt)

section Text

variable {v : Int32}

theorem toList_integerText : (integerText v).toList = Numeral.integer v.toInt :=
  String.toList_ofList

theorem denotes_integerText : Literal.Denotes (integerText v).toList v.toInt := by
  rw [toList_integerText]
  exact Literal.denotes_integer v.toInt

theorem head?_integerText : (integerText v).toList.head? = some '-' ↔ v.toInt < 0 := by
  rw [toList_integerText]
  exact Literal.head?_integer_eq_minus_iff v.toInt

/-- A negative integer is a minus and a digit, and perhaps more. -/
theorem integerText_of_neg (negative : v.toInt < 0) :
    ∃ c more, (integerText v).toList = '-' :: c :: more ∧ c.isDigit := by
  obtain ⟨some, digits⟩ := Literal.isDigits_decimal v.toInt.natAbs
  obtain ⟨c, more, split⟩ := List.exists_cons_of_ne_nil some
  refine ⟨c, more, ?_, digits c (split ▸ List.mem_cons_self)⟩
  rw [toList_integerText, Literal.integer_of_neg negative, split]

end Text

namespace Report

theorem encode_sint_integerText (place : Address) (v : Int32) :
    encode place .sint (some (integerText v)) = .ok (ofWord (.ofSint v)) :=
  encode_sint_eq_ok_iff.mpr
    ⟨_, v, rfl, Literal.readSint_eq_ok_iff.mpr denotes_integerText, rfl⟩

/-- A minus tells `auto` to box a signed integer. -/
theorem encode_auto_integerText (place : Address) {v : Int32} (negative : v.toInt < 0) :
    encode place .auto (some (integerText v)) = .ok (ofWord (.ofSint v)) := by
  have minus := head?_integerText.mpr negative
  exact (agree_sint denotes_integerText minus _).mpr (encode_sint_integerText place v)

end Report

namespace Program

/-- The report of a word, in hexadecimal. -/
def reported (w : Word) : Outcome := { code := 0, out := (Report.ofWord w).line .hex ++ "\n" }

theorem once_of_ok {place : Address} {request : Request} {w : Word}
    (h : Report.ofRequest place request = .ok (.ofWord w)) :
    once place .hex request = reported w := by
  rw [once, h]
  rfl

/-- No kind takes an option that asks for no help as its value. -/
theorem run_of_option {env : Environment} (quiet : env.asksDiagnostics = false) {argument : String}
    {c : Char} {more : List Char} (option : argument.toList = '-' :: c :: more) (dash : c ≠ '-')
    (help : c ≠ 'h') (kind : Kind) (place : Address) (files : String → HistoryFile)
    (input : String) :
    run place env files ["encode", kind.name, argument] input = { code := 2 } := by
  have refused : Arguments.parse ["encode", kind.name, argument] = .error .usage := by
    rw [Arguments.parse, Arguments.parseAfter_encode,
      Arguments.encodeCommand_option option dash help]
    rfl
  rw [run_of_quiet quiet]
  simp only [undiagnosed, refused]

/-- A signed integer is boxed from the command line where it stands behind `--`, and also by itself
unless it is negative. A negative one by itself is refused as an option, whatever the kind. Nobody
is to ask for diagnostics. -/
theorem integer_arguments_box_unless_options {env : Environment}
    (unset : env.setting? "radix" = none) (quiet : env.asksDiagnostics = false)
    (place : Address) (files : String → HistoryFile) (input : String) (v : Int32) :
    (0 ≤ v.toInt →
      run place env files ["encode", "sint", integerText v] input = reported (.ofSint v)) ∧
    (v.toInt < 0 → ∀ kind : Kind,
      run place env files ["encode", kind.name, integerText v] input = { code := 2 }) ∧
    run place env files ["encode", "sint", "--", integerText v] input = reported (.ofSint v) ∧
    (v.toInt < 0 →
      run place env files ["encode", "auto", "--", integerText v] input =
        reported (.ofSint v)) := by
  have resolved : Radix.resolve none (env.setting? "radix") = .ok .hex := by
    rw [unset]
    rfl
  have sint : once place .hex (.encode .sint (some (integerText v))) = reported (.ofSint v) :=
    once_of_ok (Report.encode_sint_integerText place v)
  refine ⟨?_, ?_, ?_, ?_⟩
  · intro least
    have plain : (integerText v).toList.head? ≠ some '-' :=
      mt head?_integerText.mp (Int.not_lt.mpr least)
    exact (run_of_spell quiet resolved (.encodePlain .sint plain)).trans sint
  · intro negative kind
    obtain ⟨c, more, option, digit⟩ := integerText_of_neg negative
    refine run_of_option quiet option ?_ ?_ kind place files input
    · rintro rfl
      cases digit
    · rintro rfl
      cases digit
  · exact (run_of_spell quiet resolved (.encode .sint _)).trans sint
  · intro negative
    have auto : once place .hex (.encode .auto (some (integerText v))) = reported (.ofSint v) :=
      once_of_ok (Report.encode_auto_integerText place negative)
    exact (run_of_spell quiet resolved (.encode .auto _)).trans auto

/-- The least integer, and none in the way of a setting for the history. -/
theorem integer_arguments_box_unless_options_at_least_integer :
    integerText 0 = "0" ∧ integerText (-0x80000000) = "-2147483648" ∧
      run ⟨0x1000, by decide⟩ [("NANBOX_HISTORY", "log")] (fun _ => .content "")
        ["encode", "sint", "0"] "" = reported 0x7FFF000000000000 ∧
      run ⟨0x1000, by decide⟩ [("NANBOX_HISTORY", "log")] (fun _ => .content "")
        ["encode", "pointer", "-2147483648"] "" = { code := 2 } ∧
      run ⟨0x1000, by decide⟩ [("NANBOX_HISTORY", "log")] (fun _ => .content "")
        ["encode", "auto", "--", "-2147483648"] "" =
          { code := 0
            out :=
              "0x7FFF000080000000  sint    -2147483648" ++
                "  [signature=0x0fff tag=sint payload=0x000080000000]\n" } := by
  have unset : Environment.setting? [("NANBOX_HISTORY", "log")] "radix" = none := by decide +kernel
  obtain ⟨zero, -, -, -⟩ := integer_arguments_box_unless_options unset rfl
    ⟨0x1000, by decide⟩ (fun _ => .content "") "" 0
  obtain ⟨-, refused, -, auto⟩ := integer_arguments_box_unless_options unset rfl
    ⟨0x1000, by decide⟩ (fun _ => .content "") "" (-0x80000000)
  have least : integerText (-0x80000000) = "-2147483648" := by decide +kernel
  rw [least] at refused auto
  refine ⟨by decide +kernel, least, ?_, refused (by decide) .pointer, (auto (by decide)).trans ?_⟩
  · exact (zero (by decide)).trans (by decide +kernel)
  · decide +kernel

/-- Not every integer is boxed from the command line as it stands: `-5` is an option, for the kind
`sint` and for the kind that is told from the form. -/
theorem negative_integer_argument_is_option :
    (¬∀ v : Int32, run ⟨0x1000, by decide⟩ [] (fun _ => .content "")
      ["encode", "sint", integerText v] "" = reported (.ofSint v)) ∧
    (¬∀ v : Int32, v.toInt < 0 → run ⟨0x1000, by decide⟩ [] (fun _ => .content "")
      ["encode", "auto", integerText v] "" = reported (.ofSint v)) := by
  constructor
  · intro all
    have boxed := all (-5)
    revert boxed
    decide +kernel
  · intro all
    have boxed := all (-5) (by decide)
    revert boxed
    decide +kernel

end Program

end QuietBox
