import QuietBox.Proofs.Lookup
import QuietBox.Proofs.Memory.Borrowing
import QuietBox.Proofs.Report.AutoKind
import QuietBox.Proofs.Request.Grammar
import QuietBox.Proofs.Text.QuotedLiterals
import QuietBox.Proofs.Text.QuotedText

/-!
Text literals reach their boxes intact. One pair of quotes comes off, and what was between them goes
into memory byte by byte and is shown in full; only a NUL stops it, at the byte where it stands. The
quotes keep a line from trimming the text, and both kinds that take quoted text tell it alike.
-/

set_option autoImplicit false

namespace QuietBox

open Text

namespace Memory

/-- The bytes of a text end where the NUL behind them stands. -/
theorem ended_encode {text : List Char} (free : '\x00' ∉ text) (more : List UInt8) :
    ended (Utf8.encode text ++ 0 :: more) = Utf8.encode text := by
  have clean : 0 ∉ Utf8.encode text := mt (Utf8.zero_mem_encode_iff text).mp free
  exact takeWhile_ne_append clean more

end Memory

namespace Report

/-- A string box on a text: the bytes that it was made from, what it shows, which no other text
does, and what is read through it wherever those bytes lie with a NUL behind them. -/
structure HoldsText (place : Address) (text : List Char) (r : Report) : Prop where
  boxed : r.word = .ofString place
  asString : r.word.asString = .ok place
  bytes : r.bytes? = some (Utf8.encode text)
  shown : ∀ other, r.rendering = String.ofList (Quoted.encode other) ↔ other = text
  chars : ∀ (m : Memory) (lies : Placement) (i : Nat) (more : List UInt8),
    lies.address? (.text i) = some place → m.texts[i]? = some (Utf8.encode text ++ 0 :: more) →
      m.textAt? lies place = some (Utf8.encode text) ∧ m.render? lies {} r.word = some text

/-- The answer for a text: a box on all of it, or the position of its first NUL in bytes. -/
structure KeepsText (place : Address) (text : List Char) (answer : Except Failure Report) :
    Prop where
  ok_iff : (∃ r, answer = .ok r) ↔ '\x00' ∉ text
  holds : ∀ r, answer = .ok r → HoldsText place text r
  refused : ∀ before after, text = before ++ '\x00' :: after → '\x00' ∉ before →
    answer = .error (.of (.nulInText (Utf8.encode before).length))

variable {place : Address}

theorem ofString_holdsText {text : List Char} (free : '\x00' ∉ text) :
    HoldsText place text (ofString place (Utf8.encode text)) := by
  have read : (Word.ofString place).asString = .ok place :=
    Content.readFrom_toWord (c := .string place) trivial
  constructor
  · rfl
  · exact read
  · rfl
  · intro other
    rw [ofString, Utf8.decode_encode, String.ofList_inj, Quoted.encode_inj]
    exact eq_comm
  · intro m lies i more placed found
    have there : m.textAt? lies place = some (Utf8.encode text) := by
      rw [Memory.textAt?_of_placed placed found, Memory.ended_encode free]
    refine ⟨there, ?_⟩
    change m.render? lies {} (Word.ofString place) = some text
    simp only [Memory.render?, read, there, Option.map_some, Utf8.decode_encode]

theorem readText_eq (text : List Char) :
    readText text = (Literal.textBytes (Literal.unquote text)).mapError fun position =>
      Failure.of (.nulInText position) := rfl

/-- A literal is kept as what is left of it without its quotes. -/
theorem string_keepsText {literal : String} {text : List Char}
    (same : Literal.unquote literal.toList = text) :
    KeepsText place text (encode place .string (some literal)) := by
  have answer (r : Report) : encode place .string (some literal) = .ok r ↔
      '\x00' ∉ text ∧ ofString place (Utf8.encode text) = r := by
    rw [encode_string_eq_ok_iff]
    constructor
    · rintro ⟨_, bytes, ⟨⟩, read, rfl⟩
      rw [same, Literal.textBytes_eq_ok_iff] at read
      rw [read.2]
      exact ⟨read.1, rfl⟩
    · rintro ⟨free, rfl⟩
      refine ⟨literal, _, rfl, ?_, rfl⟩
      rw [same]
      exact Literal.textBytes_eq_ok_iff.mpr ⟨free, rfl⟩
  constructor
  · constructor
    · intro ⟨r, found⟩
      exact ((answer r).mp found).1
    · intro free
      exact ⟨_, (answer _).mpr ⟨free, rfl⟩⟩
  · intro r found
    obtain ⟨free, made⟩ := (answer r).mp found
    rw [← made]
    exact ofString_holdsText free
  · intro before after split first
    change (readText literal.toList >>= _) = _
    rw [readText_eq, same, split, Literal.textBytes_of_nul first]
    rfl

end Report

/-- A text in quotes keeps its blanks, for it begins and ends with a quote. -/
theorem Text.isTrimmed_quoted (text : List Char) : IsTrimmed ('"' :: (text ++ ['"'])) := by
  refine ⟨List.cons_ne_nil _ _, ?_, ?_⟩
  · intro c first
    cases first
    decide
  · intro c last
    rw [← List.cons_append, List.getLast?_concat] at last
    cases last
    decide

namespace Request

theorem asks_string {name : List Char} (spelled : Kind.string.Spelled name) {value : String}
    (bare : IsTrimmed value.toList) (times : Nat) :
    Asks (.encode .string (some value))
      (List.replicate times "encode".toList ++ [name, value.toList]) := by
  induction times with
  | zero => exact .kind spelled fun v same => Option.some.inj same ▸ bare
  | succ times ih => exact .encode ih

end Request

namespace Report

variable {place : Address}

theorem line_keepsText {name text : List Char} (spelled : Kind.string.Spelled name) {times : Nat}
    {line : String}
    (laid : Laid (List.replicate times "encode".toList ++ [name, '"' :: (text ++ ['"'])])
      line.toList) :
    KeepsText place text (ofLine place line) := by
  have quoted : (String.ofList ('"' :: (text ++ ['"']))).toList = '"' :: (text ++ ['"']) :=
    String.toList_ofList
  have bare : IsTrimmed (String.ofList ('"' :: (text ++ ['"']))).toList := by
    rw [quoted]
    exact isTrimmed_quoted text
  have asked := Request.asks_string spelled bare times
  rw [quoted] at asked
  have request := Request.parse_of_asks asked laid
  have answer : ofLine place line =
      encode place .string (some (String.ofList ('"' :: (text ++ ['"'])))) := by
    rw [ofLine, Request.ofLine, request]
    rfl
  rw [answer]
  apply string_keepsText
  rw [quoted, Literal.unquote_quoted]

/-- The kind `auto` takes a literal for quoted text: it puts it into memory, or finds a NUL in
it. -/
def TakesAsQuoted (place : Address) (literal : List Char) : Prop :=
  (∃ bytes, auto place literal = .ok (ofTextPointer place bytes)) ∨
    ∃ position, auto place literal = .error (.of (.nulInText position))

theorem takesAsQuoted_of_isQuoted {literal : List Char} (quoted : Literal.isQuoted literal) :
    TakesAsQuoted place literal := by
  obtain ⟨inner, rfl⟩ := (Literal.isQuoted_iff literal).mp quoted
  unfold TakesAsQuoted
  rw [auto_quoted, readText_eq]
  cases Literal.textBytes (Literal.unquote ('"' :: (inner ++ ['"']))) with
  | error position => exact Or.inr ⟨position, rfl⟩
  | ok bytes => exact Or.inl ⟨bytes, rfl⟩

/-- Without quotes nothing is put into memory: a word is boxed, or the literal is of no kind. -/
theorem auto_of_not_isQuoted (place : Address) {literal : List Char}
    (bare : ¬Literal.isQuoted literal) :
    (∃ w, auto place literal = .ok (ofWord w)) ∨
      (∃ text, auto place literal = .error (.of (.unsupportedInteger text))) ∨
        ∃ text cause, auto place literal = .error (.within (.unsupportedLiteral text) cause) := by
  unfold auto
  -- the cases follow the branches of `auto`; the one of quoted text is ruled out by `bare`
  split
  · exact Or.inl ⟨_, rfl⟩
  · split
    · exact Or.inl ⟨_, rfl⟩
    · split
      · exact Or.inl ⟨_, rfl⟩
      · dsimp only
        split
        · exact Or.inl ⟨_, rfl⟩
        · exact Or.inl ⟨_, rfl⟩
        · split
          · exact Or.inr (Or.inl ⟨_, rfl⟩)
          · cases readDouble literal with
            | error cause => exact Or.inr (Or.inr ⟨_, cause, rfl⟩)
            | ok d => exact Or.inl ⟨_, rfl⟩

theorem not_takesAsQuoted {literal : List Char} (bare : ¬Literal.isQuoted literal) :
    ¬TakesAsQuoted place literal := by
  unfold TakesAsQuoted
  obtain ⟨w, answer⟩ | ⟨text, answer⟩ | ⟨text, cause, answer⟩ :=
    auto_of_not_isQuoted place bare
  · rw [answer]
    rintro (⟨bytes, same⟩ | ⟨position, same⟩)
    · cases congrArg Report.bytes? (Except.ok.inj same)
    · cases same
  · rw [answer]
    rintro (⟨bytes, same⟩ | ⟨position, same⟩)
    · cases same
    · cases same
  · rw [answer]
    rintro (⟨bytes, same⟩ | ⟨position, same⟩)
    · cases same
    · cases same

theorem takesAsQuoted_iff (place : Address) (literal : List Char) :
    TakesAsQuoted place literal ↔ literal = '"' :: (Literal.unquote literal ++ ['"']) := by
  rw [← Literal.isQuoted_iff_unquote]
  constructor
  · intro takes
    apply Classical.byContradiction
    intro bare
    exact not_takesAsQuoted bare takes
  · exact takesAsQuoted_of_isQuoted

end Report

/-- Text between quotes on a line, and any text without quotes of its own, is boxed whole or refused
at the byte of its first NUL; and the kind `auto` takes a literal for quoted exactly when a pair of
quotes comes off it. -/
theorem text_literals_arrive_intact (place : Address) :
    (∀ (name text : List Char) (times : Nat) (line : String), Kind.string.Spelled name →
      Laid (List.replicate times "encode".toList ++ [name, '"' :: (text ++ ['"'])]) line.toList →
        Report.KeepsText place text (Report.ofLine place line)) ∧
    (∀ literal : String, (∀ inner, literal.toList ≠ '"' :: (inner ++ ['"'])) →
      Report.KeepsText place literal.toList (Report.encode place .string (some literal))) ∧
    (∀ literal : List Char, (Literal.isQuoted literal ↔ Report.TakesAsQuoted place literal) ∧
      (Report.TakesAsQuoted place literal ↔
        literal = '"' :: (Literal.unquote literal ++ ['"']))) := by
  refine ⟨?_, ?_, ?_⟩
  · intro name text times line spelled laid
    exact Report.line_keepsText spelled laid
  · intro literal bare
    exact Report.string_keepsText (Literal.unquote_of_bare bare)
  · intro literal
    have takes := Report.takesAsQuoted_iff place literal
    rw [Literal.isQuoted_iff_unquote, takes]
    exact ⟨Iff.rfl, Iff.rfl⟩

/-- Blanks and quotes next to the outer quotes stay, a NUL is found behind a character of two bytes,
and a lone quote is a text of its own. -/
theorem text_literals_arrive_intact_at_quotes :
    (∃ r, Report.ofLine ⟨0x1000, by decide⟩ "\tencode String \u3000\" \"é \" \n" = .ok r ∧
      r.bytes? = some [0x20, 0x22, 0xC3, 0xA9, 0x20] ∧ r.rendering = "\" \\\"é \"") ∧
    Report.ofLine ⟨0x1000, by decide⟩ "string \"é\x00?\x00\"" = .error (.of (.nulInText 2)) ∧
    (∃ r, Report.encode ⟨0x1000, by decide⟩ .string (some "\"") = .ok r ∧
      r.bytes? = some [0x22]) ∧
    ¬Report.TakesAsQuoted ⟨0x1000, by decide⟩ "\"".toList := by
  obtain ⟨lines, literals, takes⟩ := text_literals_arrive_intact ⟨0x1000, by decide⟩
  have upper : Kind.string.Spelled "String".toList := Kind.ofText?_eq_some_iff.mp (by decide)
  have lower : Kind.string.Spelled "string".toList := Kind.ofText?_eq_some_iff.mp (by decide)
  have wide : Laid ["encode".toList, "String".toList, '"' :: (" \"é ".toList ++ ['"'])]
      (['\t'] ++ "encode".toList ++ ([' '] ++ "String".toList ++
        ([' ', '\u3000'] ++ '"' :: (" \"é ".toList ++ ['"']) ++ [' ', '\n']))) :=
    .line (by decide) (.next (by decide) (by decide) (.next (by decide) (by decide)
      (.done (by decide))))
  have plain : Laid ["string".toList, '"' :: ("é\x00?\x00".toList ++ ['"'])]
      ([] ++ "string".toList ++ ([' '] ++ '"' :: ("é\x00?\x00".toList ++ ['"']) ++ [])) :=
    .line blanks_nil (.next (by decide) (by decide) (.done blanks_nil))
  have lone : ∀ inner, "\"".toList ≠ '"' :: (inner ++ ['"']) := by
    intro inner same
    have length := congrArg List.length same
    simp at length
  refine ⟨?_, ?_, ?_, ?_⟩
  · have kept := lines _ _ 1 "\tencode String \u3000\" \"é \" \n" upper wide
    obtain ⟨r, answer⟩ := kept.ok_iff.mpr (by decide)
    refine ⟨r, answer, ?_, ?_⟩
    · rw [(kept.holds r answer).bytes]
      decide
    · rw [((kept.holds r answer).shown _).mpr rfl]
      decide +kernel
  · have kept := lines _ _ 0 "string \"é\x00?\x00\"" lower plain
    exact kept.refused ['é'] ['?', '\x00'] (by decide) (by decide)
  · have kept := literals "\"" lone
    obtain ⟨r, answer⟩ := kept.ok_iff.mpr (by decide)
    refine ⟨r, answer, ?_⟩
    rw [(kept.holds r answer).bytes]
    decide
  · intro took
    exact lone _ ((takes _).2.mp took)

end QuietBox
