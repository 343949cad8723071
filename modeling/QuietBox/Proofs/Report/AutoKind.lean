import QuietBox.Proofs.Report.Success
import QuietBox.Proofs.Text.IntegerReading
import QuietBox.Proofs.Text.QuotedLiterals
import QuietBox.Proofs.Word.Reserved

/-!
The kind `auto` agrees with the kind that the form of its literal tells. The readers overlap, for a
double may be written like an integer, but the forms exclude each other: an integer that the readers
of integers refuse is not tried as a double.
-/

set_option autoImplicit false

namespace QuietBox

open Literal (Denotes)

namespace Report

/-- Both succeed with the same report, or both fail. -/
def Agree (a b : Except Failure Report) : Prop := ∀ r, a = .ok r ↔ b = .ok r

/-- What the second gives, the first gives too. -/
theorem Agree.eq_of_ok {a b : Except Failure Report} {r : Report} (h : Agree a b)
    (found : b = .ok r) : a = b := by
  rw [found, (h r).mpr found]

/-- None of the three words, and not in quotes. -/
structure IsBare (literal : List Char) : Prop where
  null : literal ≠ "null".toList
  true : literal ≠ "true".toList
  false : literal ≠ "false".toList
  quoted : ∀ inner, literal ≠ '"' :: (inner ++ ['"'])

section Forms

variable {place : Address} {literal : List Char} {r : Report} {i : Int}

/-- An integer starts with a sign or a digit. -/
theorem isBare_of_denotes (h : Denotes literal i) : IsBare literal := by
  have other {c : Char} {rest : List Char} (digit : c.isDigit = Bool.false) (plus : c ≠ '+')
      (minus : c ≠ '-') : literal ≠ c :: rest := by
    rintro rfl
    exact Literal.not_denotes_cons digit plus minus rest i h
  constructor
  · exact other (by decide) (by decide) (by decide)
  · exact other (by decide) (by decide) (by decide)
  · exact other (by decide) (by decide) (by decide)
  · intro inner
    exact other (by decide) (by decide) (by decide)

theorem auto_quoted (place : Address) (inner : List Char) :
    auto place ('"' :: (inner ++ ['"'])) =
      (readText ('"' :: (inner ++ ['"']))).map (ofTextPointer place) := by
  have quoted := (Literal.isQuoted_iff ('"' :: (inner ++ ['"']))).mpr ⟨inner, rfl⟩
  simp [auto, quoted]

/-- Text in quotes is put into memory, and its address is boxed as a pointer. -/
theorem auto_quoted_eq_ok_iff {inner : List Char} :
    auto place ('"' :: (inner ++ ['"'])) = .ok r ↔
      '\x00' ∉ inner ∧ ofTextPointer place (Text.Utf8.encode inner) = r := by
  rw [auto_quoted, map_eq_ok_iff]
  simp only [readText_eq_ok_iff, Literal.unquote_quoted, Literal.textBytes_eq_ok_iff]
  constructor
  · rintro ⟨_, ⟨none, rfl⟩, rfl⟩
    exact ⟨none, rfl⟩
  · rintro ⟨none, rfl⟩
    exact ⟨_, ⟨none, rfl⟩, rfl⟩

theorem not_isQuoted_of_bare (bare : IsBare literal) : ¬Literal.isQuoted literal := by
  rw [Literal.isQuoted_iff]
  rintro ⟨inner, same⟩
  exact bare.quoted inner same

/-- An integer with a minus goes to the signed reader, and is refused if that one refuses it. -/
theorem auto_minus_eq_ok_iff (minus : literal.head? = some '-') (denoted : Denotes literal i) :
    auto place literal = .ok r ↔
      ∃ n, Literal.readSint literal = .ok n ∧ ofWord (.ofSint n) = r := by
  have bare := isBare_of_denotes denoted
  have integer : Literal.isInteger literal := (Literal.isInteger_iff literal).mpr ⟨i, denoted⟩
  -- What the signed reader refuses goes on to the unsigned one, which takes no minus.
  have unsigned (n : UInt32) : Literal.readUint literal ≠ .ok n := by
    intro read
    exact (Literal.readUint_eq_ok_iff.mp read).1 minus
  obtain ⟨fault, refused⟩ := exists_error_of_ne_ok unsigned
  simp only [auto, bare.null, bare.true, bare.false, not_isQuoted_of_bare bare, ↓reduceIte, minus,
    integer, refused]
  cases Literal.readSint literal <;> simp [Except.toOption]

/-- An integer without a minus goes to the unsigned reader, and is refused if that one refuses
it. -/
theorem auto_unsigned_eq_ok_iff (minus : literal.head? ≠ some '-') (denoted : Denotes literal i) :
    auto place literal = .ok r ↔
      ∃ n, Literal.readUint literal = .ok n ∧ ofWord (.ofUint n) = r := by
  have bare := isBare_of_denotes denoted
  have integer : Literal.isInteger literal := (Literal.isInteger_iff literal).mpr ⟨i, denoted⟩
  simp only [auto, bare.null, bare.true, bare.false, not_isQuoted_of_bare bare, ↓reduceIte, minus,
    integer]
  cases Literal.readUint literal <;> simp

/-- Neither reader of integers takes what is left over. -/
theorem auto_other_eq_ok_iff (bare : IsBare literal) (other : ∀ i, ¬Denotes literal i) :
    auto place literal = .ok r ↔
      ∃ d, Double.read literal = .ok d ∧ ofWord (.ofDouble d) = r := by
  have integer : ¬Literal.isInteger literal := by
    rw [Literal.isInteger_iff]
    rintro ⟨i, denoted⟩
    exact other i denoted
  have unsigned (n : UInt32) : Literal.readUint literal ≠ .ok n := by
    intro read
    exact other _ (Literal.readUint_eq_ok_iff.mp read).2
  have signed (n : Int32) : Literal.readSint literal ≠ .ok n := by
    intro read
    exact other _ (Literal.readSint_eq_ok_iff.mp read)
  obtain ⟨_, noUint⟩ := exists_error_of_ne_ok unsigned
  obtain ⟨_, noSint⟩ := exists_error_of_ne_ok signed
  simp only [auto, bare.null, bare.true, bare.false, not_isQuoted_of_bare bare, ↓reduceIte,
    integer, noUint, noSint, Except.toOption, ite_self, Bool.false_eq_true]
  rw [mapError_eq_ok_iff, map_eq_ok_iff]
  simp only [readDouble_eq_ok_iff]

end Forms

section Kinds

variable {place : Address} {text : String} {r : Report} {i : Int}

theorem encode_auto_some_eq_ok_iff :
    encode place .auto (some text) = .ok r ↔ auto place text.toList = .ok r := by
  rw [encode_auto_eq_ok_iff]
  simp

theorem agree_sint (denoted : Denotes text.toList i) (minus : text.toList.head? = some '-') :
    Agree (encode place .auto (some text)) (encode place .sint (some text)) := by
  intro r
  rw [encode_auto_some_eq_ok_iff, auto_minus_eq_ok_iff minus denoted, encode_sint_eq_ok_iff]
  simp

theorem agree_uint (denoted : Denotes text.toList i) (minus : text.toList.head? ≠ some '-') :
    Agree (encode place .auto (some text)) (encode place .uint (some text)) := by
  intro r
  rw [encode_auto_some_eq_ok_iff, auto_unsigned_eq_ok_iff minus denoted, encode_uint_eq_ok_iff]
  simp

theorem agree_double (bare : IsBare text.toList) (other : ∀ i, ¬Denotes text.toList i) :
    Agree (encode place .auto (some text)) (encode place .double (some text)) := by
  intro r
  rw [encode_auto_some_eq_ok_iff, auto_other_eq_ok_iff bare other, encode_double_eq_ok_iff]
  simp

/-- An integer with a minus is boxed as itself. -/
theorem sint_of_auto (denoted : Denotes text.toList i) (minus : text.toList.head? = some '-')
    (h : encode place .auto (some text) = .ok r) :
    ¬r.word.isDouble ∧ ∃ n : Int32, r.word = .ofSint n ∧ n.toInt = i := by
  rw [encode_auto_some_eq_ok_iff, auto_minus_eq_ok_iff minus denoted] at h
  obtain ⟨n, read, rfl⟩ := h
  have same : n.toInt = i := (Literal.readSint_eq_ok_iff.mp read).unique denoted
  refine ⟨?_, n, rfl, same⟩
  simp [ofWord, Word.ofSint]

/-- An integer without a minus is boxed as itself. -/
theorem uint_of_auto (denoted : Denotes text.toList i) (minus : text.toList.head? ≠ some '-')
    (h : encode place .auto (some text) = .ok r) :
    ¬r.word.isDouble ∧ ∃ n : UInt32, r.word = .ofUint n ∧ n.toNat = i := by
  rw [encode_auto_some_eq_ok_iff, auto_unsigned_eq_ok_iff minus denoted] at h
  obtain ⟨n, read, rfl⟩ := h
  have same : (n.toNat : Int) = i := (Literal.readUint_eq_ok_iff.mp read).2.unique denoted
  refine ⟨?_, n, rfl, same⟩
  simp [ofWord, Word.ofUint]

section Quoted

variable {inner : List Char} (quoted : text.toList = '"' :: (inner ++ ['"']))

include quoted

theorem encode_auto_quoted_eq_ok_iff :
    encode place .auto (some text) = .ok r ↔
      '\x00' ∉ inner ∧ ofTextPointer place (Text.Utf8.encode inner) = r := by
  rw [encode_auto_some_eq_ok_iff, quoted, auto_quoted_eq_ok_iff]

theorem auto_refuses_quoted_iff :
    (∃ failure, encode place .auto (some text) = .error failure) ↔ '\x00' ∈ inner := by
  constructor
  · rintro ⟨failure, refused⟩
    apply Classical.byContradiction
    intro none
    rw [(encode_auto_quoted_eq_ok_iff quoted).mpr ⟨none, rfl⟩] at refused
    cases refused
  · intro nul
    apply exists_error_of_ne_ok
    intro r h
    exact ((encode_auto_quoted_eq_ok_iff quoted).mp h).1 nul

theorem pointer_of_auto (h : encode place .auto (some text) = .ok r) :
    r.word = .ofPointer place ∧ r.word.isPointer ∧ ¬r.word.isString ∧
      r.bytes? = some (Text.Utf8.encode inner) := by
  obtain ⟨-, rfl⟩ := (encode_auto_quoted_eq_ok_iff quoted).mp h
  refine ⟨rfl, ?_, ?_, rfl⟩
  · simp [ofTextPointer, ofWord, Word.ofPointer, Word.isPointer]
  · simp [ofTextPointer, ofWord, Word.ofPointer, Word.isString]

end Quoted

end Kinds

end Report

open Report

/-- The kind `auto` is one of the other kinds, chosen by the form of the literal. The three words
stand for themselves. An integer, which is decimal digits behind at most one sign, is signed if it
has a minus and unsigned otherwise; it is boxed as itself or refused, and never is a double. Text in
quotes is a pointer and not a string, unless it has a NUL. All else is a double or nothing. -/
theorem auto_agrees_with_kinds (place : Address) (literal : String) :
    (literal = "null" →
      encode place .auto (some literal) = .ok (ofWord .null) ∧
      encode place .null none = .ok (ofWord .null)) ∧
    (∀ b : Bool, literal = (if b then "true" else "false") →
      encode place .auto (some literal) = .ok (ofWord (.ofBool b)) ∧
      encode place .bool (some literal) = .ok (ofWord (.ofBool b))) ∧
    (∀ i : Int, Denotes literal.toList i → literal.toList.head? = some '-' →
      Agree (encode place .auto (some literal)) (encode place .sint (some literal)) ∧
      ∀ r, encode place .auto (some literal) = .ok r →
        ¬r.word.isDouble ∧ ∃ n : Int32, r.word = .ofSint n ∧ n.toInt = i) ∧
    (∀ i : Int, Denotes literal.toList i → literal.toList.head? ≠ some '-' →
      Agree (encode place .auto (some literal)) (encode place .uint (some literal)) ∧
      ∀ r, encode place .auto (some literal) = .ok r →
        ¬r.word.isDouble ∧ ∃ n : UInt32, r.word = .ofUint n ∧ n.toNat = i) ∧
    (∀ inner : List Char, literal.toList = '"' :: (inner ++ ['"']) →
      ((∃ failure, encode place .auto (some literal) = .error failure) ↔ '\x00' ∈ inner) ∧
      ∀ r, encode place .auto (some literal) = .ok r →
        r.word = .ofPointer place ∧ r.word.isPointer ∧ ¬r.word.isString ∧
          r.bytes? = some (Text.Utf8.encode inner)) ∧
    (IsBare literal.toList → (∀ i : Int, ¬Denotes literal.toList i) →
      Agree (encode place .auto (some literal)) (encode place .double (some literal))) := by
  refine ⟨?_, ?_, ?_, ?_, ?_, ?_⟩
  · rintro rfl
    exact ⟨rfl, rfl⟩
  · rintro b rfl
    cases b <;> exact ⟨rfl, rfl⟩
  · intro i denoted minus
    refine ⟨agree_sint denoted minus, ?_⟩
    intro r h
    exact sint_of_auto denoted minus h
  · intro i denoted minus
    refine ⟨agree_uint denoted minus, ?_⟩
    intro r h
    exact uint_of_auto denoted minus h
  · intro inner quoted
    refine ⟨auto_refuses_quoted_iff quoted, ?_⟩
    intro r h
    exact pointer_of_auto quoted h
  · intro bare other
    exact agree_double bare other

/-- The least signed integer, the first integer that no reader takes, and forms of each other
kind. -/
theorem auto_agrees_with_kinds_at_limits :
    encode ⟨64, by decide⟩ .auto (some "null") = .ok (ofWord .null) ∧
      encode ⟨64, by decide⟩ .bool (some "false") = .ok (ofWord (.ofBool false)) ∧
      (Denotes "-2147483648".toList (-2147483648) ∧
        ∀ r, encode ⟨64, by decide⟩ .auto (some "-2147483648") = .ok r →
          ∃ n : Int32, r.word = .ofSint n ∧ n.toInt = -2147483648) ∧
      (Denotes "4294967296".toList 4294967296 ∧
        ∀ r, encode ⟨64, by decide⟩ .auto (some "4294967296") ≠ .ok r) ∧
      (encode ⟨64, by decide⟩ .auto (some "\"hi\"") =
          .ok (ofTextPointer ⟨64, by decide⟩ [104, 105]) ∧
        (ofTextPointer ⟨64, by decide⟩ [104, 105]).word.isPointer) ∧
      IsBare "-inf".toList ∧ (∀ i : Int, ¬Denotes "-inf".toList i) ∧
      Agree (encode ⟨64, by decide⟩ .auto (some "-inf"))
        (encode ⟨64, by decide⟩ .double (some "-inf")) := by
  have least : Denotes "-2147483648".toList (-2147483648) :=
    Literal.denotes_minus_iff.mpr ⟨by decide, by decide⟩
  have beyond : Denotes "4294967296".toList 4294967296 :=
    (Literal.denotes_plain_iff (by decide) (by decide)).mpr ⟨by decide, by decide⟩
  have bare : IsBare "-inf".toList := by
    refine ⟨by decide, by decide, by decide, ?_⟩
    intro inner same
    exact absurd ((Literal.isQuoted_iff _).mpr ⟨inner, same⟩) (by decide)
  have other (i : Int) : ¬Denotes "-inf".toList i := by
    intro denoted
    exact absurd ((Literal.isInteger_iff _).mpr ⟨i, denoted⟩) (by decide)
  have quoted : encode ⟨64, by decide⟩ .auto (some "\"hi\"") =
      .ok (ofTextPointer ⟨64, by decide⟩ [104, 105]) := rfl
  obtain ⟨null, -, -, -, -, -⟩ := auto_agrees_with_kinds ⟨64, by decide⟩ "null"
  obtain ⟨-, bool, -, -, -, -⟩ := auto_agrees_with_kinds ⟨64, by decide⟩ "false"
  obtain ⟨-, -, signed, -, -, -⟩ := auto_agrees_with_kinds ⟨64, by decide⟩ "-2147483648"
  obtain ⟨-, -, -, unsigned, -, -⟩ := auto_agrees_with_kinds ⟨64, by decide⟩ "4294967296"
  obtain ⟨-, -, -, -, text, -⟩ := auto_agrees_with_kinds ⟨64, by decide⟩ "\"hi\""
  obtain ⟨-, -, -, -, -, double⟩ := auto_agrees_with_kinds ⟨64, by decide⟩ "-inf"
  refine ⟨(null rfl).1, (bool false rfl).2, ⟨least, ?_⟩, ⟨beyond, ?_⟩, ⟨quoted, ?_⟩, bare, other,
    double bare other⟩
  · intro r h
    exact ((signed _ least rfl).2 r h).2
  · intro r h
    obtain ⟨-, n, -, same⟩ := (unsigned _ beyond (by decide)).2 r h
    have small := n.toNat_lt
    omega
  · exact ((text ['h', 'i'] rfl).2 _ quoted).2.1

end QuietBox
