import QuietBox.Memory.Basic
import QuietBox.Proofs.Text.NumberCharacters
import QuietBox.Proofs.Word.Accessors
import QuietBox.Proofs.Word.PlainText

/-!
What format specs do to words. A double, a uint and a sint are numbers: a sign, if they have one,
and the rest of their text for each precision. A spec chooses the sign and the precision, and what
is still missing from the width it adds around them or between them. All other words are written
whole, and so are the characters of a string.
-/

set_option autoImplicit false

namespace QuietBox

open Format (Spec)

namespace Format.Spec

/-- How fill characters may stand to the left and to the right of a number. -/
def Sides (s : Spec) (left right : Nat) : Prop :=
  match s.align with
  | some .left => left = 0
  | some .center => left ≤ right ∧ right ≤ left + 1
  | some .right => right = 0
  | none => right = 0

/-- The sign and the rest of a number text with padding alone inserted. -/
inductive Pads (s : Spec) (sign rest : List Char) : List Char → Prop where
  | zeros (flag : s.zero = true) (count : Nat) :
    Pads s sign rest (sign ++ List.replicate count '0' ++ rest)
  | fill (flag : s.zero = false) (left right : Nat) (sides : s.Sides left right) :
    Pads s sign rest (List.replicate left s.fill ++ sign ++ rest ++ List.replicate right s.fill)

theorem sides_leftFill (s : Spec) (missing : Nat) :
    s.Sides (s.leftFill missing) (missing - s.leftFill missing) := by
  unfold Sides leftFill
  cases s.align with
  | none => exact Nat.sub_self missing
  | some side =>
    cases side with
    | left => rfl
    | center =>
      simp only [Option.getD_some]
      omega
    | right => exact Nat.sub_self missing

theorem pads_pad (s : Spec) (sign rest : List Char) : s.Pads sign rest (s.pad sign rest) := by
  unfold pad
  cases zero : s.zero with
  | false => exact Pads.fill zero _ _ (s.sides_leftFill _)
  | true => exact Pads.zeros zero _

end Format.Spec

/-- A number text in two parts: whether a minus stands in front, `none` where there is no sign at
all, and what follows for each precision, where no sign stands. -/
structure NumberText where
  negative? : Option Bool
  rest : Option Nat → List Char
  unsigned : ∀ precision, ∀ c ∈ rest precision, IsUnsignedChar c

namespace NumberText

/-- The sign under a spec. -/
def sign (n : NumberText) (s : Spec) : List Char := n.negative?.elim [] s.sign

/-- The text under a spec. -/
def text (n : NumberText) (s : Spec) : List Char := s.pad (n.sign s) (n.rest s.precision)

/-- A natural number in decimal. -/
def natural (n : Nat) : NumberText where
  negative? := some false
  rest _ := Numeral.decimal n
  unsigned _ _ digit := Or.inl (Numeral.isDigit_of_mem_decimal digit)

/-- An integer in decimal. -/
def integer (i : Int) : NumberText where
  negative? := some (i < 0)
  rest _ := Numeral.decimal i.natAbs
  unsigned _ _ digit := Or.inl (Numeral.isDigit_of_mem_decimal digit)

/-- A double; a NaN has no sign. -/
def double (d : Double) : NumberText where
  negative? := if d.isNaN then none else some d.isNegative
  rest precision := precision.elim d.plainText fun places => d.preciseText places
  unsigned precision _ member := by
    cases precision with
    | none => exact Double.isUnsignedChar_of_mem_plainText member
    | some places => exact Double.isUnsignedChar_of_mem_preciseText member

variable (n : NumberText) (s : Spec)

theorem text_unpadded : n.text s.unpadded = n.sign s ++ n.rest s.precision :=
  Format.Spec.pad_unpadded s (n.sign s) (n.rest s.precision)

theorem length_text : (n.text s).length = max s.width (n.text s.unpadded).length := by
  rw [text_unpadded, List.length_append]
  exact Format.Spec.length_pad s (n.sign s) (n.rest s.precision)

theorem sign_mem : n.sign s ∈ [[], ['+'], ['-']] := by
  unfold sign
  cases n.negative? with
  | none => exact List.mem_cons_self
  | some negative =>
    cases negative <;> cases plus : s.plus <;> simp [Format.Spec.sign, plus]

theorem sign_notMem_rest (precision : Option Nat) :
    '+' ∉ n.rest precision ∧ '-' ∉ n.rest precision := by
  constructor
  · intro member
    exact (n.unsigned precision '+' member).ne_sign.1 rfl
  · intro member
    exact (n.unsigned precision '-' member).ne_sign.2 rfl

variable {n} {s}

/-- Of a spec without a width only the plus and the precision count. -/
theorem text_unpadded_eq {t : Spec} (plus : t.plus = s.plus)
    (rest : n.rest t.precision = n.rest s.precision) :
    n.text t.unpadded = n.text s.unpadded := by
  have sign : n.sign t = n.sign s := by
    have each : t.sign = s.sign := by
      funext negative
      rw [Format.Spec.sign, Format.Spec.sign, plus]
    rw [NumberText.sign, NumberText.sign, each]
  rw [text_unpadded, text_unpadded, sign, rest]

/-- A plus is written where the number has a sign that is not a minus. -/
theorem text_plus :
    n.text { s.unpadded with plus := true } =
      (if n.negative? = some false then ['+'] else []) ++
        n.text { s.unpadded with plus := false } := by
  have sign : n.sign { s with plus := true } =
      (if n.negative? = some false then ['+'] else []) ++ n.sign { s with plus := false } := by
    unfold NumberText.sign
    cases n.negative? with
    | none => rfl
    | some negative => cases negative <;> rfl
  have without : n.text { s.unpadded with plus := false } =
      n.sign { s with plus := false } ++ n.rest s.precision :=
    text_unpadded n { s with plus := false }
  rw [without, ← List.append_assoc, ← sign]
  exact text_unpadded n { s with plus := true }

end NumberText

namespace Word

/-- A word whose plain text is that of a number. -/
def IsNumber (w : Word) : Prop := w.isDouble ∨ w.isUint ∨ w.isSint

instance (w : Word) : Decidable w.IsNumber := inferInstanceAs (Decidable (_ ∨ _))

/-- A word that holds a number with a sign other than a minus. -/
def TakesPlus (w : Word) : Prop :=
  w.isUint ∨ (w.isSint ∧ 0 ≤ w.toSint.toInt) ∨
    (w.isDouble ∧ w.toDouble.isNaN = false ∧ w.toDouble.isNegative = false)

instance (w : Word) : Decidable w.TakesPlus := inferInstanceAs (Decidable (_ ∨ _))

/-- The plain texts of a word are those of a number. -/
structure Shows (w : Word) (n : NumberText) : Prop where
  plain : ∀ s, w.plain s = n.text s
  takesPlus : w.TakesPlus ↔ n.negative? = some false
  integer : ¬w.isDouble → ∀ p q, n.rest p = n.rest q

variable {w : Word}

theorem not_isDouble_of_integer (h : w.isUint ∨ w.isSint) : ¬w.isDouble := by
  apply Bool.eq_false_iff.mp
  cases h with
  | inl isUint => exact isDouble_of_hasTag isUint (by decide)
  | inr isSint => exact isDouble_of_hasTag isSint (by decide)

theorem shows_double (h : w.isDouble) : w.Shows (.double w.toDouble) where
  plain s := by
    rw [plain, if_pos h, Double.plain_eq, NumberText.text, NumberText.sign, NumberText.double]
    cases w.toDouble.isNaN <;> cases s.precision <;> rfl
  takesPlus := by
    have noUint : ¬w.isUint := fun isUint => not_isDouble_of_integer (Or.inl isUint) h
    have noSint : ¬w.isSint := fun isSint => not_isDouble_of_integer (Or.inr isSint) h
    rw [TakesPlus, NumberText.double]
    cases w.toDouble.isNaN <;> simp [h, noUint, noSint]
  integer tagged := absurd h tagged

theorem shows_uint (h : w.isUint) : w.Shows (.natural w.toUint.toNat) where
  plain s := plain_of_isUint h s
  takesPlus := iff_of_true (Or.inl h) rfl
  integer _ _ _ := rfl

theorem shows_sint (h : w.isSint) : w.Shows (.integer w.toSint.toInt) where
  plain s := plain_of_isSint h s
  takesPlus := by
    have noUint : ¬w.isUint := fun isUint => absurd (hasTag_unique h isUint) (by decide)
    have noDouble : ¬w.isDouble := not_isDouble_of_integer (Or.inr h)
    simp [TakesPlus, NumberText.integer, h, noUint, noDouble]
  integer _ _ _ := rfl

theorem exists_shows (h : w.IsNumber) : ∃ n, w.Shows n := by
  obtain isDouble | isUint | isSint := h
  · exact ⟨_, shows_double isDouble⟩
  · exact ⟨_, shows_uint isUint⟩
  · exact ⟨_, shows_sint isSint⟩

/-- All words that hold no number are written whole. -/
theorem plain_of_not_isNumber (other : ¬w.IsNumber) (s : Spec) : w.plain s = w.plain {} := by
  rcases w.unreserved_or_reserved with outside | ⟨t, p, small, rfl⟩
  · exact absurd (Or.inl (isDouble_of_unreserved outside)) other
  · have noDouble : ¬(reserved t p).isDouble := fun isDouble => other (Or.inl isDouble)
    simp only [plain, if_neg noDouble, tagField_reserved]
    cases t with
    | uint => exact absurd (Or.inr (Or.inl (by simp [isUint]))) other
    | sint => exact absurd (Or.inr (Or.inr (by simp [isSint]))) other
    | _ => rfl

/-- What two specs do alike to numbers they do alike to words. -/
theorem plain_eq {s t : Spec} (same : ∀ n, w.Shows n → n.text s = n.text t) :
    w.plain s = w.plain t := by
  by_cases number : w.IsNumber
  · obtain ⟨n, shows⟩ := exists_shows number
    rw [shows.plain, shows.plain, same n shows]
  · rw [plain_of_not_isNumber number, plain_of_not_isNumber number t]

theorem plain_pads (number : w.IsNumber) (s : Spec) :
    (w.plain s).length = max s.width (w.plain s.unpadded).length ∧
      ∃ sign rest, sign ∈ [[], ['+'], ['-']] ∧ '+' ∉ rest ∧ '-' ∉ rest ∧
        w.plain s.unpadded = sign ++ rest ∧ s.Pads sign rest (w.plain s) := by
  obtain ⟨n, shows⟩ := exists_shows number
  rw [shows.plain, shows.plain]
  have plus := (n.sign_notMem_rest s.precision).1
  have minus := (n.sign_notMem_rest s.precision).2
  exact ⟨n.length_text s, n.sign s, n.rest s.precision, n.sign_mem s, plus, minus,
    n.text_unpadded s, s.pads_pad (n.sign s) (n.rest s.precision)⟩

theorem plain_unpadded_eq {s t : Spec} (plus : t.plus = s.plus)
    (precision : w.isDouble → t.precision = s.precision) :
    w.plain t.unpadded = w.plain s.unpadded := by
  apply plain_eq
  intro n shows
  apply NumberText.text_unpadded_eq plus
  by_cases double : w.isDouble
  · rw [precision double]
  · exact shows.integer double t.precision s.precision

theorem plain_alternate (w : Word) (s : Spec) (alternate : Bool) :
    w.plain { s with alternate } = w.plain s := by
  apply plain_eq
  intro n _
  rfl

theorem plain_precision (h : ¬w.isDouble) (s : Spec) (precision : Option Nat) :
    w.plain { s with precision } = w.plain s := by
  apply plain_eq
  intro n shows
  rw [NumberText.text, NumberText.text, shows.integer h precision s.precision]
  rfl

theorem isNumber_of_takesPlus (h : w.TakesPlus) : w.IsNumber := by
  cases h with
  | inl isUint => exact Or.inr (Or.inl isUint)
  | inr signed =>
    cases signed with
    | inl sint => exact Or.inr (Or.inr sint.1)
    | inr double => exact Or.inl double.1

theorem plain_plus (h : w.TakesPlus) (s : Spec) :
    w.plain { s.unpadded with plus := true } =
      '+' :: w.plain { s.unpadded with plus := false } := by
  obtain ⟨n, shows⟩ := exists_shows (isNumber_of_takesPlus h)
  rw [shows.plain, shows.plain, NumberText.text_plus, if_pos (shows.takesPlus.mp h)]
  rfl

theorem plain_plus_of_not (h : ¬w.TakesPlus) (s : Spec) :
    w.plain { s.unpadded with plus := true } = w.plain { s.unpadded with plus := false } := by
  apply plain_eq
  intro n shows
  rw [shows.takesPlus] at h
  rw [NumberText.text_plus, if_neg h, List.nil_append]

end Word

namespace Memory

variable {w : Word} (m : Memory) (place : Placement) (s : Spec)

theorem render?_of_isString (h : w.isString) :
    m.render? place s w = (m.textAt? place w.address).map Text.Utf8.decode := by
  rw [render?, Word.asString_eq, if_pos h]

theorem render?_of_not_isString (h : ¬w.isString) :
    m.render? place s w = some (w.plain s) := by
  rw [render?, Word.asString_eq, if_neg h]

end Memory

/-- Format specs act on numbers alone, and on them by sign, precision and padding. Words that hold
no number have one plain text. The text of a number is as long as the width asks for, or as long as
it is without a width, and it is that text with padding inserted; without a width it depends on the
plus and, for a double, on the precision, and a plus stands in front of what has a sign that is not
a minus. A rendering follows the plain text, except that the characters of a string are written
whole. -/
theorem format_specs_act_on_numbers (w : Word) (s : Spec) :
    (¬w.IsNumber → w.plain s = w.plain {}) ∧
    (w.IsNumber →
      (w.plain s).length = max s.width (w.plain s.unpadded).length ∧
      ∃ sign rest, sign ∈ [[], ['+'], ['-']] ∧ '+' ∉ rest ∧ '-' ∉ rest ∧
        w.plain s.unpadded = sign ++ rest ∧ s.Pads sign rest (w.plain s)) ∧
    (∀ t : Spec, t.plus = s.plus → (w.isDouble → t.precision = s.precision) →
      w.plain t.unpadded = w.plain s.unpadded) ∧
    (∀ alternate, w.plain { s with alternate } = w.plain s) ∧
    (w.isUint ∨ w.isSint → ∀ precision, w.plain { s with precision } = w.plain s) ∧
    (w.TakesPlus →
      w.plain { s.unpadded with plus := true } =
        '+' :: w.plain { s.unpadded with plus := false }) ∧
    (¬w.TakesPlus →
      w.plain { s.unpadded with plus := true } = w.plain { s.unpadded with plus := false }) ∧
    (∀ (m : Memory) (place : Placement),
      (¬w.isString → m.render? place s w = some (w.plain s)) ∧
        (w.isString → m.render? place s w = m.render? place {} w)) := by
  refine ⟨?_, ?_, ?_, ?_, ?_, ?_, ?_, ?_⟩
  · intro other
    exact Word.plain_of_not_isNumber other s
  · intro number
    exact Word.plain_pads number s
  · intro t
    exact Word.plain_unpadded_eq
  · exact w.plain_alternate s
  · intro integer
    exact Word.plain_precision (Word.not_isDouble_of_integer integer) s
  · intro plus
    exact Word.plain_plus plus s
  · intro none
    exact Word.plain_plus_of_not none s
  · intro m place
    constructor
    · exact m.render?_of_not_isString place s
    · intro isString
      rw [m.render?_of_isString place s isString, m.render?_of_isString place {} isString]

/-- A centred text with an odd character of padding, a zero with a minus and a NaN that take no
plus, zeros in front of a NaN, and a string under a width. -/
theorem format_specs_act_on_numbers_at_corners :
    (Word.plain { fill := 'é', align := some .center, width := 5 } (Word.ofUint 42)).length = 5 ∧
      Word.plain { plus := true } (Word.ofUint 42) = ['+', '4', '2'] ∧
      Word.plain { plus := true } 0x8000000000000000 = ['-', '0'] ∧
      Word.plain { plus := true } Word.nan = ['N', 'a', 'N'] ∧
      (Word.plain { plus := true, zero := true, width := 6 } Word.nan).length = 6 ∧
      Word.plain { width := 9 } Word.null = ['n', 'u', 'l', 'l'] ∧
      ∀ (m : Memory) (place : Placement),
        m.render? place { width := 9 } 0x7FFD000000001000 =
          m.render? place {} 0x7FFD000000001000 := by
  obtain ⟨-, padded, -, -, -, plus, -, -⟩ := format_specs_act_on_numbers (Word.ofUint 42)
    { fill := 'é', align := some .center, width := 5 }
  obtain ⟨-, -, -, -, -, -, minus, -⟩ := format_specs_act_on_numbers 0x8000000000000000 {}
  obtain ⟨-, zeros, -, -, -, -, nan, -⟩ := format_specs_act_on_numbers Word.nan
    { plus := true, zero := true, width := 6 }
  obtain ⟨whole, -⟩ := format_specs_act_on_numbers Word.null { width := 9 }
  obtain ⟨-, -, -, -, -, -, -, rendered⟩ :=
    format_specs_act_on_numbers 0x7FFD000000001000 { width := 9 }
  refine ⟨?_, ?_, ?_, ?_, ?_, ?_, ?_⟩
  · exact (padded (by decide)).1
  · exact plus (by decide)
  · exact minus (by decide)
  · exact nan (by decide)
  · exact (zeros (by decide)).1
  · exact whole (by decide)
  · intro m place
    exact (rendered m place).2 (by decide)

end QuietBox
