import Mathlib.Data.List.Forall2
import Mathlib.Data.Nat.Digits.Defs
import Mathlib.Tactic.Ring
import QuietBox.Proofs.Report.Success
import QuietBox.Proofs.Text.NumeralReading

/-!
Word literals have exact values. What a literal denotes is told by its digits and their places, in
the base that its mark announces, and no bound is put on their number; the reader gives that value
whenever it is a word, and refuses the literal otherwise. Underscores count nowhere.
-/

set_option autoImplicit false

namespace QuietBox

namespace Numeral

/-- A character stands for a digit: a decimal digit for itself, a letter in either case for its
place in the alphabet after the decimal digits. -/
def StandsFor (c : Char) (d : Nat) : Prop :=
  d < 10 ∧ c.toNat = '0'.toNat + d ∨
    10 ≤ d ∧ d < 36 ∧ (c.toNat = 'a'.toNat + (d - 10) ∨ c.toNat = 'A'.toNat + (d - 10))

/-- Digits of a base, the most significant in front. -/
def Writes (base : Nat) (text : List Char) (digits : List Nat) : Prop :=
  List.Forall₂ (fun c d => d < base ∧ StandsFor c d) text digits

/-- At least one digit of a base, with the value that the places give. -/
def IsNumeral (base : Nat) (text : List Char) (n : Nat) : Prop :=
  text ≠ [] ∧ ∃ digits, Writes base text digits ∧ n = Nat.ofDigits base digits.reverse

variable {base sum n m : Nat} {text : List Char} {c : Char} {d : Nat}

theorem digitValue?_eq_some_iff (small : base ≤ 16) :
    digitValue? base c = some d ↔ d < base ∧ StandsFor c d := by
  have zero : ('0' ≤ c ∧ c ≤ '9') ↔ 48 ≤ c.toNat ∧ c.toNat ≤ 57 := Iff.rfl
  have lower : ('a' ≤ c ∧ c ≤ 'f') ↔ 97 ≤ c.toNat ∧ c.toNat ≤ 102 := Iff.rfl
  have upper : ('A' ≤ c ∧ c ≤ 'F') ↔ 65 ≤ c.toNat ∧ c.toNat ≤ 70 := Iff.rfl
  simp only [digitValue?, zero, lower, upper, StandsFor, Option.filter_eq_some_iff,
    decide_eq_true_eq, Char.reduceToNat]
  split
  · simp only [Option.some.injEq]
    omega
  · split
    · simp only [Option.some.injEq]
      omega
    · split
      · simp only [Option.some.injEq]
        omega
      · simp only [reduceCtorEq, false_and, false_iff]
        omega

/-- Every digit multiplies what stands before it by the base. -/
theorem go_eq_some_iff (small : base ≤ 16) :
    value?.go base sum text = some n ↔
      ∃ digits, Writes base text digits ∧
        n = sum * base ^ digits.length + Nat.ofDigits base digits.reverse := by
  induction text generalizing sum with
  | nil => simp [value?.go, Writes, eq_comm]
  | cons c text ih =>
    have place (d : Nat) (digits : List Nat) :
        (sum * base + d) * base ^ digits.length + Nat.ofDigits base digits.reverse =
          sum * base ^ (d :: digits).length + Nat.ofDigits base (d :: digits).reverse := by
      rw [Nat.ofDigits_reverse_cons, List.length_cons]
      ring
    simp only [value?.go, Option.bind_eq_some_iff, digitValue?_eq_some_iff small, ih]
    constructor
    · intro read
      obtain ⟨d, digit, digits, written, value⟩ := read
      exact ⟨d :: digits, .cons digit written, value.trans (place d digits)⟩
    · intro read
      obtain ⟨all, written, value⟩ := read
      cases written with
      | @cons _ d _ digits digit written =>
        exact ⟨d, digit, digits, written, value.trans (place d digits).symm⟩

theorem isNumeral_iff (small : base ≤ 16) :
    IsNumeral base text n ↔ text ≠ [] ∧ value? base text = some n := by
  rw [IsNumeral, value?, go_eq_some_iff small]
  simp only [Nat.zero_mul, Nat.zero_add]

/-- Zeros in front do not count. -/
theorem IsNumeral.zeros (positive : 0 < base) (count : Nat) (h : IsNumeral base text n) :
    IsNumeral base (List.replicate count '0' ++ text) n := by
  induction count with
  | zero => exact h
  | succ count ih =>
    obtain ⟨-, digits, written, value⟩ := ih
    refine ⟨List.cons_ne_nil _ _, 0 :: digits, .cons ⟨positive, ?_⟩ written, ?_⟩
    · exact Or.inl ⟨by decide, rfl⟩
    · rw [value, Nat.ofDigits_reverse_zero_cons]

end Numeral

namespace Literal

open Numeral (IsNumeral)

/-- The base that the mark of a text announces, and what follows the mark. -/
inductive Announces : List Char → Nat → List Char → Prop
  | hexadecimal {mark : Char} {rest : List Char} :
      mark = 'x' ∨ mark = 'X' → Announces ('0' :: mark :: rest) 16 rest
  | binary {rest : List Char} : Announces ('0' :: 'b' :: rest) 2 rest
  | decimal {text : List Char} :
      (∀ mark ∈ ['x', 'X', 'b'], ¬['0', mark] <+: text) → Announces text 10 text

/-- A numeral behind at most one plus. -/
def IsUnsigned (base : Nat) (text : List Char) (n : Nat) : Prop :=
  IsNumeral base text n ∨ ∃ digits, text = '+' :: digits ∧ IsNumeral base digits n

/-- The number that a text denotes once its underscores are taken out. -/
def DenotesWord (text : List Char) (n : Nat) : Prop :=
  ∃ base rest, Announces (text.filter (· ≠ '_')) base rest ∧ IsUnsigned base rest n

theorem announces_iff {text rest : List Char} {base : Nat} :
    Announces text base rest ↔ splitBase text = (base, rest) := by
  constructor
  · intro announced
    cases announced with
    | hexadecimal mark =>
      cases mark with
      | inl small => rw [small]; rfl
      | inr capital => rw [capital]; rfl
    | binary => rfl
    | decimal plain =>
      unfold splitBase
      split
      · exact absurd ⟨_, rfl⟩ (plain 'x' (by decide))
      · exact absurd ⟨_, rfl⟩ (plain 'X' (by decide))
      · exact absurd ⟨_, rfl⟩ (plain 'b' (by decide))
      · rfl
  · intro split_eq
    unfold splitBase at split_eq
    split at split_eq
    · cases split_eq
      exact .hexadecimal (Or.inl rfl)
    · cases split_eq
      exact .hexadecimal (Or.inr rfl)
    · cases split_eq
      exact .binary
    · rename_i small capital binary
      cases split_eq
      apply Announces.decimal
      intro mark member beginning
      obtain ⟨rest, same⟩ := beginning
      simp only [List.mem_cons, List.not_mem_nil, or_false] at member
      rcases member with rfl | rfl | rfl
      · exact small rest same.symm
      · exact capital rest same.symm
      · exact binary rest same.symm

theorem Announces.base_bounds {text rest : List Char} {base : Nat} (h : Announces text base rest) :
    0 < base ∧ base ≤ 16 := by
  cases h <;> decide

section Reader

variable {base limit sum n m : Nat} {text : List Char}

/-- A plus is no digit, so the two ways to write a numeral exclude each other. -/
theorem not_isNumeral_plus (small : base ≤ 16) (digits : List Char) :
    ¬IsNumeral base ('+' :: digits) n := by
  intro numeral
  have value := ((Numeral.isNumeral_iff small).mp numeral).2
  exact Numeral.notMem_of_go value (by simp [Numeral.digitValue?]) List.mem_cons_self

theorem readNatural_eq_ok_iff (positive : 0 < base) (small : base ≤ 16) :
    readNatural base limit text = .ok n ↔ IsUnsigned base text n ∧ n ≤ limit := by
  by_cases plus : text.head? = some '+'
  · obtain ⟨digits, rfl⟩ := List.head?_eq_some_iff.mp plus
    have unsigned : IsUnsigned base ('+' :: digits) n ↔ IsNumeral base digits n := by
      constructor
      · intro h
        cases h with
        | inl plain => exact absurd plain (not_isNumeral_plus small digits)
        | inr signed =>
          obtain ⟨_, same, numeral⟩ := signed
          cases same
          exact numeral
      · intro numeral
        exact Or.inr ⟨digits, rfl, numeral⟩
    rw [unsigned, Numeral.isNumeral_iff small]
    by_cases empty : digits = []
    · simp [empty, readNatural]
    · rw [readNatural_plus empty, readDigits_eq_ok_iff positive (Nat.zero_le limit)]
      simp only [empty, ne_eq, not_false_eq_true, true_and]
      rfl
  · have unsigned : IsUnsigned base text n ↔ IsNumeral base text n := by
      constructor
      · intro h
        cases h with
        | inl plain => exact plain
        | inr signed =>
          obtain ⟨_, same, -⟩ := signed
          exact absurd (congrArg List.head? same) plus
      · exact Or.inl
    rw [unsigned, Numeral.isNumeral_iff small]
    by_cases empty : text = []
    · simp [empty, readNatural]
    · rw [readNatural_plain empty plus, readDigits_eq_ok_iff positive (Nat.zero_le limit)]
      simp only [empty, ne_eq, not_false_eq_true, true_and]
      rfl

/-- A numeral has one value. -/
theorem IsUnsigned.unique (positive : 0 < base) (small : base ≤ 16) (first : IsUnsigned base text n)
    (second : IsUnsigned base text m) : m = n := by
  have readFirst := (readNatural_eq_ok_iff positive small).mpr ⟨first, Nat.le_max_left n m⟩
  have readSecond := (readNatural_eq_ok_iff positive small).mpr ⟨second, Nat.le_max_right n m⟩
  rw [readFirst] at readSecond
  exact (Except.ok.inj readSecond).symm

theorem readNatural_of_limit_lt (small : base ≤ 16) (large : limit < n)
    (h : IsUnsigned base text n) : readNatural base limit text = .error .tooLarge := by
  cases h with
  | inl plain =>
    obtain ⟨nonempty, value⟩ := (Numeral.isNumeral_iff small).mp plain
    have plus : text.head? ≠ some '+' := by
      intro first
      obtain ⟨digits, rfl⟩ := List.head?_eq_some_iff.mp first
      exact not_isNumeral_plus small digits plain
    rw [readNatural_plain nonempty plus]
    exact readDigits_of_limit_lt (Nat.zero_le limit) large value
  | inr signed =>
    obtain ⟨digits, rfl, numeral⟩ := signed
    obtain ⟨nonempty, value⟩ := (Numeral.isNumeral_iff small).mp numeral
    rw [readNatural_plus nonempty]
    exact readDigits_of_limit_lt (Nat.zero_le limit) large value

/-- A word is read from a literal that denotes its number. -/
theorem readWord_eq_ok_iff {w : Word} : readWord text = .ok w ↔ DenotesWord text w.toNat := by
  have bound := w.isLt
  generalize same : splitBase (withoutUnderscores text) = parts
  have announced := announces_iff.mpr same
  have bounds := announced.base_bounds
  rw [readWord, readBareWord, same]
  simp only [map_eq_ok_iff, readNatural_eq_ok_iff bounds.1 bounds.2]
  constructor
  · intro read
    obtain ⟨n, ⟨denoted, le⟩, rfl⟩ := read
    rw [Word.ofNat, BitVec.toNat_ofNat, Nat.mod_eq_of_lt (by omega)]
    exact ⟨parts.1, parts.2, announced, denoted⟩
  · intro denoted
    obtain ⟨base, rest, other, numeral⟩ := denoted
    have parts_eq := same.symm.trans (announces_iff.mp other)
    rw [parts_eq]
    exact ⟨w.toNat, ⟨numeral, by omega⟩, by rw [Word.ofNat, BitVec.ofNat_toNat, BitVec.setWidth_eq]⟩

theorem readWord_of_limit_lt (denoted : DenotesWord text n) (large : 0xFFFFFFFFFFFFFFFF < n) :
    readWord text = .error .tooLarge := by
  obtain ⟨base, rest, announced, numeral⟩ := denoted
  have bounds := announced.base_bounds
  have refused := readNatural_of_limit_lt bounds.2 large numeral
  rw [readWord, readBareWord, withoutUnderscores, announces_iff.mp announced]
  simp only [refused]
  rfl

/-- A text denotes at most one number. -/
theorem DenotesWord.unique (first : DenotesWord text n) (second : DenotesWord text m) : m = n := by
  obtain ⟨base, rest, announced, numeral⟩ := first
  obtain ⟨_, _, other, another⟩ := second
  have same := (announces_iff.mp announced).symm.trans (announces_iff.mp other)
  cases same
  exact numeral.unique announced.base_bounds.1 announced.base_bounds.2 another

end Reader

theorem withoutUnderscores_insert (front back : List Char) :
    withoutUnderscores (front ++ '_' :: back) = withoutUnderscores (front ++ back) := by
  simp [withoutUnderscores]

end Literal

namespace Report

open Literal (DenotesWord withoutUnderscores)

/-- A refused literal is named without its underscores. -/
theorem readWord_of_error {text : List Char} {fault : Literal.IntegerFault}
    (h : Literal.readWord text = .error fault) :
    readWord text =
      .error ⟨.invalidWord (String.ofList (withoutUnderscores text)), [.integer fault]⟩ := by
  rw [readWord, h]
  rfl

/-- A word literal is read as the word that it denotes, in hexadecimal, binary or decimal digits
behind at most one plus, however many they are. What denotes a number of more than 64 bits is
refused as too large, and what denotes no number is refused too. Underscores, wherever they stand,
change neither the word nor the failure, and zeros in front of the digits do not change their
value. -/
theorem word_literals_have_exact_values :
    (∀ (text : List Char) (w : Word), readWord text = .ok w ↔ DenotesWord text w.toNat) ∧
    (∀ (text : List Char) (n : Nat), DenotesWord text n →
      (∀ m, DenotesWord text m → m = n) ∧
        (0x10000000000000000 ≤ n → readWord text =
          .error ⟨.invalidWord (String.ofList (withoutUnderscores text)), [.integer .tooLarge]⟩)) ∧
    (∀ text : List Char, (∀ n, ¬DenotesWord text n) → ∃ fault, readWord text =
      .error ⟨.invalidWord (String.ofList (withoutUnderscores text)), [.integer fault]⟩) ∧
    (∀ front back : List Char, readWord (front ++ '_' :: back) = readWord (front ++ back)) ∧
    (∀ (base count n : Nat) (digits : List Char), 0 < base → Numeral.IsNumeral base digits n →
      Numeral.IsNumeral base (List.replicate count '0' ++ digits) n) ∧
    (∀ (text : String) (r : Report), decode text = .ok r ↔
      ∃ w : Word, DenotesWord text.toList w.toNat ∧ ofWord w = r) := by
  have exact_value (text : List Char) (w : Word) :
      readWord text = .ok w ↔ DenotesWord text w.toNat :=
    readWord_eq_ok_iff.trans Literal.readWord_eq_ok_iff
  refine ⟨exact_value, ?_, ?_, ?_, ?_, ?_⟩
  · intro text n denoted
    constructor
    · intro m other
      exact denoted.unique other
    · intro large
      exact readWord_of_error (Literal.readWord_of_limit_lt denoted large)
  · intro text nothing
    have refused : ∀ w, Literal.readWord text ≠ .ok w := by
      intro w read
      exact nothing w.toNat (Literal.readWord_eq_ok_iff.mp read)
    obtain ⟨fault, failed⟩ := exists_error_of_ne_ok refused
    exact ⟨fault, readWord_of_error failed⟩
  · intro front back
    simp only [readWord, Literal.readWord, Literal.withoutUnderscores_insert]
  · intro base count n digits positive numeral
    exact numeral.zeros positive count
  · intro text r
    rw [decode, map_eq_ok_iff]
    simp only [exact_value]

/-- An underscore inside the mark, a plus behind it, the least number that is too large, a capital
mark that announces nothing, and a word with many zeros in front. -/
theorem word_literals_have_exact_values_at_corners :
    DenotesWord "0_x+Ff".toList 255 ∧
      readWord "0_x+Ff".toList = readWord "0x+Ff".toList ∧
      readWord "18446744073709551616".toList =
        .error ⟨.invalidWord "18446744073709551616", [.integer .tooLarge]⟩ ∧
      (∃ fault, readWord "0B1".toList = .error ⟨.invalidWord "0B1", [.integer fault]⟩) ∧
      Numeral.IsNumeral 2 (List.replicate 100 '0' ++ ['1']) 1 ∧
      decode "0x7FFE00000000002A" = .ok (ofWord 0x7FFE00000000002A) := by
  obtain ⟨value, large, none, underscore, zeros, decoded⟩ := word_literals_have_exact_values
  have limit : DenotesWord "18446744073709551616".toList 0x10000000000000000 :=
    ⟨10, "18446744073709551616".toList, Literal.announces_iff.mpr (by decide),
      Or.inl ((Numeral.isNumeral_iff (by decide)).mpr (by decide))⟩
  have capital : ∀ n, ¬DenotesWord "0B1".toList n := by
    intro n denoted
    obtain ⟨_, _, announced, numeral⟩ := denoted
    have parts : Literal.splitBase "0B1".toList = (10, ['0', 'B', '1']) := by decide
    cases parts.symm.trans (Literal.announces_iff.mp announced)
    cases numeral with
    | inl plain => exact absurd ((Numeral.isNumeral_iff (by decide)).mp plain).2 nofun
    | inr signed =>
      obtain ⟨_, plus, -⟩ := signed
      cases plus
  have one : Numeral.IsNumeral 2 ['1'] 1 := (Numeral.isNumeral_iff (by decide)).mpr (by decide)
  refine ⟨(value _ 255).mp (by decide), underscore ['0'] ['x', '+', 'F', 'f'],
    (large _ _ limit).2 (by decide), none _ capital, zeros 2 100 1 ['1'] (by decide) one, ?_⟩
  exact (decoded _ _).mpr ⟨_, (value _ _).mp (by decide), rfl⟩

end Report

end QuietBox
