import QuietBox.Proofs.Report.Success
import QuietBox.Proofs.Text.CanonicalIntegers
import QuietBox.Proofs.Word.Partition
import QuietBox.Proofs.Word.PlainText

/-!
Integer literals are boxed exactly or refused. The two kinds of integers differ in the texts they
take, in their range and in their box, and in nothing else; so there is one account of both, which
says when a literal is boxed, what the box then holds and shows, and which fault it is refused for.
-/

set_option autoImplicit false

namespace QuietBox

open Literal (Denotes IntegerFault IsCanonical)

namespace Report

/-- How a kind of integers answers to a literal. The literal is a numeral of some integer of the
form that the kind takes, or of none; the kind has a range; and it has boxes that hold integers. -/
structure AnswersExactly (answer : Except Failure Report) (numeral : Int → Prop) (low high : Int)
    (holds : Word → Int → Prop) : Prop where
  ok_iff : (∃ r, answer = .ok r) ↔ ∃ i, numeral i ∧ low ≤ i ∧ i < high
  boxed : ∀ r, answer = .ok r →
    ∃ i, numeral i ∧ holds r.word i ∧ IsCanonical r.rendering.toList i
  tooLarge : ∀ i, numeral i → high ≤ i → answer = .error (.of (.integer .tooLarge))
  tooSmall : ∀ i, numeral i → i < low → answer = .error (.of (.integer .tooSmall))
  other : (∀ i, ¬numeral i) → ∃ fault, answer = .error (.of (.integer fault))

section Reading

variable {α : Type} {read : Except IntegerFault α} {box : α → Word} {numeral : Int → Prop}
  {low high : Int} {holds : Word → Int → Prop}

/-- The answer of a kind whose literals one reader reads. -/
def boxRead (read : Except IntegerFault α) (box : α → Word) : Except Failure Report :=
  (read.mapError fun fault => Failure.of (.integer fault)).map fun n => ofWord (box n)

/-- A reader that gives the integers of its range, and a fault of size for all others that have a
numeral, boxes exactly. -/
theorem answersExactly_of_reads (value : α → Int) (reads : ∀ n, read = .ok n ↔ numeral (value n))
    (bounds : ∀ n, low ≤ value n ∧ value n < high)
    (covers : ∀ i, low ≤ i → i < high → ∃ n, value n = i)
    (held : ∀ n, holds (box n) (value n))
    (shown : ∀ n, (box n).text = String.ofList (Numeral.integer (value n)))
    (large : ∀ i, numeral i → high ≤ i → read = .error .tooLarge)
    (small : ∀ i, numeral i → i < low → read = .error .tooSmall) :
    AnswersExactly (boxRead read box) numeral low high holds := by
  constructor
  · constructor
    · rintro ⟨r, answered⟩
      obtain ⟨n, found, -⟩ := map_eq_ok_iff.mp answered
      exact ⟨value n, (reads n).mp (mapError_eq_ok_iff.mp found), bounds n⟩
    · rintro ⟨i, denoted, least, greatest⟩
      obtain ⟨n, rfl⟩ := covers i least greatest
      exact ⟨_, map_eq_ok_iff.mpr ⟨n, mapError_eq_ok_iff.mpr ((reads n).mpr denoted), rfl⟩⟩
  · intro r answered
    obtain ⟨n, found, rfl⟩ := map_eq_ok_iff.mp answered
    refine ⟨value n, (reads n).mp (mapError_eq_ok_iff.mp found), held n, ?_⟩
    rw [Literal.isCanonical_iff]
    change (box n).text.toList = _
    rw [shown n, String.toList_ofList]
  · intro i denoted above
    rw [boxRead, large i denoted above]
    rfl
  · intro i denoted below
    rw [boxRead, small i denoted below]
    rfl
  · intro none
    cases answer : read with
    | error fault => exact ⟨fault, rfl⟩
    | ok n => exact absurd ((reads n).mp answer) (none (value n))

end Reading

variable (place : Address) (text : String)

/-- An unsigned literal has at most a plus, and its box is that of a number of 32 bits. -/
theorem uint_answersExactly :
    AnswersExactly (encode place .uint (some text))
      (fun i => text.toList.head? ≠ some '-' ∧ Denotes text.toList i) 0 0x100000000
      (fun w i => ∃ n : UInt32, (n.toNat : Int) = i ∧ w = .ofUint n ∧ w.asUint = .ok n) := by
  change AnswersExactly (boxRead (Literal.readUint text.toList) Word.ofUint) _ _ _ _
  apply answersExactly_of_reads fun n : UInt32 => (n.toNat : Int)
  · exact fun n => Literal.readUint_eq_ok_iff
  · intro n
    have := n.toNat_lt
    exact ⟨by omega, by omega⟩
  · intro i least greatest
    refine ⟨UInt32.ofNat i.toNat, ?_⟩
    rw [UInt32.toNat_ofNat']
    omega
  · intro n
    exact ⟨n, rfl, rfl, Content.readFrom_toWord (c := .uint n) trivial⟩
  · intro n
    rw [Word.text_ofUint, Literal.integer_of_nonneg (by omega), Int.natAbs_natCast]
  · intro i shaped large
    exact Literal.readUint_of_le shaped.1 shaped.2 large
  · intro i shaped small
    have := shaped.2.nonneg shaped.1
    omega

/-- A signed literal has at most one sign, and its box is that of a number of 32 bits in two's
complement. -/
theorem sint_answersExactly :
    AnswersExactly (encode place .sint (some text)) (Denotes text.toList) (-0x80000000) 0x80000000
      (fun w i => ∃ n : Int32, n.toInt = i ∧ w = .ofSint n ∧ w.asSint = .ok n) := by
  change AnswersExactly (boxRead (Literal.readSint text.toList) Word.ofSint) _ _ _ _
  apply answersExactly_of_reads Int32.toInt
  · exact fun n => Literal.readSint_eq_ok_iff
  · intro n
    have := n.le_toInt
    have := n.toInt_lt
    exact ⟨by omega, by omega⟩
  · intro i least greatest
    exact ⟨Int32.ofInt i, Int32.toInt_ofInt_of_le (by omega) (by omega)⟩
  · intro n
    exact ⟨n, rfl, rfl, Content.readFrom_toWord (c := .sint n) trivial⟩
  · exact Word.text_ofSint
  · intro i denoted large
    exact Literal.readSint_of_le denoted large
  · intro i denoted small
    exact Literal.readSint_of_lt denoted small

/-- Every integer literal is boxed with the value it denotes, or refused: none wraps around, loses
digits or changes its sign. -/
theorem integer_literals_box_exactly :
    AnswersExactly (encode place .uint (some text))
        (fun i => text.toList.head? ≠ some '-' ∧ Denotes text.toList i) 0 0x100000000
        (fun w i => ∃ n : UInt32, (n.toNat : Int) = i ∧ w = .ofUint n ∧ w.asUint = .ok n) ∧
      AnswersExactly (encode place .sint (some text)) (Denotes text.toList) (-0x80000000) 0x80000000
        (fun w i => ∃ n : Int32, n.toInt = i ∧ w = .ofSint n ∧ w.asSint = .ok n) :=
  ⟨uint_answersExactly place text, sint_answersExactly place text⟩

/-- Zeros and a plus in front of the greatest unsigned number, the numbers next to both ranges, and
a text that only begins as a numeral. -/
theorem integer_literals_box_exactly_at_limits :
    (∃ r, encode ⟨0, by decide⟩ .uint (some "+04294967295") = .ok r ∧
      r.rendering.toList = "4294967295".toList) ∧
    encode ⟨0, by decide⟩ .uint (some "4294967296") = .error (.of (.integer .tooLarge)) ∧
    (∃ r, encode ⟨0, by decide⟩ .sint (some "-2147483648") = .ok r) ∧
    encode ⟨0, by decide⟩ .sint (some "-2147483649") = .error (.of (.integer .tooSmall)) ∧
    ∃ fault, encode ⟨0, by decide⟩ .sint (some "12x") = .error (.of (.integer fault)) := by
  have greatest : Denotes "+04294967295".toList 4294967295 :=
    Literal.denotes_plus_iff.mpr ⟨by decide, by decide⟩
  have beyond : Denotes "4294967296".toList 4294967296 :=
    (Literal.denotes_plain_iff (by decide) (by decide)).mpr ⟨by decide, by decide⟩
  have least : Denotes "-2147483648".toList (-2147483648) :=
    Literal.denotes_minus_iff.mpr ⟨by decide, by decide⟩
  have below : Denotes "-2147483649".toList (-2147483649) :=
    Literal.denotes_minus_iff.mpr ⟨by decide, by decide⟩
  have none (i : Int) : ¬Denotes "12x".toList i := by
    intro denoted
    exact absurd ((Literal.isInteger_iff _).mpr ⟨i, denoted⟩) (by decide)
  have exact (text : String) := integer_literals_box_exactly ⟨0, by decide⟩ text
  refine ⟨?_, ?_, ?_, ?_, ?_⟩
  · obtain ⟨r, answer⟩ := (exact "+04294967295").1.ok_iff.mpr
      ⟨_, ⟨by decide, greatest⟩, by decide, by decide⟩
    obtain ⟨i, ⟨-, denoted⟩, -, shown⟩ := (exact "+04294967295").1.boxed r answer
    refine ⟨r, answer, ?_⟩
    rw [Literal.isCanonical_iff.mp shown, denoted.unique greatest]
    decide
  · exact (exact "4294967296").1.tooLarge _ ⟨by decide, beyond⟩ (by decide)
  · exact (exact "-2147483648").2.ok_iff.mpr ⟨_, least, by decide, by decide⟩
  · exact (exact "-2147483649").2.tooSmall _ below (by decide)
  · exact (exact "12x").2.other none

end Report

end QuietBox
