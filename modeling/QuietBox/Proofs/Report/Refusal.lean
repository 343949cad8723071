import QuietBox.Proofs.Report.AutoKind

/-!
Literals that are refused for their first character. A number, an address, a word and quoted text
all begin with characters of their own, so a text that begins with none of these is taken by no kind
that looks at its literal, however it goes on.
-/

set_option autoImplicit false

namespace QuietBox

/-- A character that begins no number, address, word or quoted text. -/
def BeginsNoLiteral (c : Char) : Prop :=
  c.isDigit = false ∧ c.toLower ∉ ['+', '-', '.', '_', '"', 'n', 'i', 't', 'f']

instance : DecidablePred BeginsNoLiteral := fun c =>
  inferInstanceAs (Decidable (c.isDigit = false ∧
    c.toLower ∉ ['+', '-', '.', '_', '"', 'n', 'i', 't', 'f']))

theorem BeginsNoLiteral.ne {c d : Char} (h : BeginsNoLiteral c)
    (mark : d.toLower ∈ ['+', '-', '.', '_', '"', 'n', 'i', 't', 'f']) : c ≠ d := by
  rintro rfl
  exact h.2 mark

section Readers

variable {c : Char} (h : BeginsNoLiteral c) (rest : List Char)

include h

private theorem readUnsigned?_eq_none (negative : Bool) :
    Double.readUnsigned? negative (c :: rest) = none := by
  have point : c ≠ '.' := h.ne (by decide)
  have decimal : Decimal.read? (c :: rest) = none := by simp [Decimal.read?, h.1, point]
  have n : c.toLower ≠ 'n' := fun same => h.2 (by simp [same])
  have i : c.toLower ≠ 'i' := fun same => h.2 (by simp [same])
  simp [Double.readUnsigned?, decimal, Double.readWord?, n, i]

theorem Double.read_ne_ok (d : Double) : read (c :: rest) ≠ .ok d := by
  intro found
  obtain unsigned | ⟨_, ⟨signed, -⟩ | ⟨signed, -⟩⟩ := read_eq_ok_iff.mp found
  · rw [readUnsigned?_eq_none h] at unsigned
    cases unsigned
  · exact h.ne (d := '-') (by decide) (List.cons.inj signed).1
  · exact h.ne (d := '+') (by decide) (List.cons.inj signed).1

theorem Literal.not_denotes (i : Int) : ¬Denotes (c :: rest) i :=
  not_denotes_cons h.1 (h.ne (by decide)) (h.ne (by decide)) rest i

/-- Without a zero in front no base but ten is announced. -/
theorem Literal.readWord_ne_ok (w : Word) : readWord (c :: rest) ≠ .ok w := by
  have kept : withoutUnderscores (c :: rest) = c :: withoutUnderscores rest :=
    List.filter_cons_of_pos (by simpa using h.ne (d := '_') (by decide))
  have zero : c ≠ '0' := by
    rintro rfl
    exact absurd h.1 (by decide)
  have base : splitBase (c :: withoutUnderscores rest) = (10, c :: withoutUnderscores rest) := by
    unfold splitBase
    split
    · rename_i same
      exact absurd (List.cons.inj same).1 zero
    · rename_i same
      exact absurd (List.cons.inj same).1 zero
    · rename_i same
      exact absurd (List.cons.inj same).1 zero
    · rfl
  intro found
  rw [readWord, kept, readBareWord, base] at found
  obtain ⟨n, read, -⟩ := map_eq_ok_iff.mp found
  exact not_denotes h _ n (readNatural_ten_eq_ok_iff.mp read).2.1

theorem Report.isBare_cons : IsBare (c :: rest) := by
  constructor
  · intro same
    exact h.ne (d := 'n') (by decide) (List.cons.inj same).1
  · intro same
    exact h.ne (d := 't') (by decide) (List.cons.inj same).1
  · intro same
    exact h.ne (d := 'f') (by decide) (List.cons.inj same).1
  · intro inner same
    exact h.ne (d := '"') (by decide) (List.cons.inj same).1

end Readers

namespace Report

/-- The kinds that take part of their literals only; the others look at no literal, or take any. -/
def choosyKinds : List Kind := [.double, .bool, .uint, .sint, .pointer, .auto]

theorem encode_refuses {kind : Kind} (choosy : kind ∈ choosyKinds) {c : Char}
    (h : BeginsNoLiteral c) (rest : List Char) (place : Address) :
    ∃ failure, encode place kind (some (String.ofList (c :: rest))) = .error failure := by
  have bare := isBare_cons h rest
  apply exists_error_of_ne_ok
  intro r found
  cases kind with
  | nan => exact absurd choosy (by decide)
  | null => exact absurd choosy (by decide)
  | string => exact absurd choosy (by decide)
  | double =>
    obtain ⟨_, d, ⟨⟩, read, -⟩ := encode_double_eq_ok_iff.mp found
    rw [String.toList_ofList] at read
    exact Double.read_ne_ok h rest d read
  | bool =>
    obtain ⟨_, b, ⟨⟩, same, -⟩ := encode_bool_eq_ok_iff.mp found
    rw [String.toList_ofList] at same
    cases b with
    | false => exact bare.false same
    | true => exact bare.true same
  | uint =>
    obtain ⟨_, n, ⟨⟩, read, -⟩ := encode_uint_eq_ok_iff.mp found
    rw [String.toList_ofList] at read
    exact Literal.not_denotes h rest _ (Literal.readUint_eq_ok_iff.mp read).2
  | sint =>
    obtain ⟨_, n, ⟨⟩, read, -⟩ := encode_sint_eq_ok_iff.mp found
    rw [String.toList_ofList] at read
    exact Literal.not_denotes h rest _ (Literal.readSint_eq_ok_iff.mp read)
  | pointer =>
    obtain ⟨_, a, ⟨⟩, ⟨w, read, -⟩, -⟩ := encode_pointer_eq_ok_iff.mp found
    rw [String.toList_ofList] at read
    exact Literal.readWord_ne_ok h rest w read
  | auto =>
    rw [encode_auto_some_eq_ok_iff, String.toList_ofList,
      auto_other_eq_ok_iff bare (Literal.not_denotes h rest)] at found
    obtain ⟨d, read, -⟩ := found
    exact Double.read_ne_ok h rest d read

end Report

end QuietBox
