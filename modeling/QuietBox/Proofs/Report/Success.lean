import QuietBox.Proofs.Results
import QuietBox.Report

/-!
When a request succeeds. Each kind of literal is read by one function, and the report of a request
that succeeds is a function of what was read; failures and their contexts play no part.
-/

set_option autoImplicit false

namespace QuietBox

namespace Report

theorem required_eq_ok_iff {kind : Kind} {value : Option String} {text : List Char} :
    required kind value = .ok text ↔ ∃ s, value = some s ∧ s.toList = text := by
  cases value <;> simp [required]

theorem readDouble_eq_ok_iff {text : List Char} {d : Double} :
    readDouble text = .ok d ↔ Double.read text = .ok d := by
  rw [readDouble, mapError_eq_ok_iff]
  exact mapError_eq_ok_iff

theorem readWord_eq_ok_iff {text : List Char} {w : Word} :
    readWord text = .ok w ↔ Literal.readWord text = .ok w := by
  rw [readWord, mapError_eq_ok_iff]
  exact mapError_eq_ok_iff

theorem readAddress_eq_ok_iff {text : List Char} {a : Address} :
    readAddress text = .ok a ↔
      ∃ w, Literal.readWord text = .ok w ∧ Address.ofWord w = .ok a := by
  have steps : readAddress text = .ok a ↔
      ∃ w, readWord text = .ok w ∧ _ = Except.ok a := bind_eq_ok_iff
  rw [steps]
  simp only [readWord_eq_ok_iff]
  exact exists_congr fun w => and_congr_right fun _ => mapError_eq_ok_iff

theorem readText_eq_ok_iff {text : List Char} {bytes : List UInt8} :
    readText text = .ok bytes ↔ Literal.textBytes (Literal.unquote text) = .ok bytes :=
  mapError_eq_ok_iff

theorem readBool_eq_ok_iff {text : List Char} {b : Bool} :
    readBool text = .ok b ↔ text = (if b then "true" else "false").toList := by
  have distinct : "true".toList ≠ "false".toList := by decide
  unfold readBool
  by_cases yes : text = "true".toList
  · cases b <;> simp [yes]
  · by_cases no : text = "false".toList
    · cases b <;> simp [no]
    · cases b <;> simp_all

section Encode

variable {place : Address} {value : Option String} {r : Report}

/-- A kind with a literal succeeds when the literal is there and reads as what the kind boxes. -/
private theorem literal_eq_ok_iff {α : Type} (kind : Kind) (read : List Char → Except Failure α)
    (report : α → Report) :
    (required kind value >>= fun text => read text >>= fun x => pure (report x)) = .ok r ↔
      ∃ s x, value = some s ∧ read s.toList = .ok x ∧ report x = r := by
  simp only [bind_eq_ok_iff, pure_eq_ok_iff, required_eq_ok_iff]
  constructor
  · rintro ⟨_, ⟨s, rfl, rfl⟩, x, found, rfl⟩
    exact ⟨s, x, rfl, found, rfl⟩
  · rintro ⟨s, x, rfl, found, rfl⟩
    exact ⟨_, ⟨s, rfl, rfl⟩, x, found, rfl⟩

theorem encode_double_eq_ok_iff :
    encode place .double value = .ok r ↔
      ∃ s d, value = some s ∧ Double.read s.toList = .ok d ∧ ofWord (.ofDouble d) = r := by
  have steps : encode place .double value = .ok r ↔ _ :=
    literal_eq_ok_iff .double readDouble fun d => ofWord (.ofDouble d)
  simp only [steps, readDouble_eq_ok_iff]

theorem encode_bool_eq_ok_iff :
    encode place .bool value = .ok r ↔
      ∃ s b, value = some s ∧ s.toList = (if b then "true" else "false").toList ∧
        ofWord (.ofBool b) = r := by
  have steps : encode place .bool value = .ok r ↔ _ :=
    literal_eq_ok_iff .bool readBool fun b => ofWord (.ofBool b)
  simp only [steps, readBool_eq_ok_iff]

theorem encode_uint_eq_ok_iff :
    encode place .uint value = .ok r ↔
      ∃ s n, value = some s ∧ Literal.readUint s.toList = .ok n ∧ ofWord (.ofUint n) = r := by
  have steps : encode place .uint value = .ok r ↔ _ :=
    literal_eq_ok_iff .uint (fun text => (Literal.readUint text).mapError fun e => .of (.integer e))
      fun n => ofWord (.ofUint n)
  simp only [steps, mapError_eq_ok_iff]

theorem encode_sint_eq_ok_iff :
    encode place .sint value = .ok r ↔
      ∃ s n, value = some s ∧ Literal.readSint s.toList = .ok n ∧ ofWord (.ofSint n) = r := by
  have steps : encode place .sint value = .ok r ↔ _ :=
    literal_eq_ok_iff .sint (fun text => (Literal.readSint text).mapError fun e => .of (.integer e))
      fun n => ofWord (.ofSint n)
  simp only [steps, mapError_eq_ok_iff]

theorem encode_pointer_eq_ok_iff :
    encode place .pointer value = .ok r ↔
      ∃ s a, value = some s ∧
        (∃ w, Literal.readWord s.toList = .ok w ∧ Address.ofWord w = .ok a) ∧
        ofWord (.ofPointer a) = r := by
  have steps : encode place .pointer value = .ok r ↔ _ :=
    literal_eq_ok_iff .pointer readAddress fun a => ofWord (.ofPointer a)
  simp only [steps, readAddress_eq_ok_iff]

theorem encode_string_eq_ok_iff :
    encode place .string value = .ok r ↔
      ∃ s bytes, value = some s ∧
        Literal.textBytes (Literal.unquote s.toList) = .ok bytes ∧ ofString place bytes = r := by
  have steps : encode place .string value = .ok r ↔ _ :=
    literal_eq_ok_iff .string readText (ofString place)
  simp only [steps, readText_eq_ok_iff]

theorem encode_auto_eq_ok_iff :
    encode place .auto value = .ok r ↔ ∃ s, value = some s ∧ auto place s.toList = .ok r := by
  have steps : encode place .auto value = .ok r ↔ _ :=
    bind_eq_ok_iff (x := required .auto value) (f := auto place)
  simp only [steps, required_eq_ok_iff]
  constructor
  · rintro ⟨_, ⟨s, rfl, rfl⟩, found⟩
    exact ⟨s, rfl, found⟩
  · rintro ⟨s, rfl, found⟩
    exact ⟨_, ⟨s, rfl, rfl⟩, found⟩

end Encode

/-- What the kind `auto` can give: a word without a literal of its own, a text's address, or a
number that one of the readers has read. -/
theorem auto_cases {place : Address} {literal : List Char} {r : Report}
    (h : auto place literal = .ok r) :
    r = ofWord .null ∨ (∃ b, r = ofWord (.ofBool b)) ∨ (∃ bytes, r = ofTextPointer place bytes) ∨
      (∃ n, r = ofWord (.ofSint n)) ∨ (∃ n, r = ofWord (.ofUint n)) ∨
        ∃ d, Double.read literal = .ok d ∧ r = ofWord (.ofDouble d) := by
  unfold auto at h
  split at h
  · cases h
    exact Or.inl rfl
  · apply Or.inr
    split at h
    · cases h
      exact Or.inl ⟨true, rfl⟩
    · split at h
      · cases h
        exact Or.inl ⟨false, rfl⟩
      · apply Or.inr
        split at h
        · obtain ⟨bytes, -, rfl⟩ := map_eq_ok_iff.mp h
          exact Or.inl ⟨bytes, rfl⟩
        · apply Or.inr
          simp only at h
          split at h
          · cases h
            exact Or.inl ⟨_, rfl⟩
          · cases h
            exact Or.inr (Or.inl ⟨_, rfl⟩)
          · split at h
            · cases h
            · obtain ⟨d, found, rfl⟩ := map_eq_ok_iff.mp (mapError_eq_ok_iff.mp h)
              exact Or.inr (Or.inr ⟨d, readDouble_eq_ok_iff.mp found, rfl⟩)

/-- Only a text that is boxed as a string is rendered otherwise than its word. -/
theorem rendering_of_encode {place : Address} {kind : Kind} {value : Option String} {r : Report}
    (h : encode place kind value = .ok r) (other : kind ≠ .string) : r.rendering = r.word.text := by
  cases kind with
  | double =>
    obtain ⟨s, d, -, -, rfl⟩ := encode_double_eq_ok_iff.mp h
    rfl
  | nan =>
    cases h
    rfl
  | bool =>
    obtain ⟨s, b, -, -, rfl⟩ := encode_bool_eq_ok_iff.mp h
    rfl
  | null =>
    cases h
    rfl
  | uint =>
    obtain ⟨s, n, -, -, rfl⟩ := encode_uint_eq_ok_iff.mp h
    rfl
  | sint =>
    obtain ⟨s, n, -, -, rfl⟩ := encode_sint_eq_ok_iff.mp h
    rfl
  | pointer =>
    obtain ⟨s, a, -, -, rfl⟩ := encode_pointer_eq_ok_iff.mp h
    rfl
  | string => exact absurd rfl other
  | auto =>
    obtain ⟨s, -, found⟩ := encode_auto_eq_ok_iff.mp h
    obtain rfl | ⟨b, rfl⟩ | ⟨bytes, rfl⟩ | ⟨n, rfl⟩ | ⟨n, rfl⟩ | ⟨d, -, rfl⟩ := auto_cases found
    all_goals rfl

end Report

end QuietBox
