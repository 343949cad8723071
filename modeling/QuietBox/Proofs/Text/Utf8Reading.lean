import QuietBox.Text.Utf8

/-!
UTF-8 reads back: the bytes of a text decode to the text, with no replacement in it. The first byte
of a character tells how many follow and leaves a range for the second one, which every character
keeps because it is neither overlong nor a surrogate nor too large.
-/

set_option autoImplicit false

namespace QuietBox.Text.Utf8

/-- Bytes that are the encoding of some text. -/
def IsValid (bytes : List UInt8) : Prop := ∃ text, encode text = bytes

section Bytes

private theorem toNat_byte {n : Nat} (small : n < 256) : (UInt8.ofNat n).toNat = n :=
  UInt8.toNat_ofNat_of_lt' small

/-- The first of two bytes. -/
theorem start_two {x : Nat} (least : 2 ≤ x) (greatest : x < 32) :
    start (x + 192) = ([], some ⟨x, 1, 0x80, 0xBF⟩) := by
  have all : ∀ x < 32, 2 ≤ x → start (x + 192) = ([], some ⟨x, 1, 0x80, 0xBF⟩) := by decide
  exact all x greatest least

/-- The first of three bytes; behind 0 a character would be overlong, and behind 13 a surrogate. -/
theorem start_three {x : Nat} (h : x < 16) :
    start (x + 224) =
      ([], some ⟨x, 2, if x = 0 then 0xA0 else 0x80, if x = 13 then 0x9F else 0xBF⟩) := by
  revert x
  decide

/-- The first of four bytes; behind 0 a character would be overlong, and behind 4 too large. -/
theorem start_four {x : Nat} (h : x < 5) :
    start (x + 240) =
      ([], some ⟨x, 3, if x = 0 then 0x90 else 0x80, if x = 4 then 0x8F else 0xBF⟩) := by
  revert x
  decide

theorem decodeFrom_begin {n : Nat} (small : n < 256) {p : Pending} (h : start n = ([], some p))
    (rest : List UInt8) : decodeFrom none (UInt8.ofNat n :: rest) = decodeFrom (some p) rest := by
  simp only [decodeFrom, step, toNat_byte small, h, List.nil_append]

theorem decodeFrom_continue {n bits more low high : Nat} (small : n < 64) (least : low ≤ n + 128)
    (greatest : n + 128 ≤ high) (rest : List UInt8) :
    decodeFrom (some ⟨bits, more + 2, low, high⟩) (UInt8.ofNat (n + 128) :: rest) =
      decodeFrom (some ⟨bits * 64 + n, more + 1, 0x80, 0xBF⟩) rest := by
  have value : (UInt8.ofNat (n + 128)).toNat = n + 128 := toNat_byte (by omega)
  have last : more + 2 ≠ 1 := by omega
  simp only [decodeFrom, step, value, least, greatest, and_self, ↓reduceIte, last,
    Nat.add_sub_cancel, List.nil_append]
  rfl

theorem decodeFrom_finish {n bits low high : Nat} (small : n < 64) (least : low ≤ n + 128)
    (greatest : n + 128 ≤ high) (rest : List UInt8) :
    decodeFrom (some ⟨bits, 1, low, high⟩) (UInt8.ofNat (n + 128) :: rest) =
      Char.ofNat (bits * 64 + n) :: decodeFrom none rest := by
  have value : (UInt8.ofNat (n + 128)).toNat = n + 128 := toNat_byte (by omega)
  simp only [decodeFrom, step, value, least, greatest, and_self, ↓reduceIte, Nat.add_sub_cancel,
    List.cons_append, List.nil_append]

end Bytes

/-- A character in front is decoded by itself. -/
theorem decodeFrom_utf8EncodeChar (c : Char) (rest : List UInt8) :
    decodeFrom none (String.utf8EncodeChar c ++ rest) = c :: decodeFrom none rest := by
  have valid : c.val.toNat < 55296 ∨ 57343 < c.val.toNat ∧ c.val.toNat < 1114112 := c.valid
  have same : Char.ofNat c.val.toNat = c := Char.ofNat_toNat c
  generalize code : c.val.toNat = v at *
  rw [String.utf8EncodeChar, code]
  by_cases one : v ≤ 127
  · have value : (UInt8.ofNat v).toNat = v := toNat_byte (by omega)
    have first : start v = ([Char.ofNat v], none) := if_pos (by omega)
    simp only [one, ↓reduceIte, List.cons_append, List.nil_append, decodeFrom, step, value, first,
      same]
  · by_cases two : v ≤ 2047
    · have begun := start_two (x := v / 64 % 32) (by omega) (by omega)
      simp only [one, two, ↓reduceIte, List.cons_append, List.nil_append]
      rw [decodeFrom_begin (by omega) begun, decodeFrom_finish (by omega) (by omega) (by omega),
        show v / 64 % 32 * 64 + v % 64 = v by omega, same]
    · by_cases three : v ≤ 65535
      · have begun := start_three (x := v / 4096 % 16) (by omega)
        simp only [one, two, three, ↓reduceIte, List.cons_append, List.nil_append]
        rw [decodeFrom_begin (by omega) begun,
          decodeFrom_continue (by omega) (by split <;> omega) (by split <;> omega),
          decodeFrom_finish (by omega) (by omega) (by omega),
          show (v / 4096 % 16 * 64 + v / 64 % 64) * 64 + v % 64 = v by omega, same]
      · have begun := start_four (x := v / 262144 % 8) (by omega)
        simp only [one, two, three, ↓reduceIte, List.cons_append, List.nil_append]
        rw [decodeFrom_begin (by omega) begun,
          decodeFrom_continue (by omega) (by split <;> omega) (by split <;> omega),
          decodeFrom_continue (by omega) (by omega) (by omega),
          decodeFrom_finish (by omega) (by omega) (by omega),
          show ((v / 262144 % 8 * 64 + v / 4096 % 64) * 64 + v / 64 % 64) * 64 + v % 64 = v by
            omega,
          same]

theorem decodeFrom_encode_append (text : List Char) (rest : List UInt8) :
    decodeFrom none (encode text ++ rest) = text ++ decodeFrom none rest := by
  induction text with
  | nil => rfl
  | cons c text ih =>
    rw [encode, List.flatMap_cons, List.append_assoc, decodeFrom_utf8EncodeChar, ← encode, ih,
      List.cons_append]

/-- The bytes of a text decode to the text. -/
@[simp] theorem decode_encode (text : List Char) : decode (encode text) = text := by
  have whole := decodeFrom_encode_append text []
  rwa [List.append_nil, show decodeFrom none [] = [] from rfl, List.append_nil] at whole

/-- Valid bytes are what their decoding encodes to. -/
theorem encode_decode_of_isValid {bytes : List UInt8} (h : IsValid bytes) :
    encode (decode bytes) = bytes := by
  obtain ⟨text, rfl⟩ := h
  rw [decode_encode]

end QuietBox.Text.Utf8
