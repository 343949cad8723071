import QuietBox.Literal.Quoting

/-!
Text literals. A text in quotes is some text between two quotes, which is what is left without them;
it goes into memory exactly if it has no NUL, for a NUL is the only character with a zero byte.
-/

set_option autoImplicit false

namespace QuietBox

namespace Text.Utf8

/-- A character of more than one byte has none below 0x80, and one of a single byte is that byte. -/
theorem zero_mem_utf8EncodeChar_iff (c : Char) :
    (0 : UInt8) ∈ String.utf8EncodeChar c ↔ c = '\x00' := by
  have nul : c = '\x00' ↔ c.val.toNat = 0 := by
    rw [← Char.toNat_inj]
    rfl
  have byte (n : Nat) : 0 = UInt8.ofNat n ↔ n % 256 = 0 := by
    rw [← UInt8.toNat_inj, UInt8.toNat_ofNat', UInt8.toNat_ofNat, eq_comm]
  have range := c.val.toNat_lt
  rw [nul, String.utf8EncodeChar]
  split
  · simp only [List.mem_singleton, byte]
    omega
  · split
    · simp only [List.mem_cons, List.not_mem_nil, or_false, byte]
      omega
    · split <;> simp only [List.mem_cons, List.not_mem_nil, or_false, byte] <;> omega

theorem zero_mem_encode_iff (text : List Char) : (0 : UInt8) ∈ encode text ↔ '\x00' ∈ text := by
  simp only [encode, List.mem_flatMap, zero_mem_utf8EncodeChar_iff, exists_eq_right]

end Text.Utf8

namespace Literal

theorem isQuoted_iff (text : List Char) :
    isQuoted text ↔ ∃ inner, text = '"' :: (inner ++ ['"']) := by
  constructor
  · intro quoted
    simp only [isQuoted, Bool.and_eq_true, decide_eq_true_eq] at quoted
    obtain ⟨⟨length, first⟩, last⟩ := quoted
    obtain ⟨rest, rfl⟩ := List.head?_eq_some_iff.mp first
    have some : rest ≠ [] := by
      rintro rfl
      simp at length
    rw [List.getLast?_cons_of_ne_nil some] at last
    obtain ⟨inner, rfl⟩ := List.getLast?_eq_some_iff.mp last
    exact ⟨inner, rfl⟩
  · rintro ⟨inner, rfl⟩
    have last : ('"' :: (inner ++ ['"'])).getLast? = some '"' := by
      rw [← List.cons_append, List.getLast?_concat]
    simp [isQuoted, last]

/-- One pair of quotes comes off. -/
theorem unquote_quoted (inner : List Char) : unquote ('"' :: (inner ++ ['"'])) = inner := by
  simp [unquote]

/-- Nothing comes off a text that is not in quotes. -/
theorem unquote_of_bare {text : List Char} (bare : ∀ inner, text ≠ '"' :: (inner ++ ['"'])) :
    unquote text = text := by
  unfold unquote
  split
  · rename_i rest
    by_cases last : rest.getLast? = some '"'
    · obtain ⟨inner, same⟩ := List.getLast?_eq_some_iff.mp last
      exact absurd (congrArg (List.cons '"') same) (bare inner)
    · rw [if_neg last]
  · rfl

/-- The two tests for quotes agree: what is in quotes is what loses a pair of them. -/
theorem isQuoted_iff_unquote (text : List Char) :
    isQuoted text ↔ text = '"' :: (unquote text ++ ['"']) := by
  rw [isQuoted_iff]
  constructor
  · rintro ⟨inner, rfl⟩
    rw [unquote_quoted]
  · intro same
    exact ⟨unquote text, same⟩

/-- A text is kept in memory as its bytes, unless it has a NUL. -/
theorem textBytes_eq_ok_iff {text : List Char} {bytes : List UInt8} :
    textBytes text = .ok bytes ↔ '\x00' ∉ text ∧ bytes = Text.Utf8.encode text := by
  have absent : (Text.Utf8.encode text).findIdx? (· = 0) = none ↔ '\x00' ∉ text := by
    rw [List.findIdx?_eq_none_iff, ← Text.Utf8.zero_mem_encode_iff]
    constructor
    · intro other member
      exact absurd (other 0 member) (by decide)
    · intro none byte member
      exact decide_eq_false (ne_of_mem_of_not_mem member none)
  unfold textBytes
  cases found : (Text.Utf8.encode text).findIdx? (· = 0) with
  | none =>
    have none := absent.mp found
    simp only [found, Except.ok.injEq, none, not_false_eq_true, true_and]
    exact eq_comm
  | some position =>
    have some : '\x00' ∈ text := by
      apply Classical.byContradiction
      intro none
      rw [absent.mpr none] at found
      cases found
    simp only [found, reduceCtorEq, some, not_true_eq_false, false_and]

/-- The position is that of the first NUL among the bytes. -/
theorem textBytes_of_nul {before : List Char} (first : '\x00' ∉ before) (after : List Char) :
    textBytes (before ++ '\x00' :: after) = .error (Text.Utf8.encode before).length := by
  have absent : (Text.Utf8.encode before).findIdx? (· = 0) = none := by
    rw [List.findIdx?_eq_none_iff]
    intro byte member
    apply decide_eq_false
    rintro rfl
    exact first ((Text.Utf8.zero_mem_encode_iff before).mp member)
  have found : (Text.Utf8.encode (before ++ '\x00' :: after)).findIdx? (· = 0) =
      some (Text.Utf8.encode before).length := by
    have zero : Text.Utf8.encode ('\x00' :: after) = 0 :: Text.Utf8.encode after := rfl
    have split : Text.Utf8.encode (before ++ '\x00' :: after) =
        Text.Utf8.encode before ++ 0 :: Text.Utf8.encode after := by
      rw [Text.Utf8.encode, List.flatMap_append, ← zero]
      rfl
    rw [split, List.findIdx?_append, absent]
    simp [List.findIdx?_cons]
  simp only [textBytes, found]

end Literal

end QuietBox
