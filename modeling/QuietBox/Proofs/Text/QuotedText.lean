import QuietBox.Proofs.Lookup
import QuietBox.Proofs.Text.NumeralReading
import QuietBox.Text.Quoted

/-!
Quoted text reads back. What is written for a character tells the character and where it ends, for a
backslash that stands for itself is written twice and a code point ends at its brace. So a text has
one quoted form, and no two texts share one.
-/

set_option autoImplicit false

namespace QuietBox.Text.Quoted

/-- The characters that have a short escape, and what stands behind the backslash in it. -/
def shortEscapes : List (Char × Char) :=
  [('0', '\x00'), ('t', '\t'), ('r', '\r'), ('n', '\n'), ('\\', '\\'), ('"', '"')]

/-- The first character of what is written between quotes, and what is written behind it. -/
def next? : List Char → Option (Char × List Char)
  | '\\' :: 'u' :: '\x7b' :: rest =>
    (Numeral.value? 16 (rest.takeWhile (· ≠ '\x7d'))).map fun code =>
      (Char.ofNat code, (rest.dropWhile (· ≠ '\x7d')).tail)
  | '\\' :: c :: rest => (shortEscapes.lookup c).map fun char => (char, rest)
  | c :: rest => some (c, rest)
  | [] => none

theorem next?_of_ne {c : Char} (other : c ≠ '\\') (rest : List Char) :
    next? (c :: rest) = some (c, rest) := by
  unfold next?
  split
  · rename_i same
    exact absurd (List.cons.inj same).1 other
  · rename_i same
    exact absurd (List.cons.inj same).1 other
  · rename_i same
    cases same
    rfl
  · rename_i same
    cases same

/-- No digit is the brace behind the code point. -/
theorem next?_codePoint (c : Char) (rest : List Char) :
    next? (codePoint c ++ rest) = some (c, rest) := by
  have value := Numeral.value?_lowerHex c.toNat
  have brace : '\x7d' ∉ Numeral.lowerHex c.toNat := Numeral.notMem_of_go value (by decide)
  have shape : codePoint c ++ rest =
      '\\' :: 'u' :: '\x7b' :: (Numeral.lowerHex c.toNat ++ '\x7d' :: rest) := by
    simp [codePoint]
  rw [shape, next?, takeWhile_ne_append brace, dropWhile_ne_append brace, value, Option.map_some,
    Char.ofNat_toNat, List.tail_cons]

/-- What is written for a character is read back, whatever stands behind it. -/
theorem next?_escape (c : Char) (rest : List Char) : next? (escape c ++ rest) = some (c, rest) := by
  unfold escape
  -- the cases follow the branches of `escape`; the last one is a character that stands for itself
  split
  · subst c
    rfl
  · split
    · subst c
      rfl
    · split
      · subst c
        rfl
      · split
        · subst c
          rfl
        · split
          · subst c
            rfl
          · rename_i other
            split
            · subst c
              rfl
            · split
              · exact next?_codePoint c rest
              · exact next?_of_ne other rest

theorem escape_append_inj {c d : Char} {a b : List Char} (same : escape c ++ a = escape d ++ b) :
    c = d ∧ a = b := by
  have read := next?_escape c a
  rw [same, next?_escape d b, Option.some.injEq, Prod.mk.injEq] at read
  exact ⟨read.1.symm, read.2.symm⟩

theorem escape_ne_nil (c : Char) : escape c ≠ [] := by
  intro none
  have read := next?_escape c []
  rw [none] at read
  cases read

theorem flatMap_escape_inj {a b : List Char} (same : a.flatMap escape = b.flatMap escape) :
    a = b := by
  induction a generalizing b with
  | nil =>
    cases b with
    | nil => rfl
    | cons d b =>
      rw [List.flatMap_cons, List.flatMap_nil] at same
      exact absurd (List.append_eq_nil_iff.mp same.symm).1 (escape_ne_nil d)
  | cons c a ih =>
    cases b with
    | nil =>
      rw [List.flatMap_cons, List.flatMap_nil] at same
      exact absurd (List.append_eq_nil_iff.mp same).1 (escape_ne_nil c)
    | cons d b =>
      rw [List.flatMap_cons, List.flatMap_cons] at same
      obtain ⟨first, rest⟩ := escape_append_inj same
      rw [first, ih rest]

/-- Different texts have different quoted forms. -/
theorem encode_inj {a b : List Char} : encode a = encode b ↔ a = b := by
  constructor
  · intro same
    rw [encode, encode, List.cons_append, List.cons_append, List.cons.injEq] at same
    exact flatMap_escape_inj (List.append_cancel_right same.2)
  · exact congrArg encode

end QuietBox.Text.Quoted
