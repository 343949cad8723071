import QuietBox.Text.Ranges

/-!
Blank characters: those with the Unicode property White_Space. Texts are trimmed of them at both
ends and split at the first of them.
-/

set_option autoImplicit false

namespace QuietBox.Text

/-- The code points with the property White_Space. -/
def blankRanges : Ranges := .ofList
  [(0x9, 0xD), (0x20, 0x20), (0x85, 0x85), (0xA0, 0xA0), (0x1680, 0x1680), (0x2000, 0x200A),
   (0x2028, 0x2029), (0x202F, 0x202F), (0x205F, 0x205F), (0x3000, 0x3000)]

def isBlank (c : Char) : Bool := inRanges c.toNat blankRanges

def trimStart (text : List Char) : List Char := text.dropWhile isBlank

def trimEnd (text : List Char) : List Char := (text.reverse.dropWhile isBlank).reverse

/-- The text without blanks at its ends. -/
def trim (text : List Char) : List Char := trimEnd (trimStart text)

/-- The text up to its first blank. -/
def head (text : List Char) : List Char := text.takeWhile fun c => !isBlank c

/-- The text from its first blank on. -/
def tail (text : List Char) : List Char := text.dropWhile fun c => !isBlank c

/-- The head and the tail make up the text. -/
@[simp] theorem head_append_tail (text : List Char) : head text ++ tail text = text :=
  List.takeWhile_append_dropWhile

/-- The head holds no blank. -/
theorem not_isBlank_of_mem_head {text : List Char} {c : Char} (h : c ∈ head text) :
    isBlank c = false := by
  unfold head at h
  induction text with
  | nil => simp at h
  | cons d rest ih =>
    by_cases hd : isBlank d
    · simp [hd] at h
    · simp only [List.takeWhile_cons, hd, Bool.not_false, ↓reduceIte, List.mem_cons] at h
      rcases h with rfl | h
      · simpa using hd
      · exact ih h

theorem length_trim_le (text : List Char) : (trim text).length ≤ text.length := by
  have start : (trimStart text).length ≤ text.length :=
    (List.dropWhile_sublist _).length_le
  have ending : ∀ t : List Char, (trimEnd t).length ≤ t.length := by
    intro t
    have := (List.dropWhile_sublist isBlank (l := t.reverse)).length_le
    simpa [trimEnd] using this
  exact Nat.le_trans (ending _) start

/-- A text with a non-empty head has a shorter tail. -/
theorem length_tail_lt {text : List Char} (h : head text ≠ []) :
    (tail text).length < text.length := by
  have whole := congrArg List.length (head_append_tail text)
  have := List.length_pos_iff.2 h
  simp only [List.length_append] at whole
  omega

end QuietBox.Text
