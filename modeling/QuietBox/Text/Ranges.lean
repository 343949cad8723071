/-!
Sets of code points as ascending lists of closed ranges. The sets of this library that hold a
property of characters are those of Unicode 17.0.
-/

set_option autoImplicit false

namespace QuietBox.Text

/-- Each range begins above the end of the one before. -/
def Ascending : List (Nat × Nat) → Prop
  | [] => True
  | [r] => r.1 ≤ r.2
  | r :: s :: rest => r.1 ≤ r.2 ∧ r.2 < s.1 ∧ Ascending (s :: rest)

instance Ascending.decidable : DecidablePred Ascending
  | [] => .isTrue trivial
  | [r] => inferInstanceAs (Decidable (r.1 ≤ r.2))
  | r :: s :: rest =>
    have := Ascending.decidable (s :: rest)
    inferInstanceAs (Decidable (r.1 ≤ r.2 ∧ r.2 < s.1 ∧ Ascending (s :: rest)))

namespace Ascending

variable {r s : Nat × Nat} {rest : List (Nat × Nat)}

theorem head (h : Ascending (r :: rest)) : r.1 ≤ r.2 := by
  cases rest with
  | nil => exact h
  | cons s rest => exact h.1

theorem tail (h : Ascending (r :: rest)) : Ascending rest := by
  cases rest with
  | nil => trivial
  | cons s rest => exact h.2.2

theorem lt_of_mem (h : Ascending (r :: rest)) (member : s ∈ rest) : r.2 < s.1 := by
  induction rest generalizing r with
  | nil => cases member
  | cons next rest ih =>
    have step : r.2 < next.1 := h.2.1
    cases member with
    | head => exact step
    | tail _ later =>
      have ordered := h.tail.head
      have beyond := ih h.tail later
      omega

end Ascending

/-- A set of code points. -/
structure Ranges where
  ofList ::
  list : List (Nat × Nat)
  ascending : Ascending list := by decide +kernel

/-- Whether a number lies in one of the ranges; the search stops at the first that begins above
it. -/
def search (n : Nat) : List (Nat × Nat) → Bool
  | [] => false
  | (first, last) :: rest => first ≤ n && (n ≤ last || search n rest)

def inRanges (n : Nat) (set : Ranges) : Bool := search n set.list

/-- The search misses nothing, because the ranges ascend. -/
theorem search_iff {n : Nat} {ranges : List (Nat × Nat)} (h : Ascending ranges) :
    search n ranges ↔ ∃ r ∈ ranges, r.1 ≤ n ∧ n ≤ r.2 := by
  induction ranges with
  | nil => simp [search]
  | cons first rest ih =>
    simp only [search, Bool.and_eq_true, Bool.or_eq_true, decide_eq_true_eq, ih h.tail,
      List.mem_cons, exists_eq_or_imp]
    constructor
    · rintro ⟨begun, inside | ⟨r, member, within⟩⟩
      · exact Or.inl ⟨begun, inside⟩
      · exact Or.inr ⟨r, member, within⟩
    · rintro (⟨begun, inside⟩ | ⟨r, member, begun, inside⟩)
      · exact ⟨begun, Or.inl inside⟩
      · -- The range lies above the first one, so the search went past that one.
        have ordered := h.head
        have beyond := h.lt_of_mem member
        exact ⟨by omega, Or.inr ⟨r, member, begun, inside⟩⟩

theorem inRanges_iff {n : Nat} {set : Ranges} :
    inRanges n set ↔ ∃ r ∈ set.list, r.1 ≤ n ∧ n ≤ r.2 :=
  search_iff set.ascending

end QuietBox.Text
