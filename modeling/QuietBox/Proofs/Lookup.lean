/-!
Searches in lists. Leaving out entries of other names does not change what is found by a name, and
the first mark in a list divides what stands before it from what stands behind it.
-/

set_option autoImplicit false

namespace QuietBox

variable {α : Type}

theorem lookup_filter_of_keeps {keep : String × α → Bool} {name : String}
    (keeps : ∀ value, keep (name, value) = true) (entries : List (String × α)) :
    (entries.filter keep).lookup name = entries.lookup name := by
  induction entries with
  | nil => rfl
  | cons entry rest ih =>
    obtain ⟨found, value⟩ := entry
    by_cases same : name = found
    · subst same
      rw [List.filter_cons_of_pos (keeps value), List.lookup_cons_self, List.lookup_cons_self]
    · have missed : (name == found) = false := beq_false_of_ne same
      rw [List.lookup_cons, missed, ← ih, List.filter_cons]
      split
      · rw [List.lookup_cons, missed]
      · rfl

section Mark

variable [DecidableEq α] {mark : α} {front : List α}

theorem takeWhile_ne_append (clean : mark ∉ front) (rest : List α) :
    (front ++ mark :: rest).takeWhile (· ≠ mark) = front := by
  have other : ∀ a ∈ front, decide (a ≠ mark) = true := by
    intro a member
    exact decide_eq_true (ne_of_mem_of_not_mem member clean)
  rw [List.takeWhile_append_of_pos other]
  simp

theorem dropWhile_ne_append (clean : mark ∉ front) (rest : List α) :
    (front ++ mark :: rest).dropWhile (· ≠ mark) = mark :: rest := by
  have other : ∀ a ∈ front, decide (a ≠ mark) = true := by
    intro a member
    exact decide_eq_true (ne_of_mem_of_not_mem member clean)
  rw [List.dropWhile_append_of_pos other]
  simp

end Mark

end QuietBox
