import QuietBox.Text.Lines

/-!
Lines on a pipe. A text splits into lines exactly as they were written: each with a line feed behind
it, or a carriage return and a line feed, which the last one may lack.
-/

set_option autoImplicit false

namespace QuietBox.Text

/-- Lines written one after the other. The last one may stand without an end, unless it is empty. A
line that itself ends in a carriage return needs another one in front of its line feed. -/
inductive Piped : List (List Char) → List Char → Prop
  | done : Piped [] []
  | last {line : List Char} : line ≠ [] → '\n' ∉ line → Piped [line] line
  | feed {line text : List Char} {more : List (List Char)} :
      '\n' ∉ line → line.getLast? ≠ some '\r' → Piped more text →
        Piped (line :: more) (line ++ '\n' :: text)
  | returnFeed {line text : List Char} {more : List (List Char)} :
      '\n' ∉ line → Piped more text → Piped (line :: more) (line ++ '\r' :: '\n' :: text)

section Splitting

variable {c : Char} {line text : List Char} {more : List (List Char)}

/-- A character that is no part of a line end belongs to the first line. -/
theorem lines_cons (noFeed : c ≠ '\n') (noReturn : c = '\r' → text.head? ≠ some '\n') :
    lines (c :: text) = consFirst c (lines text) := by
  rw [lines.eq_4]
  · exact noFeed
  · intro rest isReturn feeds
    exact noReturn isReturn (by rw [feeds]; rfl)

theorem lines_append (noFeed : '\n' ∉ line)
    (noReturn : text.head? = some '\n' → line.getLast? ≠ some '\r')
    (split : lines text = [] :: more) : lines (line ++ text) = line :: more := by
  induction line with
  | nil => exact split
  | cons c line ih =>
    rw [List.mem_cons, not_or] at noFeed
    have rest : text.head? = some '\n' → line.getLast? ≠ some '\r' := by
      intro feeds last
      apply noReturn feeds
      rw [List.getLast?_cons, last]
      rfl
    rw [List.cons_append, lines_cons (Ne.symm noFeed.1), ih noFeed.2 rest, consFirst]
    rintro rfl next
    cases line with
    | nil => exact noReturn next rfl
    | cons d line =>
      cases next
      exact noFeed.2 List.mem_cons_self

theorem lines_last (nonempty : line ≠ []) (noFeed : '\n' ∉ line) : lines line = [line] := by
  induction line with
  | nil => exact absurd rfl nonempty
  | cons c line ih =>
    rw [List.mem_cons, not_or] at noFeed
    have apart : line.head? ≠ some '\n' := fun next => noFeed.2 (List.mem_of_head? next)
    rw [lines_cons (Ne.symm noFeed.1) fun _ => apart]
    cases line with
    | nil => rfl
    | cons d line => rw [ih (List.cons_ne_nil d line) noFeed.2, consFirst]

theorem lines_of_piped (h : Piped more text) : lines text = more := by
  induction h with
  | done => rfl
  | last nonempty noFeed => exact lines_last nonempty noFeed
  | feed noFeed noReturn _ ih =>
    apply lines_append noFeed (fun _ => noReturn)
    rw [lines, ih]
  | returnFeed noFeed _ ih =>
    apply lines_append noFeed
    · intro feeds
      cases feeds
    · rw [lines, ih]

theorem Piped.consFirst (h : Piped more text) (noFeed : c ≠ '\n')
    (noReturn : c = '\r' → text.head? ≠ some '\n') : Piped (consFirst c more) (c :: text) := by
  cases h with
  | done => exact .last (List.cons_ne_nil c []) (by simpa using Ne.symm noFeed)
  | last nonempty inside =>
    exact .last (List.cons_ne_nil c _) (List.not_mem_cons_of_ne_of_not_mem (Ne.symm noFeed) inside)
  | returnFeed inside others =>
    exact .returnFeed (List.not_mem_cons_of_ne_of_not_mem (Ne.symm noFeed) inside) others
  | @feed line text more inside noEnd others =>
    apply Piped.feed (List.not_mem_cons_of_ne_of_not_mem (Ne.symm noFeed) inside) _ others
    cases line with
    | nil =>
      intro last
      cases last
      exact noReturn rfl rfl
    | cons d line => rwa [List.getLast?_cons_cons]

/-- Every text is lines on a pipe. -/
theorem piped_lines (text : List Char) : Piped (lines text) text := by
  fun_induction lines text with
  | case1 => exact .done
  | case2 rest ih => exact .feed List.not_mem_nil (by simp) ih
  | case3 rest ih => exact .returnFeed List.not_mem_nil ih
  | case4 c rest noFeed noReturn ih =>
    apply ih.consFirst noFeed
    intro isReturn next
    obtain ⟨text, rfl⟩ := List.head?_eq_some_iff.mp next
    exact noReturn text isReturn rfl

theorem piped_iff : Piped more text ↔ lines text = more := by
  constructor
  · exact lines_of_piped
  · rintro rfl
    exact piped_lines text

/-- What stands on a line stands in the text. -/
theorem mem_of_piped (h : Piped more text) (onLine : line ∈ more) (inLine : c ∈ line) :
    c ∈ text := by
  induction h with
  | done => cases onLine
  | last => rwa [List.mem_singleton.mp onLine] at inLine
  | feed _ _ _ ih =>
    rcases List.mem_cons.mp onLine with rfl | later
    · exact List.mem_append_left _ inLine
    · exact List.mem_append_right _ (List.mem_cons_of_mem _ (ih later))
  | returnFeed _ _ ih =>
    rcases List.mem_cons.mp onLine with rfl | later
    · exact List.mem_append_left _ inLine
    · exact List.mem_append_right _ (List.mem_cons_of_mem _ (List.mem_cons_of_mem _ (ih later)))

end Splitting

end QuietBox.Text
