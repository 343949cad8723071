import Mathlib.Data.List.DropRight
import QuietBox.Text.Blank

/-!
Blanks around and between parts of a line. Trimming takes off the blanks at both ends and nothing
else; a line that is not blank has a first word, and how many blanks surround it or follow it plays
no part in what is read. `Laid` says what lines some parts may stand on.
-/

set_option autoImplicit false

namespace QuietBox.Text

/-- A run of blanks, which may be empty. -/
def Blanks (text : List Char) : Prop := ∀ c ∈ text, isBlank c

/-- At least one character, and no blank among them. -/
def IsWord (text : List Char) : Prop := text ≠ [] ∧ ∀ c ∈ text, isBlank c = false

/-- At least one character, the first and the last of them no blanks. -/
def IsTrimmed (text : List Char) : Prop :=
  text ≠ [] ∧ (∀ c, text.head? = some c → isBlank c = false) ∧
    ∀ c, text.getLast? = some c → isBlank c = false

/-- A blank comes first, or the text is over. -/
def Opens (text : List Char) : Prop := ∀ c, text.head? = some c → isBlank c

instance : DecidablePred Blanks := fun text =>
  decidable_of_iff (text.all isBlank = true) List.all_eq_true

instance : DecidablePred IsWord := fun text =>
  decidable_of_iff (text ≠ [] ∧ (text.all fun c => !isBlank c) = true) (by simp [IsWord])

instance : DecidablePred IsTrimmed := fun text =>
  decidable_of_iff
    (text ≠ [] ∧ text.head?.all (!isBlank ·) = true ∧ text.getLast?.all (!isBlank ·) = true) <| by
    simp only [IsTrimmed, Option.all_eq_true, Bool.not_eq_true']

theorem blanks_nil : Blanks [] := List.forall_mem_nil _

section Ends

variable {before text after : List Char}

theorem trimStart_append (h : Blanks before) (text : List Char) :
    trimStart (before ++ text) = trimStart text := List.dropWhile_append_of_pos h

theorem trimEnd_append (h : Blanks after) (text : List Char) :
    trimEnd (text ++ after) = trimEnd text := by
  have back : ∀ c ∈ after.reverse, isBlank c := fun c member => h c (List.mem_reverse.mp member)
  rw [trimEnd, trimEnd, List.reverse_append, List.dropWhile_append_of_pos back]

theorem trimStart_eq_self (h : ∀ c, text.head? = some c → isBlank c = false) :
    trimStart text = text := by
  cases text with
  | nil => rfl
  | cons c rest =>
    rw [trimStart, List.dropWhile_cons, h c rfl]
    rfl

theorem trimEnd_eq_self (h : ∀ c, text.getLast? = some c → isBlank c = false) :
    trimEnd text = text := by
  have back : trimStart text.reverse = text.reverse :=
    trimStart_eq_self fun c first => h c (by rwa [List.head?_reverse] at first)
  rw [trimEnd, ← trimStart, back, List.reverse_reverse]

/-- Trimming the end goes no further than to a character that is no blank. -/
theorem trimEnd_append_of_last (h : ∀ c, text.getLast? = some c → isBlank c = false)
    (follow : List Char) : trimEnd (text ++ follow) = text ++ trimEnd follow := by
  have same := trimEnd_eq_self h
  by_cases blank : Blanks follow
  · have none : trimEnd follow = [] := List.rdropWhile_eq_nil_iff.mpr blank
    rw [trimEnd_append blank, same, none, List.append_nil]
  · have some : (follow.reverse.dropWhile isBlank).isEmpty = false := by
      rw [List.isEmpty_eq_false_iff, ne_eq, List.dropWhile_eq_nil_iff]
      intro all
      exact blank fun c member => all c (List.mem_reverse.mpr member)
    rw [trimEnd, List.reverse_append, List.dropWhile_append, some, if_neg Bool.false_ne_true,
      List.reverse_append, List.reverse_reverse, trimEnd]

theorem exists_trimEnd (text : List Char) :
    ∃ after, Blanks after ∧ text = trimEnd text ++ after :=
  ⟨text.rtakeWhile isBlank, fun _ => List.mem_rtakeWhile_imp,
    List.rdropWhile_append_rtakeWhile.symm⟩

theorem exists_trimStart (text : List Char) :
    ∃ before, Blanks before ∧ text = before ++ trimStart text :=
  ⟨text.takeWhile isBlank, fun _ => List.mem_takeWhile_imp,
    List.takeWhile_append_dropWhile.symm⟩

theorem head_trimStart {c : Char} (h : (trimStart text).head? = some c) : isBlank c = false := by
  have first := List.head?_dropWhile_not isBlank text
  rw [← trimStart, h] at first
  exact first

theorem last_trimEnd {c : Char} (h : (trimEnd text).getLast? = some c) : isBlank c = false := by
  rw [trimEnd, List.getLast?_reverse] at h
  exact head_trimStart h

end Ends

section Trim

variable {before text after : List Char}

theorem trim_eq_nil_iff : trim text = [] ↔ Blanks text := by
  constructor
  · intro none
    obtain ⟨before, front, split⟩ := exists_trimStart text
    have all : Blanks (trimStart text) := List.rdropWhile_eq_nil_iff.mp none
    rw [split]
    intro c member
    exact (List.mem_append.mp member).elim (front c) (all c)
  · intro blank
    have none : trimStart text = [] := List.dropWhile_eq_nil_iff.mpr blank
    rw [trim, none]
    rfl

theorem trim_of_isTrimmed (h : IsTrimmed text) : trim text = text := by
  rw [trim, trimStart_eq_self h.2.1, trimEnd_eq_self h.2.2]

/-- What is left after trimming, if anything, has no blank at either end. -/
theorem isTrimmed_trim (h : trim text ≠ []) : IsTrimmed (trim text) := by
  refine ⟨h, ?_, fun c => last_trimEnd⟩
  intro c first
  obtain ⟨after, -, split⟩ := exists_trimEnd (trimStart text)
  have start : (trimStart text).head? = some c := by
    rw [split, ← trim, List.head?_append_of_ne_nil _ h]
    exact first
  exact head_trimStart start

/-- Blanks around a text do not count. -/
theorem trim_append (front : Blanks before) (back : Blanks after) (text : List Char) :
    trim (before ++ text ++ after) = trim text := by
  rw [List.append_assoc, trim, trimStart_append front]
  by_cases blank : Blanks text
  · have all : Blanks (text ++ after) := by
      intro c member
      exact (List.mem_append.mp member).elim (blank c) (back c)
    rw [← trim, trim_eq_nil_iff.mpr all, trim_eq_nil_iff.mpr blank]
  · have some : trimStart text ≠ [] := fun none => blank (List.dropWhile_eq_nil_iff.mp none)
    have start : trimStart (text ++ after) = trimStart text ++ after := by
      obtain ⟨blanks, skipped, split⟩ := exists_trimStart text
      have stop : trimStart (trimStart text ++ after) = trimStart text ++ after := by
        apply trimStart_eq_self
        intro c first
        rw [List.head?_append_of_ne_nil _ some] at first
        exact head_trimStart first
      conv => lhs; rw [split]
      rw [List.append_assoc, trimStart_append skipped, stop]
    rw [start, trimEnd_append back, trim]

theorem exists_trim (text : List Char) :
    ∃ before after, Blanks before ∧ Blanks after ∧ text = before ++ trim text ++ after := by
  obtain ⟨before, front, start⟩ := exists_trimStart text
  obtain ⟨after, back, stop⟩ := exists_trimEnd (trimStart text)
  refine ⟨before, after, front, back, ?_⟩
  rw [List.append_assoc, trim, ← stop]
  exact start

theorem trim_trim (text : List Char) : trim (trim text) = trim text := by
  obtain ⟨before, after, front, back, split⟩ := exists_trim text
  have same := trim_append front back (trim text)
  rw [← split] at same
  exact same.symm

end Trim

section FirstWord

variable {before word follow : List Char}

theorem IsWord.isTrimmed (h : IsWord word) : IsTrimmed word :=
  ⟨h.1, fun c first => h.2 c (List.mem_of_head? first),
    fun c last => h.2 c (List.mem_of_getLast? last)⟩

theorem head_append (h : IsWord word) (opens : Opens follow) : head (word ++ follow) = word := by
  have inside : ∀ c ∈ word, (!isBlank c) = true := by
    intro c member
    rw [h.2 c member]
    rfl
  have stop : head follow = [] := by
    cases follow with
    | nil => rfl
    | cons c rest => simp [head, opens c rfl]
  rw [head, List.takeWhile_append_of_pos inside, ← head, stop, List.append_nil]

theorem tail_append (h : IsWord word) (opens : Opens follow) : tail (word ++ follow) = follow := by
  have whole := head_append_tail (word ++ follow)
  rw [head_append h opens] at whole
  exact List.append_cancel_left whole

/-- A trimmed line is its first word and what follows without the blanks at the end. -/
theorem trim_line (front : Blanks before) (h : IsWord word) (opens : Opens follow) :
    trim (before ++ word ++ follow) = word ++ trimEnd follow ∧ Opens (trimEnd follow) := by
  have bare := h.isTrimmed
  constructor
  · have start : trimStart (word ++ follow) = word ++ follow := by
      apply trimStart_eq_self
      intro c first
      rw [List.head?_append_of_ne_nil _ h.1] at first
      exact bare.2.1 c first
    rw [List.append_assoc, trim, trimStart_append front, start, trimEnd_append_of_last bare.2.2]
  · intro c first
    obtain ⟨after, -, split⟩ := exists_trimEnd follow
    apply opens c
    rw [split, List.head?_append, first]
    rfl

theorem head_trim_line (front : Blanks before) (h : IsWord word) (opens : Opens follow) :
    head (trim (before ++ word ++ follow)) = word := by
  obtain ⟨line, next⟩ := trim_line front h opens
  rw [line, head_append h next]

theorem trim_tail_trim_line (front : Blanks before) (h : IsWord word) (opens : Opens follow) :
    trim (tail (trim (before ++ word ++ follow))) = trim follow := by
  obtain ⟨line, next⟩ := trim_line front h opens
  obtain ⟨after, back, split⟩ := exists_trimEnd follow
  have same := trim_append blanks_nil back (trimEnd follow)
  rw [List.nil_append, ← split] at same
  rw [line, tail_append h next, same]

/-- A line is blank, or it has a first word. -/
theorem blanks_or_word (line : List Char) :
    Blanks line ∨ ∃ before word follow, Blanks before ∧ IsWord word ∧ Opens follow ∧
      line = before ++ word ++ follow := by
  obtain ⟨before, front, split⟩ := exists_trimStart line
  by_cases none : trimStart line = []
  · exact Or.inl (List.dropWhile_eq_nil_iff.mp none)
  · refine Or.inr ⟨before, head (trimStart line), tail (trimStart line), front, ⟨?_, ?_⟩, ?_, ?_⟩
    · cases start : trimStart line with
      | nil => exact absurd start none
      | cons c rest =>
        have first : (trimStart line).head? = some c := by
          rw [start]
          rfl
        have letter := head_trimStart first
        simp [head, letter]
    · exact fun c => not_isBlank_of_mem_head
    · intro c first
      have stop := List.head?_dropWhile_not (fun c => !isBlank c) (trimStart line)
      rw [← tail, first] at stop
      simpa using stop
    · rw [List.append_assoc, head_append_tail]
      exact split

end FirstWord

/-- Parts after a part on a line, each after at least one blank; blanks may end the line. -/
inductive Follow : List (List Char) → List Char → Prop
  | done {after : List Char} : Blanks after → Follow [] after
  | next {gap part rest : List Char} {parts : List (List Char)} :
      gap ≠ [] → Blanks gap → Follow parts rest → Follow (part :: parts) (gap ++ part ++ rest)

/-- Parts on a line, any blanks around them and at least one blank between two of them. -/
inductive Laid : List (List Char) → List Char → Prop
  | line {before first rest : List Char} {parts : List (List Char)} :
      Blanks before → Follow parts rest → Laid (first :: parts) (before ++ first ++ rest)

theorem Follow.opens {parts : List (List Char)} {rest : List Char} (h : Follow parts rest) :
    Opens rest := by
  intro c first
  cases h with
  | done blank => exact blank c (List.mem_of_head? first)
  | next some blank _ =>
    rw [List.append_assoc, List.head?_append_of_ne_nil _ some] at first
    exact blank c (List.mem_of_head? first)

theorem Follow.laid {part rest : List Char} {parts : List (List Char)}
    (h : Follow (part :: parts) rest) : Laid (part :: parts) rest := by
  cases h with
  | next _ blank more => exact .line blank more

theorem Laid.follow {part rest : List Char} {parts : List (List Char)}
    (h : Laid (part :: parts) rest) (opens : Opens rest) (bare : IsTrimmed part) :
    Follow (part :: parts) rest := by
  cases h with
  | @line before _ more _ blank others =>
    refine .next ?_ blank others
    rintro rfl
    cases part with
    | nil => exact bare.1 rfl
    | cons c part =>
      have letter := bare.2.1 c rfl
      rw [opens c rfl] at letter
      cases letter

/-- At the end of a line nothing more follows, or one part does, which trimming finds. -/
theorem follow_nil_iff {rest : List Char} : Follow [] rest ↔ trim rest = [] := by
  rw [trim_eq_nil_iff]
  constructor
  · rintro ⟨blank⟩
    assumption
  · exact .done

theorem follow_singleton_iff {part rest : List Char} (bare : IsTrimmed part) :
    Follow [part] rest ↔ Opens rest ∧ trim rest = part := by
  constructor
  · intro h
    refine ⟨h.opens, ?_⟩
    cases h with
    | next _ front last =>
      cases last with
      | done back => rw [trim_append front back, trim_of_isTrimmed bare]
  · rintro ⟨opens, rfl⟩
    obtain ⟨before, after, front, back, split⟩ := exists_trim rest
    have laid : Laid [trim rest] rest := by
      conv => arg 2; rw [split]
      exact .line front (.done back)
    exact laid.follow opens bare

end QuietBox.Text
