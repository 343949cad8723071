import QuietBox.Text.Lines

/-!
The history of the prompt and its file. The history keeps the latest hundred entries and no entry
twice in a row. The file has a mark on its first line and an entry on each further line, with line
feeds and backslashes escaped; a file without the mark is lines as they stand.
-/

set_option autoImplicit false

namespace QuietBox

/-- Entries, the oldest first, and how many came after loading. -/
structure History where
  entries : List (List Char) := []
  fresh : Nat := 0
deriving DecidableEq, Repr

namespace History

/-- The greatest number of entries. -/
def capacity : Nat := 100

/-- The first line of a file with escapes. -/
def mark : List Char := ['#', 'V', '2']

/-- The history with a further entry; the oldest one makes room for it. -/
def add (h : History) (entry : List Char) : History :=
  if entry.isEmpty || h.entries.getLast? = some entry then h
  else
    let kept := if h.entries.length = capacity then h.entries.drop 1 else h.entries
    ⟨kept ++ [entry], h.fresh + 1⟩

def escape : List Char → List Char
  | [] => []
  | '\n' :: rest => '\\' :: 'n' :: escape rest
  | '\\' :: rest => '\\' :: '\\' :: escape rest
  | c :: rest => c :: escape rest

/-- The entry of an escaped line, if all its escapes are known. -/
def unescape? : List Char → Option (List Char)
  | [] => some []
  | '\\' :: 'n' :: rest => (unescape? rest).map ('\n' :: ·)
  | '\\' :: '\\' :: rest => (unescape? rest).map ('\\' :: ·)
  | '\\' :: _ => none
  | c :: rest => (unescape? rest).map (c :: ·)

/-- The entries of a file; a line with an unknown escape stands as it is. -/
def entriesOf (content : List Char) : List (List Char) :=
  match Text.lines content with
  | [] => []
  | first :: rest =>
    if first = mark then rest.map fun line => (unescape? line).getD line else first :: rest

/-- The history of a file. -/
def load (content : List Char) : History :=
  { (entriesOf content).foldl add {} with fresh := 0 }

/-- The file of a history. -/
def file (h : History) : List Char :=
  mark ++ '\n' :: h.entries.flatMap fun entry => escape entry ++ ['\n']

/-- The file to write; none if nothing was added. -/
def save? (h : History) : Option (List Char) := if h.fresh = 0 then none else some h.file

@[simp] theorem unescape?_escape (entry : List Char) : unescape? (escape entry) = some entry := by
  fun_induction escape entry with
  | case1 => rfl
  | case2 rest ih => simp [unescape?, ih]
  | case3 rest ih => simp [unescape?, ih]
  | case4 c rest notFeed notSlash ih =>
    rw [unescape?.eq_5]
    · simp [ih]
    all_goals grind

end History

end QuietBox
