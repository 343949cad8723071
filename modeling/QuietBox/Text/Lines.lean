/-!
Lines: a text split at line ends. A line ends at a line feed, with or without a carriage return in
front of it; what follows the last line end is a line unless it is empty.
-/

set_option autoImplicit false

namespace QuietBox.Text

/-- A character in front of the first of some lines. -/
def consFirst (c : Char) : List (List Char) → List (List Char)
  | [] => [[c]]
  | line :: more => (c :: line) :: more

/-- The lines of a text without their ends. -/
def lines : List Char → List (List Char)
  | [] => []
  | '\n' :: rest => [] :: lines rest
  | '\r' :: '\n' :: rest => [] :: lines rest
  | c :: rest => consFirst c (lines rest)

end QuietBox.Text
