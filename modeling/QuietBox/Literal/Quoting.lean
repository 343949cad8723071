import QuietBox.Text.Utf8

/-!
Text literals: a text, or a text in one pair of double quotes. A text that is kept in memory ends at
a NUL byte, so it must not hold one.
-/

set_option autoImplicit false

namespace QuietBox.Literal

/-- At least two characters, the first and the last of them a quote. -/
def isQuoted (text : List Char) : Bool :=
  2 ≤ text.length && text.head? = some '"' && text.getLast? = some '"'

/-- The text without one pair of quotes, if it has one. -/
def unquote : List Char → List Char
  | '"' :: rest => if rest.getLast? = some '"' then rest.dropLast else '"' :: rest
  | text => text

/-- The bytes of a text, or the position of the first NUL among them. -/
def textBytes (text : List Char) : Except Nat (List UInt8) :=
  let bytes := Text.Utf8.encode text
  match bytes.findIdx? (· = 0) with
  | some position => .error position
  | none => .ok bytes

end QuietBox.Literal
