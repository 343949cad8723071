import QuietBox.Literal.Integer
import QuietBox.Word.Basic

/-!
Word literals: hexadecimal after `0x` or `0X`, binary after `0b`, decimal otherwise, below 2^64.
Underscores count nowhere, not even inside the mark.
-/

set_option autoImplicit false

namespace QuietBox.Literal

/-- The characters that count. -/
def withoutUnderscores (text : List Char) : List Char := text.filter (· ≠ '_')

/-- The base that the mark announces, and what follows the mark. -/
def splitBase : List Char → Nat × List Char
  | '0' :: 'x' :: rest => (16, rest)
  | '0' :: 'X' :: rest => (16, rest)
  | '0' :: 'b' :: rest => (2, rest)
  | text => (10, text)

/-- The word that a text without underscores denotes. -/
def readBareWord (text : List Char) : Except IntegerFault Word :=
  let (base, digits) := splitBase text
  (readNatural base 0xFFFFFFFFFFFFFFFF digits).map Word.ofNat

/-- The word that a text denotes. -/
def readWord (text : List Char) : Except IntegerFault Word :=
  readBareWord (withoutUnderscores text)

end QuietBox.Literal
