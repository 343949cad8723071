import QuietBox.Failure
import QuietBox.Text.Blank

/-!
Requests and the lines that ask for them: `encode <kind> [value]`, `decode <word>`, or the shorthand
`<kind> [value]`. Blanks separate the parts and do not count at the ends; inside a value they stay.
-/

set_option autoImplicit false

namespace QuietBox

inductive Request where
  | encode (kind : Kind) (value : Option String)
  | decode (word : String)
deriving DecidableEq, Repr

namespace Request

/-- A text that may be absent. -/
def valueOf (text : List Char) : Option String :=
  if text.isEmpty then none else some (String.ofList text)

/-- The request of a line. The word `encode` may be repeated, but not put in front of `decode`. -/
def parse (line : List Char) : Except Failure Request :=
  let text := Text.trim line
  let word := Text.head text
  let rest := Text.trim (Text.tail text)
  if word.isEmpty then .error (.of .emptyInput)
  else if word = "decode".toList then
    if rest.isEmpty then .error (.of .missingWord) else .ok (.decode (String.ofList rest))
  else if _h : word = "encode".toList then
    match parse rest with
    | .ok (.decode _) => .error (.of .missingKind)
    | result => result
  else
    match Kind.ofText? word with
    | some kind => .ok (.encode kind (valueOf rest))
    | none => .error (.of (.unknownKind (String.ofList word)))
termination_by line.length
decreasing_by
  have nonempty : Text.head (Text.trim line) ≠ [] := by
    intro none
    have := _h.symm.trans none
    simp at this
  have := Text.length_tail_lt nonempty
  have := Text.length_trim_le line
  have := Text.length_trim_le (Text.tail (Text.trim line))
  omega

/-- The request of a line of text. -/
def ofLine (line : String) : Except Failure Request := parse line.toList

end Request

end QuietBox
