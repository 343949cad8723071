import QuietBox.Format.Spec

/-!
Structural text: a label alone, a label with one field in parentheses, or a label with named fields
in braces. The alternate form puts each field on a line of its own, indented and followed by a
comma.
-/

set_option autoImplicit false

namespace QuietBox.Format

/-- A labelled value whose fields are already text without line breaks. -/
inductive Structure where
  | label (name : String)
  | tuple (name : String) (field : List Char)
  | record (name : String) (fields : List (String × List Char))

namespace Structure

private def indent : List Char := [' ', ' ', ' ', ' ']

private def named (field : String × List Char) : List Char :=
  field.1.toList ++ ':' :: ' ' :: field.2

private def onLine (text : List Char) : List Char := indent ++ text ++ [',', '\n']

/-- The text on one line, or on several in the alternate form. -/
def text (alternate : Bool) : Structure → List Char
  | label name => name.toList
  | tuple name field =>
    if alternate then name.toList ++ '(' :: '\n' :: onLine field ++ [')']
    else name.toList ++ '(' :: field ++ [')']
  | record name fields =>
    if alternate then
      name.toList ++ ' ' :: '\x7b' :: '\n' :: fields.flatMap (onLine ∘ named) ++ ['\x7d']
    else
      name.toList ++ ' ' :: '\x7b' :: ' ' :: [',', ' '].intercalate (fields.map named) ++
        [' ', '\x7d']

end Structure

end QuietBox.Format
