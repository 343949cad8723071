import QuietBox.Numeral
import QuietBox.Text.Extender
import QuietBox.Text.Unprintable

/-!
Quoted text: a text between double quotes in which every character can be seen. Quotes, backslashes
and the commonest controls have short escapes; other characters that cannot be seen, and marks that
would be drawn on the one before, are written by code point.
-/

set_option autoImplicit false

namespace QuietBox.Text

/-- The code points with the property Default_Ignorable_Code_Point, which are shown as nothing. Most
of them are controls or join another character; the fillers of an alphabet are letters and still
cannot be seen. -/
def ignorableRanges : Ranges := .ofList
  [(0xAD, 0xAD), (0x34F, 0x34F), (0x61C, 0x61C), (0x115F, 0x1160), (0x17B4, 0x17B5),
   (0x180B, 0x180F), (0x200B, 0x200F), (0x202A, 0x202E), (0x2060, 0x206F), (0x3164, 0x3164),
   (0xFE00, 0xFE0F), (0xFEFF, 0xFEFF), (0xFFA0, 0xFFA0), (0xFFF0, 0xFFF8), (0x1BCA0, 0x1BCA3),
   (0x1D173, 0x1D17A), (0xE0000, 0xE0FFF)]

def isIgnorable (c : Char) : Bool := inRanges c.toNat ignorableRanges

namespace Quoted

/-- A character by its code point. -/
def codePoint (c : Char) : List Char :=
  ['\\', 'u', '\x7b'] ++ Numeral.lowerHex c.toNat ++ ['\x7d']

/-- A character that cannot be seen by itself. -/
def isHidden (c : Char) : Bool := isUnprintable c || isIgnorable c || isMark c

/-- How a character is written between quotes. -/
def escape (c : Char) : List Char :=
  if c = '\x00' then ['\\', '0']
  else if c = '\t' then ['\\', 't']
  else if c = '\r' then ['\\', 'r']
  else if c = '\n' then ['\\', 'n']
  else if c = '\\' then ['\\', '\\']
  else if c = '"' then ['\\', '"']
  else if isHidden c then codePoint c
  else [c]

/-- The text in quotes. -/
def encode (text : List Char) : List Char := '"' :: text.flatMap escape ++ ['"']

end Quoted

end QuietBox.Text
