import QuietBox.Failure

/-!
The radix in which words are reported, from a flag or a setting.
-/

set_option autoImplicit false

namespace QuietBox

inductive Radix where
  | hex
  | bin
deriving DecidableEq, Repr

namespace Radix

def name : Radix → String
  | hex => "hex"
  | bin => "bin"

/-- The radix of a name as it stands. -/
def ofName? (text : List Char) : Option Radix :=
  if text = "hex".toList then some hex
  else if text = "bin".toList then some bin
  else none

/-- The radix of a name in any ASCII case. -/
def ofText (text : List Char) : Except Failure Radix :=
  let lower := text.map Char.toLower
  match ofName? lower with
  | some r => .ok r
  | none => .error (.of (.unknownRadix (String.ofList lower)))

/-- The flag wins over the setting, which is then not even read; hexadecimal is the default. -/
def resolve (flag : Option Radix) (setting : Option String) : Except Failure Radix :=
  match flag, setting with
  | some r, _ => .ok r
  | none, some text => (ofText text.toList).mapError (.within .invalidRadixSetting)
  | none, none => .ok hex

end Radix

end QuietBox
