/-!
Kinds: how a literal is read.
-/

set_option autoImplicit false

namespace QuietBox

inductive Kind where
  | double
  | nan
  | bool
  | null
  | uint
  | sint
  | pointer
  | string
  | auto
deriving DecidableEq, Repr

namespace Kind

def all : List Kind := [double, nan, bool, null, uint, sint, pointer, string, auto]

/-- The name in requests. -/
def name : Kind → String
  | double => "double"
  | nan => "nan"
  | bool => "bool"
  | null => "null"
  | uint => "uint"
  | sint => "sint"
  | pointer => "pointer"
  | string => "string"
  | auto => "auto"

/-- The name in messages. -/
def label : Kind → String
  | double => "Double"
  | nan => "Nan"
  | bool => "Bool"
  | null => "Null"
  | uint => "Uint"
  | sint => "Sint"
  | pointer => "Pointer"
  | string => "String"
  | auto => "Auto"

/-- The kind of a name as it stands. -/
def ofName? (text : List Char) : Option Kind := all.find? fun k => k.name.toList = text

/-- The kind of a name in any ASCII case. -/
def ofText? (text : List Char) : Option Kind := ofName? (text.map Char.toLower)

end Kind

end QuietBox
