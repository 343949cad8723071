/-!
Tags: the three-bit discriminant of a tagged word. The first four are immediates, which the tag
alone determines; the others carry a payload.
-/

set_option autoImplicit false

namespace QuietBox

/-- The discriminant in bits 50 to 48 of a tagged word. -/
inductive Tag where
  | nan
  | false
  | true
  | null
  | pointer
  | string
  | uint
  | sint
deriving DecidableEq, Repr

namespace Tag

/-- All tags in the order of their numbers. -/
def all : List Tag := [nan, .false, .true, null, pointer, string, uint, sint]

/-- The number kept in the tag field. -/
def toNat : Tag → Nat
  | nan => 0
  | .false => 1
  | .true => 2
  | null => 3
  | pointer => 4
  | string => 5
  | uint => 6
  | sint => 7

/-- The tag of a field's low three bits; every field has one. -/
def ofField (field : Nat) : Tag :=
  match field % 8 with
  | 0 => nan
  | 1 => .false
  | 2 => .true
  | 3 => null
  | 4 => pointer
  | 5 => string
  | 6 => uint
  | _ => sint

/-- An immediate is determined by its tag and has an empty payload. -/
def isImmediate (t : Tag) : Bool := t.toNat < 4

def hasPayload (t : Tag) : Bool := !t.isImmediate

/-- The name in reports and messages. -/
def name : Tag → String
  | nan => "nan"
  | .false => "false"
  | .true => "true"
  | null => "null"
  | pointer => "pointer"
  | string => "string"
  | uint => "uint"
  | sint => "sint"

/-- The name as a constructor, used by structural text. -/
def label : Tag → String
  | nan => "Nan"
  | .false => "False"
  | .true => "True"
  | null => "Null"
  | pointer => "Pointer"
  | string => "String"
  | uint => "Uint"
  | sint => "Sint"

/-- The tag with a given name. -/
def ofName? (s : String) : Option Tag := all.find? (·.name = s)

theorem toNat_lt (t : Tag) : t.toNat < 8 := by cases t <;> decide

@[simp] theorem ofField_toNat (t : Tag) : ofField t.toNat = t := by cases t <;> rfl

@[simp] theorem ofField_mod (n : Nat) : ofField (n % 8) = ofField n := by
  simp only [ofField, Nat.mod_mod]

@[simp] theorem toNat_ofField (n : Nat) : (ofField n).toNat = n % 8 := by
  have h : n % 8 < 8 := Nat.mod_lt n (by decide)
  have split : ∀ k < 8, (ofField k).toNat = k := by decide
  rw [← ofField_mod, split _ h]

@[simp] theorem ofName?_name (t : Tag) : ofName? t.name = some t := by cases t <;> rfl

end Tag

end QuietBox
