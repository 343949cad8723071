import QuietBox.Double.Basic

/-!
What a word holds: predicates, type names and checked accessors. A word outside the reserved
signature is a double, and so is the canonical NaN; the other reserved words hold what their tag
says, and an immediate tag with a payload is invalid.
-/

set_option autoImplicit false

namespace QuietBox

/-- The name of what a word holds. -/
inductive TypeName where
  | double
  | invalid
  | tagged (tag : Tag)
deriving DecidableEq, Repr

def TypeName.text : TypeName → String
  | double => "double"
  | invalid => "invalid"
  | tagged t => t.name

/-- The checked accessors, by what they ask for. -/
inductive Access where
  | double
  | bool
  | uint
  | sint
  | pointer
  | string
deriving DecidableEq, Repr

def Access.name : Access → String
  | double => "double"
  | bool => "bool"
  | uint => "uint"
  | sint => "sint"
  | pointer => "pointer"
  | string => "string"

/-- An accessor asked for one thing and the word holds another. -/
structure Mismatch where
  expected : Access
  found : TypeName
deriving DecidableEq, Repr

def Mismatch.message (m : Mismatch) : String :=
  "type mismatch: expected " ++ m.expected.name ++ ", found " ++ m.found.text

/-- An address of at most 48 bits. -/
structure Address where
  toNat : Nat
  isLt : toNat < 0x1000000000000
deriving DecidableEq, Repr

/-- A machine address has a bit above bit 47. -/
structure AddressTooWide where
  address : Word
deriving DecidableEq, Repr

/-- The address of a machine word, if it fits in 48 bits. -/
def Address.ofWord (a : Word) : Except AddressTooWide Address :=
  if h : a.toNat < 0x1000000000000 then .ok ⟨a.toNat, h⟩ else .error ⟨a⟩

namespace Word

/-- The canonical NaN. -/
def nan : Word := reserved .nan 0

def null : Word := reserved .null 0

def ofBool (b : Bool) : Word := reserved (if b then .true else .false) 0

/-- Equal to a tag's reserved word in all bits above the payload. -/
def hasTag (w : Word) (t : Tag) : Bool :=
  w.toNat / 0x1000000000000 = (reserved t 0).toNat / 0x1000000000000

/-- Bit equality with the canonical NaN, which other NaNs lack. -/
def isNan (w : Word) : Bool := w = nan

def isDouble (w : Word) : Bool := w.signature ≠ reservedSignature || w.isNan

def isFalse (w : Word) : Bool := w = ofBool false

def isTrue (w : Word) : Bool := w = ofBool true

def isBool (w : Word) : Bool := w.isTrue || w.isFalse

def isNull (w : Word) : Bool := w = null

def isPointer (w : Word) : Bool := w.hasTag .pointer

def isString (w : Word) : Bool := w.hasTag .string

def isUint (w : Word) : Bool := w.hasTag .uint

def isSint (w : Word) : Bool := w.hasTag .sint

/-- The tag of a reserved word; the canonical NaN has one too. -/
def tag? (w : Word) : Option Tag :=
  if w.signature = reservedSignature then some w.tagField else none

/-- The fields of a word that is not a double. -/
def tagged? (w : Word) : Option Tagged := if w.isDouble then none else some w.fields

def typeName (w : Word) : TypeName :=
  if w.isNan then .tagged .nan
  else if w.isDouble then .double
  else if w.tagField.isImmediate && w.payload != 0 then .invalid
  else .tagged w.tagField

/-- The payload as an address. -/
def address (w : Word) : Address := ⟨w.payload, w.payload_lt⟩

/-- The word as a double, whatever it holds. -/
def toDouble (w : Word) : Double := ⟨w⟩

/-- The low 32 bits as an unsigned number, whatever the word holds. -/
def toUint (w : Word) : UInt32 := UInt32.ofNat (w.toNat % 0x100000000)

/-- The low 32 bits as a signed number, whatever the word holds. -/
def toSint (w : Word) : Int32 := w.toUint.toInt32

private def mismatch {α : Type} (w : Word) (a : Access) : Except Mismatch α :=
  .error ⟨a, w.typeName⟩

def asDouble (w : Word) : Except Mismatch Double :=
  if w.isDouble then .ok w.toDouble else w.mismatch .double

def asBool (w : Word) : Except Mismatch Bool :=
  if w.isBool then .ok w.isTrue else w.mismatch .bool

def asUint (w : Word) : Except Mismatch UInt32 :=
  if w.isUint then .ok w.toUint else w.mismatch .uint

def asSint (w : Word) : Except Mismatch Int32 :=
  if w.isSint then .ok w.toSint else w.mismatch .sint

def asPointer (w : Word) : Except Mismatch Address :=
  if w.isPointer then .ok w.address else w.mismatch .pointer

def asString (w : Word) : Except Mismatch Address :=
  if w.isString then .ok w.address else w.mismatch .string

/-- The mismatch that an accessor reports on a word, if it fails. -/
def mismatch? (w : Word) (a : Access) : Option Mismatch :=
  let fails {α : Type} : Except Mismatch α → Option Mismatch
    | .ok _ => none
    | .error m => some m
  match a with
  | .double => fails w.asDouble
  | .bool => fails w.asBool
  | .uint => fails w.asUint
  | .sint => fails w.asSint
  | .pointer => fails w.asPointer
  | .string => fails w.asString

end Word

end QuietBox
