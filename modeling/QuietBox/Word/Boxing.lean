import QuietBox.Numeral
import QuietBox.Word.Access

/-!
Boxing: the words of typed values. `Content` is what a well-formed word holds; `Content.toWord`
writes it, and `Word.content?` reads it back. A double goes in by its bits, so a NaN of the reserved
region comes out as something else unless it is made canonical first.
-/

set_option autoImplicit false

namespace QuietBox

/-- The text that says which address is too wide. -/
def AddressTooWide.message (e : AddressTooWide) : String :=
  "address 0x" ++ String.ofList (Numeral.lowerHex e.address.toNat) ++ " does not fit in 48 bits"

namespace Word

def ofDouble (d : Double) : Word := d.bits

/-- Every NaN becomes the canonical one, so the word is always a double. -/
def ofDoubleCanonical (d : Double) : Word :=
  if d.isNaN && d.bits != nan then nan else ofDouble d

def ofPointer (a : Address) : Word := reserved .pointer a.toNat

def ofString (a : Address) : Word := reserved .string a.toNat

def ofUint (n : UInt32) : Word := reserved .uint n.toNat

/-- Two's complement in the low half of the payload. -/
def ofSint (n : Int32) : Word := reserved .sint n.toUInt32.toNat

/-- Boxes a machine address as a pointer, if it fits. -/
def pointerTo (a : Word) : Except AddressTooWide Word := (Address.ofWord a).map ofPointer

/-- Boxes a machine address as a string, if it fits. -/
def stringAt (a : Word) : Except AddressTooWide Word := (Address.ofWord a).map ofString

end Word

/-- A way to make a word. -/
inductive Construction where
  | bits (w : Word)
  | double (d : Double)
  | canonicalDouble (d : Double)
  | bool (b : Bool)
  | uint (n : UInt32)
  | sint (n : Int32)
  | pointer (a : Word)
  | string (a : Word)
  | null
  | nan

/-- The word that a construction makes; only an address can be refused. -/
def Construction.build : Construction → Except AddressTooWide Word
  | bits w => .ok w
  | double d => .ok (.ofDouble d)
  | canonicalDouble d => .ok (.ofDoubleCanonical d)
  | bool b => .ok (.ofBool b)
  | uint n => .ok (.ofUint n)
  | sint n => .ok (.ofSint n)
  | pointer a => Word.pointerTo a
  | string a => Word.stringAt a
  | null => .ok .null
  | nan => .ok .nan

/-- What a well-formed word holds. -/
inductive Content where
  | double (d : Double)
  | bool (b : Bool)
  | null
  | pointer (a : Address)
  | string (a : Address)
  | uint (n : UInt32)
  | sint (n : Int32)
deriving DecidableEq, Repr

def Content.toWord : Content → Word
  | double d => .ofDouble d
  | bool b => .ofBool b
  | null => .null
  | pointer a => .ofPointer a
  | string a => .ofString a
  | uint n => .ofUint n
  | sint n => .ofSint n

/-- The double is outside the reserved region or is the canonical NaN; all else boxes freely. -/
def Content.Boxable : Content → Prop
  | double d => d.bits.signature ≠ reservedSignature ∨ d = Double.canonicalNaN
  | _ => True

/-- What a word holds, unless it is invalid. -/
def Word.content? (w : Word) : Option Content :=
  if w.isDouble then some (.double w.toDouble)
  else match w.tagField with
    | .nan => none
    | .false => if w.payload = 0 then some (.bool .false) else none
    | .true => if w.payload = 0 then some (.bool .true) else none
    | .null => if w.payload = 0 then some .null else none
    | .pointer => some (.pointer w.address)
    | .string => some (.string w.address)
    | .uint => some (.uint w.toUint)
    | .sint => some (.sint w.toSint)

end QuietBox
