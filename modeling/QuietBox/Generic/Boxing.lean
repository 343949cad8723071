import QuietBox.Generic.HostType

/-!
Generic boxing of host values. The static conversion follows the type: numbers are widened to a
double or a 32-bit integer, a borrowed text is boxed as a pointer, and an optional value is null or
what it holds, at any depth. The dynamic conversion compares the type of the value with a list of
types, each bare and under one option, and refuses all others by name.
-/

set_option autoImplicit false

namespace QuietBox

namespace HostType

/-- The types with a static conversion. -/
def converts : HostType → Bool
  | double => true
  | single => true
  | unsigned w => w != .w64
  | signed w => w != .w64
  | bool => true
  | unit => true
  | text => true
  | pointer _ _ => true
  | optional t => t.converts
  | other _ => false

/-- The static conversion; only an address can be refused. -/
def box : (t : HostType) → t.converts = true → t.Carrier → Except AddressTooWide Word
  | double, _, d => .ok (.ofDouble d)
  | single, _, s => .ok (.ofDouble s.toDouble)
  | unsigned _, _, n => .ok (.ofUint (UInt32.ofNat n.toNat))
  | signed _, _, n => .ok (.ofSint (Int32.ofInt n.toInt))
  | bool, _, b => .ok (.ofBool b)
  | unit, _, _ => .ok .null
  | text, _, a => Word.pointerTo a
  | pointer _ _, _, a => Word.pointerTo a
  | optional _, _, none => .ok .null
  | optional t, h, some x => t.box h x

end HostType

/-- A type with a static conversion. -/
abbrev Convertible := { t : HostType // t.converts = true }

/-- Why a value was not boxed. -/
inductive BoxFault where
  | address (e : AddressTooWide)
  | unsupported (type : HostType)
deriving DecidableEq, Repr

def BoxFault.message : BoxFault → String
  | address e => e.message
  | unsupported t => "unsupported type: " ++ t.fullName

namespace Dynamic

/-- The types that are no pointers. -/
def scalars : List Convertible :=
  [⟨.double, rfl⟩, ⟨.single, rfl⟩, ⟨.unsigned .w32, rfl⟩, ⟨.unsigned .w16, rfl⟩,
   ⟨.unsigned .w8, rfl⟩, ⟨.signed .w32, rfl⟩, ⟨.signed .w16, rfl⟩, ⟨.signed .w8, rfl⟩,
   ⟨.bool, rfl⟩, ⟨.unit, rfl⟩, ⟨.text, rfl⟩]

/-- The types that may be pointed to. -/
def pointees : List HostType :=
  [.unsigned .w8, .signed .w8, .unsigned .w16, .signed .w16, .unsigned .w32, .signed .w32,
   .unsigned .w64, .signed .w64, .single, .double, .bool, .unit]

/-- The types of pointers. -/
def pointers : List Convertible :=
  pointees.flatMap fun t =>
    [⟨.pointer .reading t, rfl⟩, ⟨.pointer .writing t, rfl⟩, ⟨.pointer .nonNull t, rfl⟩]

/-- The types that are compared with, in order. -/
def candidates : List Convertible := scalars ++ pointers

/-- Tries each candidate bare and under one option. -/
def dispatch (t : HostType) (x : t.Carrier) :
    List Convertible → Option (Except AddressTooWide Word)
  | [] => none
  | s :: rest =>
    if h : t = s.1 then some (s.1.box s.2 (h ▸ x))
    else if h : t = .optional s.1 then some ((HostType.optional s.1).box s.2 (h ▸ x))
    else dispatch t x rest

/-- The dynamic conversion. -/
def box (t : HostType) (x : t.Carrier) : Except BoxFault Word :=
  match dispatch t x candidates with
  | some r => r.mapError .address
  | none => .error (.unsupported t)

end Dynamic

end QuietBox
