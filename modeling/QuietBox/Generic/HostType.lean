import QuietBox.Double.Single
import QuietBox.Word.Boxing

/-!
Host types: the types of values that a host program may offer for boxing, their full names, and the
values of each. Values of a type without a constructor here are not looked at.
-/

set_option autoImplicit false

namespace QuietBox

/-- The widths of integers. -/
inductive IntWidth where
  | w8
  | w16
  | w32
  | w64
deriving DecidableEq, Repr

def IntWidth.bits : IntWidth → Nat
  | w8 => 8
  | w16 => 16
  | w32 => 32
  | w64 => 64

/-- What may be done through a pointer. -/
inductive PointerForm where
  | reading
  | writing
  | nonNull
deriving DecidableEq, Repr

inductive HostType where
  | double
  | single
  | unsigned (width : IntWidth)
  | signed (width : IntWidth)
  | bool
  | unit
  /-- A borrowed text that ends at a NUL. -/
  | text
  | pointer (form : PointerForm) (pointee : HostType)
  | optional (inner : HostType)
  | other (fullName : String)
deriving DecidableEq, Repr

namespace HostType

private def widthText (w : IntWidth) : String := String.ofList (Numeral.decimal w.bits)

/-- The full name of a type. -/
def fullName : HostType → String
  | double => "f64"
  | single => "f32"
  | unsigned w => "u" ++ widthText w
  | signed w => "i" ++ widthText w
  | bool => "bool"
  | unit => "()"
  | text => "&core::ffi::c_str::CStr"
  | pointer .reading t => "*const " ++ t.fullName
  | pointer .writing t => "*mut " ++ t.fullName
  | pointer .nonNull t => "core::ptr::non_null::NonNull<" ++ t.fullName ++ ">"
  | optional t => "core::option::Option<" ++ t.fullName ++ ">"
  | other name => name

/-- The values of a type. -/
@[reducible] def Carrier : HostType → Type
  | double => Double
  | single => Single
  | unsigned w => BitVec w.bits
  | signed w => BitVec w.bits
  | bool => Bool
  | unit => Unit
  | text => Word
  | pointer _ _ => Word
  | optional t => Option t.Carrier
  | other _ => Unit

end HostType

end QuietBox
