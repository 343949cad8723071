import QuietBox.Numeral

/-!
Integer literals: an optional sign and digits, read from the left. The first place where reading
cannot go on decides the fault: a character that is no digit, or a value that has left the range.
-/

set_option autoImplicit false

namespace QuietBox.Literal

/-- Why a text is no integer of the range asked for. -/
inductive IntegerFault where
  | empty
  | invalidDigit
  | tooLarge
  | tooSmall
deriving DecidableEq, Repr

def IntegerFault.message : IntegerFault → String
  | empty => "cannot parse integer from empty string"
  | invalidDigit => "invalid digit found in string"
  | tooLarge => "number too large to fit in target type"
  | tooSmall => "number too small to fit in target type"

/-- The value of digits after a value already read, while it stays within a limit. -/
def readDigits (base limit : Nat) (beyond : IntegerFault) (sum : Nat) :
    List Char → Except IntegerFault Nat
  | [] => .ok sum
  | c :: rest =>
    match Numeral.digitValue? base c with
    | none => .error .invalidDigit
    | some d =>
      let next := sum * base + d
      if next ≤ limit then readDigits base limit beyond next rest else .error beyond

/-- A natural number up to a limit, with an optional plus. -/
def readNatural (base limit : Nat) : List Char → Except IntegerFault Nat
  | [] => .error .empty
  | ['+'] => .error .invalidDigit
  | '+' :: digits => readDigits base limit .tooLarge 0 digits
  | digits => readDigits base limit .tooLarge 0 digits

/-- A decimal integer from `-(limit + 1)` to `limit`, with an optional sign. -/
def readInteger (limit : Nat) : List Char → Except IntegerFault Int
  | ['-'] => .error .invalidDigit
  | '-' :: digits => (readDigits 10 (limit + 1) .tooSmall 0 digits).map fun n => -(n : Int)
  | text => (readNatural 10 limit text).map fun n => (n : Int)

/-- An unsigned 32-bit literal. -/
def readUint (text : List Char) : Except IntegerFault UInt32 :=
  (readNatural 10 0xFFFFFFFF text).map UInt32.ofNat

/-- A signed 32-bit literal. -/
def readSint (text : List Char) : Except IntegerFault Int32 :=
  (readInteger 0x7FFFFFFF text).map Int32.ofInt

/-- At most one sign and then digits only, at least one. -/
def isInteger (text : List Char) : Bool :=
  let digits :=
    match text with
    | '-' :: rest => rest
    | '+' :: rest => rest
    | rest => rest
  !digits.isEmpty && digits.all Char.isDigit

end QuietBox.Literal
