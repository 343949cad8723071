import QuietBox.Double.Reader
import QuietBox.Kind
import QuietBox.Literal.Integer
import QuietBox.Word.Boxing

/-!
Failures: why a request was refused, as a chain of causes from the outermost context to the root.
The wording of every cause is in `Cause.message`.
-/

set_option autoImplicit false

namespace QuietBox

/-- Why a file cannot be written. -/
inductive FileFault where
  /-- The file or the directory it is to lie in is not there. -/
  | missing
  | directory
deriving DecidableEq, Repr

def FileFault.message : FileFault → String
  | missing => "No such file or directory (os error 2)"
  | directory => "Is a directory (os error 21)"

inductive Cause where
  | emptyInput
  | missingWord
  | missingKind
  | missingValue (kind : Kind)
  | unknownKind (text : String)
  | unknownRadix (text : String)
  | invalidRadixSetting
  | invalidDouble (text : String)
  | invalidWord (text : String)
  | unsupportedLiteral (text : String)
  | unsupportedInteger (text : String)
  | notBool
  | nulInText (position : Nat)
  | address (fault : AddressTooWide)
  | integer (fault : Literal.IntegerFault)
  | double (fault : DoubleFault)
  | file (fault : FileFault)
deriving DecidableEq, Repr

namespace Cause

private def literalText (text : String) : String := "unsupported literal `" ++ text ++ "`"

def message : Cause → String
  | emptyInput => "empty input"
  | missingWord => "decode: missing word"
  | missingKind => "encode: missing kind"
  | missingValue kind => kind.label ++ ": missing value"
  | unknownKind text => "unknown kind `" ++ text ++ "`"
  | unknownRadix text => "unknown radix `" ++ text ++ "`, expecting `hex` or `bin`"
  | invalidRadixSetting => "invalid NANBOX_RADIX setting"
  | invalidDouble text => "invalid double `" ++ text ++ "`"
  | invalidWord text => "invalid word `" ++ text ++ "`"
  | unsupportedLiteral text => literalText text
  | unsupportedInteger text => literalText text ++ ": integer does not fit in u32 or i32"
  | notBool => "provided string was not `true` or `false`"
  | nulInText position =>
    "nul byte found in provided data at position: " ++ String.ofList (Numeral.decimal position)
  | address fault => fault.message
  | integer fault => fault.message
  | double fault => fault.message
  | file fault => fault.message

end Cause

/-- A chain of causes, the outermost first; it is never empty. -/
structure Failure where
  top : Cause
  below : List Cause
deriving DecidableEq, Repr

namespace Failure

/-- A failure with one cause. -/
def of (c : Cause) : Failure := ⟨c, []⟩

/-- The failure under a further context. -/
def within (context : Cause) (f : Failure) : Failure := ⟨context, f.top :: f.below⟩

def chain (f : Failure) : List Cause := f.top :: f.below

/-- The messages of the chain. -/
def messages (f : Failure) : List String := f.chain.map Cause.message

/-- The chain on one line. -/
def message (f : Failure) : String := ": ".intercalate f.messages

/-- A message as an entry of a list, its further lines indented like its first. -/
private def entry (head : List Char) (message : String) : List Char :=
  let indent := List.replicate head.length ' '
  head ++ ('\n' :: indent).intercalate (message.toList.splitOn '\n') ++ ['\n']

/-- The number of a cause, right-aligned in five places. -/
private def numbered (i : Nat) : List Char :=
  let digits := Numeral.decimal i
  List.replicate (5 - digits.length) ' ' ++ digits ++ [':', ' ']

/-- The chain as a block: the top on the first line and the causes below it, numbered if there are
several. -/
def block (f : Failure) : String :=
  let causes :=
    match f.below with
    | [] => ""
    | [c] => "\nCaused by:\n" ++ String.ofList (entry [' ', ' ', ' ', ' '] c.message)
    | cs =>
      let entries := cs.mapIdx fun i c => entry (numbered i) c.message
      "\nCaused by:\n" ++ String.ofList entries.flatten
  "Error: " ++ f.top.message ++ "\n" ++ causes

end Failure

end QuietBox
