import QuietBox.Literal.Quoting
import QuietBox.Literal.WordLiteral
import QuietBox.Radix
import QuietBox.Request
import QuietBox.Text.Quoted
import QuietBox.Word.Text

/-!
Reports: the answer to a request is a word with its rendering. A text literal is put into memory and
its address is boxed, so the report says which bytes lie there; where they are put is an argument.
-/

set_option autoImplicit false

namespace QuietBox

structure Report where
  word : Word
  rendering : String
  /-- The bytes at the address in the word, when a text was boxed. -/
  bytes? : Option (List UInt8) := none
deriving DecidableEq, Repr

namespace Report

/-- The report of a word that holds no text. -/
def ofWord (w : Word) : Report := { word := w, rendering := w.text }

private def failing {ε α : Type} (cause : ε → Cause) (r : Except ε α) : Except Failure α :=
  r.mapError fun e => .of (cause e)

/-- A value that the kind needs. -/
def required (kind : Kind) : Option String → Except Failure (List Char)
  | some value => .ok value.toList
  | none => .error (.of (.missingValue kind))

def readDouble (text : List Char) : Except Failure Double :=
  (failing .double (Double.read text)).mapError (.within (.invalidDouble (String.ofList text)))

def readBool (text : List Char) : Except Failure Bool :=
  if text = "true".toList then .ok true
  else if text = "false".toList then .ok false
  else .error (.of .notBool)

def readWord (text : List Char) : Except Failure Word :=
  (failing .integer (Literal.readWord text)).mapError
    (.within (.invalidWord (String.ofList (Literal.withoutUnderscores text))))

/-- The address in a word literal, which must leave the upper sixteen bits clear. -/
def readAddress (text : List Char) : Except Failure Address :=
  (readWord text).bind fun w => failing .address (Address.ofWord w)

/-- The bytes of a text literal without its quotes. -/
def readText (text : List Char) : Except Failure (List UInt8) :=
  failing .nulInText (Literal.textBytes (Literal.unquote text))

/-- A string box on a text at an address; its rendering shows the text in quotes. -/
def ofString (place : Address) (bytes : List UInt8) : Report where
  word := .ofString place
  rendering := String.ofList (Text.Quoted.encode (Text.Utf8.decode bytes))
  bytes? := some bytes

/-- A pointer box on a text at an address. -/
def ofTextPointer (place : Address) (bytes : List UInt8) : Report :=
  { ofWord (.ofPointer place) with bytes? := some bytes }

/-- The kind of a literal is told from its form: a word for itself, quoted text a pointer to it, an
integer signed when it has a minus and unsigned otherwise, and all else a double. -/
def auto (place : Address) (literal : List Char) : Except Failure Report :=
  if literal = "null".toList then .ok (ofWord .null)
  else if literal = "true".toList then .ok (ofWord (.ofBool true))
  else if literal = "false".toList then .ok (ofWord (.ofBool false))
  else if Literal.isQuoted literal then (readText literal).map (ofTextPointer place)
  else
    let text := String.ofList literal
    let signed? := if literal.head? = some '-' then (Literal.readSint literal).toOption else none
    match signed?, Literal.readUint literal with
    | some n, _ => .ok (ofWord (.ofSint n))
    | none, .ok n => .ok (ofWord (.ofUint n))
    | none, .error _ =>
      if Literal.isInteger literal then .error (.of (.unsupportedInteger text))
      else
        ((readDouble literal).map fun d => ofWord (.ofDouble d)).mapError
          (.within (.unsupportedLiteral text))

/-- Boxes a literal of a kind. -/
def encode (place : Address) (kind : Kind) (value : Option String) : Except Failure Report := do
  let literal := required kind value
  match kind with
  | .double => return ofWord (.ofDouble (← readDouble (← literal)))
  | .nan => return ofWord .nan
  | .bool => return ofWord (.ofBool (← readBool (← literal)))
  | .null => return ofWord .null
  | .uint => return ofWord (.ofUint (← failing .integer (Literal.readUint (← literal))))
  | .sint => return ofWord (.ofSint (← failing .integer (Literal.readSint (← literal))))
  | .pointer => return ofWord (.ofPointer (← readAddress (← literal)))
  | .string => return ofString place (← readText (← literal))
  | .auto => auto place (← literal)

/-- Tells what a word holds. -/
def decode (text : String) : Except Failure Report := (readWord text.toList).map ofWord

/-- The answer to a request. -/
def ofRequest (place : Address) : Request → Except Failure Report
  | .encode kind value => encode place kind value
  | .decode word => decode word

/-- The answer to a line. -/
def ofLine (place : Address) (line : String) : Except Failure Report :=
  (Request.ofLine line).bind (ofRequest place)

/-- A word in a radix, all its digits written. -/
def wordText (radix : Radix) (w : Word) : List Char :=
  match radix with
  | .hex => '0' :: 'x' :: w.hex
  | .bin => '0' :: 'b' :: w.bits

/-- The fields of a tagged word in brackets. -/
def fieldsText (t : Tagged) : List Char :=
  "  [signature=0x".toList ++ Numeral.zeroPadded 4 (Numeral.lowerHex t.signature) ++
    " tag=".toList ++ t.tag.name.toList ++
    " payload=0x".toList ++ Numeral.zeroPadded 12 (Numeral.lowerHex t.payload) ++ [']']

/-- A type name on the left of seven places. -/
def typeColumn (name : TypeName) : List Char :=
  let text := name.text.toList
  text ++ List.replicate (7 - text.length) ' '

/-- The report on one line: word, type name, rendering, and the fields of a tagged word. -/
def line (radix : Radix) (r : Report) : String :=
  String.ofList <|
    wordText radix r.word ++ ' ' :: ' ' :: typeColumn r.word.typeName ++
      ' ' :: r.rendering.toList ++
      (match r.word.tagged? with
        | some t => fieldsText t
        | none => [])

end Report

end QuietBox
