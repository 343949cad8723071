import QuietBox.Double.Text
import QuietBox.Format.Structure
import QuietBox.Word.Boxing

/-!
Texts of words, tags, tagged views and mismatches. The plain text of a word is what it holds:
doubles and integers honour the format spec, and all else is written whole. The structural text
names what it holds and applies the spec to the number inside.
-/

set_option autoImplicit false

namespace QuietBox

open Format (Spec Style Digits Structure)

/-- The shortest hexadecimal text of an address. -/
def Address.text (a : Address) : List Char := '0' :: 'x' :: Numeral.lowerHex a.toNat

namespace Double

/-- A NaN has no sign. -/
private def pad (d : Double) (s : Spec) (body : List Char) : List Char :=
  s.pad (if d.isNaN then [] else s.sign d.isNegative) body

/-- The plain text under a spec. -/
def plain (s : Spec) (d : Double) : List Char :=
  d.pad s (match s.precision with
    | some places => d.preciseText places
    | none => d.plainText)

/-- The structural text under a spec; a precision rules out exponents. -/
def structural (s : Spec) (d : Double) : List Char :=
  d.pad s (match s.precision with
    | some places => d.preciseText places
    | none => d.structuralText)

end Double

namespace Word

/-- Sixteen upper-case hexadecimal digits. -/
def hex (w : Word) : List Char := Numeral.zeroPadded 16 (Numeral.upperHex w.toNat)

/-- Sixty-four binary digits. -/
def bits (w : Word) : List Char := Numeral.zeroPadded 64 (Numeral.binary w.toNat)

/-- The plain text under a spec. -/
def plain (s : Spec) (w : Word) : List Char :=
  if w.isDouble then w.toDouble.plain s
  else
    let invalid := "<invalid 0x".toList ++ w.hex ++ ['>']
    match w.tagField with
    | .nan => invalid
    | .false => if w.isFalse then "false".toList else invalid
    | .true => if w.isTrue then "true".toList else invalid
    | .null => if w.isNull then "null".toList else invalid
    | .pointer => w.address.text
    | .string => "string@".toList ++ w.address.text
    | .uint => s.natural .decimal w.toUint.toNat
    | .sint => s.integer w.toSint.toInt

/-- The structure that structural text shows. -/
def toStructure (s : Spec) (digits : Digits) (w : Word) : Structure :=
  if w.isNan then .label "Nan"
  else if w.isDouble then .tuple "Double" (w.toDouble.structural s)
  else
    let invalid := Structure.tuple "Invalid" ('0' :: 'x' :: w.hex)
    match w.tagField with
    | .nan => invalid
    | .false => if w.isFalse then .label "False" else invalid
    | .true => if w.isTrue then .label "True" else invalid
    | .null => if w.isNull then .label "Null" else invalid
    | .pointer => .tuple "Pointer" w.address.text
    | .string => .tuple "String" w.address.text
    | .uint => .tuple "Uint" (s.natural digits w.toUint.toNat)
    | .sint =>
      .tuple "Sint" (match digits with
        | .decimal => s.integer w.toSint.toInt
        | _ => s.natural digits w.toUint.toNat)

/-- The text in a style under a spec. -/
def format (style : Style) (s : Spec) (w : Word) : List Char :=
  match style with
  | .plain => w.plain s
  | .structural digits => (w.toStructure s digits).text s.alternate

/-- The plain text without a spec. -/
def text (w : Word) : String := String.ofList (w.plain {})

/-- The structural text without a spec. -/
def structuralText (w : Word) : String := String.ofList (w.format (.structural .decimal) {})

end Word

/-- Both texts of a tag are written whole. -/
def Tag.format (style : Style) (t : Tag) : List Char :=
  match style with
  | .plain => t.name.toList
  | .structural _ => t.label.toList

/-- The structural text of a tagged view; the spec reaches its numbers. -/
def Tagged.structuralText (digits : Digits) (s : Spec) (t : Tagged) : List Char :=
  Structure.text s.alternate <| .record "Tagged"
    [("signature", s.natural digits t.signature),
     ("tag", t.tag.label.toList),
     ("payload", s.natural digits t.payload)]

/-- Both texts of a mismatch are written whole; its names are shown in quotes. -/
def Mismatch.format (style : Style) (s : Spec) (m : Mismatch) : List Char :=
  let quoted (name : String) : List Char := '"' :: name.toList ++ ['"']
  match style with
  | .plain => m.message.toList
  | .structural _ =>
    Structure.text s.alternate <| .record "TypeMismatch"
      [("expected", quoted m.expected.name), ("found", quoted m.found.text)]

end QuietBox
