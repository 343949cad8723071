import QuietBox.Format.Spec

/-!
The written form of a format spec for one value `v`: in braces, after a colon, an optional fill
character with an alignment, a sign, `#` for the alternate form, `0` for the zero flag, a width, a
point and a precision, and a mark for structural text. A count is a numeral, or `w` or `p` with a
dollar sign, which stand for numbers given beside the text. Such a number has at most sixteen bits.
-/

set_option autoImplicit false

namespace QuietBox.Format

/-- The numbers that named counts stand for. -/
structure Counts where
  width : Nat := 0
  precision : Nat := 0
deriving DecidableEq, Repr

/-- Why a text gives no spec. -/
inductive SpecFault where
  | malformed
  | countOutOfRange
deriving DecidableEq, Repr

def SpecFault.message : SpecFault → String
  | malformed => "Malformed format spec"
  | countOutOfRange => "Formatting argument out of range"

namespace SpecText

def align? : Char → Option Align
  | '<' => some .left
  | '^' => some .center
  | '>' => some .right
  | _ => none

/-- An alignment, with a fill character in front of it or alone. -/
def readAlign (spec : Spec) : List Char → Spec × List Char
  | c :: d :: rest =>
    match align? d, align? c with
    | some a, _ => ({ spec with fill := c, align := some a }, rest)
    | none, some a => ({ spec with align := some a }, d :: rest)
    | none, none => (spec, c :: d :: rest)
  | [c] =>
    match align? c with
    | some a => ({ spec with align := some a }, [])
    | none => (spec, [c])
  | [] => (spec, [])

/-- The sign, the alternate form and the zero flag, each if present. -/
def readFlags (spec : Spec) (text : List Char) : Spec × List Char :=
  let (spec, text) :=
    match text with
    | '+' :: rest => ({ spec with plus := true }, rest)
    | '-' :: rest => (spec, rest)
    | rest => (spec, rest)
  let (spec, text) :=
    match text with
    | '#' :: rest => ({ spec with alternate := true }, rest)
    | rest => (spec, rest)
  match text with
  | '0' :: rest => ({ spec with zero := true }, rest)
  | rest => (spec, rest)

/-- The greatest number that a named count stands for. -/
def countLimit : Nat := 0xFFFF

/-- A number that a named count stands for. -/
def named (n : Nat) : Except SpecFault (Option Nat) :=
  if n ≤ countLimit then .ok (some n) else .error .countOutOfRange

/-- A count, if the text starts with one. -/
def readCount (counts : Counts) (text : List Char) :
    Except SpecFault (Option Nat × List Char) :=
  match text with
  | 'w' :: '$' :: rest => (named counts.width).map (·, rest)
  | 'p' :: '$' :: rest => (named counts.precision).map (·, rest)
  | text =>
    let digits := text.takeWhile Char.isDigit
    if digits.isEmpty then .ok (none, text)
    else .ok (some (Nat.ofDigitChars 10 digits 0), text.dropWhile Char.isDigit)

/-- The mark at the end of a spec. -/
def style? : List Char → Option Style
  | [] => some .plain
  | ['?'] => some (.structural .decimal)
  | ['x', '?'] => some (.structural .lowerHex)
  | ['X', '?'] => some (.structural .upperHex)
  | _ => none

/-- What stands after the colon. -/
def readBody (counts : Counts) (text : List Char) : Except SpecFault (Style × Spec) := do
  let (spec, text) := readAlign {} text
  let (spec, text) := readFlags spec text
  let (width, text) ← readCount counts text
  let (precision, text) ← (match text with
    | '.' :: rest => readCount counts rest
    | rest => .ok (none, rest))
  match style? text with
  | some style => return (style, { spec with width := width.getD 0, precision := precision })
  | none => .error .malformed

/-- The style and spec of a text in braces. -/
def read (counts : Counts) : List Char → Except SpecFault (Style × Spec)
  | '\x7b' :: 'v' :: '\x7d' :: [] => .ok (.plain, {})
  | '\x7b' :: 'v' :: ':' :: rest =>
    if rest.getLast? = some '\x7d' then readBody counts rest.dropLast else .error .malformed
  | _ => .error .malformed

end SpecText

end QuietBox.Format
