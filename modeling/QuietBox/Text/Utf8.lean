/-!
UTF-8: the bytes of characters, and the characters of any bytes. Decoding never fails: each longest
run of bytes that begins a well-formed sequence but does not finish it, and each byte that begins
none, becomes one replacement character.
-/

set_option autoImplicit false

namespace QuietBox.Text.Utf8

/-- The bytes of a text. -/
def encode (text : List Char) : List UInt8 := text.flatMap String.utf8EncodeChar

/-- The replacement character U+FFFD. -/
def replacement : Char := Char.ofNat 0xFFFD

/-- A sequence that has begun: its bits so far, how many bytes are to come, and the least and the
greatest value of the next one. -/
structure Pending where
  bits : Nat
  more : Nat
  low : Nat
  high : Nat
deriving DecidableEq, Repr

/-- What the first byte of a sequence gives: characters to write and a sequence that has begun. The
ranges of the second byte rule out overlong forms, surrogates and values above U+10FFFF. -/
def start (b : Nat) : List Char × Option Pending :=
  if b < 0x80 then ([Char.ofNat b], none)
  else if b < 0xC2 then ([replacement], none)
  else if b < 0xE0 then ([], some ⟨b - 0xC0, 1, 0x80, 0xBF⟩)
  else if b = 0xE0 then ([], some ⟨0, 2, 0xA0, 0xBF⟩)
  else if b = 0xED then ([], some ⟨0xD, 2, 0x80, 0x9F⟩)
  else if b < 0xF0 then ([], some ⟨b - 0xE0, 2, 0x80, 0xBF⟩)
  else if b = 0xF0 then ([], some ⟨0, 3, 0x90, 0xBF⟩)
  else if b < 0xF4 then ([], some ⟨b - 0xF0, 3, 0x80, 0xBF⟩)
  else if b = 0xF4 then ([], some ⟨4, 3, 0x80, 0x8F⟩)
  else ([replacement], none)

/-- What the next byte gives. A byte out of range ends the sequence and begins another. -/
def step (pending : Option Pending) (b : Nat) : List Char × Option Pending :=
  match pending with
  | none => start b
  | some p =>
    if p.low ≤ b ∧ b ≤ p.high then
      let bits := p.bits * 64 + (b - 0x80)
      if p.more = 1 then ([Char.ofNat bits], none)
      else ([], some ⟨bits, p.more - 1, 0x80, 0xBF⟩)
    else
      let (text, next) := start b
      (replacement :: text, next)

/-- The characters of the bytes that follow. -/
def decodeFrom (pending : Option Pending) : List UInt8 → List Char
  | [] => if pending.isSome then [replacement] else []
  | b :: rest =>
    let (text, next) := step pending b.toNat
    text ++ decodeFrom next rest

/-- The characters of bytes, with replacements for what is not UTF-8. -/
def decode (bytes : List UInt8) : List Char := decodeFrom none bytes

end QuietBox.Text.Utf8
