import QuietBox.Numeral

/-!
Format specs: fill, alignment, sign, zero flag, width and precision, and how a number is padded by
them. A width is a least number of characters; zero means none. The zero flag puts zeros between the
sign and the digits and then fill and alignment do not count.
-/

set_option autoImplicit false

namespace QuietBox.Format

inductive Align where
  | left
  | center
  | right
deriving DecidableEq, Repr

/-- How structural text writes integers. -/
inductive Digits where
  | decimal
  | lowerHex
  | upperHex
deriving DecidableEq, Repr

/-- Plain text for readers, or structural text that shows constructors and fields. -/
inductive Style where
  | plain
  | structural (digits : Digits)
deriving DecidableEq, Repr

structure Spec where
  fill : Char := ' '
  align : Option Align := none
  plus : Bool := false
  alternate : Bool := false
  zero : Bool := false
  width : Nat := 0
  precision : Option Nat := none
deriving DecidableEq, Repr

namespace Spec

/-- The same spec without a width. -/
def unpadded (s : Spec) : Spec := { s with width := 0 }

/-- The sign of a number: a minus always, a plus on request. -/
def sign (s : Spec) (negative : Bool) : List Char :=
  if negative then ['-'] else if s.plus then ['+'] else []

/-- How many fill characters of `missing` stand on the left; numbers go to the right by default and
an odd one out goes to the right of centred text. -/
def leftFill (s : Spec) (missing : Nat) : Nat :=
  match s.align.getD .right with
  | .left => 0
  | .center => missing / 2
  | .right => missing

/-- A number padded to the width. The head (sign and base mark) stays in front of zeros. -/
def pad (s : Spec) (head body : List Char) : List Char :=
  let missing := s.width - (head.length + body.length)
  if s.zero then head ++ List.replicate missing '0' ++ body
  else
    let left := s.leftFill missing
    List.replicate left s.fill ++ head ++ body ++ List.replicate (missing - left) s.fill

/-- A natural number in the digits of a style; the alternate form marks hexadecimal digits. -/
def natural (s : Spec) (digits : Digits) (n : Nat) : List Char :=
  let mark := if s.alternate then ['0', 'x'] else []
  match digits with
  | .decimal => s.pad (s.sign false) (Numeral.decimal n)
  | .lowerHex => s.pad (s.sign false ++ mark) (Numeral.lowerHex n)
  | .upperHex => s.pad (s.sign false ++ mark) (Numeral.upperHex n)

/-- An integer in decimal. -/
def integer (s : Spec) (i : Int) : List Char :=
  s.pad (s.sign (i < 0)) (Numeral.decimal i.natAbs)

/-- A padded number is as long as the width asks for, or as it is without one. -/
theorem length_pad (s : Spec) (head body : List Char) :
    (s.pad head body).length = max s.width (head.length + body.length) := by
  have left : ∀ m, s.leftFill m ≤ m := by
    intro m
    unfold leftFill
    split <;> omega
  have := left (s.width - (head.length + body.length))
  unfold pad
  split <;> simp only [List.length_append, List.length_replicate] <;> omega

/-- Without a width nothing is added. -/
@[simp] theorem pad_unpadded (s : Spec) (head body : List Char) :
    s.unpadded.pad head body = head ++ body := by
  have left : s.unpadded.leftFill 0 = 0 := by
    unfold leftFill
    split <;> rfl
  simp [pad, unpadded] at left ⊢
  intro _
  exact left

end Spec

end QuietBox.Format
