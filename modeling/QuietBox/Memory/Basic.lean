import QuietBox.Text.Utf8
import QuietBox.Word.Text

/-!
Memory: the cells and texts that boxes may point to. A cell is one word; a text is bytes that end
at a NUL. Boxes hold addresses only, so reading through a box sees what memory holds at that time.
Where objects lie is a placement: any assignment of addresses that gives different objects
different ones.
-/

set_option autoImplicit false

namespace QuietBox

/-- A live object, by its number among its kind. -/
inductive Slot where
  | cell (index : Nat)
  | text (index : Nat)
deriving DecidableEq, Repr

def Slot.name : Slot → String
  | cell i => "cell" ++ String.ofList (Numeral.decimal i)
  | text i => "text" ++ String.ofList (Numeral.decimal i)

/-- Where objects lie; some may find no room. -/
structure Placement where
  address? : Slot → Option Address
  injective : ∀ s t a, address? s = some a → address? t = some a → s = t

/-- How far an object lies behind the first one when cells and texts lie side by side. -/
def Slot.offset : Slot → Nat
  | cell i => 32 * i
  | text i => 32 * i + 16

theorem Slot.eq_of_offset_eq {s t : Slot} (h : s.offset = t.offset) : s = t := by
  cases s with
  | cell i =>
    cases t with
    | cell j => congr 1; simp only [offset] at h; omega
    | text j => simp only [offset] at h; omega
  | text i =>
    cases t with
    | cell j => simp only [offset] at h; omega
    | text j => congr 1; simp only [offset] at h; omega

/-- Cells and texts side by side from one address upwards, as far as addresses go. -/
def Placement.sideBySide (base : Nat) : Placement where
  address? s := if h : base + s.offset < 0x1000000000000 then some ⟨base + s.offset, h⟩ else none
  injective := by
    intro s t a hs ht
    simp only [Option.dite_none_right_eq_some] at hs ht
    obtain ⟨_, hs⟩ := hs
    obtain ⟨_, ht⟩ := ht
    have same := congrArg Address.toNat (Option.some.inj (hs.trans ht.symm))
    exact Slot.eq_of_offset_eq (Nat.add_left_cancel same)

structure Memory where
  cells : List Word := []
  texts : List (List UInt8) := []
deriving DecidableEq, Repr

namespace Memory

/-- The live objects. -/
def slots (m : Memory) : List Slot :=
  (List.range m.cells.length).map .cell ++ (List.range m.texts.length).map .text

/-- The live object at an address. -/
def slotAt? (m : Memory) (place : Placement) (a : Address) : Option Slot :=
  m.slots.find? fun s => place.address? s = some a

/-- Bytes up to the first NUL. -/
def ended (bytes : List UInt8) : List UInt8 := bytes.takeWhile (· ≠ 0)

/-- The word in the cell at an address. -/
def cellAt? (m : Memory) (place : Placement) (a : Address) : Option Word :=
  match m.slotAt? place a with
  | some (.cell i) => m.cells[i]?
  | _ => none

/-- The bytes of the text at an address, up to its first NUL. -/
def textAt? (m : Memory) (place : Placement) (a : Address) : Option (List UInt8) :=
  match m.slotAt? place a with
  | some (.text i) => m.texts[i]?.map ended
  | _ => none

/-- The rendering of a word: the characters of the text that a string points to, whole, and the
plain text under the spec for all other words. -/
def render? (m : Memory) (place : Placement) (spec : Format.Spec) (w : Word) :
    Option (List Char) :=
  match w.asString with
  | .ok a => (m.textAt? place a).map Text.Utf8.decode
  | .error _ => some (w.plain spec)

end Memory

end QuietBox
