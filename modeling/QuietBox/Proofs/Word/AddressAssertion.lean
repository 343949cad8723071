import QuietBox.Proofs.Results
import QuietBox.Proofs.Word.Partition
import QuietBox.Word.Layout

/-!
The assertion on addresses. An address of at most 48 bits is boxed, and any other stops the boxing.
That an address fits is told in two ways, by masking its payload away and by shifting it out.
-/

set_option autoImplicit false

namespace QuietBox

section Checks

variable (a : Word)

/-- The assertion masks the payload away. -/
theorem Word.and_not_payloadMask_eq_zero_iff :
    a &&& ~~~Layout.payloadMask = 0 ↔ a.toNat < 0x1000000000000 := by
  have upper : ~~~Layout.payloadMask = Layout.signatureMask := BitVec.not_not
  have zero : (0 : Word).toNat = 0 := rfl
  rw [upper, ← BitVec.toNat_inj, Layout.toNat_and_signatureMask, zero]
  omega

/-- The check of literals shifts the payload out. -/
theorem Word.ushiftRight_48_eq_zero_iff : a >>> 48 = 0 ↔ a.toNat < 0x1000000000000 := by
  rw [← BitVec.toNat_inj, BitVec.toNat_ushiftRight, Nat.shiftRight_eq_div_pow]
  change a.toNat / 0x1000000000000 = 0 ↔ _
  omega

variable {a}

theorem Address.ofWord_of_lt (small : a.toNat < 0x1000000000000) :
    ofWord a = .ok ⟨a.toNat, small⟩ :=
  dif_pos small

theorem Address.ofWord_of_le (wide : 0x1000000000000 ≤ a.toNat) : ofWord a = .error ⟨a⟩ :=
  dif_neg (Nat.not_lt.mpr wide)

theorem Address.ofWord_eq_error_iff {fault : AddressTooWide} :
    ofWord a = .error fault ↔ fault.address = a ∧ 0x1000000000000 ≤ a.toNat := by
  by_cases small : a.toNat < 0x1000000000000
  · rw [ofWord_of_lt small]
    constructor
    · intro stopped
      cases stopped
    · intro wide
      omega
  · rw [ofWord_of_le (by omega), Except.error.injEq]
    constructor
    · intro same
      rw [← same]
      exact ⟨rfl, by omega⟩
    · intro same
      rw [← same.1]

theorem Word.pointerTo_of_lt (small : a.toNat < 0x1000000000000) :
    pointerTo a = .ok (ofPointer ⟨a.toNat, small⟩) := by
  rw [pointerTo, Address.ofWord_of_lt small]
  rfl

theorem Word.stringAt_of_lt (small : a.toNat < 0x1000000000000) :
    stringAt a = .ok (ofString ⟨a.toNat, small⟩) := by
  rw [stringAt, Address.ofWord_of_lt small]
  rfl

end Checks

/-- A boxing of addresses stops at those of more than 48 bits, and the box of any other holds it. -/
structure AssertsExactly (box : Word → Except AddressTooWide Word)
    (read : Word → Except Mismatch Address) (a : Word) : Prop where
  stops_iff : box a = .error ⟨a⟩ ↔ 0x1000000000000 ≤ a.toNat
  boxes_iff : (∃ w, box a = .ok w) ↔ a.toNat < 0x1000000000000
  held : ∀ w, box a = .ok w → w.address.toNat = a.toNat ∧ read w = .ok w.address

theorem assertsExactly_of_put {put : Address → Word} {read : Word → Except Mismatch Address}
    (kept : ∀ b, (put b).address = b) (back : ∀ b, read (put b) = .ok b) (a : Word) :
    AssertsExactly (fun a => (Address.ofWord a).map put) read a := by
  by_cases small : a.toNat < 0x1000000000000
  · have boxed : (Address.ofWord a).map put = .ok (put ⟨a.toNat, small⟩) := by
      rw [Address.ofWord_of_lt small]
      rfl
    constructor
    · rw [boxed]
      exact iff_of_false nofun (by omega)
    · rw [boxed]
      exact iff_of_true ⟨_, rfl⟩ small
    · intro w same
      rw [boxed] at same
      cases same
      rw [kept]
      exact ⟨rfl, back _⟩
  · have stopped : (Address.ofWord a).map put = .error ⟨a⟩ := by
      rw [Address.ofWord_of_le (by omega)]
      rfl
    constructor
    · rw [stopped]
      exact iff_of_true rfl (by omega)
    · rw [stopped]
      exact iff_of_false nofun small
    · intro w same
      rw [stopped] at same
      cases same

theorem Word.pointerTo_assertsExactly (a : Word) : AssertsExactly pointerTo asPointer a :=
  assertsExactly_of_put (Content.address_reserved .pointer)
    (fun b => Content.readFrom_toWord (c := .pointer b) trivial) a

theorem Word.stringAt_assertsExactly (a : Word) : AssertsExactly stringAt asString a :=
  assertsExactly_of_put (Content.address_reserved .string)
    (fun b => Content.readFrom_toWord (c := .string b) trivial) a

namespace Construction

/-- The machine address that is boxed, if it is one. -/
def address? : Construction → Option Word
  | pointer a => some a
  | string a => some a
  | _ => none

/-- Only an address that is too wide stops a boxing. -/
theorem build_eq_error_iff {c : Construction} {fault : AddressTooWide} :
    c.build = .error fault ↔
      c.address? = some fault.address ∧ 0x1000000000000 ≤ fault.address.toNat := by
  have assertion (a : Word) (put : Address → Word) :
      (Address.ofWord a).map put = .error fault ↔
        some a = some fault.address ∧ 0x1000000000000 ≤ fault.address.toNat := by
    rw [map_eq_error_iff, Address.ofWord_eq_error_iff, Option.some.injEq]
    constructor
    · rintro ⟨rfl, wide⟩
      exact ⟨rfl, wide⟩
    · rintro ⟨rfl, wide⟩
      exact ⟨rfl, wide⟩
  cases c with
  | pointer a => exact assertion a Word.ofPointer
  | string a => exact assertion a Word.ofString
  | _ => exact iff_of_false nofun nofun

end Construction

end QuietBox
