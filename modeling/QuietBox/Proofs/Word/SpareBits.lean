import QuietBox.Proofs.Word.Reserved

/-!
The spare bits of integer words. An integer fills the low 32 bits of its payload, so bits 47 to 32
carry nothing; a word that has one of them set still reads as an integer, and clearing them gives
the word of that integer.
-/

set_option autoImplicit false

namespace QuietBox.Word

/-- Bits 47 to 32. -/
def spareMask : Word := 0x0000FFFF00000000

/-- The word with its spare bits cleared. -/
def clearSpare (w : Word) : Word := w &&& ~~~spareMask

/-- An integer word with a spare bit set. -/
def IsDirty (w : Word) : Prop := (w.isUint ∨ w.isSint) ∧ w &&& spareMask ≠ 0

theorem getLsbD_spareMask (i : Nat) :
    spareMask.getLsbD i = (decide (32 ≤ i) && decide (i < 48)) := by
  by_cases inside : i < 64
  · have bits : ∀ k : Fin 64,
        spareMask.getLsbD k = (decide (32 ≤ k.val) && decide (k.val < 48)) := by
      decide
    exact bits ⟨i, inside⟩
  · rw [BitVec.getLsbD_of_ge _ _ (by omega), decide_eq_false (show ¬i < 48 by omega),
      Bool.and_false]

/-- The spare bits are the upper part of the payload. -/
theorem toNat_and_spareMask (w : Word) :
    (w &&& spareMask).toNat = w.payload / 0x100000000 * 0x100000000 := by
  have payload : w.payload / 0x100000000 * 0x100000000 = w.toNat % 2 ^ 48 / 2 ^ 32 * 2 ^ 32 := rfl
  rw [payload]
  apply Nat.eq_of_testBit_eq
  intro i
  rw [BitVec.testBit_toNat, BitVec.getLsbD_and, getLsbD_spareMask, Nat.testBit_mul_two_pow,
    Nat.testBit_div_two_pow, Nat.testBit_mod_two_pow, BitVec.testBit_toNat]
  by_cases low : 32 ≤ i
  · simp only [low, show i - 32 + 32 = i by omega, decide_true, Bool.true_and]
    exact Bool.and_comm _ _
  · simp only [low, decide_false, Bool.false_and, Bool.and_false]

theorem and_spareMask_eq_zero_iff (w : Word) :
    w &&& spareMask = 0 ↔ w.payload < 0x100000000 := by
  rw [← BitVec.toNat_inj]
  change (w &&& spareMask).toNat = 0 ↔ _
  rw [toNat_and_spareMask]
  omega

theorem clearSpare_add (w : Word) : w.clearSpare + (w &&& spareMask) = w := by
  have disjoint : w.clearSpare &&& (w &&& spareMask) = 0 := by
    rw [clearSpare, BitVec.and_comm w spareMask, BitVec.and_assoc, ← BitVec.and_assoc _ spareMask,
      BitVec.not_and_self]
    exact (congrArg (w &&& ·) BitVec.zero_and).trans BitVec.and_zero
  rw [BitVec.add_eq_or_of_and_eq_zero _ _ disjoint, clearSpare, ← BitVec.and_or_distrib_left,
    BitVec.not_or_self, BitVec.and_allOnes]

@[simp] theorem clearSpare_reserved (t : Tag) (p : Nat) :
    (reserved t p).clearSpare = reserved t (p % 0x100000000) := by
  have sum := congrArg BitVec.toNat (clearSpare_add (reserved t p))
  have spare := toNat_and_spareMask (reserved t p)
  have bound := (reserved t p).clearSpare.isLt
  have ht := t.toNat_lt
  apply BitVec.eq_of_toNat_eq
  rw [payload_reserved] at spare
  rw [BitVec.toNat_add, spare, toNat_reserved] at sum
  rw [toNat_reserved]
  simp only [reservedSignature] at *
  omega

theorem isDirty_reserved (t : Tag) (p : Nat) :
    (reserved t p).IsDirty ↔ (t = .uint ∨ t = .sint) ∧ 0x100000000 ≤ p % 0x1000000000000 := by
  rw [IsDirty, ne_eq, and_spareMask_eq_zero_iff, payload_reserved, Nat.not_lt]
  simp only [isUint, isSint, hasTag_reserved, decide_eq_true_eq]

theorem not_isDirty_of_unreserved {w : Word} (h : w.signature ≠ reservedSignature) :
    ¬w.IsDirty := by
  rintro ⟨isUint | isSint, -⟩
  · exact Bool.false_ne_true ((hasTag_of_unreserved h .uint).symm.trans isUint)
  · exact Bool.false_ne_true ((hasTag_of_unreserved h .sint).symm.trans isSint)

theorem clearSpare_of_not_isDirty {w : Word} (integer : w.isUint ∨ w.isSint) (clean : ¬w.IsDirty) :
    w.clearSpare = w := by
  have spare : w &&& spareMask = 0 := by
    apply Classical.byContradiction
    intro set
    exact clean ⟨integer, set⟩
  have whole := w.clearSpare_add
  rw [spare] at whole
  exact (BitVec.add_zero _).symm.trans whole

end QuietBox.Word
