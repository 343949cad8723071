import QuietBox.Proofs.Word.Reserved

/-!
Checked accessors. Each one is decided by a single predicate of the word: where that holds it gives
the unchecked reading, and elsewhere it names what it asked for and what the word holds.
-/

set_option autoImplicit false

namespace QuietBox.Word

variable (w : Word)

/-- The predicate that decides an accessor. -/
def answers : Access → Bool
  | .double => w.isDouble
  | .bool => w.isBool
  | .uint => w.isUint
  | .sint => w.isSint
  | .pointer => w.isPointer
  | .string => w.isString

/-- An accessor succeeds exactly when a predicate holds, and otherwise it names what it asks for and
what the word holds. -/
def DecidedBy {α : Type} (a : Access) (holds : Bool) (result : Except Mismatch α) : Prop :=
  ((∃ x, result = .ok x) ↔ holds) ∧ (¬holds → result = .error ⟨a, w.typeName⟩)

theorem decidedBy_ite {α : Type} (a : Access) (holds : Bool) (x : α) :
    w.DecidedBy a holds (if holds then .ok x else .error ⟨a, w.typeName⟩) := by
  cases holds with
  | false => exact ⟨by simp, fun _ => rfl⟩
  | true => exact ⟨by simp, fun refused => absurd rfl refused⟩

theorem asDouble_eq :
    w.asDouble = if w.isDouble then .ok w.toDouble else .error ⟨.double, w.typeName⟩ := rfl

theorem asBool_eq :
    w.asBool = if w.isBool then .ok w.isTrue else .error ⟨.bool, w.typeName⟩ := rfl

theorem asUint_eq :
    w.asUint = if w.isUint then .ok w.toUint else .error ⟨.uint, w.typeName⟩ := rfl

theorem asSint_eq :
    w.asSint = if w.isSint then .ok w.toSint else .error ⟨.sint, w.typeName⟩ := rfl

theorem asPointer_eq :
    w.asPointer = if w.isPointer then .ok w.address else .error ⟨.pointer, w.typeName⟩ := rfl

theorem asString_eq :
    w.asString = if w.isString then .ok w.address else .error ⟨.string, w.typeName⟩ := rfl

theorem mismatch?_eq (a : Access) :
    w.mismatch? a = if w.answers a then none else some ⟨a, w.typeName⟩ := by
  by_cases holds : w.answers a <;> cases a <;> simp only [answers] at holds <;>
    simp only [mismatch?, answers, asDouble_eq, asBool_eq, asUint_eq, asSint_eq, asPointer_eq,
      asString_eq, holds, Bool.false_eq_true, ↓reduceIte]

@[simp] theorem mismatch?_eq_none_iff (a : Access) : w.mismatch? a = none ↔ w.answers a := by
  rw [mismatch?_eq]
  split <;> simp_all

end QuietBox.Word
