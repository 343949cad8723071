import QuietBox.Memory.Machine
import QuietBox.Proofs.Lookup
import QuietBox.Proofs.Results

/-!
What steps do. A step that succeeds leaves the machine as it is, puts a box into one register, or
changes one object in memory; `Effect` says which, and all else about runs follows from it. Runs
are taken apart at any point: what comes behind it depends on the machine there alone.
-/

set_option autoImplicit false

namespace QuietBox

namespace Step

/-- The register that a step puts a box into. -/
def target? : Step → Option String
  | set into _ => some into
  | copy _ into => some into
  | evaluate into _ => some into
  | pointTo into _ => some into
  | boxString into _ => some into
  | boxText into _ => some into
  | canonical _ into => some into
  | flip _ _ into => some into
  | retag _ into _ _ _ => some into
  | _ => none

/-- Objects come into being, or their content changes. -/
def changesMemory : Step → Bool
  | allocateCell _ => true
  | store _ _ => true
  | allocateText _ => true
  | poke _ _ _ => true
  | _ => false

theorem changesMemory_of_target? {s : Step} {into : String} (h : s.target? = some into) :
    s.changesMemory = false := by
  cases s <;> first | rfl | cases h

end Step

namespace Machine

/-- What a step that succeeds does to the machine, and what it gives. -/
inductive Effect (place : Placement) (m : Machine) : Step → Machine → Outcome → Prop
  | nothing {s : Step} {outcome : Outcome} : s.changesMemory = false → Effect place m s m outcome
  | box {s : Step} {into : String} (w : Word) :
      s.target? = some into → Effect place m s (m.put into w) (.view (m.view place w))
  | allocateCell {value : Word} {a : Address} :
      place.address? (.cell m.memory.cells.length) = some a →
      Effect place m (.allocateCell value)
        { m with memory := { m.memory with cells := m.memory.cells ++ [value] } }
        (.number m.memory.cells.length)
  | store {cell : Nat} {value : Word} : cell < m.memory.cells.length →
      Effect place m (.store cell value)
        { m with memory := { m.memory with cells := m.memory.cells.set cell value } } .done
  | allocateText {bytes : List UInt8} {a : Address} :
      place.address? (.text m.memory.texts.length) = some a →
      Effect place m (.allocateText bytes)
        { m with memory := { m.memory with texts := m.memory.texts ++ [bytes] } }
        (.number m.memory.texts.length)
  | poke {text index : Nat} {byte : UInt8} {bytes : List UInt8} :
      m.memory.texts[text]? = some bytes → index < bytes.length →
      Effect place m (.poke text index byte)
        { m with memory :=
          { m.memory with texts := m.memory.texts.set text (bytes.set index byte) } } .done

variable {place : Placement} {m next : Machine} {s : Step} {outcome : Outcome}

theorem effect_of_assign {α : Type} {x : Except StepFault α} {word : α → Word} {into : String}
    (target : s.target? = some into)
    (h : (do return m.assign place into (word (← x))) = .ok (next, outcome)) :
    Effect place m s next outcome := by
  obtain ⟨a, -, given⟩ := bind_eq_ok_iff.mp h
  cases pure_eq_ok_iff.mp given
  exact .box (word a) target

theorem effect_of_step (h : m.step place s = .ok (next, outcome)) :
    Effect place m s next outcome := by
  cases s with
  | set into c => exact effect_of_assign rfl h
  | copy source into => exact effect_of_assign rfl h
  | evaluate into line => exact effect_of_assign rfl h
  | pointTo into cell => exact effect_of_assign rfl h
  | boxString into text => exact effect_of_assign rfl h
  | boxText into text => exact effect_of_assign rfl h
  | canonical source into => exact effect_of_assign rfl h
  | flip source mask into => exact effect_of_assign rfl h
  | retag source into tag signature payload =>
    obtain ⟨w, -, given⟩ := bind_eq_ok_iff.mp h
    -- A double has no fields to replace, so this step alone may leave its target alone.
    split at given
    · cases given
      exact .nothing rfl
    · cases pure_eq_ok_iff.mp given
      exact .box _ rfl
  | allocateCell value =>
    simp only [step, allocate] at h
    split at h
    · rename_i a placed
      cases h
      exact .allocateCell placed
    · cases h
  | store cell value =>
    simp only [step] at h
    split at h
    · cases h
      exact .store ‹_›
    · cases h
  | allocateText bytes =>
    simp only [step, allocate] at h
    split at h
    · rename_i a placed
      cases h
      exact .allocateText placed
    · cases h
  | poke text index byte =>
    simp only [step] at h
    split at h
    · cases h
    · split at h
      · cases h
        exact .poke ‹_› ‹_›
      · cases h
  | load source =>
    obtain ⟨w, -, rest⟩ := bind_eq_ok_iff.mp h
    obtain ⟨a, -, given⟩ := bind_eq_ok_iff.mp rest
    split at given
    · cases given
      exact .nothing rfl
    · cases given
  | chars source =>
    obtain ⟨w, -, rest⟩ := bind_eq_ok_iff.mp h
    obtain ⟨a, -, given⟩ := bind_eq_ok_iff.mp rest
    split at given
    · cases given
      exact .nothing rfl
    · cases given
  | render source =>
    obtain ⟨w, -, given⟩ := bind_eq_ok_iff.mp h
    split at given
    · cases given
    · split at given
      · cases given
        exact .nothing rfl
      · cases given
  | equal left right =>
    obtain ⟨a, -, rest⟩ := bind_eq_ok_iff.mp h
    obtain ⟨b, -, given⟩ := bind_eq_ok_iff.mp rest
    cases given
    exact .nothing rfl
  | distinct =>
    cases h
    exact .nothing rfl
  | dump =>
    cases h
    exact .nothing rfl

section Registers

@[simp] theorem get?_put (m : Machine) (name : String) (w : Word) :
    (m.put name w).get? name = some w := by
  simp only [get?, put, List.lookup_cons_self]

theorem get?_put_of_ne {name into : String} (other : name ≠ into) (m : Machine) (w : Word) :
    (m.put into w).get? name = m.get? name := by
  simp only [get?, put, List.lookup_cons, beq_eq_false_iff_ne.mpr other]
  exact lookup_filter_of_keeps (fun _ => decide_eq_true other) m.registers

end Registers

namespace Effect

variable (e : Effect place m s next outcome)

include e

theorem registers_eq (h : s.changesMemory) : next.registers = m.registers := by
  cases e with
  | nothing => rfl
  | box w target => cases (Step.changesMemory_of_target? target).symm.trans h
  | allocateCell => rfl
  | store => rfl
  | allocateText => rfl
  | poke => rfl

theorem memory_eq (h : s.changesMemory = false) : next.memory = m.memory := by
  cases e with
  | nothing => rfl
  | box => rfl
  | allocateCell => cases h
  | store => cases h
  | allocateText => cases h
  | poke => cases h

theorem get?_eq {name : String} (other : s.target? ≠ some name) : next.get? name = m.get? name := by
  cases e with
  | nothing => rfl
  | box w target =>
    have apart : name ≠ _ := fun same => other (same ▸ target)
    exact get?_put_of_ne apart m w
  | allocateCell => rfl
  | store => rfl
  | allocateText => rfl
  | poke => rfl

end Effect

section Runs

theorem run_cons_of_ok (h : m.step place s = .ok (next, outcome)) (steps : List Step) :
    run place m (s :: steps) = .ok outcome :: run place next steps := by
  simp only [run, h]

theorem run_cons_of_error {fault : StepFault} (h : m.step place s = .error fault)
    (steps : List Step) : run place m (s :: steps) = .error fault :: run place m steps := by
  simp only [run, h]

theorem after_cons_of_ok (h : m.step place s = .ok (next, outcome)) (steps : List Step) :
    after place m (s :: steps) = after place next steps := by
  simp only [after, h]

theorem after_cons_of_error {fault : StepFault} (h : m.step place s = .error fault)
    (steps : List Step) : after place m (s :: steps) = after place m steps := by
  simp only [after, h]

theorem after_append (m : Machine) (steps more : List Step) :
    after place m (steps ++ more) = after place (after place m steps) more := by
  induction steps generalizing m with
  | nil => rfl
  | cons s steps ih =>
    simp only [List.cons_append, after]
    cases m.step place s with
    | ok result => exact ih result.1
    | error fault => exact ih m

theorem run_append (m : Machine) (steps more : List Step) :
    run place m (steps ++ more) =
      run place m steps ++ run place (after place m steps) more := by
  induction steps generalizing m with
  | nil => rfl
  | cons s steps ih =>
    simp only [List.cons_append, run, after]
    cases m.step place s with
    | ok result => exact congrArg _ (ih result.1)
    | error fault => exact congrArg _ (ih m)

/-- What one step preserves, a run preserves. -/
theorem after_induction {p : Machine → Prop}
    (kept : ∀ m s next outcome, p m → m.step place s = .ok (next, outcome) → p next)
    (start : p m) (steps : List Step) : p (after place m steps) := by
  induction steps generalizing m with
  | nil => exact start
  | cons s steps ih =>
    cases given : m.step place s with
    | ok result =>
      rw [after_cons_of_ok given]
      exact ih (kept m s result.1 result.2 start given)
    | error fault =>
      rw [after_cons_of_error given]
      exact ih start

end Runs

end Machine

end QuietBox
