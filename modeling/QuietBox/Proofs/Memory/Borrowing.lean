import QuietBox.Proofs.Memory.Steps
import QuietBox.Proofs.Text.Utf8Reading
import QuietBox.Proofs.Word.Partition

/-!
Boxes borrow. What memory holds after any steps is told by the steps that succeeded: the value last
stored in a cell, and a text with all changes of its bytes. A box that holds the address of a live
object reads exactly that, however the box came about and whatever it held when it was made.
-/

set_option autoImplicit false

namespace QuietBox

namespace Memory

variable {place : Placement} {m : Memory}

@[simp] theorem cell_mem_slots {i : Nat} : .cell i ∈ m.slots ↔ i < m.cells.length := by
  simp [slots]

@[simp] theorem text_mem_slots {i : Nat} : .text i ∈ m.slots ↔ i < m.texts.length := by
  simp [slots]

/-- Live objects lie apart, so an address finds the one that lies there. -/
theorem slotAt?_of_mem {slot : Slot} {a : Address} (live : slot ∈ m.slots)
    (placed : place.address? slot = some a) : m.slotAt? place a = some slot := by
  cases found : m.slotAt? place a with
  | none =>
    have apart := List.find?_eq_none.mp found slot live
    simp only [placed, decide_true, not_true_eq_false] at apart
  | some other =>
    have same := List.find?_some found
    simp only [decide_eq_true_eq] at same
    rw [place.injective other slot a same placed]

theorem textAt?_of_placed {i : Nat} {a : Address} {bytes : List UInt8}
    (placed : place.address? (.text i) = some a) (found : m.texts[i]? = some bytes) :
    m.textAt? place a = some (ended bytes) := by
  have live : .text i ∈ m.slots := text_mem_slots.mpr (List.getElem?_eq_some_iff.mp found).1
  simp only [textAt?, slotAt?_of_mem live placed, found, Option.map_some]

end Memory

namespace Machine

section History

/-- A step that succeeded, with what it gave. -/
abbrev Event := Step × Outcome

/-- The steps that succeeded, in order. -/
def accepted : List Step → List (Except StepFault Outcome) → List Event
  | s :: steps, .ok outcome :: outcomes => (s, outcome) :: accepted steps outcomes
  | _ :: steps, .error _ :: outcomes => accepted steps outcomes
  | _, _ => []

/-- The value that an event puts into a cell. -/
def written? (cell : Nat) : Event → Option Word
  | (.allocateCell value, .number new) => if new = cell then some value else none
  | (.store target value, _) => if target = cell then some value else none
  | _ => none

/-- The value last put into a cell. -/
def lastWritten? (cell : Nat) (events : List Event) : Option Word :=
  events.reverse.findSome? (written? cell)

/-- The bytes of a text behind an event, from the bytes before it. -/
def textAfter (text : Nat) (before : Option (List UInt8)) : Event → Option (List UInt8)
  | (.allocateText bytes, .number new) => if new = text then some bytes else before
  | (.poke target index byte, _) =>
    if target = text then before.map (·.set index byte) else before
  | _ => before

/-- The bytes of a text with all changes made to them. -/
def currentText? (text : Nat) (events : List Event) : Option (List UInt8) :=
  events.foldl (textAfter text) none

theorem lastWritten?_cons (cell : Nat) (event : Event) (events : List Event) :
    lastWritten? cell (event :: events) =
      (lastWritten? cell events).or (written? cell event) := by
  simp only [lastWritten?, List.reverse_cons, List.findSome?_append, List.findSome?_cons,
    List.findSome?_nil]
  cases written? cell event <;> rfl

end History

section Memory

variable {place : Placement} {m next : Machine} {s : Step} {outcome : Outcome}

theorem written?_of_keeps (h : s.changesMemory = false) (cell : Nat) :
    written? cell (s, outcome) = none := by
  cases s <;> first | rfl | cases h

theorem textAfter_of_keeps (h : s.changesMemory = false) (text : Nat)
    (before : Option (List UInt8)) : textAfter text before (s, outcome) = before := by
  cases s <;> first | rfl | cases h

/-- An object comes into being behind all others of its kind. -/
theorem getElem?_concat {α : Type} (l : List α) (a : α) (i : Nat) :
    (l ++ [a])[i]? = if l.length = i then some a else l[i]? := by
  by_cases new : l.length = i
  · subst new
    simp only [List.getElem?_concat_length, ↓reduceIte]
  · rw [if_neg new, List.getElem?_append]
    split
    · rfl
    · rw [List.getElem?_eq_none (by simp only [List.length_singleton]; omega),
        List.getElem?_eq_none (by omega)]

theorem Effect.cell_eq (e : Effect place m s next outcome) (i : Nat) :
    next.memory.cells[i]? = (written? i (s, outcome)).or m.memory.cells[i]? := by
  cases e with
  | nothing keeps => rw [written?_of_keeps keeps, Option.none_or]
  | box w target =>
    rw [written?_of_keeps (Step.changesMemory_of_target? target), Option.none_or]
    rfl
  | allocateCell =>
    rw [getElem?_concat, written?]
    split <;> rfl
  | store live =>
    simp only [List.getElem?_set, live, ↓reduceIte, written?]
    split <;> rfl
  | allocateText => rfl
  | poke => rfl

theorem Effect.text_eq (e : Effect place m s next outcome) (i : Nat) :
    next.memory.texts[i]? = textAfter i m.memory.texts[i]? (s, outcome) := by
  cases e with
  | nothing keeps => rw [textAfter_of_keeps keeps]
  | box w target =>
    rw [textAfter_of_keeps (Step.changesMemory_of_target? target)]
    rfl
  | allocateCell => rfl
  | store => rfl
  | allocateText => rw [getElem?_concat, textAfter]
  | poke found inside =>
    rename_i text index byte bytes
    have live : text < m.memory.texts.length := (List.getElem?_eq_some_iff.mp found).1
    by_cases same : text = i
    · subst same
      simp only [List.getElem?_set, live, ↓reduceIte, textAfter, found, Option.map_some]
    · simp only [List.getElem?_set, same, ↓reduceIte, textAfter]

/-- A cell holds what was last put into it. A step that fails drops out of both sides, and any
other one writes to the cell before the steps behind it do. -/
theorem cell_after (m : Machine) (steps : List Step) (i : Nat) :
    (after place m steps).memory.cells[i]? =
      (lastWritten? i (accepted steps (run place m steps))).or m.memory.cells[i]? := by
  induction steps generalizing m with
  | nil => rfl
  | cons s steps ih =>
    cases given : m.step place s with
    | ok result =>
      rw [after_cons_of_ok given, run_cons_of_ok given, accepted, lastWritten?_cons, ih,
        (effect_of_step given).cell_eq, Option.or_assoc]
    | error fault => rw [after_cons_of_error given, run_cons_of_error given, accepted, ih]

/-- A text holds the bytes it came with and all changes of them. -/
theorem text_after (m : Machine) (steps : List Step) (i : Nat) :
    (after place m steps).memory.texts[i]? =
      (accepted steps (run place m steps)).foldl (textAfter i) m.memory.texts[i]? := by
  induction steps generalizing m with
  | nil => rfl
  | cons s steps ih =>
    cases given : m.step place s with
    | ok result =>
      rw [after_cons_of_ok given, run_cons_of_ok given, accepted, List.foldl_cons, ih,
        (effect_of_step given).text_eq]
    | error fault => rw [after_cons_of_error given, run_cons_of_error given, accepted, ih]

end Memory

section Boxes

variable {place : Placement} {m next : Machine} {s : Step} {outcome : Outcome}

/-- A register's box has a tag and holds the address of a live object. -/
structure Holds (place : Placement) (m : Machine) (name : String) (tag : Tag) (slot : Slot) :
    Prop where
  live : slot ∈ m.memory.slots
  boxed : ∃ w, m.get? name = some w ∧ w.hasTag tag ∧ place.address? slot = some w.address

/-- Every live object has its place. -/
structure Placed (place : Placement) (m : Machine) : Prop where
  cells : ∀ i < m.memory.cells.length, (place.address? (.cell i)).isSome
  texts : ∀ i < m.memory.texts.length, (place.address? (.text i)).isSome

theorem forall_lt_length_concat {α : Type} {l : List α} {a : α} {p : Nat → Prop}
    (old : ∀ i < l.length, p i) (new : p l.length) : ∀ i < (l ++ [a]).length, p i := by
  intro i inside
  rw [List.length_append, List.length_singleton] at inside
  rcases Nat.lt_succ_iff_lt_or_eq.mp inside with before | last
  · exact old i before
  · rwa [last]

theorem Effect.placed (e : Effect place m s next outcome) (h : Placed place m) :
    Placed place next := by
  cases e with
  | nothing => exact h
  | box => exact ⟨h.cells, h.texts⟩
  | allocateCell room => exact ⟨forall_lt_length_concat h.cells (by rw [room]; rfl), h.texts⟩
  | store => exact ⟨fun i inside => h.cells i (List.length_set ▸ inside), h.texts⟩
  | allocateText room => exact ⟨h.cells, forall_lt_length_concat h.texts (by rw [room]; rfl)⟩
  | poke => exact ⟨h.cells, fun i inside => h.texts i (List.length_set ▸ inside)⟩

theorem placed_after (place : Placement) (steps : List Step) :
    Placed place (after place {} steps) :=
  after_induction (fun _ _ _ _ before given => (effect_of_step given).placed before)
    ⟨fun _ none => absurd none (Nat.not_lt_zero _), fun _ none => absurd none (Nat.not_lt_zero _)⟩
    steps

section Reading

variable {name : String} {w : Word}

theorem fetch_of_get? (h : m.get? name = some w) : m.fetch name = .ok w := by
  simp only [fetch, h]

theorem asking_ok {ε α : Type} (fault : ε → StepFault) (a : α) : asking fault (.ok a) = .ok a := rfl

theorem step_load_of_not_isPointer (got : m.get? name = some w) (h : ¬w.isPointer) :
    m.step place (.load name) = .error (.mismatch ⟨.pointer, w.typeName⟩) := by
  have refused : w.asPointer = .error ⟨.pointer, w.typeName⟩ := if_neg h
  simp only [step, fetch_of_get? got, bind, Except.bind, refused]
  rfl

theorem step_chars_of_not_isString (got : m.get? name = some w) (h : ¬w.isString) :
    m.step place (.chars name) = .error (.mismatch ⟨.string, w.typeName⟩) := by
  have refused : w.asString = .error ⟨.string, w.typeName⟩ := if_neg h
  simp only [step, fetch_of_get? got, bind, Except.bind, refused]
  rfl

theorem step_load_of_holds {i : Nat} (h : Holds place m name .pointer (.cell i)) :
    ∃ value, m.memory.cells[i]? = some value ∧
      m.step place (.load name) = .ok (m, .word value) := by
  obtain ⟨w, got, pointer, placed⟩ := h.boxed
  have inside : i < m.memory.cells.length := Memory.cell_mem_slots.mp h.live
  have found : m.memory.cells[i]? = some m.memory.cells[i] := List.getElem?_eq_getElem inside
  have asked : w.asPointer = .ok w.address := if_pos pointer
  have there : m.memory.cellAt? place w.address = some m.memory.cells[i] := by
    simp only [Memory.cellAt?, Memory.slotAt?_of_mem h.live placed, found]
  refine ⟨m.memory.cells[i], found, ?_⟩
  simp only [step, fetch_of_get? got, asked, asking_ok, bind, Except.bind, there]
  rfl

theorem textAt?_of_holds {tag : Tag} {i : Nat} (h : Holds place m name tag (.text i)) :
    ∃ w bytes, m.get? name = some w ∧ w.hasTag tag ∧ m.memory.texts[i]? = some bytes ∧
      m.memory.textAt? place w.address = some (Memory.ended bytes) := by
  obtain ⟨w, got, tagged, placed⟩ := h.boxed
  have inside : i < m.memory.texts.length := Memory.text_mem_slots.mp h.live
  have found : m.memory.texts[i]? = some m.memory.texts[i] := List.getElem?_eq_getElem inside
  exact ⟨w, m.memory.texts[i], got, tagged, found, Memory.textAt?_of_placed placed found⟩

/-- Both ways to read a string give the text it points to, up to its first NUL. -/
theorem step_chars_of_holds {i : Nat} (h : Holds place m name .string (.text i)) :
    ∃ bytes, m.memory.texts[i]? = some bytes ∧
      m.step place (.chars name) = .ok (m, .bytes (Memory.ended bytes)) ∧
      m.step place (.render name) = .ok (m, .text (Text.Utf8.decode (Memory.ended bytes))) := by
  obtain ⟨w, bytes, got, string, found, there⟩ := textAt?_of_holds h
  have asked : w.asString = .ok w.address := if_pos string
  have printed : m.memory.render? place {} w = some (Text.Utf8.decode (Memory.ended bytes)) := by
    simp only [Memory.render?, asked, there, Option.map_some]
  have isString : w.isString = true := string
  refine ⟨bytes, found, ?_, ?_⟩
  · simp only [step, fetch_of_get? got, asked, asking_ok, bind, Except.bind, there]
    rfl
  · simp only [step, fetch_of_get? got, bind, Except.bind, isString, printed]
    rfl

end Reading

section Boxing

/-- The register that gets the address of an object, the tag it gets and the object. -/
def boxing? : Step → Option (String × Tag × Slot)
  | .pointTo into cell => some (into, .pointer, .cell cell)
  | .boxString into text => some (into, .string, .text text)
  | .boxText into text => some (into, .pointer, .text text)
  | _ => none

theorem step_of_boxing? {name : String} {tag : Tag} {slot : Slot}
    (boxes : boxing? s = some (name, tag, slot)) {a : Address}
    (address : m.addressOf place slot = .ok a) :
    m.step place s = .ok (m.assign place name (.reserved tag a.toNat)) := by
  cases s with
  | pointTo into cell =>
    cases boxes
    simp only [step, address]
    rfl
  | boxString into text =>
    cases boxes
    simp only [step, address]
    rfl
  | boxText into text =>
    cases boxes
    simp only [step, address]
    rfl
  | _ => cases boxes

theorem addressOf_of_live (placed : Placed place m) {slot : Slot} (live : slot ∈ m.memory.slots) :
    ∃ a, m.addressOf place slot = .ok a ∧ place.address? slot = some a := by
  have room : (place.address? slot).isSome := by
    cases slot with
    | cell i => exact placed.cells i (Memory.cell_mem_slots.mp live)
    | text i => exact placed.texts i (Memory.text_mem_slots.mp live)
  obtain ⟨a, there⟩ := Option.isSome_iff_exists.mp room
  exact ⟨a, by simp only [addressOf, live, ↓reduceIte, there], there⟩

theorem holds_of_boxing? (placed : Placed place m) {name : String} {tag : Tag} {slot : Slot}
    (boxes : boxing? s = some (name, tag, slot)) (live : slot ∈ m.memory.slots) :
    Holds place (after place m [s]) name tag slot := by
  obtain ⟨a, address, there⟩ := addressOf_of_live placed live
  rw [after_cons_of_ok (step_of_boxing? boxes address)]
  refine ⟨live, .reserved tag a.toNat, get?_put m name _, ?_, ?_⟩
  · simp only [Word.hasTag_reserved, decide_true]
  · rw [Content.address_reserved, there]

end Boxing

/-- Whatever steps ran, a box reads what its object holds now: a pointer to a cell gives the value
last put into the cell, and a string on a text gives the bytes of the text with all their changes,
up to the first NUL. Other boxes are refused whatever memory holds. Boxes and memory change apart,
and a step that fails might as well not be there. -/
theorem boxes_borrow (place : Placement) (steps : List Step) :
    (∀ name i, Holds place (after place {} steps) name .pointer (.cell i) →
      ∃ value, lastWritten? i (accepted steps (run place {} steps)) = some value ∧
        run place {} (steps ++ [.load name]) = run place {} steps ++ [.ok (.word value)]) ∧
    (∀ name i, Holds place (after place {} steps) name .string (.text i) →
      ∃ bytes, currentText? i (accepted steps (run place {} steps)) = some bytes ∧
        run place {} (steps ++ [.chars name]) =
          run place {} steps ++ [.ok (.bytes (Memory.ended bytes))] ∧
        ∃ text, run place {} (steps ++ [.render name]) =
            run place {} steps ++ [.ok (.text text)] ∧
          (Text.Utf8.IsValid (Memory.ended bytes) →
            Text.Utf8.encode text = Memory.ended bytes)) ∧
    (∀ s name tag slot, boxing? s = some (name, tag, slot) →
      slot ∈ (after place {} steps).memory.slots →
      Holds place (after place {} (steps ++ [s])) name tag slot) ∧
    (∀ (m : Machine) name w, m.get? name = some w →
      (¬w.isPointer →
        m.step place (.load name) = .error (.mismatch ⟨.pointer, w.typeName⟩)) ∧
      (¬w.isString →
        m.step place (.chars name) = .error (.mismatch ⟨.string, w.typeName⟩))) ∧
    (∀ (m : Machine) s next outcome, m.step place s = .ok (next, outcome) →
      (s.changesMemory → next.registers = m.registers) ∧
      (¬s.changesMemory → next.memory = m.memory) ∧
      ∀ name, s.target? ≠ some name → next.get? name = m.get? name) ∧
    (∀ s fault more, (after place {} steps).step place s = .error fault →
      after place {} (steps ++ s :: more) = after place {} (steps ++ more) ∧
      run place {} (steps ++ s :: more) =
        run place {} steps ++ .error fault :: run place (after place {} steps) more) := by
  refine ⟨?_, ?_, ?_, ?_, ?_, ?_⟩
  · intro name i holds
    obtain ⟨value, found, given⟩ := step_load_of_holds holds
    refine ⟨value, ?_, ?_⟩
    · rw [← found, cell_after]
      exact Option.or_none.symm
    · rw [run_append, run_cons_of_ok given]
      rfl
  · intro name i holds
    obtain ⟨bytes, found, chars, render⟩ := step_chars_of_holds holds
    refine ⟨bytes, ?_, ?_, Text.Utf8.decode (Memory.ended bytes), ?_,
      Text.Utf8.encode_decode_of_isValid⟩
    · rw [← found, text_after]
      rfl
    · rw [run_append, run_cons_of_ok chars]
      rfl
    · rw [run_append, run_cons_of_ok render]
      rfl
  · intro s name tag slot boxes live
    rw [after_append]
    exact holds_of_boxing? (placed_after place steps) boxes live
  · intro m name w got
    exact ⟨step_load_of_not_isPointer got, step_chars_of_not_isString got⟩
  · intro m s next outcome given
    have effect := effect_of_step given
    exact ⟨effect.registers_eq, fun keeps => effect.memory_eq (Bool.eq_false_iff.mpr keeps),
      fun name other => effect.get?_eq other⟩
  · intro s fault more failed
    rw [after_append, after_append, after_cons_of_error failed, run_append,
      run_cons_of_error failed]
    exact ⟨rfl, rfl⟩

/-- A cell and a text change under boxes that were copied, taken apart and flipped, with steps in
between that fail. -/
def changing : List Step :=
  [.allocateCell 7, .pointTo "p" 0, .retag "p" "q" none none none, .store 0 8, .store 1 9,
    .allocateText [104, 105, 33], .boxText "t" 0, .flip "t" 0x1000000000000 "s", .load "s",
    .copy "nowhere" "q", .poke 0 2 0, .poke 0 3 1]

theorem boxes_borrow_through_changes :
    run (.sideBySide 0x10000) {} (changing ++ [.load "q"]) =
        run (.sideBySide 0x10000) {} changing ++ [.ok (.word 8)] ∧
      run (.sideBySide 0x10000) {} (changing ++ [.chars "s"]) =
        run (.sideBySide 0x10000) {} changing ++ [.ok (.bytes [104, 105])] := by
  obtain ⟨cells, texts, -⟩ := boxes_borrow (.sideBySide 0x10000) changing
  constructor
  · obtain ⟨value, last, loaded⟩ := cells "q" 0
      ⟨by decide +kernel, 0x7FFC000000010000, by decide +kernel, by decide, by decide⟩
    have given : some value = some 8 := by
      rw [← last]
      rfl
    rw [loaded, Option.some.inj given]
  · obtain ⟨bytes, now, chars, -⟩ := texts "s" 0
      ⟨by decide +kernel, 0x7FFD000000010010, by decide +kernel, by decide, by decide⟩
    have given : some bytes = some [104, 105, 0] := by
      rw [← now]
      rfl
    rw [chars, Option.some.inj given]
    rfl

end Boxes

end Machine

end QuietBox
