import QuietBox.Memory.Basic
import QuietBox.Report

/-!
A machine of named registers that hold boxes, over a memory of cells and texts, and its steps. A
step either fails, and then nothing has changed, or gives the next machine and an outcome. Outcomes
never tell the address of a live object: a box that holds one is shown by the object's name.
-/

set_option autoImplicit false

namespace QuietBox

/-- What is shown of a box: the live object at its payload, if there is one, stands for it. -/
structure View where
  word : Word
  slot? : Option Slot
deriving DecidableEq, Repr

/-- The upper sixteen bits and the object's name, or all digits of the word. -/
def View.wordText (v : View) : List Char :=
  match v.slot? with
  | some slot => v.word.hex.take 4 ++ '@' :: slot.name.toList
  | none => v.word.hex

structure Machine where
  memory : Memory := {}
  registers : List (String × Word) := []
deriving DecidableEq, Repr

inductive Step where
  | set (into : String) (construction : Construction)
  | copy (source into : String)
  | evaluate (into line : String)
  | allocateCell (value : Word)
  | store (cell : Nat) (value : Word)
  | allocateText (bytes : List UInt8)
  | poke (text index : Nat) (byte : UInt8)
  | pointTo (into : String) (cell : Nat)
  | boxString (into : String) (text : Nat)
  | boxText (into : String) (text : Nat)
  | load (source : String)
  | chars (source : String)
  | render (source : String)
  | canonical (source into : String)
  | flip (source : String) (mask : Word) (into : String)
  | retag (source into : String) (tag : Option Tag) (signature payload : Option Nat)
  | equal (left right : String)
  | distinct
  | dump

inductive Outcome where
  | view (v : View)
  | number (n : Nat)
  | done
  | word (w : Word)
  | bytes (bytes : List UInt8)
  | text (text : List Char)
  | truth (b : Bool)
  | views (all : List (String × View))
  | unchanged

inductive StepFault where
  | mismatch (m : Mismatch)
  | address (e : AddressTooWide)
  | request (f : Failure)
  | dangling
  | unknownName
  | noRoom

namespace Machine

/-- The box in a register. -/
def get? (m : Machine) (name : String) : Option Word := m.registers.lookup name

/-- The machine with a box put into a register. -/
def put (m : Machine) (name : String) (w : Word) : Machine :=
  { m with registers := (name, w) :: m.registers.filter (·.1 ≠ name) }

def view (place : Placement) (m : Machine) (w : Word) : View :=
  ⟨w, m.memory.slotAt? place w.address⟩

def fetch (m : Machine) (name : String) : Except StepFault Word :=
  match m.get? name with
  | some w => .ok w
  | none => .error .unknownName

def asking {ε α : Type} (fault : ε → StepFault) (r : Except ε α) : Except StepFault α :=
  r.mapError fault

/-- The address of an object that is live. -/
def addressOf (place : Placement) (m : Machine) (slot : Slot) : Except StepFault Address :=
  if slot ∈ m.memory.slots then
    match place.address? slot with
    | some a => .ok a
    | none => .error .noRoom
  else .error .unknownName

/-- A box goes into a register and is shown. -/
def assign (place : Placement) (m : Machine) (name : String) (w : Word) :
    Machine × Outcome :=
  (m.put name w, .view (m.view place w))

/-- An object is live only if there is room for it. -/
def allocate (place : Placement) (m : Machine) (slot : Slot) (index : Nat)
    (next : Memory) : Except StepFault (Machine × Outcome) :=
  match place.address? slot with
  | some _ => .ok ({ m with memory := next }, .number index)
  | none => .error .noRoom

/-- One step. -/
def step (place : Placement) (m : Machine) : Step → Except StepFault (Machine × Outcome)
  | .set into c => do return m.assign place into (← asking .address c.build)
  | .copy source into => do return m.assign place into (← m.fetch source)
  | .evaluate into line => do
    let report ← asking .request (Report.ofLine ⟨0, by decide⟩ line)
    return m.assign place into report.word
  | .allocateCell value =>
    let index := m.memory.cells.length
    m.allocate place (.cell index) index { m.memory with cells := m.memory.cells ++ [value] }
  | .store cell value =>
    if cell < m.memory.cells.length then
      .ok ({ m with memory := { m.memory with cells := m.memory.cells.set cell value } }, .done)
    else .error .unknownName
  | .allocateText bytes =>
    let index := m.memory.texts.length
    m.allocate place (.text index) index { m.memory with texts := m.memory.texts ++ [bytes] }
  | .poke text index byte =>
    match m.memory.texts[text]? with
    | none => .error .unknownName
    | some bytes =>
      if index < bytes.length then
        let texts := m.memory.texts.set text (bytes.set index byte)
        .ok ({ m with memory := { m.memory with texts := texts } }, .done)
      else .error .unknownName
  | .pointTo into cell => do
    return m.assign place into (.ofPointer (← m.addressOf place (.cell cell)))
  | .boxString into text => do
    return m.assign place into (.ofString (← m.addressOf place (.text text)))
  | .boxText into text => do
    return m.assign place into (.ofPointer (← m.addressOf place (.text text)))
  | .load source => do
    let a ← asking .mismatch (← m.fetch source).asPointer
    match m.memory.cellAt? place a with
    | some value => return (m, .word value)
    | none => .error .dangling
  | .chars source => do
    let a ← asking .mismatch (← m.fetch source).asString
    match m.memory.textAt? place a with
    | some bytes => return (m, .bytes bytes)
    | none => .error .dangling
  | .render source => do
    let w ← m.fetch source
    if !w.isString && (m.memory.slotAt? place w.address).isSome then .error .dangling
    else
      match m.memory.render? place {} w with
      | some text => return (m, .text text)
      | none => .error .dangling
  | .canonical source into => do
    return m.assign place into (.ofDoubleCanonical (← m.fetch source).toDouble)
  | .flip source mask into => do return m.assign place into ((← m.fetch source) ^^^ mask)
  | .retag source into tag signature payload => do
    match (← m.fetch source).tagged? with
    | none => return (m, .unchanged)
    | some t =>
      let next : Tagged :=
        ⟨signature.getD t.signature, tag.getD t.tag, payload.getD t.payload⟩
      return m.assign place into next.toWord
  | .equal left right => do return (m, .truth ((← m.fetch left) = (← m.fetch right)))
  | .distinct => .ok (m, .number (m.registers.map (·.2)).eraseDups.length)
  | .dump => .ok (m, .views (m.registers.map fun r => (r.1, m.view place r.2)))

/-- The outcomes of steps in order; a step that fails leaves the machine as it was. -/
def run (place : Placement) (m : Machine) : List Step → List (Except StepFault Outcome)
  | [] => []
  | s :: rest =>
    match m.step place s with
    | .ok (next, outcome) => .ok outcome :: run place next rest
    | .error fault => .error fault :: run place m rest

/-- The machine after steps. -/
def after (place : Placement) (m : Machine) : List Step → Machine
  | [] => m
  | s :: rest =>
    match m.step place s with
    | .ok (next, _) => after place next rest
    | .error _ => after place m rest

end Machine

end QuietBox
