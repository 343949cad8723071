import QuietBox.Proofs.Report.Success
import QuietBox.Proofs.Word.AddressAssertion
import QuietBox.Proofs.Word.PlainText

/-!
The assertion on addresses is out of reach of a line. To keep it in sight an evaluation is taken
apart here, into what it asks to be boxed and the boxing, which may stop. What it asks for is no
address, an address literal that has passed a check of its own, or the place of a text; so nothing
stops it but a place that does not fit.
-/

set_option autoImplicit false

namespace QuietBox

/-- What a request asks to be boxed, and the report on its box. -/
structure Plan where
  construction : Construction
  report : Word → Report := Report.ofWord

namespace Plan

/-- A text that lies at a place, boxed as a string. -/
def ofString (place : Word) (bytes : List UInt8) : Plan where
  construction := .string place
  report w :=
    { word := w
      rendering := String.ofList (Text.Quoted.encode (Text.Utf8.decode bytes))
      bytes? := some bytes }

/-- A text that lies at a place, boxed as a pointer. -/
def ofTextPointer (place : Word) (bytes : List UInt8) : Plan where
  construction := .pointer place
  report w := { Report.ofWord w with bytes? := some bytes }

/-- The machine address that a literal gives. -/
def readAddress (text : List Char) : Except Failure Word := do
  let a ← Report.readWord text
  if a >>> 48 = 0 then return a else throw (.of (.address ⟨a⟩))

def auto (place : Word) (literal : List Char) : Except Failure Plan :=
  if literal = "null".toList then .ok { construction := .null }
  else if literal = "true".toList then .ok { construction := .bool true }
  else if literal = "false".toList then .ok { construction := .bool false }
  else if Literal.isQuoted literal then (Report.readText literal).map (ofTextPointer place)
  else
    let text := String.ofList literal
    let signed? := if literal.head? = some '-' then (Literal.readSint literal).toOption else none
    match signed?, Literal.readUint literal with
    | some n, _ => .ok { construction := .sint n }
    | none, .ok n => .ok { construction := .uint n }
    | none, .error _ =>
      if Literal.isInteger literal then .error (.of (.unsupportedInteger text))
      else
        ((Report.readDouble literal).map fun d => { construction := .double d }).mapError
          (.within (.unsupportedLiteral text))

def encode (place : Word) (kind : Kind) (value : Option String) : Except Failure Plan := do
  let literal := Report.required kind value
  match kind with
  | .double => return { construction := .double (← Report.readDouble (← literal)) }
  | .nan => return { construction := .nan }
  | .bool => return { construction := .bool (← Report.readBool (← literal)) }
  | .null => return { construction := .null }
  | .uint =>
    let read := Literal.readUint (← literal)
    return { construction := .uint (← read.mapError fun e => .of (.integer e)) }
  | .sint =>
    let read := Literal.readSint (← literal)
    return { construction := .sint (← read.mapError fun e => .of (.integer e)) }
  | .pointer => return { construction := .pointer (← readAddress (← literal)) }
  | .string => return ofString place (← Report.readText (← literal))
  | .auto => auto place (← literal)

def ofRequest (place : Word) : Request → Except Failure Plan
  | .encode kind value => encode place kind value
  | .decode word => (Report.readWord word.toList).map fun w => { construction := .bits w }

def ofLine (place : Word) (line : String) : Except Failure Plan :=
  (Request.ofLine line).bind (ofRequest place)

/-- The boxing of what is planned; an assertion that fails is no answer. -/
def run : Except Failure Plan → Except AddressTooWide (Except Failure Report)
  | .error failure => .ok (.error failure)
  | .ok plan => plan.construction.build.map fun w => .ok (plan.report w)

/-- The evaluation of a line, with the place of the text that it may put into memory. -/
def evaluate (place : Word) (line : String) : Except AddressTooWide (Except Failure Report) :=
  run (ofLine place line)

section Answer

/-- If what is planned agrees with the answer for everything that is read, then it agrees after the
reading. -/
theorem run_bind {α : Type} {read : Except Failure α} {plan : α → Except Failure Plan}
    {answer : α → Except Failure Report} (agree : ∀ x, run (plan x) = .ok (answer x)) :
    run (read >>= plan) = .ok (read >>= answer) := by
  cases read with
  | error failure => rfl
  | ok x => exact agree x

/-- The check of literals lets those addresses through that the assertion does. -/
theorem run_readAddress (text : List Char) :
    run (readAddress text >>= fun a => return { construction := .pointer a }) =
      .ok (Report.readAddress text >>= fun a => return Report.ofWord (.ofPointer a)) := by
  unfold readAddress Report.readAddress
  cases Report.readWord text with
  | error failure => rfl
  | ok a =>
    change run ((if a >>> 48 = 0 then _ else _) >>= _) =
      .ok ((Address.ofWord a).mapError (fun e => Failure.of (.address e)) >>= _)
    by_cases small : a.toNat < 0x1000000000000
    · rw [if_pos (a.ushiftRight_48_eq_zero_iff.mpr small), Address.ofWord_of_lt small]
      change (Word.pointerTo a).map _ = _
      rw [Word.pointerTo_of_lt small]
      rfl
    · rw [if_neg (mt a.ushiftRight_48_eq_zero_iff.mp small), Address.ofWord_of_le (by omega)]
      rfl

variable {place : Word} (fits : place.toNat < 0x1000000000000)

include fits

theorem run_ofString (bytes : List UInt8) :
    run (.ok (ofString place bytes)) = .ok (.ok (Report.ofString ⟨place.toNat, fits⟩ bytes)) := by
  change (Word.stringAt place).map _ = _
  rw [Word.stringAt_of_lt fits]
  rfl

theorem run_ofTextPointer (bytes : List UInt8) :
    run (.ok (ofTextPointer place bytes)) =
      .ok (.ok (Report.ofTextPointer ⟨place.toNat, fits⟩ bytes)) := by
  change (Word.pointerTo place).map _ = _
  rw [Word.pointerTo_of_lt fits]
  rfl

theorem run_auto (literal : List Char) :
    run (auto place literal) = .ok (Report.auto ⟨place.toNat, fits⟩ literal) := by
  unfold auto Report.auto
  split
  · rfl
  · split
    · rfl
    · split
      · rfl
      · split
        · cases Report.readText literal with
          | error failure => rfl
          | ok bytes => exact run_ofTextPointer fits bytes
        · dsimp only
          -- the two sides read the literal alike, and no reading gives an address
          generalize (if literal.head? = some '-' then _ else none) = signed?
          cases signed? with
          | some n => rfl
          | none =>
            cases Literal.readUint literal with
            | ok n => rfl
            | error fault =>
              dsimp only
              split
              · rfl
              · cases Report.readDouble literal with
                | error failure => rfl
                | ok d => rfl

theorem run_encode (kind : Kind) (value : Option String) :
    run (encode place kind value) = .ok (Report.encode ⟨place.toNat, fits⟩ kind value) := by
  cases kind with
  | double => exact run_bind fun text => run_bind fun d => rfl
  | nan => rfl
  | bool => exact run_bind fun text => run_bind fun b => rfl
  | null => rfl
  | uint => exact run_bind fun text => run_bind fun n => rfl
  | sint => exact run_bind fun text => run_bind fun n => rfl
  | pointer => exact run_bind run_readAddress
  | string => exact run_bind fun text => run_bind fun bytes => run_ofString fits bytes
  | auto => exact run_bind fun text => run_auto fits text

theorem evaluate_eq (line : String) :
    evaluate place line = .ok (Report.ofLine ⟨place.toNat, fits⟩ line) := by
  apply run_bind
  intro request
  cases request with
  | encode kind value => exact run_encode fits kind value
  | decode word =>
    change run ((Report.readWord word.toList).map _) = .ok ((Report.readWord word.toList).map _)
    cases Report.readWord word.toList with
    | error failure => rfl
    | ok w => rfl

end Answer

section Stops

/-- No address is boxed but a place and such as have at most 48 bits. -/
def Confined (place : Word) (planned : Except Failure Plan) : Prop :=
  ∀ plan, planned = .ok plan → ∀ a, plan.construction.address? = some a →
    a = place ∨ a.toNat < 0x1000000000000

variable {place : Word}

theorem confined_bind {α : Type} {read : Except Failure α} {plan : α → Except Failure Plan}
    (each : ∀ x, read = .ok x → Confined place (plan x)) : Confined place (read >>= plan) := by
  intro whole planned
  obtain ⟨x, found, planned⟩ := bind_eq_ok_iff.mp planned
  exact each x found whole planned

theorem confined_of_none {plan : Plan} (none : plan.construction.address? = none) :
    Confined place (.ok plan) := by
  intro _ same a boxed
  cases same
  rw [none] at boxed
  cases boxed

theorem confined_of_place {plan : Plan} (boxed : plan.construction.address? = some place) :
    Confined place (.ok plan) := by
  intro _ same a found
  cases same
  rw [boxed] at found
  exact Or.inl (Option.some.inj found).symm

theorem confined_map {α : Type} {read : Except Failure α} {plan : α → Plan}
    (each : ∀ x, Confined place (.ok (plan x))) : Confined place (read.map plan) := by
  intro whole planned
  obtain ⟨x, -, rfl⟩ := map_eq_ok_iff.mp planned
  exact each x _ rfl

theorem confined_mapError {planned : Except Failure Plan} (confined : Confined place planned)
    (context : Failure → Failure) : Confined place (planned.mapError context) := by
  intro plan found
  exact confined plan (mapError_eq_ok_iff.mp found)

/-- What is boxed for an address literal has passed the check. -/
theorem lt_of_readAddress {text : List Char} {a : Word} (found : readAddress text = .ok a) :
    a.toNat < 0x1000000000000 := by
  obtain ⟨w, -, passed⟩ := bind_eq_ok_iff.mp found
  by_cases small : w >>> 48 = 0
  · rw [if_pos small] at passed
    cases passed
    exact a.ushiftRight_48_eq_zero_iff.mp small
  · rw [if_neg small] at passed
    cases passed

theorem confined_auto (literal : List Char) : Confined place (auto place literal) := by
  unfold auto
  split
  · exact confined_of_none rfl
  · split
    · exact confined_of_none rfl
    · split
      · exact confined_of_none rfl
      · split
        · exact confined_map fun bytes => confined_of_place rfl
        · dsimp only
          split
          · exact confined_of_none rfl
          · exact confined_of_none rfl
          · split
            · nofun
            · exact confined_mapError (confined_map fun d => confined_of_none rfl) _

theorem confined_encode (kind : Kind) (value : Option String) :
    Confined place (encode place kind value) := by
  cases kind with
  | nan => exact confined_of_none rfl
  | null => exact confined_of_none rfl
  | double => exact confined_bind fun _ _ => confined_bind fun _ _ => confined_of_none rfl
  | bool => exact confined_bind fun _ _ => confined_bind fun _ _ => confined_of_none rfl
  | uint => exact confined_bind fun _ _ => confined_bind fun _ _ => confined_of_none rfl
  | sint => exact confined_bind fun _ _ => confined_bind fun _ _ => confined_of_none rfl
  | pointer =>
    apply confined_bind
    intro text _
    apply confined_bind
    intro a found plan planned b boxed
    cases planned
    cases boxed
    exact Or.inr (lt_of_readAddress found)
  | string => exact confined_bind fun _ _ => confined_bind fun _ _ => confined_of_place rfl
  | auto => exact confined_bind fun _ _ => confined_auto _

theorem confined_ofLine (line : String) : Confined place (ofLine place line) := by
  apply confined_bind
  intro request _
  cases request with
  | encode kind value => exact confined_encode kind value
  | decode word => exact confined_map fun w => confined_of_none rfl

/-- An evaluation is stopped by the place of its text only. -/
theorem of_evaluate_eq_error {line : String} {fault : AddressTooWide}
    (stopped : evaluate place line = .error fault) :
    fault.address = place ∧ 0x1000000000000 ≤ place.toNat := by
  unfold evaluate at stopped
  have confined : Confined place (ofLine place line) := confined_ofLine line
  cases planned : ofLine place line with
  | error failure =>
    rw [planned] at stopped
    cases stopped
  | ok plan =>
    rw [planned] at stopped
    obtain ⟨boxed, wide⟩ := Construction.build_eq_error_iff.mp (map_eq_error_iff.mp stopped)
    obtain same | small := confined plan planned _ boxed
    · rw [← same]
      exact ⟨rfl, wide⟩
    · omega

end Stops

end Plan

namespace Report

/-- How an address literal is answered: what it reads as is boxed if it has at most 48 bits. -/
structure BoxesAddress (answer : Except Failure Report) (read : Except Failure Word) : Prop where
  ok_iff : (∃ r, answer = .ok r) ↔ ∃ a, read = .ok a ∧ a.toNat < 0x1000000000000
  boxed : ∀ r, answer = .ok r → ∃ a, read = .ok a ∧ Word.pointerTo a = .ok r.word ∧
    r.rendering.toList = '0' :: 'x' :: Numeral.lowerHex a.toNat
  tooWide : ∀ a, read = .ok a → 0x1000000000000 ≤ a.toNat →
    answer = .error (.of (.address ⟨a⟩))
  unread : ∀ failure, read = .error failure → answer = .error failure

section Literal

variable (place : Address) {text : String} {a : Word}

theorem encode_pointer_of_error {failure : Failure}
    (unread : readWord text.toList = .error failure) :
    encode place .pointer (some text) = .error failure := by
  change (readWord text.toList >>= _) >>= _ = _
  rw [unread]
  rfl

theorem encode_pointer_of_lt (found : readWord text.toList = .ok a)
    (small : a.toNat < 0x1000000000000) :
    encode place .pointer (some text) = .ok (ofWord (.ofPointer ⟨a.toNat, small⟩)) := by
  refine encode_pointer_eq_ok_iff.mpr ⟨text, _, rfl, ?_, rfl⟩
  exact ⟨a, readWord_eq_ok_iff.mp found, Address.ofWord_of_lt small⟩

theorem encode_pointer_of_le (found : readWord text.toList = .ok a)
    (wide : 0x1000000000000 ≤ a.toNat) :
    encode place .pointer (some text) = .error (.of (.address ⟨a⟩)) := by
  change (readWord text.toList >>= fun w => (Address.ofWord w).mapError _) >>= _ = _
  rw [found]
  change (Address.ofWord a).mapError _ >>= _ = _
  rw [Address.ofWord_of_le wide]
  rfl

theorem pointer_boxesAddress (text : String) :
    BoxesAddress (encode place .pointer (some text)) (readWord text.toList) := by
  constructor
  · constructor
    · intro ⟨r, answered⟩
      obtain ⟨_, b, ⟨⟩, ⟨a, found, fits⟩, -⟩ := encode_pointer_eq_ok_iff.mp answered
      refine ⟨a, readWord_eq_ok_iff.mpr found, ?_⟩
      by_cases small : a.toNat < 0x1000000000000
      · exact small
      · rw [Address.ofWord_of_le (by omega)] at fits
        cases fits
    · intro ⟨a, found, small⟩
      exact ⟨_, encode_pointer_of_lt place found small⟩
  · intro r answered
    obtain ⟨_, b, ⟨⟩, ⟨a, found, fits⟩, rfl⟩ := encode_pointer_eq_ok_iff.mp answered
    have boxed : Word.pointerTo a = .ok (.ofPointer b) := map_eq_ok_iff.mpr ⟨b, fits, rfl⟩
    refine ⟨a, readWord_eq_ok_iff.mpr found, boxed, ?_⟩
    have held := a.pointerTo_assertsExactly.held _ boxed
    have pointer : (Word.ofPointer b).isPointer := by simp [Word.ofPointer, Word.isPointer]
    change (Word.ofPointer b).text.toList = _
    rw [Word.text_of_isPointer pointer, String.toList_ofList, Address.text, held.1]
  · exact fun a => encode_pointer_of_le place
  · exact fun failure => encode_pointer_of_error place

end Literal

end Report

/-- The assertion and the check of literals agree on every address, and the assertion stops at the
addresses that it cannot box. No literal that is too wide comes to it, so no line stops an
evaluation if the place of its text fits. -/
theorem address_assertion_spares_lines :
    (∀ a : Word, (a &&& ~~~Layout.payloadMask = 0 ↔ a >>> 48 = 0) ∧
      AssertsExactly Word.pointerTo Word.asPointer a ∧
      AssertsExactly Word.stringAt Word.asString a) ∧
    (∀ (place : Address) (text : String),
      Report.BoxesAddress (Report.encode place .pointer (some text))
        (Report.readWord text.toList)) ∧
    (∀ (place : Word) (fits : place.toNat < 0x1000000000000) (line : String),
      Plan.evaluate place line = .ok (Report.ofLine ⟨place.toNat, fits⟩ line)) ∧
    (∀ (place : Word) (line : String) (fault : AddressTooWide),
      Plan.evaluate place line = .error fault →
        fault.address = place ∧ 0x1000000000000 ≤ place.toNat) := by
  refine ⟨?_, Report.pointer_boxesAddress, ?_, ?_⟩
  · intro a
    rw [a.and_not_payloadMask_eq_zero_iff, a.ushiftRight_48_eq_zero_iff]
    exact ⟨Iff.rfl, a.pointerTo_assertsExactly, a.stringAt_assertsExactly⟩
  · intro place fits line
    exact Plan.evaluate_eq fits line
  · intro place line fault stopped
    exact Plan.of_evaluate_eq_error stopped

/-- The widest address that fits and the next one, as an address, as a literal and as a place. -/
theorem address_assertion_spares_lines_at_bound :
    (Word.pointerTo 0xFFFFFFFFFFFF = .ok 0x7FFCFFFFFFFFFFFF ∧
      Word.stringAt 0x1000000000000 = .error ⟨0x1000000000000⟩) ∧
    (∃ r, Report.encode ⟨0, by decide⟩ .pointer (some "0xffff_ffff_ffff") = .ok r) ∧
    Report.encode ⟨0, by decide⟩ .pointer (some "0x1000000000000") =
      .error (.of (.address ⟨0x1000000000000⟩)) ∧
    Plan.evaluate 0xFFFFFFFFFFFF "string hi" =
      .ok (Report.ofLine ⟨0xFFFFFFFFFFFF, by decide⟩ "string hi") ∧
    Plan.evaluate 0x1000000000000 "string hi" = .error ⟨0x1000000000000⟩ ∧
    0x1000000000000 ≤ (0x1000000000000 : Word).toNat := by
  obtain ⟨assertion, literals, spared, stopped⟩ := address_assertion_spares_lines
  have last : Report.readWord "0xffff_ffff_ffff".toList = .ok 0xFFFFFFFFFFFF := by rfl
  have next : Report.readWord "0x1000000000000".toList = .ok 0x1000000000000 := by rfl
  have request : Request.ofLine "string hi" = .ok (.encode .string (some "hi")) := by
    rw [Request.ofLine, Request.parse]
    rfl
  have outside : Plan.evaluate 0x1000000000000 "string hi" = .error ⟨0x1000000000000⟩ := by
    rw [Plan.evaluate, Plan.ofLine, request]
    rfl
  refine ⟨⟨by rfl, ?_⟩, ?_, ?_, ?_, outside, ?_⟩
  · exact (assertion _).2.2.stops_iff.mpr (by decide)
  · exact (literals _ _).ok_iff.mpr ⟨_, last, by decide⟩
  · exact (literals _ _).tooWide _ next (by decide)
  · exact spared _ (by decide) _
  · exact (stopped _ _ _ outside).2

end QuietBox
