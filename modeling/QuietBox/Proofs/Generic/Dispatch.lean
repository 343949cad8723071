import QuietBox.Generic.Boxing
import QuietBox.Generic.TypeText

/-!
The dynamic conversion and the static one agree. The list that the dynamic conversion goes through
holds the supported types and no others, and each is compared with bare and under one option, so a
type that is found gives the static box whatever comes before it in the list. The static conversion
has no such limit: it takes options off at any depth.
-/

set_option autoImplicit false

namespace QuietBox

namespace HostType

/-- What a supported pointer may point to. -/
inductive Pointee : HostType → Prop
  | unsigned (w : IntWidth) : Pointee (.unsigned w)
  | signed (w : IntWidth) : Pointee (.signed w)
  | single : Pointee .single
  | double : Pointee .double
  | bool : Pointee .bool
  | unit : Pointee .unit

/-- The types that generic boxing is for. Integers of 64 bits may only be pointed to. -/
inductive Supported : HostType → Prop
  | double : Supported .double
  | single : Supported .single
  | unsigned {w : IntWidth} (narrow : w ≠ .w64) : Supported (.unsigned w)
  | signed {w : IntWidth} (narrow : w ≠ .w64) : Supported (.signed w)
  | bool : Supported .bool
  | unit : Supported .unit
  | text : Supported .text
  | pointer (form : PointerForm) {t : HostType} (pointee : Pointee t) : Supported (.pointer form t)

/-- A value under a number of options, all of which are there. -/
def somes {t : HostType} : (n : Nat) → t.Carrier → (wrapped n t).Carrier
  | 0, x => x
  | n + 1, x => some (somes n x)

/-- The machine address in a value, if it holds one. -/
def heldAddress? : (t : HostType) → t.Carrier → Option Word
  | double, _ => none
  | single, _ => none
  | unsigned _, _ => none
  | signed _, _ => none
  | bool, _ => none
  | unit, _ => none
  | text, a => some a
  | pointer _ _, a => some a
  | optional _, none => none
  | optional t, some x => t.heldAddress? x
  | other _, _ => none

section Static

variable {t u : HostType}

theorem Supported.converts (h : Supported t) : t.converts := by
  cases h with
  | unsigned narrow => exact bne_iff_ne.mpr narrow
  | signed narrow => exact bne_iff_ne.mpr narrow
  | _ => rfl

theorem not_supported_optional : ¬Supported (.optional t) := by
  intro h
  cases h

@[simp] theorem converts_wrapped (n : Nat) : (wrapped n t).converts = t.converts := by
  induction n with
  | zero => rfl
  | succ n ih => exact ih

/-- No supported type is an option, so the options around one can be counted. -/
theorem wrapped_inj (ht : Supported t) (hu : Supported u) {n m : Nat}
    (same : wrapped n t = wrapped m u) : n = m ∧ t = u := by
  induction n generalizing m with
  | zero =>
    cases m with
    | zero => exact ⟨rfl, same⟩
    | succ m =>
      change t = .optional (wrapped m u) at same
      rw [same] at ht
      exact absurd ht not_supported_optional
  | succ n ih =>
    cases m with
    | zero =>
      change .optional (wrapped n t) = u at same
      rw [← same] at hu
      exact absurd hu not_supported_optional
    | succ m =>
      obtain ⟨count, inner⟩ := ih (HostType.optional.inj same)
      exact ⟨congrArg Nat.succ count, inner⟩

/-- The static conversion looks at the type and the value only. -/
theorem box_cast (same : t = u) (ht : t.converts) (hu : u.converts) (x : t.Carrier) :
    u.box hu (same ▸ x) = t.box ht x := by
  cases same
  rfl

/-- Options that are there leave no trace. -/
theorem box_somes (n : Nat) (h : t.converts) (hn : (wrapped n t).converts) (x : t.Carrier) :
    (wrapped n t).box hn (somes n x) = t.box h x := by
  induction n with
  | zero => rfl
  | succ n ih => exact ih hn

/-- A value that is not there under all its options is null. -/
theorem box_of_ne_somes (n : Nat) (hn : (wrapped n t).converts) (v : (wrapped n t).Carrier)
    (missing : ∀ x, v ≠ somes n x) : (wrapped n t).box hn v = .ok .null := by
  induction n with
  | zero => exact absurd rfl (missing v)
  | succ n ih =>
    cases v with
    | none => rfl
    | some v =>
      apply ih hn v
      intro x same
      exact missing x (congrArg some same)

theorem pointerTo_eq_error_iff (a : Word) (e : AddressTooWide) :
    Word.pointerTo a = .error e ↔ a = e.address ∧ 0x1000000000000 ≤ e.address.toNat := by
  cases e with
  | mk address =>
    unfold Word.pointerTo Address.ofWord
    by_cases fits : a.toNat < 0x1000000000000
    · rw [dif_pos fits]
      simp only [Except.map, reduceCtorEq, false_iff]
      rintro ⟨rfl, wide⟩
      omega
    · rw [dif_neg fits]
      simp only [Except.map, Except.error.injEq, AddressTooWide.mk.injEq]
      constructor
      · rintro rfl
        exact ⟨rfl, Nat.le_of_not_lt fits⟩
      · exact And.left

/-- Only an address is refused, and only if it has more than 48 bits. -/
theorem box_eq_error_iff (h : t.converts) (x : t.Carrier) (e : AddressTooWide) :
    t.box h x = .error e ↔
      t.heldAddress? x = some e.address ∧ 0x1000000000000 ≤ e.address.toNat := by
  induction t with
  | text => simp only [box, heldAddress?, pointerTo_eq_error_iff, Option.some.injEq]
  | pointer form pointee =>
    simp only [box, heldAddress?, pointerTo_eq_error_iff, Option.some.injEq]
  | optional t ih =>
    cases x with
    | none => simp [box, heldAddress?]
    | some x => exact ih h x
  | other name => exact absurd h Bool.false_ne_true
  | _ => simp [box, heldAddress?]

end Static

end HostType

open HostType

namespace Dynamic

variable {t : HostType} {list : List Convertible}

/-- A type of the list, bare or under one option. -/
def Listed (list : List Convertible) (t : HostType) : Prop :=
  ∃ s ∈ list, t = s.1 ∨ t = .optional s.1

/-- Whichever candidate comes first, the box is that of the static conversion. -/
theorem dispatch_of_listed (listed : Listed list t) (h : t.converts) (x : t.Carrier) :
    dispatch t x list = some (t.box h x) := by
  -- The first match may be another candidate than the one that is listed, with the same type.
  induction list with
  | nil =>
    obtain ⟨s, member, -⟩ := listed
    cases member
  | cons s rest ih =>
    unfold dispatch
    split
    · next bare => exact congrArg some (box_cast bare h s.2 x)
    · split
      · next optional => exact congrArg some (box_cast optional h s.2 x)
      · next bare optional =>
        apply ih
        obtain ⟨found, member, same⟩ := listed
        cases member with
        | head => exact absurd same (not_or.mpr ⟨bare, optional⟩)
        | tail _ member => exact ⟨found, member, same⟩

theorem dispatch_of_not_listed (absent : ¬Listed list t) (x : t.Carrier) :
    dispatch t x list = none := by
  induction list with
  | nil => rfl
  | cons s rest ih =>
    unfold dispatch
    split
    · next bare => exact absurd ⟨s, List.mem_cons_self, Or.inl bare⟩ absent
    · split
      · next optional => exact absurd ⟨s, List.mem_cons_self, Or.inr optional⟩ absent
      · apply ih
        rintro ⟨found, member, same⟩
        exact absent ⟨found, List.mem_cons_of_mem s member, same⟩

theorem pointee_of_mem : ∀ t ∈ pointees, Pointee t := by
  simp only [pointees, List.forall_mem_cons]
  exact ⟨.unsigned .w8, .signed .w8, .unsigned .w16, .signed .w16, .unsigned .w32, .signed .w32,
    .unsigned .w64, .signed .w64, .single, .double, .bool, .unit, by simp⟩

theorem supported_of_mem_scalars : ∀ s ∈ scalars, Supported s.1 := by
  simp only [scalars, List.forall_mem_cons]
  exact ⟨.double, .single, .unsigned (by decide), .unsigned (by decide), .unsigned (by decide),
    .signed (by decide), .signed (by decide), .signed (by decide), .bool, .unit, .text, by simp⟩

theorem supported_of_mem_pointers : ∀ s ∈ pointers, Supported s.1 := by
  intro s member
  obtain ⟨t, pointee, form⟩ := List.mem_flatMap.mp member
  have pointee := pointee_of_mem t pointee
  simp only [List.mem_cons, List.not_mem_nil, or_false] at form
  rcases form with rfl | rfl | rfl <;> exact .pointer _ pointee

theorem mem_pointees (h : Pointee t) : t ∈ pointees := by
  cases h with
  | unsigned w => cases w <;> decide
  | signed w => cases w <;> decide
  | _ => decide

theorem mem_pointers (form : PointerForm) (h : Pointee t) :
    ⟨.pointer form t, rfl⟩ ∈ pointers := by
  apply List.mem_flatMap.mpr
  refine ⟨t, mem_pointees h, ?_⟩
  cases form <;> simp

/-- The list holds the supported types and no others. -/
theorem exists_candidate_iff : (∃ s ∈ candidates, s.1 = t) ↔ Supported t := by
  constructor
  · rintro ⟨s, member, rfl⟩
    rcases List.mem_append.mp member with scalar | pointer
    · exact supported_of_mem_scalars s scalar
    · exact supported_of_mem_pointers s pointer
  · intro h
    cases h with
    | pointer form pointee =>
      exact ⟨_, List.mem_append_right scalars (mem_pointers form pointee), rfl⟩
    | @unsigned w narrow =>
      revert narrow
      cases w <;> decide
    | @signed w narrow =>
      revert narrow
      cases w <;> decide
    | _ => decide

theorem listed_iff : Listed candidates t ↔ ∃ n s, Supported s ∧ n ≤ 1 ∧ t = wrapped n s := by
  simp only [← exists_candidate_iff]
  constructor
  · rintro ⟨s, member, rfl | rfl⟩
    · exact ⟨0, s.1, ⟨s, member, rfl⟩, by omega, rfl⟩
    · exact ⟨1, s.1, ⟨s, member, rfl⟩, by omega, rfl⟩
  · rintro ⟨n, _, ⟨s, member, rfl⟩, few, rfl⟩
    obtain rfl | rfl : n = 0 ∨ n = 1 := by omega
    · exact ⟨s, member, Or.inl rfl⟩
    · exact ⟨s, member, Or.inr rfl⟩

theorem box_of_listed (listed : Listed candidates t) (h : t.converts) (x : t.Carrier) :
    box t x = (t.box h x).mapError .address := by
  simp only [box, dispatch_of_listed listed h]

theorem box_of_not_listed (absent : ¬Listed candidates t) (x : t.Carrier) :
    box t x = .error (.unsupported t) := by
  simp only [box, dispatch_of_not_listed absent]

end Dynamic

/-- Generic boxing gives the same word whether the type is known beforehand or only at run time. A
supported type, bare or under one option, boxes dynamically as it does statically, refused
addresses included; any other type is refused by its name, a supported one under more options among
them. The static conversion refuses addresses of more than 48 bits only, and takes options off at
any depth. -/
theorem dynamic_boxing_agrees_with_static :
    (∀ (t : HostType) (n : Nat), Supported t → n ≤ 1 →
      ∃ h : (wrapped n t).converts = true, ∀ x : (wrapped n t).Carrier,
        Dynamic.box (wrapped n t) x = ((wrapped n t).box h x).mapError .address) ∧
    (∀ t : HostType, (∀ (n : Nat) (s : HostType), Supported s → n ≤ 1 → t ≠ wrapped n s) →
      ∀ x : t.Carrier,
        Dynamic.box t x = .error (.unsupported t) ∧
          (BoxFault.unsupported t).message = "unsupported type: " ++ t.fullName) ∧
    (∀ (t : HostType) (n : Nat), Supported t → 2 ≤ n → ∀ x : (wrapped n t).Carrier,
      Dynamic.box (wrapped n t) x = .error (.unsupported (wrapped n t))) ∧
    (∀ (t : HostType) (h : t.converts = true) (x : t.Carrier) (e : AddressTooWide),
      t.box h x = .error e ↔ t.heldAddress? x = some e.address ∧
        0x1000000000000 ≤ e.address.toNat) ∧
    (∀ (t : HostType) (n : Nat) (h : t.converts = true) (hn : (wrapped n t).converts = true)
      (x : t.Carrier), (wrapped n t).box hn (somes n x) = t.box h x) ∧
    (∀ (t : HostType) (n : Nat) (h : (wrapped n (.optional t)).converts = true),
      (wrapped n (.optional t)).box h (somes n none) = .ok .null) ∧
    (∀ (t : HostType) (n : Nat) (h : (wrapped n t).converts = true) (v : (wrapped n t).Carrier),
      (∀ x, v ≠ somes n x) → (wrapped n t).box h v = .ok .null) := by
  refine ⟨?_, ?_, ?_, ?_, ?_, ?_, ?_⟩
  · intro t n supported few
    have converts : (wrapped n t).converts := by
      rw [converts_wrapped]
      exact supported.converts
    refine ⟨converts, ?_⟩
    intro x
    exact Dynamic.box_of_listed (Dynamic.listed_iff.mpr ⟨n, t, supported, few, rfl⟩) converts x
  · intro t other x
    refine ⟨Dynamic.box_of_not_listed ?_ x, rfl⟩
    intro listed
    obtain ⟨n, s, supported, few, same⟩ := Dynamic.listed_iff.mp listed
    exact other n s supported few same
  · intro t n supported many x
    apply Dynamic.box_of_not_listed
    intro listed
    obtain ⟨m, s, other, few, same⟩ := Dynamic.listed_iff.mp listed
    have count := (wrapped_inj supported other same).1
    omega
  · intro t h x e
    exact box_eq_error_iff h x e
  · intro t n h hn x
    exact box_somes n h hn x
  · intro t n h
    have converts : (HostType.optional t).converts := by rw [← h, converts_wrapped]
    exact box_somes n converts h none
  · intro t n h v missing
    exact box_of_ne_somes n h v missing

/-- A small negative integer under one option, an integer that is too wide, a Boolean under two
options, an address that is too wide, and options around a value and around none. -/
theorem dynamic_boxing_agrees_with_static_at_edges :
    (Supported (.signed .w8) ∧
      Dynamic.box (.optional (.signed .w8)) (some 0xF9#8) = .ok (.ofSint (-7))) ∧
    (Dynamic.box (.unsigned .w64) 42 = .error (.unsupported (.unsigned .w64)) ∧
      (BoxFault.unsupported (.unsigned .w64)).message = "unsupported type: " ++ "u64") ∧
    Dynamic.box (wrapped 2 .bool) (some (some true)) = .error (.unsupported (wrapped 2 .bool)) ∧
    HostType.text.box rfl 0x1000000000000 = .error ⟨0x1000000000000⟩ ∧
    (wrapped 3 .bool).box rfl (some (some (some true))) = .ok (.ofBool true) ∧
    (wrapped 2 (.optional .unit)).box rfl (some (some none)) = .ok .null ∧
    (wrapped 2 .double).box rfl (some none) = .ok .null := by
  obtain ⟨listed, other, many, wide, there, absent, missing⟩ := dynamic_boxing_agrees_with_static
  have narrow : Supported (.signed .w8) := .signed (by decide)
  have unlisted (n : Nat) (s : HostType) (supported : Supported s) (few : n ≤ 1) :
      .unsigned .w64 ≠ wrapped n s := by
    intro same
    obtain rfl | rfl : n = 0 ∨ n = 1 := by omega
    · cases same
      cases supported with
      | unsigned narrow => exact narrow rfl
    · cases same
  obtain ⟨converts, agrees⟩ := listed (.signed .w8) 1 narrow (by decide)
  refine ⟨⟨narrow, ?_⟩, other (.unsigned .w64) unlisted 42, ?_, ?_, ?_, ?_, ?_⟩
  · exact (agrees (some 0xF9#8)).trans rfl
  · exact many .bool 2 .bool (by decide) (some (some true))
  · exact (wide .text rfl 0x1000000000000 ⟨0x1000000000000⟩).mpr ⟨rfl, by decide⟩
  · exact there .bool 3 rfl rfl true
  · exact absent .unit 2 rfl
  · refine missing .double 2 rfl (some none) ?_
    intro x same
    cases same

end QuietBox
