import QuietBox.Proofs.Word.Reserved

/-!
Fields and their words. Assembling keeps of each field what fits in its place and nothing leaks from
one place into another, so the tagged view reads back the fields as they were cut, except where the
word is a double: outside the reserved signature, and at the canonical NaN. Hence one field can be
replaced without a change to the other two.
-/

set_option autoImplicit false

namespace QuietBox

namespace Tagged

/-- The fields of a word that is no double: the signature is the reserved one, and tag and payload
are not those of the canonical NaN. Only the bits that fit count. -/
def IsReserved (t : Tagged) : Prop :=
  t.signature % 0x2000 = reservedSignature ∧
    ¬(t.tag = .nan ∧ t.payload % 0x1000000000000 = 0)

instance (t : Tagged) : Decidable t.IsReserved := inferInstanceAs (Decidable (_ ∧ _))

/-- Words are the same when their fields are, as far as they fit. -/
theorem toWord_eq_iff {t u : Tagged} : t.toWord = u.toWord ↔ t.truncate = u.truncate := by
  constructor
  · intro same
    rw [← fields_toWord, same, fields_toWord]
  · intro same
    apply Word.ext_fields
    rw [fields_toWord, fields_toWord, same]

theorem toWord_eq_nan_iff (t : Tagged) :
    t.toWord = Word.nan ↔
      t.signature % 0x2000 = reservedSignature ∧ t.tag = .nan ∧
        t.payload % 0x1000000000000 = 0 := by
  have canonical : truncate ⟨reservedSignature, .nan, 0⟩ = ⟨reservedSignature, .nan, 0⟩ := by
    decide
  rw [Word.nan, Word.reserved, toWord_eq_iff, canonical, truncate, mk.injEq]

theorem isDouble_toWord_iff (t : Tagged) : t.toWord.isDouble ↔ ¬t.IsReserved := by
  have signature : t.toWord.signature = t.signature % 0x2000 :=
    congrArg Tagged.signature t.fields_toWord
  have canonical : t.toWord.isNan ↔ t.toWord = Word.nan := decide_eq_true_iff
  rw [Word.isDouble, Bool.or_eq_true, decide_eq_true_iff, canonical, toWord_eq_nan_iff, signature,
    IsReserved]
  constructor
  · rintro (outside | ⟨-, nan⟩) ⟨inside, other⟩
    · exact outside inside
    · exact other nan
  · intro free
    by_cases inside : t.signature % 0x2000 = reservedSignature
    · exact Or.inr ⟨inside, Classical.byContradiction fun other => free ⟨inside, other⟩⟩
    · exact Or.inl inside

theorem tagged?_toWord (t : Tagged) :
    t.toWord.tagged? = if t.IsReserved then some t.truncate else none := by
  rw [Word.tagged?, fields_toWord]
  by_cases reserved : t.IsReserved
  · rw [if_neg fun double => (isDouble_toWord_iff t).mp double reserved, if_pos reserved]
  · rw [if_pos ((isDouble_toWord_iff t).mpr reserved), if_neg reserved]

/-- Fields fit when cutting them to their widths changes nothing. -/
theorem truncate_eq_self_iff (t : Tagged) :
    t.truncate = t ↔ t.signature < 0x2000 ∧ t.payload < 0x1000000000000 := by
  cases t with
  | mk signature tag payload =>
    simp only [truncate, mk.injEq, true_and]
    omega

/-- Fields that fit are read back exactly when they are those of a word that is no double. -/
theorem tagged?_toWord_eq_self_iff (t : Tagged) :
    t.toWord.tagged? = some t ↔
      (t.signature < 0x2000 ∧ t.payload < 0x1000000000000) ∧
        t.signature = reservedSignature ∧ t.toWord ≠ Word.nan := by
  rw [tagged?_toWord, ← truncate_eq_self_iff, ne_eq, toWord_eq_nan_iff]
  constructor
  · intro read
    by_cases reserved : t.IsReserved
    · rw [if_pos reserved, Option.some.injEq] at read
      have fits : t.signature % 0x2000 = t.signature := congrArg Tagged.signature read
      refine ⟨read, fits.symm.trans reserved.1, ?_⟩
      rintro ⟨-, nan⟩
      exact reserved.2 nan
    · rw [if_neg reserved] at read
      cases read
  · rintro ⟨fits, inside, other⟩
    have signature : t.signature % 0x2000 = t.signature := congrArg Tagged.signature fits
    have reserved : t.IsReserved :=
      ⟨signature.trans inside, fun nan => other ⟨signature.trans inside, nan⟩⟩
    rw [if_pos reserved, fits]

end Tagged

namespace Word

variable {w : Word} {t : Tagged}

theorem tagged?_eq_some_iff : w.tagged? = some t ↔ ¬w.isDouble ∧ w.fields = t := by
  unfold tagged?
  split
  · rename_i double
    exact iff_of_false nofun fun both => both.1 double
  · rename_i tagged
    rw [Option.some.injEq]
    exact (and_iff_right tagged).symm

/-- The fields of a word fit. -/
theorem lt_of_tagged? (h : w.tagged? = some t) :
    t.signature < 0x2000 ∧ t.payload < 0x1000000000000 := by
  obtain ⟨-, rfl⟩ := tagged?_eq_some_iff.mp h
  exact ⟨w.signature_lt, w.payload_lt⟩

/-- Whatever fields make a word that is no double, it is read back as they fit. -/
theorem tagged?_toWord_of_not_isDouble (h : ¬t.toWord.isDouble) :
    t.toWord.tagged? = some t.truncate := by
  rw [Tagged.isDouble_toWord_iff, Classical.not_not] at h
  rw [Tagged.tagged?_toWord, if_pos h]

theorem tagged?_reserved {u : Tag} (payload : u.isImmediate = false) (p : Nat) :
    (reserved u p).tagged? = some ⟨reservedSignature, u, p % 0x1000000000000⟩ := by
  have tagged : ¬(reserved u p).isDouble := by
    rw [isDouble_reserved, Bool.and_eq_true, decide_eq_true_iff]
    rintro ⟨rfl, -⟩
    cases payload
  exact tagged?_eq_some_iff.mpr ⟨tagged, fields_reserved u p⟩

/-- The payload of a reserved word makes the word again, under any tag. -/
theorem toWord_payload_reserved (v : Tag) (p : Nat) :
    Tagged.toWord ⟨reservedSignature, v, p % 0x1000000000000⟩ = reserved v p := by
  rw [reserved, Tagged.toWord_eq_iff]
  simp only [Tagged.truncate, Nat.mod_mod]

end Word

/-- The bits of a signed number are those of its remainder. -/
theorem toNat_toUInt32 (n : Int32) : (n.toUInt32.toNat : Int) = n.toInt % 0x100000000 := by
  have bound := n.toUInt32.toNat_lt
  have bits : n.toInt =
      if 2 * n.toUInt32.toNat < 2 ^ 32 then (n.toUInt32.toNat : Int)
      else n.toUInt32.toNat - (2 ^ 32 : Nat) :=
    n.toBitVec.toInt_eq_toNat_cond
  rw [bits]
  split <;> omega

/-- The tagged view and the word of fields obey the laws of a record. A word that is no double is
made up of its view; fields make the same word exactly when they agree in their places; they are
read back as they fit when they are those of a word that is no double, and not at all otherwise, so
they are read back unchanged only if they fit too. A word with one field replaced keeps the other
two, unless it becomes a double, and an integer whose tag is replaced is the integer of the other
sign with the same low half. -/
theorem tagged_view_is_record :
    (∀ w : Word, ¬w.isDouble → ∃ t, w.tagged? = some t ∧ t.toWord = w) ∧
    (∀ t u : Tagged, t.toWord = u.toWord ↔
      t.signature % 0x2000 = u.signature % 0x2000 ∧ t.tag = u.tag ∧
        t.payload % 0x1000000000000 = u.payload % 0x1000000000000) ∧
    (∀ t : Tagged,
      (t.toWord.tagged? =
          some ⟨t.signature % 0x2000, t.tag, t.payload % 0x1000000000000⟩ ↔
        t.signature % 0x2000 = reservedSignature ∧
          ¬(t.tag = .nan ∧ t.payload % 0x1000000000000 = 0)) ∧
      (¬(t.signature % 0x2000 = reservedSignature ∧
          ¬(t.tag = .nan ∧ t.payload % 0x1000000000000 = 0)) →
        t.toWord.tagged? = none)) ∧
    (∀ t : Tagged, t.toWord.tagged? = some t ↔
      (t.signature < 0x2000 ∧ t.payload < 0x1000000000000) ∧
        t.signature = reservedSignature ∧ t.toWord ≠ Word.nan) ∧
    (∀ (w : Word) (t : Tagged), w.tagged? = some t →
      (∀ s, ¬(Tagged.toWord { t with signature := s }).isDouble →
        (Tagged.toWord { t with signature := s }).tagged? =
          some { t with signature := s % 0x2000 }) ∧
      (∀ u, ¬(Tagged.toWord { t with tag := u }).isDouble →
        (Tagged.toWord { t with tag := u }).tagged? = some { t with tag := u }) ∧
      (∀ p, ¬(Tagged.toWord { t with payload := p }).isDouble →
        (Tagged.toWord { t with payload := p }).tagged? =
          some { t with payload := p % 0x1000000000000 })) ∧
    (∀ n : Int32, ∃ m : UInt32, (m.toNat : Int) = n.toInt % 0x100000000 ∧
      (∃ t, (Word.ofSint n).tagged? = some t ∧
        Tagged.toWord { t with tag := .uint } = Word.ofUint m) ∧
      (∃ t, (Word.ofUint m).tagged? = some t ∧
        Tagged.toWord { t with tag := .sint } = Word.ofSint n)) := by
  refine ⟨?_, ?_, ?_, Tagged.tagged?_toWord_eq_self_iff, ?_, ?_⟩
  · intro w tagged
    exact ⟨w.fields, Word.tagged?_eq_some_iff.mpr ⟨tagged, rfl⟩, w.toWord_fields⟩
  · intro t u
    rw [Tagged.toWord_eq_iff, Tagged.truncate, Tagged.truncate, Tagged.mk.injEq]
  · intro t
    rw [Tagged.tagged?_toWord]
    constructor
    · constructor
      · intro read
        by_cases reserved : t.IsReserved
        · exact reserved
        · rw [if_neg reserved] at read
          cases read
      · intro reserved
        exact if_pos reserved
    · intro free
      exact if_neg free
  · intro w t viewed
    obtain ⟨signature, payload⟩ := Word.lt_of_tagged? viewed
    refine ⟨?_, ?_, ?_⟩
    · intro s tagged
      rw [Word.tagged?_toWord_of_not_isDouble tagged, Tagged.truncate, Nat.mod_eq_of_lt payload]
    · intro u tagged
      rw [Word.tagged?_toWord_of_not_isDouble tagged, Tagged.truncate, Nat.mod_eq_of_lt signature,
        Nat.mod_eq_of_lt payload]
    · intro p tagged
      rw [Word.tagged?_toWord_of_not_isDouble tagged, Tagged.truncate,
        Nat.mod_eq_of_lt signature]
  · intro n
    exact ⟨n.toUInt32, toNat_toUInt32 n,
      ⟨_, Word.tagged?_reserved rfl _, Word.toWord_payload_reserved .uint _⟩,
      ⟨_, Word.tagged?_reserved rfl _, Word.toWord_payload_reserved .sint _⟩⟩

/-- Fields too wide for their places, a signature that is not the reserved one, a payload that
overflows to nothing under the tag of a NaN, and the least signed integer. -/
theorem tagged_view_is_record_past_widths :
    Tagged.toWord ⟨0xFFFF, .uint, 0xFFFF000000000001⟩ = Tagged.toWord ⟨0x1FFF, .uint, 1⟩ ∧
      Tagged.toWord ⟨0x2FFF, .uint, 0x1000000000001⟩ = 0x7FFE000000000001 ∧
      (Tagged.toWord ⟨0x2FFF, .uint, 0x1000000000001⟩).tagged? = some ⟨0xFFF, .uint, 1⟩ ∧
      (Tagged.toWord ⟨0x2FFF, .uint, 0x1000000000001⟩).tagged? ≠
        some ⟨0x2FFF, .uint, 0x1000000000001⟩ ∧
      (Tagged.toWord ⟨0xFFF, .nan, 0x1000000000000⟩).tagged? = none ∧
      (Tagged.toWord ⟨0xFFF, .uint, 0x1000000000002⟩).tagged? = some ⟨0xFFF, .uint, 2⟩ ∧
      (∃ m : UInt32, (m.toNat : Int) = (-0x80000000 : Int32).toInt % 0x100000000 ∧
        ∃ t, (Word.ofUint m).tagged? = some t ∧
          Tagged.toWord { t with tag := .sint } = Word.ofSint (-0x80000000)) := by
  obtain ⟨back, same, read, whole, replaced, signs⟩ := tagged_view_is_record
  obtain ⟨m, remainder, -, unsigned⟩ := signs (-0x80000000)
  obtain ⟨t, viewed, -⟩ := back 0x7FFE000000000001 (by decide)
  have one : t = ⟨0xFFF, .uint, 1⟩ := Option.some.inj (viewed.symm.trans (by decide))
  have kept := (replaced _ _ viewed).2.2 0x1000000000002
  rw [one] at kept
  refine ⟨(same _ _).mpr (by decide), by decide, (read _).1.mpr (by decide), ?_,
    (read _).2 (by decide), kept (by decide), m, remainder, unsigned⟩
  rw [ne_eq, whole]
  decide

end QuietBox
