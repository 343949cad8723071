import QuietBox.Tag

/-!
Words and their fields. Bit 63 is the sign, bits 62 to 52 the exponent and bit 51 the quiet bit;
these thirteen bits are the signature. Bits 50 to 48 hold the tag and bits 47 to 0 the payload.
Fields are read by division and remainder, so that statements about them are linear arithmetic: the
payload lies below 0x1000000000000 (bit 48), and the signature starts at 0x8000000000000 (bit 51).
-/

set_option autoImplicit false

namespace QuietBox

/-- A 64-bit word. -/
abbrev Word := BitVec 64

/-- The signature of the reserved region: sign clear, exponent all ones, quiet bit set. -/
def reservedSignature : Nat := 0xFFF

/-- A word by its three fields, which may be wider than their places. -/
structure Tagged where
  signature : Nat
  tag : Tag
  payload : Nat
deriving DecidableEq, Repr

/-- The word with the given fields, each cut to its width. -/
def Tagged.toWord (t : Tagged) : Word :=
  BitVec.ofNat 64
    (t.signature % 0x2000 * 0x8000000000000 + t.tag.toNat * 0x1000000000000 +
      t.payload % 0x1000000000000)

/-- The fields cut to their widths. -/
def Tagged.truncate (t : Tagged) : Tagged :=
  ⟨t.signature % 0x2000, t.tag, t.payload % 0x1000000000000⟩

namespace Word

/-- The word of a natural number, reduced below 2^64. -/
def ofNat (n : Nat) : Word := BitVec.ofNat 64 n

/-- The reserved word with a tag and a payload. -/
def reserved (tag : Tag) (payload : Nat) : Word :=
  Tagged.toWord ⟨reservedSignature, tag, payload⟩

/-- The top 13 bits. -/
def signature (w : Word) : Nat := w.toNat / 0x8000000000000

/-- The tag field, whatever the signature. -/
def tagField (w : Word) : Tag := Tag.ofField (w.toNat / 0x1000000000000)

/-- The low 48 bits. -/
def payload (w : Word) : Nat := w.toNat % 0x1000000000000

/-- The fields of a word, whatever its signature. -/
def fields (w : Word) : Tagged := ⟨w.signature, w.tagField, w.payload⟩

theorem signature_lt (w : Word) : w.signature < 0x2000 := by
  have := w.isLt
  simp only [signature]
  omega

theorem payload_lt (w : Word) : w.payload < 0x1000000000000 := Nat.mod_lt _ (by decide)

end Word

theorem Tagged.toNat_toWord (t : Tagged) :
    t.toWord.toNat =
      t.signature % 0x2000 * 0x8000000000000 + t.tag.toNat * 0x1000000000000 +
        t.payload % 0x1000000000000 := by
  have := t.tag.toNat_lt
  simp only [toWord, BitVec.toNat_ofNat]
  omega

/-- Assembling the fields of a word gives the word. -/
@[simp] theorem Word.toWord_fields (w : Word) : w.fields.toWord = w := by
  apply BitVec.eq_of_toNat_eq
  have := w.isLt
  simp only [Tagged.toNat_toWord, fields, signature, tagField, payload, Tag.toNat_ofField]
  omega

/-- Taking an assembled word apart gives the fields cut to their widths. -/
@[simp] theorem Tagged.fields_toWord (t : Tagged) : t.toWord.fields = t.truncate := by
  have := t.tag.toNat_lt
  have h := t.toNat_toWord
  have hsig : t.toWord.signature = t.signature % 0x2000 := by
    simp only [Word.signature]; omega
  have hpay : t.toWord.payload = t.payload % 0x1000000000000 := by
    simp only [Word.payload]; omega
  have htag : t.toWord.tagField = t.tag := by
    have : t.toWord.toNat / 0x1000000000000 % 8 = t.tag.toNat := by omega
    rw [Word.tagField, ← Tag.ofField_mod, this, Tag.ofField_toNat]
  simp only [Word.fields, hsig, hpay, htag, truncate]

/-- Two words with the same fields are the same. -/
theorem Word.ext_fields {a b : Word} (h : a.fields = b.fields) : a = b := by
  rw [← a.toWord_fields, h, b.toWord_fields]

end QuietBox
