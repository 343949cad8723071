import QuietBox.Text.Cluster
import QuietBox.Text.Utf8

/-!
Backspaces: a backspace in a text takes back the cluster that was typed before it. A text without
backspaces stands as it is.
-/

set_option autoImplicit false

namespace QuietBox.Text

def backspace : Char := '\x08'

/-- What has been typed and not taken back, the last character first, and the size in bytes of each
cluster of it, the last one first. A size is kept in one byte, so those from 256 on wrap. -/
structure Typed where
  text : List Char := []
  sizes : List UInt8 := []
deriving DecidableEq, Repr

namespace Typed

/-- A text without as many bytes in front. A character in which they end goes whole. That happens
only behind a cluster of 256 bytes or more, whose size has wrapped, and no line is read then: the
program ends in a panic, which is not told here. -/
def dropBytes : Nat → List Char → List Char
  | 0, text => text
  | _ + 1, [] => []
  | n + 1, c :: rest => dropBytes (n + 1 - c.utf8Size) rest

/-- The last cluster is taken back, if there is one. -/
def takeBack (t : Typed) : Typed :=
  match t.sizes with
  | [] => t
  | size :: sizes => ⟨dropBytes size.toNat t.text, sizes⟩

def append (t : Typed) (cluster : List Char) : Typed :=
  ⟨cluster.reverse ++ t.text, UInt8.ofNat (Utf8.encode cluster).length :: t.sizes⟩

/-- A cluster is typed. -/
def enter (t : Typed) (cluster : List Char) : Typed :=
  if cluster = [backspace] then t.takeBack else t.append cluster

/-- As many bytes as a text has in front are that text. -/
theorem dropBytes_append (front rest : List Char) :
    dropBytes (Utf8.encode front).length (front ++ rest) = rest := by
  induction front with
  | nil => rw [Utf8.encode, List.flatMap_nil, List.length_nil, List.nil_append, dropBytes]
  | cons c front ih =>
    have size : (Utf8.encode (c :: front)).length = (Utf8.encode front).length + c.utf8Size := by
      rw [Utf8.encode, List.flatMap_cons, List.length_append, String.length_utf8EncodeChar,
        Nat.add_comm, Utf8.encode]
    obtain ⟨n, more⟩ := Nat.exists_eq_add_of_lt c.utf8Size_pos
    rw [size, more, List.cons_append, Nat.zero_add, ← Nat.add_assoc, dropBytes, more]
    have left : (Utf8.encode front).length + n + 1 - (0 + n + 1) = (Utf8.encode front).length := by
      omega
    rw [left, ih]

/-- A cluster of less than 256 bytes is taken back as it was typed. -/
theorem takeBack_append (t : Typed) {cluster : List Char}
    (small : (Utf8.encode cluster).length < 256) : (t.append cluster).takeBack = t := by
  have size : (UInt8.ofNat (Utf8.encode cluster).length).toNat =
      (Utf8.encode cluster.reverse).length := by
    rw [UInt8.toNat_ofNat_of_lt' small, Utf8.encode, Utf8.encode, List.length_flatMap,
      List.length_flatMap, List.map_reverse, List.sum_reverse]
  rw [append, takeBack]
  simp only [size, dropBytes_append]

/-- A backspace undoes what was typed last. -/
theorem enter_backspace (t : Typed) {cluster : List Char} (typed : cluster ≠ [backspace])
    (small : (Utf8.encode cluster).length < 256) : (t.enter cluster).enter [backspace] = t := by
  rw [enter, if_pos rfl, enter, if_neg typed, takeBack_append t small]

end Typed

/-- What is left of a text when its backspaces have taken back what was before them. -/
def applyBackspaces (text : List Char) : List Char :=
  ((clusters text).foldl Typed.enter {}).text.reverse

/-- Clusters that are no backspaces stand as they are. -/
theorem text_foldl_enter (t : Typed) (parts : List (List Char)) (h : [backspace] ∉ parts) :
    (parts.foldl Typed.enter t).text = parts.flatten.reverse ++ t.text := by
  induction parts generalizing t with
  | nil => rfl
  | cons cluster parts ih =>
    simp only [List.mem_cons, not_or] at h
    have entered : t.enter cluster = t.append cluster := if_neg (Ne.symm h.1)
    rw [List.foldl_cons, ih _ h.2, entered, Typed.append]
    simp only [List.flatten_cons, List.reverse_append, List.append_assoc]

/-- A text without backspaces stands as it is. -/
theorem applyBackspaces_of_notMem {text : List Char} (h : backspace ∉ text) :
    applyBackspaces text = text := by
  have parts : [backspace] ∉ clusters text := by
    intro member
    have : backspace ∈ (clusters text).flatten :=
      List.mem_flatten.2 ⟨_, member, List.mem_singleton.2 rfl⟩
    exact h (flatten_clusters text ▸ this)
  rw [applyBackspaces, text_foldl_enter _ _ parts, List.append_nil, List.reverse_reverse,
    flatten_clusters]

end QuietBox.Text
