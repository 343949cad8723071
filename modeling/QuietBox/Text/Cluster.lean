import QuietBox.Text.Cluster.Break
import QuietBox.Text.Cluster.Conjunct
import QuietBox.Text.Cluster.Pictograph

/-!
Clusters: the shortest parts of a text that are seen as one character, by the Unicode rules for
extended grapheme clusters. Whether a character joins the cluster before it depends on the text up
to it through a `Context` alone. Clusters lose nothing: in a row they are the text.
-/

set_option autoImplicit false

namespace QuietBox.Text

/-- A sequence that a later character may join: not begun, begun, or ready to be joined. -/
inductive Sequence where
  | absent
  | begun
  | ready
deriving DecidableEq, Repr

/-- What matters of the text up to a character. -/
structure Context where
  /-- The break of the character. -/
  last : ClusterBreak
  /-- The character is half a flag and its other half has not been seen. -/
  halfFlag : Bool
  /-- A pictograph and extenders, ready after a joiner. -/
  pictograph : Sequence
  /-- A consonant and extenders, ready after a linker. -/
  conjunct : Sequence
deriving DecidableEq, Repr

namespace Context

/-- Before any character. -/
def empty : Context := ⟨.control, false, .absent, .absent⟩

/-- The pictograph sequence after a further character. -/
def pictographAfter (before : Sequence) (c : Char) : Sequence :=
  if isPictograph c then .begun
  else
    match clusterBreak c, before with
    | .extend, .begun => .begun
    | .joiner, .begun => .ready
    | _, _ => .absent

/-- The conjunct after a further character; a joiner is an extender here, a non-joiner is none. -/
def conjunctAfter (before : Sequence) (c : Char) : Sequence :=
  if isConsonant c then .begun
  else if before = .absent then .absent
  else if isLinker c then .ready
  else if c = Char.ofNat 0x200C then .absent
  else
    match clusterBreak c with
    | .extend => before
    | .joiner => before
    | _ => .absent

/-- The context after a further character. -/
def after (before : Context) (c : Char) : Context where
  last := clusterBreak c
  halfFlag := clusterBreak c = .regional && !before.halfFlag
  pictograph := pictographAfter before.pictograph c
  conjunct := conjunctAfter before.conjunct c

/-- Whether a character joins the cluster before it. -/
def joins (before : Context) (c : Char) : Bool :=
  before.last.joins (clusterBreak c) ||
    (before.halfFlag && clusterBreak c = .regional) ||
    (before.pictograph = .ready && isPictograph c) ||
    (before.conjunct = .ready && isConsonant c)

end Context

/-- The rest of the cluster before a text, and the clusters after it. -/
def clustersAfter (before : Context) : List Char → List Char × List (List Char)
  | [] => ([], [])
  | c :: rest =>
    let (own, later) := clustersAfter (before.after c) rest
    if before.joins c then (c :: own, later) else ([], (c :: own) :: later)

/-- The clusters of a text. -/
def clusters (text : List Char) : List (List Char) := (clustersAfter .empty text).2

/-- Nothing joins what is before any character. -/
@[simp] theorem Context.joins_empty (c : Char) : empty.joins c = false := by
  have apart : ∀ b : ClusterBreak, ClusterBreak.control.joins b = false := by
    intro b
    cases b <;> rfl
  simp [joins, empty, apart]

private theorem clustersAfter_flatten (before : Context) (text : List Char) :
    (clustersAfter before text).1 ++ (clustersAfter before text).2.flatten = text := by
  induction text generalizing before with
  | nil => rfl
  | cons c rest ih =>
    have h := ih (before.after c)
    by_cases joined : before.joins c
    · simpa [clustersAfter, joined] using h
    · simpa [clustersAfter, joined] using h

/-- The clusters in a row are the text. -/
@[simp] theorem flatten_clusters (text : List Char) : (clusters text).flatten = text := by
  have whole := clustersAfter_flatten .empty text
  have first : (clustersAfter .empty text).1 = [] := by
    cases text with
    | nil => rfl
    | cons c rest => simp [clustersAfter]
  rwa [first, List.nil_append] at whole

end QuietBox.Text
