import Mathlib
import QuietBox.Proofs.Text.Blanks
import QuietBox.Request

/-!
The grammar of request lines. A line asks for an encoding by the name of a kind and perhaps a value,
with the word `encode` in front any number of times, or for a decoding by the word `decode` and a
value. Reading a line accepts exactly these parts, however many blanks stand around and between
them.
-/

set_option autoImplicit false

namespace QuietBox

open Text

namespace Kind

/-- The name of a kind in any ASCII case: each letter as it stands in the name or as its capital. -/
def Spelled (kind : Kind) (text : List Char) : Prop :=
  List.Forall₂ (fun c letter => c = letter ∨ c = letter.toUpper) text kind.name.toList

/-- A small letter is what its capital and itself turn into. -/
theorem toLower_eq_iff {c letter : Char} (small : letter.isLower) :
    c.toLower = letter ↔ c = letter ∨ c = letter.toUpper := by
  have same : letter.toLower = letter :=
    Char.toLower_eq_of_not_isUpper (Char.not_isUpper_of_isLower small)
  constructor
  · rintro rfl
    by_cases capital : c.isUpper
    · apply Or.inr
      rw [Char.toUpper_toLower_eq_toUpper,
        Char.toUpper_eq_of_not_isLower (Char.not_isLower_of_isUpper capital)]
    · exact Or.inl (Char.toLower_eq_of_not_isUpper capital).symm
  · rintro (rfl | rfl)
    · exact same
    · rw [Char.toLower_toUpper_eq_toLower, same]

theorem isLower_of_mem_name (kind : Kind) : ∀ c ∈ kind.name.toList, c.isLower := by
  have small : kind.name.toList.all Char.isLower := by cases kind <;> decide
  exact List.all_eq_true.mp small

theorem map_toLower_eq_iff {name : List Char} (small : ∀ c ∈ name, c.isLower) (text : List Char) :
    text.map Char.toLower = name ↔
      List.Forall₂ (fun c letter => c = letter ∨ c = letter.toUpper) text name := by
  induction name generalizing text with
  | nil => cases text <;> simp
  | cons letter name ih =>
    cases text with
    | nil => simp
    | cons c text =>
      have rest := ih (fun c member => small c (List.mem_cons_of_mem _ member)) text
      rw [List.map_cons, List.cons.injEq, List.forall₂_cons, rest,
        toLower_eq_iff (small letter List.mem_cons_self)]

theorem ofName?_eq_some_iff {text : List Char} {kind : Kind} :
    ofName? text = some kind ↔ text = kind.name.toList := by
  constructor
  · intro found
    have named := List.find?_some found
    exact (of_decide_eq_true named).symm
  · rintro rfl
    cases kind <;> decide

theorem ofText?_eq_some_iff {text : List Char} {kind : Kind} :
    ofText? text = some kind ↔ kind.Spelled text := by
  rw [ofText?, ofName?_eq_some_iff, map_toLower_eq_iff kind.isLower_of_mem_name, Spelled]

/-- A spelled name has letters only, so it is a word of a line. -/
theorem Spelled.isWord {kind : Kind} {text : List Char} (h : kind.Spelled text) : IsWord text := by
  have small := kind.isLower_of_mem_name
  have letters : ∀ c ∈ text, c.isAlpha := by
    have same := (map_toLower_eq_iff small text).mpr h
    intro c member
    have lower := small c.toLower (same ▸ List.mem_map_of_mem member)
    rwa [Char.isLower_toLower_eq_isAlpha] at lower
  constructor
  · rintro rfl
    have length := List.Forall₂.length_eq h
    cases kind <;> cases length
  · intro c member
    have letter := letters c member
    have range : (65 ≤ c.toNat ∧ c.toNat ≤ 90) ∨ (97 ≤ c.toNat ∧ c.toNat ≤ 122) := by
      simpa [Char.isAlpha, Char.isUpper, Char.isLower, UInt32.le_iff_toNat_le] using letter
    simp only [isBlank, blankRanges, inRanges, search, Bool.and_eq_false_iff, Bool.or_eq_false_iff,
      decide_eq_false_iff_not]
    omega

end Kind

namespace Request

/-- The parts of a line that asks for a request. -/
inductive Asks : Request → List (List Char) → Prop
  | kind {kind : Kind} {name : List Char} {value : Option String} :
      kind.Spelled name → (∀ v, value = some v → IsTrimmed v.toList) →
        Asks (.encode kind value) (name :: value.toList.map String.toList)
  | encode {kind : Kind} {value : Option String} {parts : List (List Char)} :
      Asks (.encode kind value) parts → Asks (.encode kind value) ("encode".toList :: parts)
  | decode {word : String} :
      IsTrimmed word.toList → Asks (.decode word) ["decode".toList, word.toList]

/-- What the word `encode` in front makes of an answer. -/
def afterEncode : Except Failure Request → Except Failure Request
  | .ok (.decode _) => .error (.of .missingKind)
  | answer => answer

theorem parse_blanks {line : List Char} (h : Blanks line) :
    parse line = .error (.of .emptyInput) := by
  have none := trim_eq_nil_iff.mpr h
  rw [parse]
  simp only [none]
  rfl

/-- Blanks around a line do not count. -/
theorem parse_trim (line : List Char) : parse (trim line) = parse line := by
  conv => lhs; rw [parse]
  conv => rhs; rw [parse]
  simp only [trim_trim]

theorem isWord_decode : IsWord "decode".toList := by decide

theorem isWord_encode : IsWord "encode".toList := by decide

section FirstWord

variable {before word follow : List Char}

/-- Blanks after the first word do not count either. -/
theorem parse_congr {before' follow' : List Char} (front : Blanks before) (front' : Blanks before')
    (h : IsWord word) (opens : Opens follow) (opens' : Opens follow')
    (same : trim follow = trim follow') :
    parse (before ++ word ++ follow) = parse (before' ++ word ++ follow') := by
  conv => lhs; rw [parse]
  conv => rhs; rw [parse]
  simp only [head_trim_line front h opens, head_trim_line front' h opens',
    trim_tail_trim_line front h opens, trim_tail_trim_line front' h opens', same]

theorem parse_decode (front : Blanks before) (opens : Opens follow) :
    parse (before ++ "decode".toList ++ follow) =
      if trim follow = [] then .error (.of .missingWord)
      else .ok (.decode (String.ofList (trim follow))) := by
  have some : "decode".toList.isEmpty = false := by decide
  rw [parse]
  simp only [head_trim_line front isWord_decode opens,
    trim_tail_trim_line front isWord_decode opens, some, Bool.false_eq_true, ↓reduceIte,
    List.isEmpty_iff]

theorem parse_encode (front : Blanks before) (opens : Opens follow) :
    parse (before ++ "encode".toList ++ follow) = afterEncode (parse follow) := by
  have some : "encode".toList.isEmpty = false := by decide
  have other : "encode".toList ≠ "decode".toList := by decide
  rw [parse]
  simp only [head_trim_line front isWord_encode opens,
    trim_tail_trim_line front isWord_encode opens, parse_trim, some, other, Bool.false_eq_true,
    ↓reduceIte, ↓reduceDIte]
  rfl

theorem parse_kind (front : Blanks before) (h : IsWord word) (opens : Opens follow)
    (decode : word ≠ "decode".toList) (encode : word ≠ "encode".toList) :
    parse (before ++ word ++ follow) =
      (Kind.ofText? word).elim (.error (.of (.unknownKind (String.ofList word))))
        fun kind => .ok (.encode kind (valueOf (trim follow))) := by
  have some : word.isEmpty = false := List.isEmpty_eq_false_iff.mpr h.1
  rw [parse]
  simp only [head_trim_line front h opens, trim_tail_trim_line front h opens, some, decode, encode,
    Bool.false_eq_true, ↓reduceIte, ↓reduceDIte]
  cases Kind.ofText? word <;> rfl

end FirstWord

section Value

variable {rest : List Char}

theorem isTrimmed_valueOf {v : String} (h : valueOf (trim rest) = some v) : IsTrimmed v.toList := by
  unfold valueOf at h
  split at h
  · cases h
  · rename_i some
    cases h
    rw [String.toList_ofList]
    exact isTrimmed_trim fun none => some (List.isEmpty_iff.mpr none)

/-- What stands behind a word is the value, if there is anything but blanks. -/
theorem follow_valueOf (opens : Opens rest) :
    Follow ((valueOf (trim rest)).toList.map String.toList) rest := by
  by_cases none : trim rest = []
  · rw [none]
    exact follow_nil_iff.mpr none
  · have value : valueOf (trim rest) = some (String.ofList (trim rest)) :=
      if_neg fun empty => none (List.isEmpty_iff.mp empty)
    rw [value, Option.toList_some, List.map_singleton, String.toList_ofList]
    exact (follow_singleton_iff (isTrimmed_trim none)).mpr ⟨opens, rfl⟩

theorem valueOf_of_follow {value : Option String}
    (bare : ∀ v, value = some v → IsTrimmed v.toList)
    (h : Follow (value.toList.map String.toList) rest) : valueOf (trim rest) = value := by
  cases value with
  | none =>
    rw [follow_nil_iff.mp h]
    rfl
  | some v =>
    have trimmed := bare v rfl
    obtain ⟨-, same⟩ := (follow_singleton_iff trimmed).mp h
    rw [same, valueOf, if_neg fun empty => trimmed.1 (List.isEmpty_iff.mp empty),
      String.ofList_toList]

end Value

/-- Kinds have other names than the two leading words. -/
theorem not_spelled_decode (kind : Kind) : ¬kind.Spelled "decode".toList := by
  rw [← Kind.ofText?_eq_some_iff]
  cases kind <;> decide

theorem not_spelled_encode (kind : Kind) : ¬kind.Spelled "encode".toList := by
  rw [← Kind.ofText?_eq_some_iff]
  cases kind <;> decide

theorem afterEncode_eq_ok_iff {answer : Except Failure Request} {request : Request} :
    afterEncode answer = .ok request ↔
      ∃ kind value, request = .encode kind value ∧ answer = .ok request := by
  cases answer with
  | error f => simp [afterEncode]
  | ok r =>
    cases r with
    | decode word =>
      constructor
      · intro refused
        cases refused
      · rintro ⟨kind, value, rfl, same⟩
        cases same
    | encode kind value =>
      simp only [afterEncode, Except.ok.injEq]
      constructor
      · rintro rfl
        exact ⟨kind, value, rfl, rfl⟩
      · rintro ⟨_, _, -, same⟩
        exact same

theorem Asks.exists_first {request : Request} {parts : List (List Char)} (h : request.Asks parts) :
    ∃ first others, parts = first :: others ∧ IsTrimmed first := by
  cases h with
  | kind spelled _ => exact ⟨_, _, rfl, spelled.isWord.isTrimmed⟩
  | encode _ => exact ⟨_, _, rfl, isWord_encode.isTrimmed⟩
  | decode _ => exact ⟨_, _, rfl, isWord_decode.isTrimmed⟩

/-- A line that reads as a request has the parts that ask for it. -/
theorem exists_asks_of_parse {line : List Char} {request : Request}
    (h : parse line = .ok request) : ∃ parts, request.Asks parts ∧ Laid parts line := by
  induction size : line.length using Nat.strongRecOn generalizing line request with
  | ind length ih =>
    obtain blank | ⟨before, word, follow, front, isWord, opens, rfl⟩ := blanks_or_word line
    · rw [parse_blanks blank] at h
      cases h
    · by_cases decode : word = "decode".toList
      · subst decode
        rw [parse_decode front opens] at h
        split at h
        · cases h
        · rename_i some
          cases h
          have value := isTrimmed_trim some
          have last : (String.ofList (trim follow)).toList = trim follow := String.toList_ofList
          refine ⟨_, .decode ?_, .line front ?_⟩
          · rw [last]
            exact value
          · rw [last]
            exact (follow_singleton_iff value).mpr ⟨opens, rfl⟩
      · by_cases encode : word = "encode".toList
        · subst encode
          rw [parse_encode front opens] at h
          obtain ⟨kind, value, rfl, rest⟩ := afterEncode_eq_ok_iff.mp h
          have shorter : follow.length < length := by
            simp only [List.length_append] at size
            have := List.length_pos_iff.mpr isWord.1
            omega
          obtain ⟨parts, asked, laid⟩ := ih _ shorter rest rfl
          obtain ⟨first, others, rfl, bare⟩ := asked.exists_first
          exact ⟨_, .encode asked, .line front (laid.follow opens bare)⟩
        · rw [parse_kind front isWord opens decode encode] at h
          cases found : Kind.ofText? word with
          | none =>
            rw [found] at h
            cases h
          | some kind =>
            rw [found] at h
            cases h
            exact ⟨_, .kind (Kind.ofText?_eq_some_iff.mp found) fun _ => isTrimmed_valueOf,
              .line front (follow_valueOf opens)⟩

/-- The parts that ask for a request read as the request on any line. -/
theorem parse_of_asks {line : List Char} {request : Request} {parts : List (List Char)}
    (asked : request.Asks parts) (laid : Laid parts line) : parse line = .ok request := by
  induction asked generalizing line with
  | @kind kind name value spelled bare =>
    obtain @⟨before, _, rest, _, front, others⟩ := laid
    have decode : name ≠ "decode".toList := by
      rintro rfl
      exact not_spelled_decode kind spelled
    have encode : name ≠ "encode".toList := by
      rintro rfl
      exact not_spelled_encode kind spelled
    rw [parse_kind front spelled.isWord others.opens decode encode,
      Kind.ofText?_eq_some_iff.mpr spelled, valueOf_of_follow bare others]
    rfl
  | @encode kind value parts asked ih =>
    obtain @⟨before, _, rest, _, front, others⟩ := laid
    obtain ⟨first, more, rfl, -⟩ := asked.exists_first
    rw [parse_encode front others.opens, ih others.laid]
    rfl
  | @decode word bare =>
    obtain @⟨before, _, rest, _, front, others⟩ := laid
    obtain ⟨opens, same⟩ := (follow_singleton_iff bare).mp others
    rw [parse_decode front opens, same, if_neg bare.1, String.ofList_toList]

/-- Parts read the same on any two lines, whatever words they are and whether or not they ask for a
request. -/
theorem parse_eq_of_laid {word : List Char} {value : Option (List Char)} (h : IsWord word)
    (bare : ∀ v, value = some v → IsTrimmed v) (times : Nat) {a b : List Char}
    (first : Laid (List.replicate times "encode".toList ++ word :: value.toList) a)
    (second : Laid (List.replicate times "encode".toList ++ word :: value.toList) b) :
    parse a = parse b := by
  induction times generalizing a b with
  | zero =>
    obtain @⟨before, _, rest, _, front, others⟩ := first
    obtain @⟨before', _, rest', _, front', others'⟩ := second
    apply parse_congr front front' h others.opens others'.opens
    cases value with
    | none => rw [follow_nil_iff.mp others, follow_nil_iff.mp others']
    | some v =>
      have trimmed := bare v rfl
      rw [((follow_singleton_iff trimmed).mp others).2,
        ((follow_singleton_iff trimmed).mp others').2]
  | succ times ih =>
    obtain @⟨before, _, rest, _, front, others⟩ := first
    obtain @⟨before', _, rest', _, front', others'⟩ := second
    have more : ∃ part parts,
        List.replicate times "encode".toList ++ word :: value.toList = part :: parts := by
      cases times <;> exact ⟨_, _, rfl⟩
    obtain ⟨part, parts, same⟩ := more
    have inner : parse rest = parse rest' := by
      change Follow (List.replicate times "encode".toList ++ word :: value.toList) rest at others
      change Follow (List.replicate times "encode".toList ++ word :: value.toList) rest' at others'
      rw [same] at ih others others'
      exact ih others.laid others'.laid
    rw [parse_encode front others.opens, parse_encode front' others'.opens, inner]

/-- The word `encode` changes nothing in front of a line that asks for no decoding. -/
theorem parse_encode_line {gap line : List Char} (some : gap ≠ []) (blank : Blanks gap)
    (other : ∀ word, parse line ≠ .ok (.decode word)) :
    parse ("encode".toList ++ gap ++ line) = parse line := by
  have opens : Opens (gap ++ line) := by
    intro c first
    rw [List.head?_append_of_ne_nil _ some] at first
    exact blank c (List.mem_of_head? first)
  have rest : parse (gap ++ line) = parse line := by
    rw [← parse_trim (gap ++ line), ← parse_trim line, trim, trimStart_append blank, trim]
  have whole := parse_encode blanks_nil opens
  rw [List.nil_append, rest] at whole
  rw [List.append_assoc, whole]
  cases answer : parse line with
  | error f => rfl
  | ok request =>
    cases request with
    | encode kind value => rfl
    | decode word => exact absurd answer (other word)

end Request

/-- A line reads as a request exactly if the parts that ask for the request stand on it, and fails
otherwise. Blanks around and between its parts change neither the request nor the failure, and
neither does the word `encode` in front of a line that asks for no decoding. -/
theorem parse_accepts_grammar :
    (∀ (line : String) (request : Request),
      Request.ofLine line = .ok request ↔
        ∃ parts, request.Asks parts ∧ Laid parts line.toList) ∧
    (∀ line : String,
      (∃ failure, Request.ofLine line = .error failure) ↔
        ∀ (request : Request) (parts : List (List Char)),
          request.Asks parts → ¬Laid parts line.toList) ∧
    (∀ (times : Nat) (word : List Char) (value : Option (List Char)) (a b : String),
      IsWord word → (∀ v, value = some v → IsTrimmed v) →
        Laid (List.replicate times "encode".toList ++ word :: value.toList) a.toList →
        Laid (List.replicate times "encode".toList ++ word :: value.toList) b.toList →
          Request.ofLine a = Request.ofLine b) ∧
    (∀ gap line : String, gap.toList ≠ [] → Blanks gap.toList →
      (∀ word, Request.ofLine line ≠ .ok (.decode word)) →
        Request.ofLine ("encode" ++ gap ++ line) = Request.ofLine line) := by
  have accepts (line : String) (request : Request) : Request.ofLine line = .ok request ↔
      ∃ parts, request.Asks parts ∧ Laid parts line.toList := by
    constructor
    · exact Request.exists_asks_of_parse
    · rintro ⟨parts, asked, laid⟩
      exact Request.parse_of_asks asked laid
  refine ⟨accepts, ?_, ?_, ?_⟩
  · intro line
    constructor
    · rintro ⟨failure, failed⟩ request parts asked laid
      have read := (accepts line request).mpr ⟨parts, asked, laid⟩
      rw [failed] at read
      cases read
    · intro none
      cases answer : Request.ofLine line with
      | error failure => exact ⟨failure, rfl⟩
      | ok request =>
        obtain ⟨parts, asked, laid⟩ := (accepts line request).mp answer
        exact absurd laid (none request parts asked)
  · intro times word value a b isWord bare first second
    exact Request.parse_eq_of_laid isWord bare times first second
  · intro gap line some blank other
    have whole := Request.parse_encode_line some blank other
    rw [Request.ofLine, String.toList_append, String.toList_append, whole, Request.ofLine]

/-- A tab, an ideographic space and a line feed for single spaces, and a decoding under `encode`. -/
theorem parse_accepts_grammar_across_blanks :
    Request.ofLine "encode Uint 42" = .ok (.encode .uint (some "42")) ∧
      Request.ofLine "encode Uint 42" = Request.ofLine " encode\tUint\u3000\n42" ∧
      Request.ofLine ("encode" ++ "\t" ++ "encode Uint 42") = Request.ofLine "encode Uint 42" ∧
      ∃ failure, Request.ofLine "encode decode 1" = .error failure := by
  obtain ⟨accepts, -, spaced, repeated⟩ := parse_accepts_grammar
  have word : IsWord "42".toList := by decide
  have bare : ∀ v, some "42".toList = some v → IsTrimmed v := by
    rintro _ ⟨⟩
    exact word.isTrimmed
  have laid (before gap more : List Char) (front : Blanks before) (first : gap ≠ [] ∧ Blanks gap)
      (second : more ≠ [] ∧ Blanks more) :
      Laid ["encode".toList, "Uint".toList, "42".toList]
        (before ++ "encode".toList ++ (gap ++ "Uint".toList ++ (more ++ "42".toList ++ []))) :=
    .line front (.next first.1 first.2 (.next second.1 second.2 (.done blanks_nil)))
  have plain : Laid _ "encode Uint 42".toList :=
    laid [] [' '] [' '] (by decide) (by decide) (by decide)
  have wide : Laid _ " encode\tUint\u3000\n42".toList :=
    laid [' '] ['\t'] ['\u3000', '\n'] (by decide) (by decide) (by decide)
  have spelled : Kind.uint.Spelled "Uint".toList := Kind.ofText?_eq_some_iff.mp (by decide)
  have asked : Request.Asks (.encode .uint (some "42"))
      ["encode".toList, "Uint".toList, "42".toList] :=
    .encode (.kind spelled fun v same => bare _ (congrArg (Option.map String.toList) same))
  have read := (accepts _ _).mpr ⟨_, asked, plain⟩
  refine ⟨read, ?_, ?_, ?_⟩
  · exact spaced 1 "Uint".toList (some "42".toList) _ _ (by decide) bare plain wide
  · refine repeated _ _ (by decide) (by decide) ?_
    intro other decoded
    rw [read] at decoded
    cases decoded
  · exact ⟨.of .missingKind, by decide +kernel⟩

end QuietBox
