import QuietBox.Arguments
import QuietBox.Proofs.Request.Grammar
import QuietBox.Proofs.Results

/-!
Arguments that ask for a request. What stands behind `--` is taken as it is, and so is an operand
that does not begin with a dash; one that does is an option, and is refused unless it asks for help.
A flag in front gives the radix and changes nothing else.
-/

set_option autoImplicit false

namespace QuietBox

/-- The command that a request is given by. -/
def Request.command : Request → Command
  | .encode kind value => .encode kind value
  | .decode word => .decode word

namespace Arguments

/-- The arguments that give a radix, if one is given. -/
def radixFlag : Option Radix → List String
  | none => []
  | some r => ["--radix", r.name]

/-- The arguments of a command that ask for a request with a value. -/
inductive Spell : List String → Request → Prop
  | encode (kind : Kind) (value : String) :
      Spell ["encode", kind.name, "--", value] (.encode kind (some value))
  | encodePlain (kind : Kind) {value : String} : value.toList.head? ≠ some '-' →
      Spell ["encode", kind.name, value] (.encode kind (some value))
  | decode (word : String) : Spell ["decode", "--", word] (.decode word)
  | decodePlain {word : String} : word.toList.head? ≠ some '-' →
      Spell ["decode", word] (.decode word)

/-- The arguments of the prompt, which is also what stands for no command. -/
def promptCommands : List (List String) := [[], ["repl"]]

/-- The ways to give a radix, or none: its name behind the flag or joined to it. -/
inductive Flag : List String → Option Radix → Prop
  | absent : Flag [] none
  | apart (r : Radix) : Flag ["--radix", r.name] (some r)
  | joined (r : Radix) : Flag ["--radix=" ++ r.name] (some r)

theorem parse_of_flag {flag : List String} {given : Option Radix} (h : Flag flag given)
    (rest : List String) : parse (flag ++ rest) = parseAfter given rest := by
  cases h with
  | absent => rfl
  | apart r => cases r <;> rfl
  | joined r =>
    have read : parse (["--radix=" ++ r.name] ++ rest) =
        (flagRadix none (("--radix=" ++ r.name).toList.drop 8)).bind fun r =>
          parseAfter (some r) rest := by
      rw [parse, List.singleton_append, parseAfter.eq_def none]
      dsimp only
      rw [if_neg (by cases r <;> decide), if_pos (by cases r <;> decide)]
    rw [read]
    cases r <;> rfl

theorem flag_radixFlag (flag : Option Radix) : Flag (radixFlag flag) flag := by
  cases flag with
  | none => exact .absent
  | some r => exact .apart r

theorem parse_radixFlag (flag : Option Radix) (rest : List String) :
    parse (radixFlag flag ++ rest) = parseAfter flag rest :=
  parse_of_flag (flag_radixFlag flag) rest

section Operands

variable {argument : String}

theorem not_isOption (h : argument.toList.head? ≠ some '-') : isOption argument = false := by
  unfold isOption
  split
  · rename_i rest first
    rw [first] at h
    exact absurd rfl h
  · rfl

theorem ne_dashes (h : argument.toList.head? ≠ some '-') : argument ≠ "--" := by
  rintro rfl
  exact h rfl

theorem operands_cons (h : argument.toList.head? ≠ some '-') (room : Nat) (rest : List String) :
    operands (room + 1) (argument :: rest) =
      (operands room rest).map fun found => { found with texts := argument :: found.texts } := by
  simp only [operands, ne_dashes h, not_isOption h, Bool.false_eq_true, ↓reduceIte]

/-- An option that asks for no help is refused, whatever follows it. -/
theorem operands_option {c : Char} {more : List Char} (option : argument.toList = '-' :: c :: more)
    (dash : c ≠ '-') (help : c ≠ 'h') (room : Nat) (rest : List String) :
    operands room (argument :: rest) = .error .usage := by
  have other (text : List Char) (same : argument.toList = '-' :: '-' :: text) : False := by
    rw [option] at same
    cases same
    exact dash rfl
  have dashes : argument ≠ "--" := fun same => other [] (congrArg String.toList same)
  have taken : isOption argument := by
    rw [isOption, option]
    rfl
  have silent : asksHelp argument = false := by
    have long : argument ≠ "--help" := fun same => other _ (congrArg String.toList same)
    have short : ['-', 'h'].isPrefixOf argument.toList = false := by
      simp [option, List.isPrefixOf, help.symm]
    rw [asksHelp, short, decide_eq_false long]
    rfl
  cases room <;> simp only [operands, dashes, taken, silent, ↓reduceIte, Bool.false_eq_true]

theorem operands_dashes (room : Nat) (argument : String) :
    operands (room + 1) ["--", argument] = .ok ⟨[argument], false⟩ := by
  exact (if_pos rfl).trans (if_pos (Nat.le_add_left 1 room))

end Operands

theorem head_name (kind : Kind) : kind.name.toList.head? ≠ some '-' := by
  cases kind <;> decide

theorem encodeCommand_of_operands {kind : Kind} {value : String} {arguments : List String}
    (h : operands 1 arguments = .ok ⟨[value], false⟩) :
    encodeCommand (kind.name :: arguments) = .ok (.encode kind (some value)) := by
  have found : operands 2 (kind.name :: arguments) = .ok ⟨[kind.name, value], false⟩ := by
    rw [operands_cons (head_name kind), h]
    rfl
  have named : Kind.ofName? kind.name.toList = some kind := Kind.ofName?_eq_some_iff.mpr rfl
  rw [encodeCommand, found]
  dsimp only [bind, Except.bind]
  rw [named]
  rfl

theorem encodeCommand_option {c : Char} {more : List Char} {argument : String}
    (option : argument.toList = '-' :: c :: more) (dash : c ≠ '-') (help : c ≠ 'h') (kind : Kind)
    (rest : List String) : encodeCommand (kind.name :: argument :: rest) = .error .usage := by
  have refused : operands 2 (kind.name :: argument :: rest) = .error .usage := by
    rw [operands_cons (head_name kind), operands_option option dash help]
    rfl
  rw [encodeCommand, refused]
  rfl

theorem decodeCommand_of_operands {word : String} {arguments : List String}
    (h : operands 1 arguments = .ok ⟨[word], false⟩) :
    decodeCommand arguments = .ok (.decode word) := by
  rw [decodeCommand, h]
  rfl

theorem operands_plain {argument : String} (h : argument.toList.head? ≠ some '-') :
    operands 1 [argument] = .ok ⟨[argument], false⟩ := by
  rw [operands_cons h]
  rfl

theorem parseAfter_encode (given : Option Radix) (arguments : List String) :
    parseAfter given ("encode" :: arguments) = (encodeCommand arguments).map (⟨given, ·⟩) := by
  unfold parseAfter
  rfl

theorem parseAfter_decode (given : Option Radix) (arguments : List String) :
    parseAfter given ("decode" :: arguments) = (decodeCommand arguments).map (⟨given, ·⟩) := by
  unfold parseAfter
  rfl

theorem parseAfter_of_spell {arguments : List String} {request : Request}
    (h : Spell arguments request) (given : Option Radix) :
    parseAfter given arguments = .ok ⟨given, request.command⟩ := by
  cases h with
  | encode kind value =>
    rw [parseAfter_encode, encodeCommand_of_operands (operands_dashes 0 value)]
    rfl
  | encodePlain kind plain =>
    rw [parseAfter_encode, encodeCommand_of_operands (operands_plain plain)]
    rfl
  | decode word =>
    rw [parseAfter_decode, decodeCommand_of_operands (operands_dashes 0 word)]
    rfl
  | decodePlain plain =>
    rw [parseAfter_decode, decodeCommand_of_operands (operands_plain plain)]
    rfl

theorem parse_of_spell {arguments : List String} {request : Request}
    (h : Spell arguments request) (flag : Option Radix) :
    parse (radixFlag flag ++ arguments) = .ok ⟨flag, request.command⟩ := by
  rw [parse_radixFlag, parseAfter_of_spell h]

theorem parse_promptCommands {arguments : List String} (h : arguments ∈ promptCommands)
    (flag : Option Radix) : parse (radixFlag flag ++ arguments) = .ok ⟨flag, .prompt⟩ := by
  rw [parse_radixFlag]
  rcases List.mem_cons.mp h with rfl | repl
  · rfl
  · cases List.mem_singleton.mp repl
    rfl

section Flags

variable {arguments : List String} {command : Command}

/-- The first argument gives no radix. -/
def BeginsBare (arguments : List String) : Prop :=
  ∀ argument ∈ arguments.head?,
    argument ≠ "--radix" ∧ ¬"--radix=".toList.isPrefixOf argument.toList

/-- What is read behind no flag does not depend on the radix that was given. -/
theorem parseAfter_of_bare (bare : BeginsBare arguments) (given : Option Radix) :
    parseAfter given arguments =
      (parseAfter none arguments).map fun found => { found with radix := given } := by
  cases arguments with
  | nil => rfl
  | cons argument rest =>
    obtain ⟨apart, joined⟩ := bare argument rfl
    have commands (command : Except Stop Command) :
        command.map (Invocation.mk given ·) =
          (command.map (Invocation.mk none ·)).map fun found => { found with radix := given } := by
      cases command <;> rfl
    rw [parseAfter.eq_def given, parseAfter.eq_def none]
    dsimp only
    rw [if_neg apart, if_neg apart, if_neg joined, if_neg joined]
    simp only [apply_ite (Except.map _), commands]
    rfl

/-- A flag in front is read, and then the rest. -/
theorem parseAfter_of_not_bare (flagged : ¬BeginsBare arguments) (given : Option Radix) :
    parseAfter given arguments = .error .usage ∨
      ∃ name more, parseAfter given arguments =
        (flagRadix given name).bind fun r => parseAfter (some r) more := by
  cases arguments with
  | nil => exact absurd nofun flagged
  | cons argument rest =>
    rw [parseAfter.eq_def given (argument :: rest)]
    dsimp only
    by_cases apart : argument = "--radix"
    · rw [if_pos apart]
      cases rest with
      | nil => exact Or.inl rfl
      | cons name more => exact Or.inr ⟨name.toList, more, rfl⟩
    · by_cases joined : "--radix=".toList.isPrefixOf argument.toList
      · rw [if_neg apart, if_pos joined]
        exact Or.inr ⟨_, rest, rfl⟩
      · apply absurd _ flagged
        rintro _ ⟨⟩
        exact ⟨apart, joined⟩

/-- Where a radix was given, no other is. -/
theorem radix_of_parseAfter {r : Radix} {found : Invocation}
    (h : parseAfter (some r) arguments = .ok found) : found.radix = some r := by
  by_cases bare : BeginsBare arguments
  · rw [parseAfter_of_bare bare, map_eq_ok_iff] at h
    obtain ⟨_, -, rfl⟩ := h
    rfl
  · obtain refused | ⟨name, more, read⟩ := parseAfter_of_not_bare bare (some r)
    · cases refused.symm.trans h
    · cases read.symm.trans h

theorem bare_of_parse (h : parse arguments = .ok ⟨none, command⟩) : BeginsBare arguments := by
  apply Classical.byContradiction
  intro flagged
  obtain refused | ⟨name, more, read⟩ := parseAfter_of_not_bare flagged none
  · cases refused.symm.trans h
  · obtain ⟨r, -, found⟩ := bind_eq_ok_iff.mp (read.symm.trans h)
    cases radix_of_parseAfter found

/-- A flag in front of arguments that have none gives the radix and changes nothing else. -/
theorem parse_flag_append {flag : List String} {given : Option Radix} (h : Flag flag given)
    (accepted : parse arguments = .ok ⟨none, command⟩) :
    parse (flag ++ arguments) = .ok ⟨given, command⟩ := by
  have rest : parseAfter none arguments = .ok ⟨none, command⟩ := accepted
  rw [parse_of_flag h, parseAfter_of_bare (bare_of_parse accepted), rest]
  rfl

end Flags

end Arguments

end QuietBox
