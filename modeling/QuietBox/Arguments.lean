import QuietBox.Radix

/-!
Command-line arguments: an optional `--radix hex|bin` once, and then a command with its operands. An
argument that begins with a dash and has more to it is an option, except after `--`.
-/

set_option autoImplicit false

namespace QuietBox

inductive Command where
  | encode (kind : Kind) (value : Option String)
  | decode (word : String)
  | prompt
deriving DecidableEq, Repr

/-- What the arguments ask for. -/
structure Invocation where
  radix : Option Radix
  command : Command
deriving DecidableEq, Repr

/-- Why nothing is run: the arguments are malformed, or ask for a text about the program. -/
inductive Stop where
  | usage
  | version
  | help
deriving DecidableEq, Repr

namespace Arguments

/-- A lone dash is no option. -/
def isOption (argument : String) : Bool :=
  match argument.toList with
  | '-' :: _ :: _ => true
  | _ => false

/-- Short options may be run together, and the first one counts. -/
def asksHelp (argument : String) : Bool :=
  argument = "--help" || ['-', 'h'].isPrefixOf argument.toList

def asksVersion (argument : String) : Bool :=
  argument = "--version" || ['-', 'V'].isPrefixOf argument.toList

/-- Operands read from the arguments of a command, and whether a request for help ended them. -/
structure Operands where
  texts : List String
  help : Bool

/-- The operands of a command that takes at most `room` of them. -/
def operands (room : Nat) : List String → Except Stop Operands
  | [] => .ok ⟨[], false⟩
  | argument :: rest =>
    if argument = "--" then if rest.length ≤ room then .ok ⟨rest, false⟩ else .error .usage
    else if isOption argument then
      if asksHelp argument then .ok ⟨[], true⟩ else .error .usage
    else
      match room with
      | 0 => .error .usage
      | more + 1 =>
        (operands more rest).map fun found => { found with texts := argument :: found.texts }

/-- The command that operands complete, unless a request for help ended them. -/
private def complete (found : Operands) (command : Except Stop Command) : Except Stop Command :=
  if found.help then .error .help else command

/-- A kind by its exact name, and an optional value. -/
def encodeCommand (arguments : List String) : Except Stop Command := do
  let found ← operands 2 arguments
  match found.texts with
  | [] => complete found (.error .usage)
  | name :: values =>
    match Kind.ofName? name.toList with
    | none => .error .usage
    | some kind => complete found (.ok (.encode kind values.head?))

def decodeCommand (arguments : List String) : Except Stop Command := do
  let found ← operands 1 arguments
  complete found <|
    match found.texts with
    | [] => .error .usage
    | word :: _ => .ok (.decode word)

def promptCommand (arguments : List String) : Except Stop Command := do
  complete (← operands 0 arguments) (.ok .prompt)

/-- Help may be asked for one command by name. -/
def helpCommand : List String → Stop
  | [] => .help
  | [name] => if name ∈ ["encode", "decode", "repl", "help"] then .help else .usage
  | _ => .usage

/-- The radix that a flag gives, which may be given only once. -/
def flagRadix (given : Option Radix) (name : List Char) : Except Stop Radix :=
  match given, Radix.ofName? name with
  | none, some r => .ok r
  | _, _ => .error .usage

/-- What the arguments ask for, after a radix that was given already. -/
def parseAfter (given : Option Radix) : List String → Except Stop Invocation
  | [] => .ok ⟨given, .prompt⟩
  | argument :: rest =>
    if argument = "--radix" then
      match rest with
      | [] => .error .usage
      | name :: more => (flagRadix given name.toList).bind fun r => parseAfter (some r) more
    else if "--radix=".toList.isPrefixOf argument.toList then
      (flagRadix given (argument.toList.drop 8)).bind fun r => parseAfter (some r) rest
    else if argument = "--" then if rest.isEmpty then .ok ⟨given, .prompt⟩ else .error .usage
    else if asksVersion argument then .error .version
    else if asksHelp argument then .error .help
    else if argument = "encode" then (encodeCommand rest).map (⟨given, ·⟩)
    else if argument = "decode" then (decodeCommand rest).map (⟨given, ·⟩)
    else if argument = "repl" then (promptCommand rest).map (⟨given, ·⟩)
    else if argument = "help" then .error (helpCommand rest)
    else .error .usage

/-- What the arguments ask for. -/
def parse (arguments : List String) : Except Stop Invocation := parseAfter none arguments

end Arguments

end QuietBox
