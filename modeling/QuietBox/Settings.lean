/-!
Settings: variables of the environment whose names begin with `NANBOX_`, in any ASCII case. Of
several that spell one name, the last counts. Other variables tell what the terminal can do, or ask
for diagnostics.
-/

set_option autoImplicit false

namespace QuietBox

/-- Variables by name, in order. -/
abbrev Environment := List (String × String)

namespace Environment

/-- The value of a variable by its exact name. -/
def get? (env : Environment) (name : String) : Option String := env.lookup name

/-- The value of a setting. -/
def setting? (env : Environment) (key : String) : Option String :=
  let named (entry : String × String) : Bool :=
    entry.1.toList.map Char.toLower = ("nanbox_" ++ key).toList
  (env.filter named).getLast?.map (·.2)

/-- Colours are used only when they are forced. -/
def forcesColour (env : Environment) : Bool :=
  match env.get? "CLICOLOR_FORCE" with
  | some value => value != "0"
  | none => false

/-- The terminal cannot move its cursor; its name counts in any ASCII case. -/
def isPlainTerminal (env : Environment) : Bool :=
  match env.get? "TERM" with
  | some name => String.ofList (name.toList.map Char.toLower) ∈ ["dumb", "cons25", "emacs"]
  | none => false

/-- The variables that turn diagnostics on: what happens in a run as it happens, and the calls that
led to a failure. -/
def diagnosticNames : List String := ["RUST_LOG", "RUST_BACKTRACE", "RUST_LIB_BACKTRACE"]

/-- Diagnostics may be written; which ones, the values of the variables tell. -/
def asksDiagnostics (env : Environment) : Bool :=
  diagnosticNames.any fun name => (env.get? name).isSome

end Environment

end QuietBox
