import QuietBox.Proofs.Lookup
import QuietBox.Settings

/-!
Environments that differ in one setting only. They agree once the variables that name the setting
are left out, and then they agree on every other setting and on what the terminal can do.
-/

set_option autoImplicit false

namespace QuietBox.Environment

/-- A variable that names a setting, in any ASCII case. -/
def names (key : String) (entry : String × String) : Bool :=
  entry.1.toList.map Char.toLower = ("nanbox_" ++ key).toList

/-- The variables that do not name a setting. -/
def without (env : Environment) (key : String) : Environment :=
  env.filter fun entry => !names key entry

/-- No variable names two settings. -/
theorem names_ne {key other : String} (distinct : other ≠ key) {entry : String × String}
    (named : names other entry) : names key entry = false := by
  apply decide_eq_false
  intro same
  have keys := (of_decide_eq_true named).symm.trans same
  rw [String.toList_append, String.toList_append, List.append_cancel_left_eq,
    String.toList_inj] at keys
  exact distinct keys

theorem setting?_without {key other : String} (distinct : other ≠ key) (env : Environment) :
    (env.without key).setting? other = env.setting? other := by
  have kept : ∀ entry ∈ env, (names other entry && !names key entry) = names other entry := by
    intro entry _
    by_cases named : names other entry
    · simp [named, names_ne distinct named]
    · simp [named]
  change ((env.filter _).filter (names other)).getLast?.map _ =
    (env.filter (names other)).getLast?.map _
  rw [List.filter_filter, List.filter_congr kept]

/-- The name alone decides whether a variable names a setting. -/
theorem get?_without {key name : String} (other : names key (name, "") = false)
    (env : Environment) : (env.without key).get? name = env.get? name :=
  lookup_filter_of_keeps (fun _ => congrArg not other) env

section Same

variable {first second : Environment} {key : String} (same : first.without key = second.without key)
include same

theorem setting?_eq_of_without_eq {other : String} (distinct : other ≠ key) :
    first.setting? other = second.setting? other := by
  rw [← setting?_without distinct, same, setting?_without distinct]

theorem get?_eq_of_without_eq {name : String} (other : names key (name, "") = false) :
    first.get? name = second.get? name := by
  rw [← get?_without other, same, get?_without other]

theorem asksDiagnostics_eq_of_without_eq
    (other : ∀ name ∈ diagnosticNames, names key (name, "") = false) :
    first.asksDiagnostics = second.asksDiagnostics := by
  rw [Bool.eq_iff_iff, asksDiagnostics, asksDiagnostics, List.any_eq_true, List.any_eq_true]
  refine exists_congr fun name => and_congr_right fun member => ?_
  rw [get?_eq_of_without_eq same (other name member)]

end Same

end QuietBox.Environment
