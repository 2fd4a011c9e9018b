import Mathlib.Data.List.Induction
import ObjectConstraints.Profiles

/-!
# Commands on profiles

After a sequence of commands a profile is enabled when the last of them that concerns it enables it,
or when none of them does (`ProfileCommand.isEnabled_iff_latest`). Switching between the two modes
leaves names behind in the set of the other mode. They never come back: whatever enters a mode clears
the set that the mode goes by (`ProfileCommand.isEnabled_perform`).
-/

namespace ObjectConstraints

/-- What can be done to the profiles of a validator. -/
inductive ProfileCommand where
  | enable (profile : String)
  | disable (profile : String)
  | enableAll
  | disableAll
  deriving DecidableEq, Repr

namespace ProfileCommand

variable {command : ProfileCommand} {commands : List ProfileCommand}
variable {profiles : Profiles} {profile : String}

def perform : ProfileCommand → Profiles → Profiles
  | .enable profile, profiles => profiles.enable profile
  | .disable profile, profiles => profiles.disable profile
  | .enableAll, profiles => profiles.enableAll
  | .disableAll, profiles => profiles.disableAll

def run (commands : List ProfileCommand) (profiles : Profiles) : Profiles :=
  commands.foldl (fun profiles command => command.perform profiles) profiles

def concerns (profile : String) : ProfileCommand → Bool
  | .enable named | .disable named => named == profile
  | .enableAll | .disableAll => true

def isEnabling : ProfileCommand → Bool
  | .enable _ | .enableAll => true
  | .disable _ | .disableAll => false

/-- The last command that concerns a profile. -/
def latest (profile : String) (commands : List ProfileCommand) : Option ProfileCommand :=
  (commands.filter (concerns profile)).getLast?

theorem latest_append_singleton : latest profile (commands ++ [command]) =
    if command.concerns profile then some command else latest profile commands := by
  rw [latest, List.filter_append, List.filter_cons, List.filter_nil]
  split
  · exact List.getLast?_concat
  · rw [List.append_nil, latest]

/-- Nothing is said of the state before: the names that it has left over in the set of the other mode
do not matter, since entering that mode empties the set. -/
theorem isEnabled_perform : (command.perform profiles).isEnabled profile =
    if command.concerns profile then command.isEnabling else profiles.isEnabled profile := by
  obtain ⟨allByDefault, enabled, disabled⟩ := profiles
  cases command with
  | enable named =>
    by_cases h : named = profile
    · subst h
      simp [perform, concerns, isEnabling, Profiles.isEnabled_enable_self]
    · cases allByDefault <;>
        simp [perform, concerns, Profiles.enable, Profiles.isEnabled, h, Ne.symm h]
  | disable named =>
    by_cases h : named = profile
    · subst h
      simp [perform, concerns, isEnabling, Profiles.isEnabled_disable_self]
    · cases allByDefault <;>
        simp [perform, concerns, Profiles.disable, Profiles.isEnabled, h, Ne.symm h]
  | enableAll => simp [perform, concerns, isEnabling, Profiles.enableAll, Profiles.isEnabled]
  | disableAll => simp [perform, concerns, isEnabling, Profiles.disableAll, Profiles.isEnabled]

theorem isEnabled_run : (run commands profiles).isEnabled profile =
    (latest profile commands).elim (profiles.isEnabled profile) isEnabling := by
  induction commands using List.reverseRecOn with
  | nil => rfl
  | append_singleton commands command ih =>
    have hrun : run (commands ++ [command]) profiles = command.perform (run commands profiles) := by
      rw [run, List.foldl_append]
      rfl
    rw [hrun, isEnabled_perform, latest_append_singleton, ih]
    split <;> rfl

/-- All profiles being disabled at first counts as a command. -/
theorem run_initially (allEnabled : Bool) : run commands (Profiles.initially allEnabled) =
    run (if allEnabled then commands else .disableAll :: commands) {} := by
  cases allEnabled <;> rfl

/-- A profile that no command concerns is enabled. A check that names no profile goes by the default
one. -/
theorem isEnabled_iff_latest (allEnabled : Bool) (commands : List ProfileCommand) :
    let profiles := run commands (Profiles.initially allEnabled)
    let history := if allEnabled then commands else .disableAll :: commands
    (∀ profile, profiles.isEnabled profile = true ↔
      ∀ command, latest profile history = some command → command.isEnabling = true) ∧
    ∀ named, profiles.isAnyEnabled named none = true ↔
      if named = [] then profiles.isEnabled defaultProfile = true
      else ∃ profile ∈ named, profiles.isEnabled profile = true := by
  intro profiles history
  refine ⟨fun profile => ?_, fun named => ?_⟩
  · have henabled : profiles.isEnabled profile = (latest profile history).elim true isEnabling := by
      rw [show profiles = run history {} from run_initially allEnabled, isEnabled_run]
      rfl
    rw [henabled]
    cases latest profile history with
    | none => simp
    | some command => simp
  · cases named with
    | nil => simp [Profiles.isAnyEnabled, Profiles.ofCheck]
    | cons first rest => simp [Profiles.isAnyEnabled, Profiles.ofCheck]

example : (run [.disable "a", .disableAll, .enable "b", .enableAll, .disableAll] {}).isEnabled "b" =
    false := by
  decide

end ProfileCommand

end ObjectConstraints
