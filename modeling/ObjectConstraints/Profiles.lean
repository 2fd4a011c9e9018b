import ObjectConstraints.Check

/-!
# Profiles

A check takes part in a validation when one of its profiles is active. Profiles are enabled and
disabled one by one or all at once, or a validation names those it asks for.
-/

namespace ObjectConstraints

/-- Which profiles are enabled. By default all are but those that have been disabled; once all have
been disabled, only those enabled since. -/
structure Profiles where
  allByDefault : Bool := true
  enabled : List String := []
  disabled : List String := []
  deriving DecidableEq, Repr, Inhabited

namespace Profiles

def enableAll (profiles : Profiles) : Profiles :=
  { profiles with allByDefault := true, disabled := [] }

def disableAll (profiles : Profiles) : Profiles :=
  { profiles with allByDefault := false, enabled := [] }

def enable (profiles : Profiles) (profile : String) : Profiles where
  allByDefault := profiles.allByDefault
  enabled := profile :: profiles.enabled.filter (· != profile)
  disabled :=
    if profiles.allByDefault then profiles.disabled.filter (· != profile) else profiles.disabled

def disable (profiles : Profiles) (profile : String) : Profiles where
  allByDefault := profiles.allByDefault
  enabled := profiles.enabled.filter (· != profile)
  disabled := profile :: profiles.disabled.filter (· != profile)

def isEnabled (profiles : Profiles) (profile : String) : Bool :=
  if profiles.allByDefault then !profiles.disabled.contains profile
  else profiles.enabled.contains profile

/-- How a validator starts: with all profiles enabled, or with none. -/
def initially (allEnabled : Bool) : Profiles := if allEnabled then {} else ({} : Profiles).disableAll

/-- The profiles of a check: those it names, or the default profile. -/
def ofCheck (named : List String) : List String :=
  if named.isEmpty then [defaultProfile] else named

/-- Whether one of a check's profiles is active. Those that a validation asks for decide alone. -/
def isAnyEnabled (profiles : Profiles) (named : List String) (requested : Option (List String)) :
    Bool :=
  match requested with
  | some requested => (ofCheck named).any requested.contains
  | none => (ofCheck named).any profiles.isEnabled

theorem isEnabled_enable_self (profiles : Profiles) (profile : String) :
    (profiles.enable profile).isEnabled profile = true := by
  cases h : profiles.allByDefault <;> simp [enable, isEnabled, h]

theorem isEnabled_disable_self (profiles : Profiles) (profile : String) :
    (profiles.disable profile).isEnabled profile = false := by
  cases h : profiles.allByDefault <;> simp [disable, isEnabled, h]

end Profiles

end ObjectConstraints
