import ObjectConstraints.Proofs.Caching
import ObjectConstraints.Proofs.ProfileCommands

/-!
# Histories of a validator

Whatever can happen to a validator, as one type. What each event keeps holds after every sequence of
events (`Event.run_keeps`); so a registered constraint set stays what it is until it is removed or
replaced (`Event.run_keeps_set`).
-/

namespace ObjectConstraints

/-- What can happen to a validator. A call comes with what methods do and with the store at the time,
and the sources of configuration may answer differently from some time on. -/
inductive Event where
  | call (implementation : Implementation) (store : Store) (asked : Call)
  | configure (configurers : List Configurer)
  | reconfigure (c : Class)
  | evict (className : String)
  | evictAll
  | addChecks (c : Class) (member : Member) (isInvariant : Bool) (checks : List Check)
  | removeChecks (c : Class) (member : Member) (handles : Handles)
  | clearMember (c : Class) (member : Member)
  | clearAll (c : Class)
  | setFlags (c : Class) (settings : FlagSettings)
  | addSet (added : ConstraintSet) (overwrite : Bool)
  | removeSet (id : String)
  | addLanguage (id : String) (language : Language)
  | removeLanguage (id : String)
  | profile (command : ProfileCommand)

namespace Event

variable {v : Validator} {event : Event} {events : List Event} {id : String} {found : ConstraintSet}

/-- The validator after an event. A set that is refused is not registered. -/
def perform (v : Validator) : Event → Validator
  | .call implementation store asked => (v.reply implementation store asked).2.1
  | .configure configurers => { v with configurers }
  | .reconfigure c => (v.reconfigure c).2
  | .evict className => (v.evict className).2
  | .evictAll => v.evictAll
  | .addChecks c member isInvariant checks => (v.addChecks c member isInvariant checks).2
  | .removeChecks c member handles => (v.removeChecks c member handles).2
  | .clearMember c member => (v.clearMember c member).2
  | .clearAll c => (v.updateChecks c (·.clearAll)).2
  | .setFlags c settings => (v.updateChecks c (·.setFlags settings)).2
  | .addSet added overwrite => (v.addSet added overwrite).toOption.getD v
  | .removeSet id => (v.removeSet id).2
  | .addLanguage id language => v.addLanguage id language
  | .removeLanguage id => (v.removeLanguage id).2
  | .profile command => { v with profiles := command.perform v.profiles }

def run (events : List Event) (v : Validator) : Validator := events.foldl perform v

theorem run_keeps {P : Validator → Prop}
    (hstep : ∀ event ∈ events, ∀ v, P v → P (event.perform v)) (h : P v) : P (run events v) := by
  induction events generalizing v with
  | nil => exact h
  | cons event rest ih =>
    exact ih (fun other hother => hstep other (List.mem_cons_of_mem _ hother))
      (hstep event List.mem_cons_self v h)

/-- Whether an event removes the set of a name or puts another one in its place. -/
def resets (id : String) : Event → Bool
  | .addSet added overwrite => overwrite && added.id == id
  | .removeSet removed => removed == id
  | _ => false

-- ---------------------------------------------------------------------------
-- Registered sets
-- ---------------------------------------------------------------------------

theorem reply_keeps_set (implementation : Implementation) (store : Store) (asked : Call)
    (h : v.sets.get? id = some found) :
    (v.reply implementation store asked).2.1.sets.get? id = some found :=
  v.reply_keeps_of implementation store asked (P := fun v => v.sets.get? id = some found) h
    (fun world depth request => (answer_grows v world depth store request).2 id found h)
    (fun _ => h) fun _ _ _ hset => (ConstraintSets.get?_resolve hset).2 id found h

theorem addSet_keeps_set {added : ConstraintSet} {overwrite : Bool}
    (hkeep : (Event.addSet added overwrite).resets id = false) (h : v.sets.get? id = some found) :
    (perform v (.addSet added overwrite)).sets.get? id = some found := by
  cases hadded : !overwrite && v.sets.contains added.id with
  | true =>
    simpa [perform, Validator.addSet, ConstraintSets.add, hadded, Except.map, Except.toOption] using h
  | false =>
    have hafter : (perform v (.addSet added overwrite)).sets = v.sets.insert added.id added := by
      simp [perform, Validator.addSet, ConstraintSets.add, hadded, Except.map, Except.toOption]
    rw [hafter]
    by_cases hid : id = added.id
    -- A set of that name is there, so this one was meant to take its place.
    · subst hid
      have hoverwrite : overwrite = false := by simpa [resets] using hkeep
      simp [hoverwrite, Table.contains, h] at hadded
    · exact (Table.get?_insert_of_ne _ _ hid).trans h

theorem updateChecks_sets (v : Validator) (c : Class) (change : ClassChecks → ClassChecks) :
    (v.updateChecks c change).2.sets = v.sets := by
  rcases hresolved : v.compiled.resolve c v.configurers with ⟨e | resolved, compiled⟩ <;>
    simp [Validator.updateChecks, Validator.checksOf, hresolved]

theorem addChecks_sets (v : Validator) (c : Class) (member : Member) (isInvariant : Bool)
    (checks : List Check) : (v.addChecks c member isInvariant checks).2.sets = v.sets := by
  rcases hresolved : v.compiled.resolve c v.configurers with ⟨e | resolved, compiled⟩
  · simp [Validator.addChecks, Validator.checksOf, hresolved]
  · simp only [Validator.addChecks, Validator.checksOf, hresolved]
    split <;> rfl

theorem perform_keeps_set (hkeep : event.resets id = false) (h : v.sets.get? id = some found) :
    (event.perform v).sets.get? id = some found := by
  cases event with
  | call implementation store asked => exact reply_keeps_set implementation store asked h
  | addChecks c member isInvariant checks =>
    rwa [perform, addChecks_sets]
  | removeChecks c | clearMember c | clearAll c | setFlags c =>
    exact (congrArg (Table.get? · id) (updateChecks_sets v c _)).trans h
  | addSet added overwrite => exact addSet_keeps_set hkeep h
  | removeSet removed =>
    have hne : id ≠ removed := Ne.symm (beq_eq_false_iff_ne.mp hkeep)
    exact (Table.get?_erase_of_ne _ hne).trans h
  | _ => exact h

theorem run_keeps_set (hkeep : ∀ event ∈ events, event.resets id = false)
    (h : v.sets.get? id = some found) : (run events v).sets.get? id = some found :=
  run_keeps (P := fun v => v.sets.get? id = some found)
    (fun event hevent _ => perform_keeps_set (hkeep event hevent)) h

end Event

end ObjectConstraints
