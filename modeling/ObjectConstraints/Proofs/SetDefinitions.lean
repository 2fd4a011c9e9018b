import ObjectConstraints.Proofs.Lookups

/-!
# Definitions of sets

A set can be added unless one of its name is registered, and lookups register the sets that they put
together. So calls keep a set from being added that could be added without them iff one of them has put
a set of its name together since the name was last removed (`Event.run_addSet`).
-/

namespace ObjectConstraints

-- ---------------------------------------------------------------------------
-- Registered names
-- ---------------------------------------------------------------------------

namespace ConstraintSets

variable {sets : ConstraintSets} {id : String}

theorem contains_insert (added : ConstraintSet) (key : String) :
    Table.contains (sets.insert key added) id = true ↔ sets.contains id = true ∨ key = id := by
  by_cases hid : id = key
  · simp [Table.contains, hid, Table.get?_insert_self]
  · simp [Table.contains, Table.get?_insert_of_ne _ _ hid, Ne.symm hid]

theorem contains_erase (key : String) :
    Table.contains (sets.erase key) id = true ↔ sets.contains id = true ∧ ¬ key = id := by
  by_cases hid : id = key
  · simp [Table.contains, hid, Table.get?_erase_self]
  · simp [Table.contains, Table.get?_erase_of_ne _ hid, Ne.symm hid]

end ConstraintSets

/-- Whether a set of a name is put together. -/
def Made.gathers (id : String) : Made → Prop
  | .gathered found => found.id = id
  | .compiled .. => False

theorem CompiledChecks.made_gathers {compiled : CompiledChecks} {c : Class}
    {configurers : List Configurer} {one : Made} (h : one ∈ compiled.made c configurers) (id : String) :
    ¬ one.gathers id := by
  rcases compiled.get?_cases c.name with ⟨found, hfound⟩ | hno
  · simp [made_of_get? hfound] at h
  · rw [made_of_ne hno, List.mem_singleton] at h
    simp [h, Made.gathers]

/-- There is a set of a name. -/
def registration (id : String) : Mark where
  holds _ sets := sets.contains id = true
  leftBy made := made.gathers id
  checks compiled sets c configurers := by
    have hnone : ¬ ∃ one ∈ compiled.made c configurers, one.gathers id :=
      fun ⟨_, hone, h⟩ => CompiledChecks.made_gathers hone id h
    simp [hnone]
  set compiled sets name configurers found after h := by
    obtain ⟨_, hset, hmade⟩ | ⟨_, hset, -⟩ | ⟨_, rfl, hset, hmade⟩ :=
      sets.resolve_cases name configurers
    · cases hset.symm.trans h
      simp [hmade]
    · cases hset.symm.trans h
    · cases hset.symm.trans h
      simp [hmade, ConstraintSets.contains_insert, Made.gathers]

-- ---------------------------------------------------------------------------
-- Events
-- ---------------------------------------------------------------------------

namespace LogEntry

/-- Whether an entry is a set of a name that was put together. -/
def Gathers (id : String) : LogEntry → Prop
  | .made one => one.gathers id
  | _ => False

/-- Whether an entry is the removal of the set of a name. -/
def RemovesSet (id : String) : LogEntry → Prop
  | .removedSet removed => removed = id
  | _ => False

end LogEntry

namespace Event

variable {v w : Validator} {event : Event} {log : List LogEntry} {id : String} {before after : Prop}

def isCall : Event → Bool
  | .call .. => true
  | _ => false

/-- Whether an event can have to do with the sets of a validator. -/
def concernsSets : Event → Bool
  | .call .. | .addSet .. | .removeSet _ => true
  | _ => false

theorem perform_sets (hevent : event.concernsSets = false) : (event.perform v).sets = v.sets := by
  cases event with
  | call | addSet | removeSet => cases hevent
  | addChecks c member isInvariant checks => exact addChecks_sets v c member isInvariant checks
  | removeChecks c | clearMember c | clearAll c | setFlags c => exact updateChecks_sets v c _
  | _ => rfl

theorem logs_sets (hevent : event.concernsSets = false) (h : event.Logs v log) :
    ∀ entry ∈ log, ¬ entry.Gathers id ∧ ¬ entry.RemovesSet id := by
  have hmade (compiled : CompiledChecks) (c : Class) (configurers : List Configurer) :
      ∀ entry ∈ (compiled.made c configurers).map LogEntry.made,
        ¬ entry.Gathers id ∧ ¬ entry.RemovesSet id := by
    intro entry hentry
    obtain ⟨one, hone, rfl⟩ := List.mem_map.mp hentry
    exact ⟨CompiledChecks.made_gathers hone id, not_false⟩
  cases event with
  | call | addSet | removeSet => cases hevent
  | reconfigure c =>
    cases h
    exact List.forall_mem_cons.mpr ⟨⟨not_false, not_false⟩, hmade _ c v.configurers⟩
  | addChecks c | removeChecks c | clearMember c | clearAll c | setFlags c =>
    cases h
    exact hmade _ c v.configurers
  | _ =>
    cases h
    simp [LogEntry.Gathers, LogEntry.RemovesSet]

theorem addSet_contains (added : ConstraintSet) (overwrite : Bool) :
    (perform v (.addSet added overwrite)).sets.contains id = true ↔
      v.sets.contains id = true ∨ added.id = id := by
  cases hadded : !overwrite && v.sets.contains added.id with
  | true =>
    -- The set is refused, because there is one of its name.
    have hthere : added.id = id → v.sets.contains id = true := by
      rintro rfl
      exact (Bool.and_eq_true_iff.mp hadded).2
    simp [perform, Validator.addSet, ConstraintSets.add, hadded, Except.map, Except.toOption,
      or_iff_left_of_imp hthere]
  | false =>
    simp [perform, Validator.addSet, ConstraintSets.add, hadded, Except.map, Except.toOption,
      ConstraintSets.contains_insert]

-- ---------------------------------------------------------------------------
-- Two runs
-- ---------------------------------------------------------------------------

theorem isCall_of_concernsSets (hevent : event.concernsSets = false) : event.isCall = false := by
  cases event with
  | call => cases hevent
  | _ => rfl

/-- Of an event that happens to two validators, to the other one only if it is no call, the one gets
registered what the other one does and what the calls gather. -/
theorem perform_registers (hlog : event.Logs v log)
    (hgathered : Explains (LogEntry.Gathers id) (LogEntry.RemovesSet id) log before after)
    (h : v.sets.contains id = true ↔ w.sets.contains id = true ∨ before) :
    (event.perform v).sets.contains id = true ↔
      (if event.isCall then w else event.perform w).sets.contains id = true ∨ after := by
  by_cases hevent : event.concernsSets = false
  · rw [Explains.of_quiet (logs_sets hevent hlog)] at hgathered
    simpa [isCall_of_concernsSets hevent, perform_sets hevent, hgathered] using h
  cases event with
  | call implementation store asked =>
    obtain ⟨made, hmade, rfl⟩ := hlog
    have hreply : (perform v (.call implementation store asked)).sets.contains id = true ↔
        v.sets.contains id = true ∨ ∃ one ∈ made, one.gathers id := (registration id).reply hmade
    rw [Explains.of_lasting (by simp [LogEntry.RemovesSet])] at hgathered
    simp [hreply, h, hgathered, isCall, LogEntry.Gathers, or_assoc]
  | addSet added overwrite =>
    cases hlog
    rw [Explains.nil] at hgathered
    simp [addSet_contains, h, hgathered, isCall, or_right_comm]
  | removeSet removed =>
    cases hlog
    rw [Explains.singleton] at hgathered
    simp [perform, Validator.removeSet, ConstraintSets.contains_erase, isCall, h, hgathered,
      LogEntry.Gathers, LogEntry.RemovesSet, or_and_right]
  | _ => exact absurd rfl hevent

theorem run_filter_cons (event : Event) (rest : List Event) (w : Validator) :
    run ((event :: rest).filter (!·.isCall)) w =
      run (rest.filter (!·.isCall)) (if event.isCall then w else event.perform w) := by
  cases hcall : event.isCall <;> simp [hcall, run]

theorem run_registers (hlog : History v events log)
    (hgathered : Explains (LogEntry.Gathers id) (LogEntry.RemovesSet id) log before after)
    (h : v.sets.contains id = true ↔ w.sets.contains id = true ∨ before) :
    (run events v).sets.contains id = true ↔
      (run (events.filter (!·.isCall)) w).sets.contains id = true ∨ after := by
  induction hlog generalizing w before with
  | nil v =>
    rw [Explains.nil] at hgathered
    rwa [hgathered]
  | cons hfirst _ ih =>
    rw [run_filter_cons]
    have hbetween := perform_registers hfirst Iff.rfl h
    exact ih (hgathered.trans (Explains.append Iff.rfl Iff.rfl).symm) hbetween

theorem addSet_ok {added : ConstraintSet} :
    (∃ after, v.addSet added false = .ok after) ↔ ¬ v.sets.contains added.id = true := by
  cases hthere : v.sets.contains added.id <;>
    simp [Validator.addSet, ConstraintSets.add, hthere, Except.map]

/-- Whatever has happened to a validator, a set can be added to it iff it could be added had there been no
calls, and no call has put a set of its name together since that was last removed. -/
theorem run_addSet (v : Validator) (events : List Event) :
    (∃ log, History v events log) ∧ ∀ log, History v events log → ∀ added : ConstraintSet,
      ((∃ after, (run events v).addSet added false = .ok after) ↔
        (∃ after, (run (events.filter (!·.isCall)) v).addSet added false = .ok after) ∧
          ¬ Since (LogEntry.Gathers added.id) (LogEntry.RemovesSet added.id) log) := by
  refine ⟨exists_history v events, fun log hlog added => ?_⟩
  have hgathered : Explains (LogEntry.Gathers added.id) (LogEntry.RemovesSet added.id) log False
      (Since (LogEntry.Gathers added.id) (LogEntry.RemovesSet added.id) log) := by
    simp [Explains]
  have hstart : v.sets.contains added.id = true ↔ v.sets.contains added.id = true ∨ False :=
    (iff_of_eq (or_false _)).symm
  rw [addSet_ok, addSet_ok, run_registers hlog hgathered hstart, not_or]

end Event

def lookUpText : Event := .call stillWorld.implementation ring (.constraintSet "text")

/-- A set that a lookup has put together can be added when it has been removed again. -/
theorem run_addSet_removed :
    let log : List LogEntry := [.made (.gathered ⟨"text", [{ kind := .notNull }]⟩), .removedSet "text"]
    Event.History freshValidator [lookUpText, .removeSet "text"] log ∧
      ∃ after, (Event.run [lookUpText, .removeSet "text"] freshValidator).addSet ⟨"text", []⟩ false =
        .ok after := by
  intro log
  have hgathered : lookUpText.Logs freshValidator (log.take 1) := ⟨_, rfl, rfl⟩
  have hremoved : (Event.removeSet "text").Logs (Event.run [lookUpText] freshValidator) (log.drop 1) := rfl
  have hlog := Event.History.cons hgathered (.cons hremoved (.nil _))
  have hsince : ¬ Since (LogEntry.Gathers "text") (LogEntry.RemovesSet "text")
      (log.take 1 ++ [.removedSet "text"]) := by
    rw [Since.append, Since.singleton, not_or]
    exact ⟨not_false, fun h => h.2 _ (List.mem_singleton_self _) rfl⟩
  refine ⟨hlog, ?_⟩
  exact ((Event.run_addSet freshValidator _).2 _ hlog ⟨"text", []⟩).mpr ⟨⟨_, rfl⟩, hsince⟩

/-- A set that has only been looked up cannot be added, and could be had it not been looked up. -/
theorem run_addSet_looked_up :
    let added : ConstraintSet := ⟨"text", []⟩
    (Event.run [lookUpText] freshValidator).addSet added false = .error (.setAlreadyDefined "text") ∧
      ∃ after, (Event.run ([lookUpText].filter (!·.isCall)) freshValidator).addSet added false =
        .ok after :=
  ⟨rfl, _, rfl⟩

end ObjectConstraints
