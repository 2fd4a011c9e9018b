import ObjectConstraints.Proofs.Lookups

/-!
# Eviction

A validator gets a place for a class when it starts to compile its checks, and has checks in it from
when that succeeds. Evicting a class says whether it had a place (`Event.run_evict`); so it says yes
after compilations that have all failed (`Event.run_evict_failed`).
-/

namespace ObjectConstraints

-- ---------------------------------------------------------------------------
-- Places
-- ---------------------------------------------------------------------------

namespace CompiledChecks

/-- Whether there are checks for the class of a name or, if empty places count, a place for them. -/
def occupied (compiled : CompiledChecks) (empty : Bool) (name : String) : Bool :=
  (compiled.get? name).any fun checks => checks.isSome || empty

variable {compiled : CompiledChecks} {empty : Bool} {name : String}

theorem occupied_false :
    compiled.occupied false name = true ↔ ∃ checks, compiled.get? name = some (some checks) := by
  rcases h : compiled.get? name with _ | _ | checks <;> simp [occupied, h]

theorem occupied_true : compiled.occupied true name = compiled.contains name := by
  cases h : compiled.get? name <;> simp [occupied, Table.contains, h]

theorem occupied_of_get? (h : compiled.get? name = some (some checks)) :
    compiled.occupied empty name = true := by
  simp [occupied, h]

theorem occupied_erase (className : String) :
    CompiledChecks.occupied (compiled.erase className) empty name = true ↔
      compiled.occupied empty name = true ∧ ¬ className = name := by
  by_cases hname : name = className
  · simp [occupied, hname, Table.get?_erase_self]
  · simp [occupied, Table.get?_erase_of_ne _ hname, Ne.symm hname]

/-- Other checks in the place of a class leave it occupied. -/
theorem occupied_replace {className : String} (h : compiled.get? className = some (some checks))
    (other : ClassChecks) :
    CompiledChecks.occupied (compiled.insert className (some other)) empty name =
      compiled.occupied empty name := by
  by_cases hname : name = className
  · subst hname
    rw [occupied_of_get? h, occupied_of_get? (Table.get?_insert_self ..)]
  · simp [occupied, Table.get?_insert_of_ne _ _ hname]

end CompiledChecks

/-- Whether the checks of the class of a name are compiled, successfully or, if failures count, not. -/
def Made.compiles (failures : Bool) (name : String) : Made → Bool
  | .compiled c result => c.name == name && (result.toOption.isSome || failures)
  | .gathered _ => false

theorem CompiledChecks.occupied_resolve {compiled : CompiledChecks} {empty : Bool} {name : String}
    (c : Class) (configurers : List Configurer) :
    (compiled.resolve c configurers).2.occupied empty name = true ↔
      compiled.occupied empty name = true ∨
        ∃ made ∈ compiled.made c configurers, made.compiles empty name = true := by
  rcases compiled.get?_cases c.name with ⟨found, hfound⟩ | hno
  · simp [resolve_of_get? hfound, made_of_get? hfound]
  · rw [resolve_of_ne hno, made_of_ne hno]
    by_cases hname : name = c.name
    · subst hname
      -- A place that was there already is an empty one.
      have hplace : compiled.occupied empty c.name = true → empty = true := by
        rcases hget : compiled.get? c.name with _ | _ | checks
        · simp [occupied, hget]
        · simp [occupied, hget]
        · exact absurd hget (hno checks)
      simp only [occupied, Table.get?_insert_self, List.mem_singleton, exists_eq_left] at hplace ⊢
      simp only [Option.any_some, Made.compiles, beq_self_eq_true, Bool.true_and]
      grind
    · simp [occupied, Table.get?_insert_of_ne _ _ hname, Made.compiles, Ne.symm hname]

/-- There are checks for the class of a name, or there is a place for them. -/
def occupation (empty : Bool) (name : String) : Mark where
  holds compiled _ := compiled.occupied empty name = true
  leftBy made := made.compiles empty name = true
  checks compiled _ c configurers := CompiledChecks.occupied_resolve c configurers
  set compiled sets id configurers found after h := by
    obtain ⟨_, -, hmade⟩ | ⟨_, -, hmade⟩ | ⟨_, -, -, hmade⟩ := sets.resolve_cases id configurers <;>
      simp [hmade, Made.compiles]

-- ---------------------------------------------------------------------------
-- Events
-- ---------------------------------------------------------------------------

namespace LogEntry

/-- Whether an entry is a compilation, successful unless failures count, of the class of a name. -/
def Occupies (empty : Bool) (name : String) : LogEntry → Prop
  | .made one => one.compiles empty name = true
  | _ => False

/-- Whether an entry is the eviction of the class of a name, by itself or with all others. -/
def Evicts (name : String) : LogEntry → Prop
  | .evicted className => className = name
  | .evictedAll => True
  | _ => False

end LogEntry

namespace Event

variable {v : Validator} {c : Class} {empty : Bool} {name : String}

theorem updateChecks_occupied (change : ClassChecks → ClassChecks) :
    (v.updateChecks c change).2.compiled.occupied empty name =
      (v.compiled.resolve c v.configurers).2.occupied empty name := by
  rcases hresolved : v.compiled.resolve c v.configurers with ⟨e | checks, compiled⟩
  · simp [Validator.updateChecks, Validator.checksOf, hresolved]
  · have hself := CompiledChecks.get?_resolve_self (congrArg Prod.fst hresolved)
    rw [hresolved] at hself
    simp only [Validator.updateChecks, Validator.checksOf, hresolved]
    exact CompiledChecks.occupied_replace hself (change checks)

theorem addChecks_occupied (member : Member) (isInvariant : Bool) (checks : List Check) :
    (v.addChecks c member isInvariant checks).2.compiled.occupied empty name =
      (v.compiled.resolve c v.configurers).2.occupied empty name := by
  rcases hresolved : v.compiled.resolve c v.configurers with ⟨e | found, compiled⟩
  · simp [Validator.addChecks, Validator.checksOf, hresolved]
  · have hself := CompiledChecks.get?_resolve_self (congrArg Prod.fst hresolved)
    rw [hresolved] at hself
    simp only [Validator.addChecks, Validator.checksOf, hresolved]
    split
    · rfl
    · next added after _ => exact CompiledChecks.occupied_replace hself after

/-- Whether the places of a validator changed as a log says. -/
abbrev ExplainsPlace (empty : Bool) (name : String) (log : List LogEntry)
    (before after : CompiledChecks) : Prop :=
  Explains (LogEntry.Occupies empty name) (LogEntry.Evicts name) log
    (before.occupied empty name = true) (after.occupied empty name = true)

theorem explains_made {made : List Made} {before after : CompiledChecks}
    (h : after.occupied empty name = true ↔
      before.occupied empty name = true ∨ ∃ one ∈ made, one.compiles empty name = true) :
    ExplainsPlace empty name (made.map .made) before after := by
  refine (Explains.of_lasting ?_).mpr ?_
  · simp [LogEntry.Evicts]
  · simpa [LogEntry.Occupies] using h

theorem explains_evict (compiled : CompiledChecks) (className : String) :
    ExplainsPlace empty name [.evicted className] compiled (compiled.erase className) := by
  rw [ExplainsPlace, Explains.singleton, CompiledChecks.occupied_erase]
  simp [LogEntry.Occupies, LogEntry.Evicts]

theorem explains_evictAll (compiled : CompiledChecks) :
    ExplainsPlace empty name [.evictedAll] compiled {} := by
  rw [ExplainsPlace, Explains.singleton]
  simp [LogEntry.Occupies, LogEntry.Evicts, CompiledChecks.occupied, Table.get?_empty]

theorem explains_resolve (compiled : CompiledChecks) (c : Class) (configurers : List Configurer) :
    ExplainsPlace empty name ((compiled.made c configurers).map .made) compiled
      (compiled.resolve c configurers).2 :=
  explains_made (CompiledChecks.occupied_resolve c configurers)

theorem perform_explains {event : Event} {log : List LogEntry} (h : event.Logs v log) :
    ExplainsPlace empty name log v.compiled (event.perform v).compiled := by
  cases event with
  | call implementation store asked =>
    obtain ⟨made, hmade, rfl⟩ := h
    exact explains_made ((occupation empty name).reply hmade)
  | reconfigure c =>
    cases h
    exact (explains_evict v.compiled c.name).append (explains_resolve _ c v.configurers)
  | evict className =>
    cases h
    exact explains_evict v.compiled className
  | evictAll =>
    cases h
    exact explains_evictAll v.compiled
  | addChecks c member isInvariant checks =>
    cases h
    rw [ExplainsPlace, perform, addChecks_occupied]
    exact explains_resolve v.compiled c v.configurers
  | removeChecks c | clearMember c | clearAll c | setFlags c =>
    cases h
    rw [ExplainsPlace, perform]
    exact (updateChecks_occupied _) ▸ explains_resolve v.compiled c v.configurers
  | addSet added overwrite =>
    cases h
    simp only [perform, Validator.addSet]
    cases v.sets.add added overwrite <;> exact Explains.nil.mpr Iff.rfl
  | removeSet id =>
    cases h
    rw [ExplainsPlace, Explains.singleton]
    simp [LogEntry.Occupies, LogEntry.Evicts, perform, Validator.removeSet]
  | configure | addLanguage | removeLanguage | profile =>
    cases h
    exact Explains.nil.mpr Iff.rfl

end Event

-- ---------------------------------------------------------------------------
-- Histories
-- ---------------------------------------------------------------------------

namespace LogEntry

/-- Whether an entry is an attempt to compile the checks of the class of a name. -/
def Tries (name : String) : LogEntry → Prop
  | .made (.compiled c _) => c.name = name
  | _ => False

/-- Whether an entry is a compilation that has succeeded of the checks of the class of a name. -/
def Compiles (name : String) : LogEntry → Prop
  | .made (.compiled c (.ok _)) => c.name = name
  | _ => False

theorem occupies_true (name : String) : Occupies true name = Tries name := by
  funext entry
  rcases entry with ⟨c, result⟩ | _ | _ | _ <;> simp [Occupies, Tries, Made.compiles]

theorem occupies_false (name : String) : Occupies false name = Compiles name := by
  funext entry
  rcases entry with (⟨c, e | checks⟩ | _) | _ | _ | _ <;>
    simp [Occupies, Compiles, Made.compiles, Except.toOption]

end LogEntry

/-- Whatever has happened to a validator that knew no classes, it has the checks of a class iff they have
been compiled successfully since the class was last evicted, and evicting the class says yes iff
compiling them has been tried since then. -/
theorem Event.run_evict {start : Validator} (hstart : start.compiled = {}) (events : List Event) :
    (∃ log, History start events log) ∧ ∀ log, History start events log → ∀ name,
      let v := run events start
      ((∃ checks, v.compiled.get? name = some (some checks)) ↔
          Since (LogEntry.Compiles name) (LogEntry.Evicts name) log) ∧
        ((v.evict name).1 = true ↔ Since (LogEntry.Tries name) (LogEntry.Evicts name) log) := by
  refine ⟨exists_history start events, fun log hlog name => ?_⟩
  have hplace (empty : Bool) : (run events start).compiled.occupied empty name = true ↔
      Since (LogEntry.Occupies empty name) (LogEntry.Evicts name) log := by
    have hexplains : ExplainsPlace empty name log start.compiled (run events start).compiled :=
      hlog.explains fun _ _ _ => perform_explains
    have hbefore : start.compiled.occupied empty name = false := by
      rw [hstart]
      rfl
    unfold ExplainsPlace Explains at hexplains
    simpa [hbefore] using hexplains
  constructor
  · rw [← CompiledChecks.occupied_false, hplace, LogEntry.occupies_false]
  · rw [← LogEntry.occupies_true, ← hplace, CompiledChecks.occupied_true, Validator.evict]

/-- A validator that is told of a field of nodes that they do not have. -/
def mistaken : Validator where
  configurers := [ConfigTable.configurer {
    classes := ⟨[("Node", {
      className := "Node"
      fields := [{ name := "color", checks := [{ kind := .notNull }] }] })]⟩ }]

def lookUpNodes : Event := .call stillWorld.implementation ring (.checks node)

/-- Nodes are looked up, forgotten, and looked up again when nothing is said of them any more. -/
def secondAttempt : List Event := [lookUpNodes, .evictAll, .configure [], lookUpNodes]

theorem run_evict_again :
    let log : List LogEntry :=
      [.made (.compiled node (.error (.configuration (.memberNotFound "Node" .field "color")))),
        .evictedAll, .made (.compiled node (.ok { cls := node }))]
    mistaken.compiled = {} ∧ Event.History mistaken secondAttempt log ∧
      (∃ checks, (Event.run secondAttempt mistaken).compiled.get? "Node" = some (some checks)) ∧
      ((Event.run secondAttempt mistaken).evict "Node").1 = true := by
  intro log
  have hfailed : lookUpNodes.Logs mistaken (log.take 1) := ⟨_, rfl, rfl⟩
  have hevicted : Event.evictAll.Logs (Event.run (secondAttempt.take 1) mistaken) [.evictedAll] := rfl
  have hconfigured : (Event.configure []).Logs (Event.run (secondAttempt.take 2) mistaken) [] := rfl
  have hmade : lookUpNodes.Logs (Event.run (secondAttempt.take 3) mistaken) (log.drop 2) := ⟨_, rfl, rfl⟩
  have hlog := Event.History.cons hfailed (.cons hevicted (.cons hconfigured (.cons hmade (.nil _))))
  have hstart : mistaken.compiled = {} := rfl
  obtain ⟨hheld, hevict⟩ := (Event.run_evict hstart secondAttempt).2 log hlog "Node"
  refine ⟨rfl, hlog, hheld.mpr ?_, hevict.mpr ?_⟩
  · exact ⟨log.take 2, _, [], rfl, rfl, by simp⟩
  · exact ⟨log.take 2, _, [], rfl, rfl, by simp⟩

/-- A class whose only compilation has failed has no checks, and evicting it says yes. -/
theorem run_evict_failed :
    let v := Event.run [lookUpNodes] mistaken
    ClassChecks.compile node mistaken.configurers =
        .error (.configuration (.memberNotFound "Node" .field "color")) ∧
      (v.evict "Node").1 = true ∧ ¬ ∃ checks, v.compiled.get? "Node" = some (some checks) := by
  intro v
  have hplace : v.compiled.get? "Node" = some none := rfl
  exact ⟨rfl, rfl, by simp [hplace]⟩

end ObjectConstraints
