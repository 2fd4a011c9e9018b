import ObjectConstraints.Proofs.DocumentMerging
import ObjectConstraints.Proofs.Histories

/-!
# Gathering constraint sets

A catalog merges what its documents say of a set, and a validator merges what its catalogs say of it.
Both together come to one pass over all entries for the set, in which an entry that overwrites starts
afresh (`Validator.resolve_flat`). The entry that a catalog keeps does to whatever has been gathered
before what its documents would have done one by one (`Catalog.Sums`).
-/

namespace ObjectConstraints

-- ---------------------------------------------------------------------------
-- Entries
-- ---------------------------------------------------------------------------

namespace SetConfig

/-- The checks of a set after one more entry for it. -/
def follow (checks : List Check) (entry : SetConfig) : List Check :=
  if entry.overwrite = some true then entry.checks else checks ++ entry.checks

/-- The checks that entries, of which some are for other sets, give to a set. -/
def flat (id : String) (entries : List SetConfig) : Option (List Check) :=
  match entries.filter (·.id = id) with
  | [] => none
  | first :: others => some (others.foldl follow first.checks)

/-- What has been gathered for a set after more entries for it. -/
def gather (gathered : Option (List Check)) (entries : List SetConfig) : Option (List Check) :=
  entries.foldl (fun gathered entry => some (ConstraintSet.extend gathered entry)) gathered

theorem extend_some (checks : List Check) (entry : SetConfig) :
    ConstraintSet.extend (some checks) entry = follow checks entry := by
  rcases hset : entry.overwrite with _ | _ | _ <;> simp [ConstraintSet.extend, follow, hset]

theorem gather_some (checks : List Check) (entries : List SetConfig) :
    gather (some checks) entries = some (entries.foldl follow checks) := by
  induction entries generalizing checks with
  | nil => rfl
  | cons entry rest ih => simpa only [gather, List.foldl_cons, extend_some] using ih (follow checks entry)

theorem gather_append (gathered : Option (List Check)) (front back : List SetConfig) :
    gather gathered (front ++ back) = gather (gather gathered front) back :=
  List.foldl_append

theorem flat_eq (id : String) (entries : List SetConfig) :
    flat id entries = gather none (entries.filter (·.id = id)) := by
  unfold flat
  split
  · next h => rw [h]; rfl
  · next first others h =>
    rw [h]
    exact (gather_some first.checks others).symm

theorem flat_eq_none {id : String} {entries : List SetConfig} :
    flat id entries = none ↔ ∀ entry ∈ entries, entry.id ≠ id := by
  unfold flat
  split
  · next h => simpa [List.filter_eq_nil_iff] using h
  · next first others h =>
    have hfirst : first ∈ entries.filter (·.id = id) := h ▸ List.mem_cons_self
    obtain ⟨hmem, hid⟩ := List.mem_filter.mp hfirst
    simpa using ⟨first, hmem, by simpa using hid⟩

end SetConfig

-- ---------------------------------------------------------------------------
-- Catalogs
-- ---------------------------------------------------------------------------

/-- What is done to a catalog: a predicate is made known, or a document is loaded, as far as it could
be read. -/
inductive CatalogStep where
  | addPredicate (name : String) (predicate : Predicate)
  | load (read : Except Document.ReadError Document)

namespace CatalogStep

/-- The catalog after a step. A document that is refused changes nothing. -/
def perform (catalog : Catalog) : CatalogStep → Catalog
  | .addPredicate name predicate => catalog.addPredicate name predicate
  | .load read => (catalog.loadRead read).toOption.getD catalog

/-- What the document of a step says of constraint sets, in the order in which it does; nothing if the
document is refused. -/
def entries (catalog : Catalog) : CatalogStep → List SetConfig
  | .addPredicate _ _ => []
  | .load (.error _) => []
  | .load (.ok document) =>
    match catalog.load document with
    | .ok _ => (document.sets.mapM (Document.setOf catalog.predicates)).toOption.getD []
    | .error _ => []

end CatalogStep

namespace ConfigTable

/-- Whether each configuration of a set stands at the name of its set. -/
def SetsKeyed (table : ConfigTable) : Prop :=
  ∀ id config, table.set? id = some config → config.id = id

theorem set?_addSet (table : ConfigTable) (config : SetConfig) (id : String) :
    (table.addSet config).set? id = if config.id = id then some config else table.set? id := by
  split
  · next h => exact h ▸ Table.get?_insert_self ..
  · next h => exact Table.get?_insert_of_ne _ _ (Ne.symm h)

end ConfigTable

namespace Catalog

/-- The catalog that steps lead to. -/
def after (steps : List CatalogStep) : Catalog := steps.foldl CatalogStep.perform {}

/-- All that the documents of steps say of constraint sets. -/
def setEntries : Catalog → List CatalogStep → List SetConfig
  | _, [] => []
  | catalog, step :: rest => step.entries catalog ++ setEntries (step.perform catalog) rest

/-- The entry that a catalog keeps for a set after another entry for it. -/
def mergedSet (found : Option SetConfig) (config : SetConfig) : SetConfig :=
  match found with
  | some earlier =>
    if config.overwrite.getD false then config
    else { earlier with checks := earlier.checks ++ config.checks }
  | none => config

section

variable {table : ConfigTable} {entries : List SetConfig}

theorem addSet_eq (table : ConfigTable) (config : SetConfig) :
    addSet table config = table.addSet (mergedSet (table.set? config.id) config) := by
  unfold addSet mergedSet
  cases table.set? config.id with
  | none => rfl
  | some earlier =>
    simp only
    split <;> rfl

theorem id_mergedSet (hkeyed : table.SetsKeyed) (config : SetConfig) :
    (mergedSet (table.set? config.id) config).id = config.id := by
  unfold mergedSet
  split
  · next earlier hearlier =>
    split
    · rfl
    · exact (hkeyed _ _ hearlier : earlier.id = _)
  · rfl

theorem set?_addSet (hkeyed : table.SetsKeyed) (config : SetConfig) (id : String) :
    (addSet table config).set? id =
      if config.id = id then some (mergedSet (table.set? id) config) else table.set? id := by
  rw [addSet_eq, ConfigTable.set?_addSet, id_mergedSet hkeyed]
  split
  · next h => rw [h]
  · rfl

theorem addSet_keyed (hkeyed : table.SetsKeyed) (config : SetConfig) :
    (addSet table config).SetsKeyed := by
  intro id found hfound
  rw [set?_addSet hkeyed] at hfound
  split at hfound
  · next h =>
    subst h
    cases hfound
    exact id_mergedSet hkeyed config
  · exact hkeyed id found hfound

theorem sets_foldl_addClass (classes : List ClassConfig) (table : ConfigTable) :
    (classes.foldl addClass table).sets = table.sets := by
  induction classes generalizing table with
  | nil => rfl
  | cons config rest ih =>
    rw [List.foldl_cons, ih, addClass_eq]
    rfl

/-- The flag of the entry that is kept is that of the first one since the last overwriting one. Asked
for after other catalogs, it decides about all of its checks, as the single entries would have. -/
theorem gather_mergedSet (found : Option SetConfig) (config : SetConfig)
    (gathered : Option (List Check)) :
    SetConfig.gather gathered [mergedSet found config] =
      SetConfig.gather gathered (found.toList ++ [config]) := by
  cases found with
  | none => rfl
  | some earlier =>
    by_cases hoverwrite : config.overwrite.getD false = true
    · have hmerged : mergedSet (some earlier) config = config := by simp [mergedSet, hoverwrite]
      cases gathered <;>
        simp [hmerged, SetConfig.gather, ConstraintSet.extend, hoverwrite]
    · have hmerged : mergedSet (some earlier) config =
          { earlier with checks := earlier.checks ++ config.checks } := by
        simp [mergedSet, hoverwrite]
      cases gathered with
      | none => simp [hmerged, SetConfig.gather, ConstraintSet.extend, hoverwrite]
      | some checks =>
        by_cases hearlier : earlier.overwrite.getD false = true <;>
          simp [hmerged, SetConfig.gather, ConstraintSet.extend, hoverwrite, hearlier]

/-- Whether a table keeps for each set an entry that does what the given entries do one by one, whatever
has been gathered before. -/
structure Sums (table : ConfigTable) (entries : List SetConfig) : Prop where
  keyed : table.SetsKeyed
  gather : ∀ id gathered, SetConfig.gather gathered (table.set? id).toList =
    SetConfig.gather gathered (entries.filter (·.id = id))

namespace Sums

theorem empty : Sums {} [] := ⟨fun _ _ h => (by cases h), fun _ _ => rfl⟩

theorem addSet (h : Sums table entries) (config : SetConfig) :
    Sums (Catalog.addSet table config) (entries ++ [config]) := by
  refine ⟨addSet_keyed h.keyed config, fun id gathered => ?_⟩
  rw [set?_addSet h.keyed, List.filter_append, SetConfig.gather_append, ← h.gather id]
  by_cases hid : config.id = id
  · simp only [hid, ↓reduceIte, Option.toList_some, decide_true, List.filter_cons_of_pos, List.filter_nil]
    rw [gather_mergedSet, SetConfig.gather_append]
  · simp [hid, SetConfig.gather]

theorem foldl_addSet (h : Sums table entries) (sets : List SetConfig) :
    Sums (sets.foldl Catalog.addSet table) (entries ++ sets) := by
  induction sets generalizing table entries with
  | nil => rwa [List.append_nil]
  | cons config rest ih =>
    rw [List.append_cons]
    exact ih (h.addSet config)

theorem perform {catalog : Catalog} (h : Sums catalog.configs entries) (step : CatalogStep) :
    Sums (step.perform catalog).configs (entries ++ step.entries catalog) := by
  rcases step with ⟨name, predicate⟩ | e | document
  · rwa [CatalogStep.entries, List.append_nil]
  · rwa [CatalogStep.entries, List.append_nil]
  · simp only [CatalogStep.perform, CatalogStep.entries, loadRead]
    cases hload : catalog.load document with
    | error e => rwa [List.append_nil]
    | ok loaded =>
      simp only [load, ClassChecks.bind_ok, ClassChecks.pure_ok] at hload
      obtain ⟨classes, -, sets, hsets, rfl⟩ := hload
      have hclasses : Sums (classes.foldl addClass catalog.configs) entries := by
        have hsame : ∀ id, (classes.foldl addClass catalog.configs).set? id = catalog.configs.set? id :=
          fun id => congrArg (Table.get? · id) (sets_foldl_addClass classes catalog.configs)
        refine ⟨fun id config hconfig => h.keyed id config (hsame id ▸ hconfig), fun id gathered => ?_⟩
        rw [hsame, h.gather]
      rw [hsets]
      exact hclasses.foldl_addSet sets

theorem steps {catalog : Catalog} (h : Sums catalog.configs entries) (steps : List CatalogStep) :
    Sums (steps.foldl CatalogStep.perform catalog).configs (entries ++ catalog.setEntries steps) := by
  induction steps generalizing catalog entries with
  | nil => rwa [setEntries, List.append_nil]
  | cons step rest ih =>
    rw [setEntries, ← List.append_assoc]
    exact ih (h.perform step)

end Sums

theorem after_sums (steps : List CatalogStep) : Sums (after steps).configs (setEntries {} steps) :=
  @Sums.steps [] {} Sums.empty steps

end

end Catalog

-- ---------------------------------------------------------------------------
-- Catalogs one after the other
-- ---------------------------------------------------------------------------

theorem ConstraintSet.foldlM_gatherFrom (id : String) (histories : List (List CatalogStep))
    (gathered : Option (List Check)) :
    (histories.map fun steps => (Catalog.after steps).configurer).foldlM (gatherFrom id) gathered =
      .ok (SetConfig.gather gathered ((histories.flatMap (Catalog.setEntries {})).filter (·.id = id))) := by
  induction histories generalizing gathered with
  | nil => rfl
  | cons steps rest ih =>
    have hfirst : gatherFrom id gathered (Catalog.after steps).configurer =
        .ok (SetConfig.gather gathered ((Catalog.setEntries {} steps).filter (·.id = id))) := by
      rw [← (Catalog.after_sums steps).gather]
      simp only [gatherFrom, Catalog.configurer, ConfigTable.configurer]
      cases (Catalog.after steps).configs.set? id <;> rfl
    rw [List.map_cons, List.foldlM_cons, hfirst, List.flatMap_cons, List.filter_append,
      SetConfig.gather_append]
    exact ih _

theorem ConstraintSet.ofConfigurers_catalogs (id : String) (histories : List (List CatalogStep)) :
    ofConfigurers id (histories.map fun steps => (Catalog.after steps).configurer) =
      match SetConfig.flat id (histories.flatMap (Catalog.setEntries {})) with
      | some checks => .ok ⟨id, checks⟩
      | none => .error (.undefinedSet id) := by
  rw [ofConfigurers, foldlM_gatherFrom, SetConfig.flat_eq]
  cases SetConfig.gather none ((histories.flatMap (Catalog.setEntries {})).filter (·.id = id)) <;> rfl

-- ---------------------------------------------------------------------------
-- Lookups
-- ---------------------------------------------------------------------------

theorem Run.exec_setOf_registered {env : Environment} {s : RunState} {id : String} {found : ConstraintSet}
    (h : s.sets.get? id = some found) : (Run.setOf env id).exec s = (.ok found, s) := by
  rw [Run.exec_setOf]
  simp [ConstraintSets.resolve, h]

theorem Validator.setOf_registered {v : Validator} {id : String} {found : ConstraintSet}
    (h : v.sets.get? id = some found) : v.setOf id = .ok (found, v) := by
  simp [Validator.setOf, ConstraintSets.resolve, h, Except.map]

/-- A set that is not registered is found with the checks of all entries for it, in the order of the
catalogs, of their documents and within these, and is undefined if there are none. What it was found to
be is what every later lookup finds, of its own or in a validation, whatever happens in between but that
the set is removed or replaced. -/
theorem Validator.resolve_flat {v : Validator} {id : String} (histories : List (List CatalogStep))
    (hconfigurers : v.configurers = histories.map fun steps => (Catalog.after steps).configurer)
    (hnew : v.sets.get? id = none) :
    let entries := histories.flatMap (Catalog.setEntries {})
    let resolved := v.sets.resolve id v.configurers
    resolved.map (·.1) = (match SetConfig.flat id entries with
      | some checks => .ok ⟨id, checks⟩
      | none => .error (.undefinedSet id)) ∧
    (resolved = .error (.undefinedSet id) ↔ ∀ entry ∈ entries, entry.id ≠ id) ∧
    ∀ found sets, resolved = .ok (found, sets) →
      ∀ w : Validator, (∀ other kept, sets.get? other = some kept → w.sets.get? other = some kept) →
        ∀ events : List Event, (∀ event ∈ events, event.resets id = false) →
          let later := Event.run events w
          later.setOf id = .ok (found, later) ∧
          ∀ owner store env s, (later.start owner store).Before s →
            (Run.setOf env id).exec s = (.ok found, s) := by
  intro entries resolved
  have hfound : v.sets.found v.configurers id = (match SetConfig.flat id entries with
      | some checks => .ok ⟨id, checks⟩
      | none => .error (.undefinedSet id)) := by
    rw [ConstraintSets.found_eq, hnew, hconfigurers]
    exact ConstraintSet.ofConfigurers_catalogs id histories
  refine ⟨hfound, ?_, ?_⟩
  · rw [← SetConfig.flat_eq_none, ← ConstraintSets.found_error, hfound]
    cases SetConfig.flat id entries <;> simp
  · intro found sets hresolved w hkept events hevents later
    have hregistered : w.sets.get? id = some found :=
      hkept id found (ConstraintSets.get?_resolve hresolved).1
    have hlater : later.sets.get? id = some found := Event.run_keeps_set hevents hregistered
    exact ⟨setOf_registered hlater,
      fun owner store env s hs => Run.exec_setOf_registered (hs.sets id found hlater)⟩

/-- A document that declares checks for one set. -/
def setDocument (id : String) (overwrite : Option Bool) (checks : List CheckDeclaration) :
    Except Document.ReadError Document :=
  .ok { sets := [{ id, overwrite, checks }] }

/-- Two catalogs that declare checks of texts. The second one starts afresh and goes on, with a document
in between that cannot be read. -/
def textHistories : List (List CatalogStep) :=
  [[.load (setDocument "text" none [{ kind := .notNull }])],
    [.load (setDocument "text" (some true) [{ kind := .notEmpty }]), .load (.error .yaml),
      .load (setDocument "text" none [{ kind := .maxLength 5 }])]]

def textValidator : Validator where
  configurers := textHistories.map fun steps => (Catalog.after steps).configurer

/-- A set that is refused because there is one already, and a removal of another one. -/
def textEvents : List Event :=
  [.addSet ⟨"text", []⟩ false, .configure [], .removeSet "number", .addSet ⟨"number", []⟩ true]

theorem Validator.resolve_flat_text :
    textValidator.sets.get? "text" = none ∧
      (∀ event ∈ textEvents, event.resets "text" = false) ∧
      ∃ after, textValidator.setOf "text" =
          .ok (⟨"text", [{ kind := .notEmpty }, { kind := .maxLength 5 }]⟩, after) ∧
        (Event.run textEvents after).setOf "text" =
          .ok (⟨"text", [{ kind := .notEmpty }, { kind := .maxLength 5 }]⟩,
            Event.run textEvents after) := by
  have hevents : ∀ event ∈ textEvents, event.resets "text" = false := by
    simp [textEvents, Event.resets]
  obtain ⟨hfound, -, hlater⟩ := @resolve_flat textValidator "text" textHistories rfl rfl
  obtain ⟨sets, hresolved⟩ := ConstraintSets.found_ok.mp hfound
  refine ⟨rfl, hevents, { textValidator with sets }, ?_, ?_⟩
  · rw [setOf, hresolved]
    rfl
  · exact (hlater _ _ hresolved { textValidator with sets } (fun _ _ h => h) textEvents hevents).1

end ObjectConstraints
