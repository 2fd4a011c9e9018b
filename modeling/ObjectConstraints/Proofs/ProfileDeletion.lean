import ObjectConstraints.Proofs.Depth

/-!
# Asking for profiles is deleting checks

A validation that asks for some profiles answers what a validator answers from whose check lists all
checks of other profiles have been deleted (`validate_requested_eq_restricted`). Deleting is done
where check lists are held: in the compiled checks of classes, whose members stay constrained, and
in the constraint sets, the configured ones included.
-/

namespace ObjectConstraints

open Traversal

-- ---------------------------------------------------------------------------
-- Deleting checks
-- ---------------------------------------------------------------------------

/-- Changes the values of a table. -/
def Table.map {κ α β : Type} (f : α → β) (table : Table κ α) : Table κ β :=
  ⟨table.entries.map fun entry => (entry.1, f entry.2)⟩

theorem Table.get?_map {κ α β : Type} [DecidableEq κ] (f : α → β) (table : Table κ α) (key : κ) :
    (table.map f).get? key = (table.get? key).map f := by
  obtain ⟨entries⟩ := table
  show getEntry key (entries.map _) = (getEntry key entries).map f
  induction entries with
  | nil => rfl
  | cons entry rest ih => by_cases h : entry.1 = key <;> simp [getEntry, h, ih]

/-- Whether one of a check's profiles is among those that are asked for. -/
def Check.takesPart (asked : List String) (check : Check) : Bool :=
  (Profiles.ofCheck check.profiles).any asked.contains

/-- The checks that are left of a list. -/
def restrictChecks (asked : List String) (checks : List Check) : List Check :=
  checks.filter (·.takesPart asked)

/-- Deletes the checks of other profiles. The same members stay constrained. -/
def ClassChecks.restrictTo (asked : List String) (checks : ClassChecks) : ClassChecks :=
  { checks with lists := checks.lists.map (·.filter (·.check.takesPart asked)) }

/-- Deletes the checks of other profiles. -/
def ConstraintSet.restrictTo (asked : List String) (constraintSet : ConstraintSet) : ConstraintSet :=
  { constraintSet with checks := restrictChecks asked constraintSet.checks }

/-- A source of configuration that defines sets without the checks of other profiles. -/
def Configurer.restrictTo (asked : List String) (configurer : Configurer) : Configurer where
  classConfig := configurer.classConfig
  setConfig id := (configurer.setConfig id).map (·.map fun config =>
    { config with checks := restrictChecks asked config.checks })

/-- Deletes the checks of other profiles from all compiled checks. -/
def CompiledChecks.restrictTo (asked : List String) (compiled : CompiledChecks) : CompiledChecks :=
  compiled.map (·.map (·.restrictTo asked))

/-- The validator with all profiles enabled and without the checks of other profiles than those that
are asked for. -/
def Validator.restrictTo (asked : List String) (v : Validator) : Validator :=
  { v with
    configurers := v.configurers.map (·.restrictTo asked)
    profiles := v.profiles.enableAll
    compiled := v.compiled.restrictTo asked
    sets := v.sets.map (·.restrictTo asked) }

variable {asked : List String}

theorem ClassChecks.of_restrictTo (checks : ClassChecks) (member : Member) :
    (checks.restrictTo asked).of member = restrictChecks asked (checks.of member) := by
  simp only [of, registered, restrictTo, Table.get?_map]
  cases checks.lists.get? member with
  | none => rfl
  | some list => simp [restrictChecks, List.filter_map, Function.comp_def]

theorem compile_restrictTo (c : Class) (configurers : List Configurer) :
    ClassChecks.compile c (configurers.map (·.restrictTo asked)) =
      ClassChecks.compile c configurers := by
  unfold ClassChecks.compile
  rw [List.foldlM_map]
  rfl

theorem extend_restrictChecks (gathered : Option (List Check)) (config : SetConfig) :
    ConstraintSet.extend (gathered.map (restrictChecks asked))
        { config with checks := restrictChecks asked config.checks } =
      restrictChecks asked (ConstraintSet.extend gathered config) := by
  cases gathered with
  | none => rfl
  | some checks =>
    simp only [ConstraintSet.extend, Option.map_some]
    split
    · rfl
    · exact (List.filter_append ..).symm

theorem ofConfigurers_restrictTo (id : String) (configurers : List Configurer) :
    ConstraintSet.ofConfigurers id (configurers.map (·.restrictTo asked)) =
      (ConstraintSet.ofConfigurers id configurers).map (·.restrictTo asked) := by
  -- What has been gathered so far is deleted from just as well as what is gathered next.
  have hfold (gathered : Option (List Check)) :
      (configurers.map (·.restrictTo asked)).foldlM (ConstraintSet.gatherFrom id)
          (gathered.map (restrictChecks asked)) =
        (configurers.foldlM (ConstraintSet.gatherFrom id) gathered).map
          (·.map (restrictChecks asked)) := by
    induction configurers generalizing gathered with
    | nil => rfl
    | cons configurer rest ih =>
      simp only [List.map_cons, List.foldlM_cons, ConstraintSet.gatherFrom, Configurer.restrictTo]
      rcases configurer.setConfig id with reasons | _ | config
      · rfl
      · exact ih gathered
      · simp only [Except.map, Option.map_some, extend_restrictChecks]
        exact ih (some _)
  have hnone := hfold none
  simp only [Option.map_none] at hnone
  simp only [ConstraintSet.ofConfigurers, hnone]
  rcases configurers.foldlM (ConstraintSet.gatherFrom id) none with e | _ | checks <;> rfl

theorem found_restrictTo (sets : ConstraintSets) (configurers : List Configurer) (id : String) :
    ConstraintSets.found (sets.map (·.restrictTo asked)) (configurers.map (·.restrictTo asked)) id =
      (sets.found configurers id).map (·.restrictTo asked) := by
  simp only [ConstraintSets.found_eq, Table.get?_map]
  cases sets.get? id with
  | some found => rfl
  | none => exact ofConfigurers_restrictTo id configurers

-- ---------------------------------------------------------------------------
-- Runs side by side
-- ---------------------------------------------------------------------------

/-- What a run relies on when checks are deleted instead of being passed over. -/
def Environment.restrictTo (asked : List String) (env : Environment) : Environment :=
  { env with
    configurers := env.configurers.map (·.restrictTo asked)
    profiles := env.profiles.enableAll
    requested := none }

/-- States of the two runs. The second one holds the restricted checks of all classes that the first
one is going to compile, those of `known`. -/
structure Restricted (asked : List String) (known : CompiledChecks) (configurers : List Configurer)
    (s s' : RunState) : Prop where
  store : s.store = s'.store
  entered : s.entered = s'.entered
  compiled : s'.compiled = known.restrictTo asked
  sets : ∀ id, s'.sets.found (configurers.map (·.restrictTo asked)) id =
    (s.sets.found configurers id).map (·.restrictTo asked)

/-- Whether the compiled checks are known. -/
def Knows (known compiled : CompiledChecks) : Prop :=
  ∀ name checks, compiled.get? name = some (some checks) → known.get? name = some (some checks)

/-- Whether all places are known, also those of classes that could not be compiled. -/
def KnowsAll (known compiled : CompiledChecks) : Prop :=
  ∀ name place, compiled.get? name = some place → known.get? name = some place

theorem Knows.before (h : Knows known s'.compiled) (hs : RunState.Before s s') :
    Knows known s.compiled :=
  fun _ _ hc => h _ _ (hs.compiled _ _ hc)

theorem KnowsAll.knows (h : KnowsAll known compiled) : Knows known compiled :=
  fun _ _ hc => h _ _ hc

/-- The second run mirrors the first one, provided that what the first one compiles is known. -/
structure Mirrors {α β : Type} (asked : List String) (known : CompiledChecks)
    (configurers : List Configurer) (Q : α → β → Prop) (m : Run α) (m' : Run β) : Prop where
  before : ∀ s : RunState, s.Before (m.exec s).2
  related : ∀ s a t, m.exec s = (.ok a, t) → ∃ b, Q a b
  ok : ∀ s s' a t, Restricted asked known configurers s s' → m.exec s = (.ok a, t) →
    Knows known t.compiled → ∃ b t', m'.exec s' = (.ok b, t') ∧ Q a b ∧
      Restricted asked known configurers t t'
  error : ∀ s s' e t, Restricted asked known configurers s s' → m.exec s = (.error e, t) →
    KnowsAll known t.compiled → ∃ t', m'.exec s' = (.error e, t') ∧ t.store = t'.store

theorem Mirrors.bind {α β γ δ : Type} {Q : α → β → Prop} {R : γ → δ → Prop} {m : Run α}
    {m' : Run β} {f : α → Run γ} {f' : β → Run δ} (hm : Mirrors asked known configurers Q m m')
    (hf : ∀ a b, Q a b → Mirrors asked known configurers R (f a) (f' b)) :
    Mirrors asked known configurers R (m >>= f) (m' >>= f') where
  before s := by
    have hs := hm.before s
    rcases hx : m.exec s with ⟨e | a, t⟩ <;> rw [hx] at hs
    · rwa [Run.exec_bind_of_error _ hx]
    · obtain ⟨b, hq⟩ := hm.related s a t hx
      rw [Run.exec_bind_of_ok _ hx]
      exact hs.trans ((hf a b hq).before t)
  related s c u h := by
    obtain ⟨a, t, hx, hc⟩ := Run.exec_bind_ok.mp h
    obtain ⟨b, hq⟩ := hm.related s a t hx
    exact (hf a b hq).related t c u hc
  ok s s' c u hr h hk := by
    obtain ⟨a, t, hx, hc⟩ := Run.exec_bind_ok.mp h
    obtain ⟨b₀, hq₀⟩ := hm.related s a t hx
    have ht := (hf a b₀ hq₀).before t
    rw [hc] at ht
    obtain ⟨b, t', hx', hq, hr'⟩ := hm.ok s s' a t hr hx (hk.before ht)
    rw [Run.exec_bind_of_ok _ hx']
    exact (hf a b hq).ok t t' c u hr' hc hk
  error s s' e u hr h hk := by
    rcases hx : m.exec s with ⟨e' | a, t⟩
    · rw [Run.exec_bind_of_error _ hx] at h
      cases h
      obtain ⟨t', hx', hst⟩ := hm.error s s' e u hr hx hk
      exact ⟨t', Run.exec_bind_of_error _ hx', hst⟩
    · rw [Run.exec_bind_of_ok _ hx] at h
      obtain ⟨b₀, hq₀⟩ := hm.related s a t hx
      have ht := (hf a b₀ hq₀).before t
      rw [h] at ht
      obtain ⟨b, t', hx', hq, hr'⟩ := hm.ok s s' a t hr hx (hk.knows.before ht)
      rw [Run.exec_bind_of_ok _ hx']
      exact (hf a b hq).error t t' e u hr' h hk

theorem Mirrors.of_ok {α β : Type} {Q : α → β → Prop} {m : Run α} {m' : Run β}
    {answer : RunState → α} {answer' : RunState → β} {next : RunState → RunState}
    (hm : ∀ s, m.exec s = (.ok (answer s), next s))
    (hm' : ∀ s, m'.exec s = (.ok (answer' s), next s))
    (hnext : ∀ s : RunState, s.Before (next s)) (hq : ∀ s s', s.store = s'.store → s.entered = s'.entered →
      Q (answer s) (answer' s'))
    (hr : ∀ s s', Restricted asked known configurers s s' →
      Restricted asked known configurers (next s) (next s')) :
    Mirrors asked known configurers Q m m' where
  before s := by rw [hm]; exact hnext s
  related s a t h := by
    rw [hm] at h
    cases h
    exact ⟨answer' s, hq s s rfl rfl⟩
  ok s s' a t hrs h _ := by
    rw [hm] at h
    cases h
    exact ⟨_, _, hm' s', hq s s' hrs.store hrs.entered, hr s s' hrs⟩
  error s s' e t _ h _ := by
    rw [hm] at h
    cases h

theorem Mirrors.stop {α β : Type} (Q : α → β → Prop) (e : Stop) :
    Mirrors asked known configurers Q (throw e : Run α) (throw e : Run β) where
  before s := .refl s
  related s a t h := by cases h
  ok s s' a t hr h _ := by cases h
  error s s' e' t hr h _ := by
    cases h
    exact ⟨s', rfl, hr.store⟩

theorem Mirrors.access {α : Type} (action : Store → Except AccessError α × Store) :
    Mirrors asked known configurers Eq (Run.access action) (Run.access action) where
  before s := by rw [Run.exec_access]; exact .withStore s _
  related s a t _ := ⟨a, rfl⟩
  ok s s' a t hr h _ := by
    obtain ⟨ha, rfl⟩ := Run.exec_access_ok.mp h
    rw [hr.store] at ha
    refine ⟨a, _, Run.exec_access_ok.mpr ⟨ha, rfl⟩, rfl, ?_⟩
    exact ⟨by rw [hr.store], hr.entered, hr.compiled, hr.sets⟩
  error s s' e t hr h _ := by
    rw [Run.exec_access, Prod.mk.injEq] at h
    obtain ⟨he, rfl⟩ := h
    refine ⟨{ s' with store := (action s'.store).2 }, ?_, by rw [hr.store]⟩
    rw [Run.exec_access, ← hr.store, he]

theorem get?_restrictTo (compiled : CompiledChecks) (name : String) :
    (compiled.restrictTo asked).get? name = (compiled.get? name).map (·.map (·.restrictTo asked)) :=
  Table.get?_map ..

theorem Mirrors.checksOf (env : Environment) (c : Class) :
    Mirrors asked known env.configurers
      (ClassChecks.Corresponds fun checks checks' => checks' = restrictChecks asked checks)
      (Run.checksOf env c) (Run.checksOf (env.restrictTo asked) c) where
  before s := by rw [Run.exec_checksOf]; exact .resolve s c _
  related s checks t _ :=
    ⟨checks.restrictTo asked, rfl, rfl, rfl, rfl, rfl, rfl, checks.of_restrictTo⟩
  ok s s' checks t hr h hk := by
    obtain ⟨hc, rfl⟩ := Run.exec_checksOf_ok.mp h
    have hplace := hk _ _ (CompiledChecks.get?_resolve_self hc)
    have hplace' : s'.compiled.get? c.name = some (some (checks.restrictTo asked)) := by
      rw [hr.compiled, get?_restrictTo, hplace]
      rfl
    refine ⟨checks.restrictTo asked, s', ?_, ⟨rfl, rfl, rfl, rfl, rfl, rfl, checks.of_restrictTo⟩, ?_⟩
    · rw [Run.exec_checksOf_ok, CompiledChecks.resolve_of_get? hplace']
      exact ⟨rfl, rfl⟩
    · exact ⟨hr.store, hr.entered, hr.compiled, hr.sets⟩
  error s s' e t hr h hk := by
    -- The class fails to compile, so nothing is known for its name, and the second run compiles it.
    obtain ⟨⟨reason, he, rfl⟩, rfl⟩ := Run.exec_checksOf_error.mp h
    obtain ⟨hcompile, hplace⟩ := CompiledChecks.resolve_error he
    have hno : ∀ checks, s'.compiled.get? c.name ≠ some (some checks) := by
      rw [hr.compiled, get?_restrictTo, hk _ _ hplace]
      simp
    refine ⟨_, Run.exec_checksOf_error.mpr ⟨⟨reason, ?_, rfl⟩, rfl⟩, hr.store⟩
    rw [CompiledChecks.resolve_of_ne hno]
    exact (compile_restrictTo c env.configurers).trans hcompile

theorem Mirrors.setOf (env : Environment) (id : String) :
    Mirrors asked known env.configurers (fun a b => b.checks = restrictChecks asked a.checks)
      (Run.setOf env id) (Run.setOf (env.restrictTo asked) id) where
  before s := by
    rw [Run.exec_setOf]
    cases h : s.sets.resolve id env.configurers with
    | ok found => exact .resolveSet h
    | error e => exact .refl s
  related s set t _ := ⟨set.restrictTo asked, rfl⟩
  ok s s' set t hr h _ := by
    obtain ⟨sets, hsets, rfl⟩ := Run.exec_setOf_ok.mp h
    have hfound := hr.sets id
    rw [ConstraintSets.found_ok.mpr ⟨sets, hsets⟩] at hfound
    obtain ⟨sets', hsets'⟩ := ConstraintSets.found_ok.mp hfound
    refine ⟨set.restrictTo asked, { s' with sets := sets' },
      Run.exec_setOf_ok.mpr ⟨sets', hsets', rfl⟩, rfl, hr.store, hr.entered, hr.compiled, ?_⟩
    intro other
    rw [ConstraintSets.found_resolve hsets', ConstraintSets.found_resolve hsets]
    exact hr.sets other
  error s s' e t hr h _ := by
    obtain ⟨⟨reason, hreason, rfl⟩, rfl⟩ := Run.exec_setOf_error.mp h
    have hfound := hr.sets id
    rw [ConstraintSets.found_error.mpr hreason] at hfound
    exact ⟨s', Run.exec_setOf_error.mpr ⟨⟨reason, ConstraintSets.found_error.mp hfound, rfl⟩, rfl⟩,
      hr.store⟩

-- ---------------------------------------------------------------------------
-- Whole runs
-- ---------------------------------------------------------------------------

/-- The run that passes checks over and the one without them. -/
def restriction (asked : List String) (known : CompiledChecks) (env : Environment) :
    Simulation Unit Unit env (env.restrictTo asked)
      (fun checks checks' => checks' = restrictChecks asked checks) Eq where
  Rel Q m m' := Mirrors asked known env.configurers Q (m ()) (m' ())
  pure_rel h := .of_ok (Run.exec_pure _) (Run.exec_pure _) .refl (fun _ _ _ _ => h) fun _ _ hr => hr
  bind_rel hm hf := hm.bind hf
  fail_rel e := .stop _ (.failed e)
  get_rel := .of_ok Run.exec_get Run.exec_get .refl (fun _ _ hs he => ⟨hs, he⟩) fun _ _ hr => hr
  access_rel := .access
  enter_rel o := .of_ok (Run.exec_enter o) (Run.exec_enter o) (.enter · o) (fun _ _ _ _ => rfl)
    fun _ _ hr => ⟨hr.store, by rw [hr.entered], hr.compiled, hr.sets⟩
  checksOf_rel := .checksOf env
  setOf_rel := .setOf env

theorem Environment.SameWorld.restrictTo (asked : List String) (env : Environment) :
    env.SameWorld (env.restrictTo asked) := ⟨rfl, rfl, rfl, rfl⟩

theorem isAnyEnabled_enableAll (profiles : Profiles) (named : List String) :
    profiles.enableAll.isAnyEnabled named none = true := by
  unfold Profiles.isAnyEnabled Profiles.ofCheck
  cases named <;> simp [Profiles.enableAll, Profiles.isEnabled]

theorem applyCheck_inactive {env : Environment} {check : Check}
    (h : env.profiles.isAnyEnabled check.profiles env.requested = false) (nested : Nested)
    (site : Site) : applyCheck env nested site check = pure [] := by
  unfold applyCheck
  simp [h]

section

variable {env : Environment} {nested nested' : Unit → Nested} (hasked : env.requested = some asked)
include hasked

theorem isAnyEnabled_asked (check : Check) :
    env.profiles.isAnyEnabled check.profiles env.requested = check.takesPart asked := by
  rw [hasked]
  rfl

theorem restriction_kept (hn : (restriction asked known env).RelNested nested nested')
    (hc : check.takesPart asked = true) (site : Site) :
    (restriction asked known env).Rel (List.Forall₂ Eq)
      (fun i => applyCheck env (nested i) site check)
      (fun j => applyCheck (env.restrictTo asked) (nested' j) site check) := by
  refine Simulation.applyCheck_rel (.restrictTo asked env) hn ⟨rfl, ?_⟩ ?_ site
  · intro site causes causes' hcauses
    rw [List.forall₂_eq_eq_eq] at hcauses
    rw [hcauses]
    rfl
  · rw [isAnyEnabled_asked hasked, hc]
    exact (isAnyEnabled_enableAll _ _).symm

theorem restriction_dropped (hc : ¬ check.takesPart asked = true) (nested : Nested)
    (rest : List Check) (site : Site) :
    applyAll env nested (check :: rest) site = applyAll env nested rest site := by
  have hgate : env.profiles.isAnyEnabled check.profiles env.requested = false := by
    rw [isAnyEnabled_asked hasked]
    simpa using hc
  simp [applyAll, Run.gather, applyCheck_inactive hgate]

theorem restriction_lists (hn : (restriction asked known env).RelNested nested nested') :
    (restriction asked known env).RelLists nested nested' := by
  rintro checks _ site rfl
  induction checks with
  | nil => exact (restriction asked known env).pure_rel .nil
  | cons check rest ih =>
    by_cases hc : check.takesPart asked
    · have hkept : restrictChecks asked (check :: rest) = check :: restrictChecks asked rest :=
        List.filter_cons_of_pos hc
      rw [hkept]
      refine (restriction asked known env).bind_rel (restriction_kept hasked hn hc site)
        fun front front' hfront => ?_
      refine (restriction asked known env).bind_rel ih fun back back' hback => ?_
      exact (restriction asked known env).pure_rel (List.rel_append hfront hback)
    · have hdropped : restrictChecks asked (check :: rest) = restrictChecks asked rest :=
        List.filter_cons_of_neg hc
      simp only [hdropped, restriction_dropped hasked hc]
      exact ih

/-- Passing over and deleting agree however deep a run nests. -/
theorem restriction_ofDepth (known : CompiledChecks) (depth : Nat) :
    (restriction asked known env).RelLists (fun _ => Nested.ofDepth env depth)
      (fun _ => Nested.ofDepth (env.restrictTo asked) depth) := by
  induction depth with
  | zero =>
    refine restriction_lists hasked ⟨fun o => ?_, fun checks checks' site _ => ?_⟩
    · exact Mirrors.stop _ .tooDeep
    · exact Mirrors.stop _ .tooDeep
  | succ depth ih =>
    refine restriction_lists hasked ⟨fun o => ?_, ih⟩
    exact Simulation.visit_rel (.restrictTo asked env) ih o

end

-- ---------------------------------------------------------------------------
-- Validations
-- ---------------------------------------------------------------------------

theorem Restricted.start (v : Validator) (compiled : CompiledChecks) (owner : Option Object)
    (store : Store) :
    Restricted asked compiled v.configurers (v.start owner store)
      (({ v with compiled }.restrictTo asked).start owner store) :=
  ⟨rfl, rfl, rfl, found_restrictTo v.sets v.configurers⟩

/-- What a run that asks for profiles answers is what the run without the other checks answers. -/
theorem Mirrors.answer {α : Type} {m m' : Run α} (h : Mirrors asked known configurers Eq m m')
    (hr : Restricted asked known configurers s s') (hk : KnowsAll known (m.exec s).2.compiled) :
    (m'.exec s').1 = (m.exec s).1 ∧ (m'.exec s').2.store = (m.exec s).2.store := by
  rcases hx : m.exec s with ⟨e | a, t⟩ <;> rw [hx] at hk
  · obtain ⟨t', hx', hst⟩ := h.error s s' e t hr hx hk
    rw [hx']
    exact ⟨rfl, hst.symm⟩
  · obtain ⟨b, t', hx', rfl, hr'⟩ := h.ok s s' a t hr hx hk.knows
    rw [hx']
    exact ⟨rfl, hr'.store.symm⟩

-- ---------------------------------------------------------------------------
-- Enabled profiles
-- ---------------------------------------------------------------------------

section

variable {env : Environment} (hasked : env.requested = some asked) (profiles : Profiles)
include hasked

theorem applyAll_withProfiles (nested : Nested) :
    applyAll { env with profiles } nested = applyAll env nested := by
  have hgate (check : Check) : profiles.isAnyEnabled check.profiles env.requested =
      env.profiles.isAnyEnabled check.profiles env.requested := by
    rw [hasked]
    rfl
  funext checks site
  unfold applyAll
  congr 1
  funext check
  unfold applyCheck
  simp only [hgate]
  rfl

theorem visit_withProfiles (nested : Nested) :
    visit { env with profiles } nested = visit env nested := by
  funext o
  unfold visit visitLevel visitInterface visitFields visitInvariants
  simp only [applyAll_withProfiles hasked profiles]
  rfl

theorem ofDepth_withProfiles (depth : Nat) :
    Nested.ofDepth { env with profiles } depth = Nested.ofDepth env depth := by
  induction depth with
  | zero => rfl
  | succ depth ih =>
    simp only [Nested.ofDepth, ih, visit_withProfiles hasked profiles,
      applyAll_withProfiles hasked profiles]

end

-- ---------------------------------------------------------------------------
-- Asking for profiles
-- ---------------------------------------------------------------------------

section

variable (v : Validator) (world : World) (depth : Nat) (o : Object) (store : Store)

theorem validate_withProfiles (asked : List String) (profiles : Profiles) :
    { v with profiles }.validate world depth (some asked) o store =
      ((v.validate world depth (some asked) o store).1,
        { (v.validate world depth (some asked) o store).2.1 with profiles },
        (v.validate world depth (some asked) o store).2.2) := by
  let env := v.environment world (some asked) none
  have hrun : { v with profiles }.validate world depth (some asked) o store =
      { v with profiles }.conclude o.text
        ((visit { env with profiles } (Nested.ofDepth { env with profiles } depth) o).exec
          (v.start none store)) := rfl
  have hasked : env.requested = some asked := rfl
  rw [hrun, ofDepth_withProfiles hasked, visit_withProfiles hasked]
  rfl

/-- A validation that asks for profiles answers what a validator with all profiles enabled answers
from whose lists the other checks have been deleted. Which lists there are is known once the classes
that the validation compiles are compiled. Which profiles are enabled does not matter. -/
theorem validate_requested_eq_restricted
    (hcompiled : KnowsAll compiled (v.validate world depth (some asked) o store).2.1.compiled) :
    (({ v with compiled }.restrictTo asked).validate world depth none o store).1 =
        (v.validate world depth (some asked) o store).1 ∧
      (({ v with compiled }.restrictTo asked).validate world depth none o store).2.2 =
        (v.validate world depth (some asked) o store).2.2 ∧
      ∀ profiles, { v with profiles }.validate world depth (some asked) o store =
        ((v.validate world depth (some asked) o store).1,
          { (v.validate world depth (some asked) o store).2.1 with profiles },
          (v.validate world depth (some asked) o store).2.2) := by
  let env := v.environment world (some asked) none
  have hvisit : Mirrors asked compiled v.configurers (List.Forall₂ Eq)
      (visit env (Nested.ofDepth env depth) o)
      (visit (env.restrictTo asked) (Nested.ofDepth (env.restrictTo asked) depth) o) :=
    Simulation.visit_rel (.restrictTo asked env) (restriction_ofDepth rfl compiled depth) o
  rw [List.forall₂_eq_eq_eq] at hvisit
  obtain ⟨hresult, hstore⟩ := Mirrors.answer hvisit (.start v compiled none store) hcompiled
  refine ⟨?_, hstore, fun profiles => validate_withProfiles v world depth o store asked profiles⟩
  exact congrArg (Except.mapError (Stop.wrap o.text)) hresult

/-- A class with a field. -/
def account : Class where
  id := 0
  name := "Account"
  superclass := none
  interfaces := []
  isInterface := false
  fields := [⟨"owner", .string, false⟩]
  methods := []
  constructors := []

theorem validate_requested_eq_restricted_account :
    let checks : ClassChecks := {
      cls := account
      lists := Table.ofList [(.field "owner", Registered.untracked [
        { kind := .notNull },
        { kind := .expression "missing" "value", profiles := ["audit"] }])]
      constrainedFields := ["owner"] }
    let v : Validator := { compiled := Table.ofList [("Account", some checks)] }
    let world : World := ⟨fun c m _ _ store => (.error (.notInvocable c.name m.name), store), ⟨0, 0⟩⟩
    let store : Store := { objects := Table.ofList [(0, Table.ofList [("owner", .null)])], made := 1 }
    let answer := v.validate world 1 (some ["default"]) ⟨0, account⟩ store
    KnowsAll v.compiled answer.2.1.compiled ∧
      (answer.1.map (·.map (·.context)) = .ok [.field "Account" "owner"]) ∧
      ((v.restrictTo ["default"]).validate world 1 none ⟨0, account⟩ store).1 = answer.1 := by
  intro checks v world store answer
  have hknown : KnowsAll v.compiled answer.2.1.compiled := fun _ _ h => h
  exact ⟨hknown, rfl, (validate_requested_eq_restricted v world 1 ⟨0, account⟩ store hknown).1⟩

end

end ObjectConstraints
