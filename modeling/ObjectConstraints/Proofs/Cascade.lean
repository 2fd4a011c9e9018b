import Mathlib.Data.List.Nodup
import ObjectConstraints.Proofs.KnownClasses
import ObjectConstraints.Proofs.Walk

/-!
# Cascades

What a completed validation of an object reports: the failures of the evaluations of the object and
of all objects it cascades into, each object's own ones once, however often the object is met
(`validate_reports_reached`).
-/

namespace ObjectConstraints

open Traversal

/-- A finite graph of objects that looking at it does not change: the fields and the getters of its
objects hold objects of the graph, and the getters leave the store as it is. -/
structure StillGraph (v : Validator) (implementation : Implementation) (objects : List Object)
    (classes : List Class) (store : Store) : Prop where
  apart : ∀ o ∈ objects, ∀ p ∈ objects, o.id = p.id → o = p
  classesOf : ClassesOf objects classes
  fields : store.ClosedOver objects
  getters : ∀ o ∈ objects, ∀ method, v.Calls classes method → ∀ value,
    (o.invoke implementation method [] store).1 = .ok value → value.Over objects
  quiet : ∀ o ∈ objects, ∀ method, v.Calls classes method →
    (o.invoke implementation method [] store).2 = store

/-- A state of a run over a graph. -/
structure Ready (v : Validator) (classes : List Class) (store : Store) (s : RunState) : Prop where
  store : s.store = store
  known : Known v classes s

variable {v : Validator} {env : Environment} {objects : List Object} {classes : List Class}
  {store : Store}

/-- Whether a run that completes has done the given tasks. -/
def Performs (v : Validator) (env : Environment) (objects : List Object) (classes : List Class)
    (store : Store) (m : Run (List Violation)) (tasks : List Task) : Prop :=
  ∀ s violations s', Ready v classes store s → m.exec s = (.ok violations, s') →
    Ready v classes store s' ∧
      ∃ evaluations entries, Walk env objects tasks s violations s' evaluations entries

namespace Performs

theorem append (h : Performs v env objects classes store m first)
    (h' : Performs v env objects classes store m' second) :
    Performs v env objects classes store
      (do
        let front ← m
        let back ← m'
        pure (front ++ back))
      (first ++ second) := by
  intro s violations s'' hs hexec
  obtain ⟨front, s', back, hfront, hback, rfl⟩ := Run.exec_append_ok hexec
  obtain ⟨hs', evaluations, entries, hwalk⟩ := h s front s' hs hfront
  obtain ⟨hs'', evaluations', entries', hwalk'⟩ := h' s' back s'' hs' hback
  exact ⟨hs'', _, _, hwalk.append hwalk'⟩

theorem nil : Performs v env objects classes store (pure []) [] := by
  intro s violations s' hs hexec
  cases hexec
  exact ⟨hs, [], [], .nil s⟩

theorem gather {α : Type} {step : α → Run (List Violation)} {task : α → Task} {l : List α}
    (h : ∀ a ∈ l, Performs v env objects classes store (step a) [task a]) :
    Performs v env objects classes store (Run.gather step l) (l.map task) := by
  induction l with
  | nil => exact .nil
  | cons a rest ih =>
    exact (h a List.mem_cons_self).append (ih fun b hb => h b (List.mem_cons_of_mem _ hb))

/-- A run that first looks up what a task consists of, and then does that, does the task. -/
theorem expand {α : Type} {step : Run α} {next : α → Run (List Violation)} (P : α → Prop)
    (parts : α → List Task)
    (hstep : ∀ s a t, Ready v classes store s → step.exec s = (.ok a, t) → Ready v classes store t ∧
      s.Before t ∧ t.entered = s.entered ∧ P a ∧ Expands env t task (parts a))
    (hnext : ∀ a, P a → Performs v env objects classes store (next a) (parts a)) :
    Performs v env objects classes store (step >>= next) [task] := by
  intro s violations s' hs hexec
  obtain ⟨a, t, hstepped, hexec⟩ := Run.exec_bind_ok.mp hexec
  obtain ⟨ht, hbefore, hentered, ha, hexpands⟩ := hstep s a t hs hstepped
  obtain ⟨hs', evaluations, entries, hwalk⟩ := hnext a ha t violations s' ht hexec
  exact ⟨hs', _, _, hwalk.expand hbefore (ht.store.trans hs.store.symm) hentered hexpands⟩

end Performs

-- ---------------------------------------------------------------------------
-- Lookups
-- ---------------------------------------------------------------------------

section

variable (henv : env.configurers = v.configurers)
include henv

theorem Ready.checksOf (hs : Ready v classes store s) (hc : c ∈ classes)
    (h : (Run.checksOf env c).exec s = (.ok checks, t)) :
    Ready v classes store t ∧ s.Before t ∧ t.entered = s.entered ∧
      (∃ d ∈ classes, (v.checksOf d).1 = .ok checks) ∧
      t.compiled.get? c.name = some (some checks) := by
  obtain ⟨hchecks, rfl⟩ := Run.exec_checksOf_ok.mp h
  rw [henv] at hchecks ⊢
  obtain ⟨d, hd, _, hdchecks⟩ := hs.known.checks c hc checks hchecks
  exact ⟨⟨hs.store, hs.known.checksOf hc⟩, .resolve s c _, rfl, ⟨d, hd, hdchecks⟩,
    CompiledChecks.get?_resolve_self hchecks⟩

theorem Ready.setOf (hs : Ready v classes store s) {id : String}
    (h : (Run.setOf env id).exec s = (.ok resolved, t)) :
    Ready v classes store t ∧ s.Before t ∧ t.entered = s.entered ∧
      t.sets.get? id = some resolved := by
  obtain ⟨sets, hsets, rfl⟩ := Run.exec_setOf_ok.mp h
  rw [henv] at hsets
  exact ⟨⟨hs.store, (hs.known.setOf hsets).1⟩, .resolveSet hsets, rfl,
    (ConstraintSets.get?_resolve hsets).1⟩

-- ---------------------------------------------------------------------------
-- One check
-- ---------------------------------------------------------------------------

/-- Whether what checks lead on to does what there is to do: enters an object that has not been
entered, or applies checks at a site. -/
structure NestedPerforms (v : Validator) (env : Environment) (objects : List Object)
    (classes : List Class) (store : Store) (nested : Nested) : Prop where
  visit : ∀ o ∈ objects, ∀ s violations s', Ready v classes store s →
    s.entered.contains o = false → (nested.visit o).exec s = (.ok violations, s') →
    Ready v classes store s' ∧ ∃ evaluations entries, Walk env objects (ownTasks o)
      { s with entered := (s.entered.enter o).2 } violations s' evaluations entries
  apply : ∀ checks site, site.Within env objects classes →
    Performs v env objects classes store (nested.apply checks site) (applications checks site)

omit henv in
theorem test_performs (hcheck : check.isComposite = false) (site : Site) :
    Performs v env objects classes store (test env check site) [.evaluate check site] := by
  intro s violations s' hs hexec
  rw [test, Run.exec_bind_of_ok _ (Run.exec_get s)] at hexec
  obtain ⟨satisfied, t, hsatisfied, hexec⟩ := Run.exec_bind_ok.mp hexec
  obtain ⟨hresult, rfl⟩ := Run.exec_lift_ok.mp hsatisfied
  cases hexec
  have hkind : check.kind ≠ .assertValid := by
    rintro hkind
    simp [Check.isComposite, hkind, CheckKind.isComposite] at hcheck
  have href : check.isReference = false := by
    unfold Check.isReference
    split <;> simp_all [Check.isComposite, CheckKind.isComposite]
  refine ⟨hs, _, _, .single href (fun o ho => absurd ho.1 hkind) ?_ ?_⟩
  · cases satisfied <;>
      simp [tested, Violation.flattenAll, Violation.flatten_eq, Evaluation.report, Evaluation.fails,
        violation, hcheck, hresult]
  · cases satisfied <;>
      simp [tested, Violation.flattenAll, Violation.flatten_eq, violation, hcheck]

omit henv in
theorem cascade_performs {nested : Nested} (hn : NestedPerforms v env objects classes store nested)
    (hkind : check.kind = .assertValid) {site : Site} (hsite : site.Within env objects classes) :
    Performs v env objects classes store (cascade env nested check site) [.evaluate check site] := by
  have href : check.isReference = false := by simp [Check.isReference, hkind]
  have hreport (s : RunState) : (⟨check, site⟩ : Evaluation).report env s.store = [] :=
    Walk.report_composite (by simp [Check.isComposite, hkind, CheckKind.isComposite]) s.store
  intro s violations s' hs hexec
  unfold cascade at hexec
  cases hvalue : site.value with
  | object o =>
    have ho : o ∈ objects := Value.over_object.mp (hvalue ▸ hsite.value)
    simp only [hvalue] at hexec
    rw [Run.exec_bind_of_ok _ (Run.exec_isEntered o s)] at hexec
    cases hentered : s.entered.contains o with
    | true =>
      rw [hentered] at hexec
      cases hexec
      refine ⟨hs, _, _, .single href (fun target htarget => ?_) (hreport s).symm fun _ => rfl⟩
      have hsame := hvalue.symm.trans htarget.2
      injection hsame with hsame
      exact hsame ▸ ⟨ho, hentered⟩
    | false =>
      rw [hentered] at hexec
      obtain ⟨causes, t, hvisit, hexec⟩ := Run.exec_bind_ok.mp hexec
      cases hexec
      obtain ⟨hs', evaluations, entries, hwalk⟩ := hn.visit o ho s causes _ hs hentered hvisit
      exact ⟨hs', _, _, .cascade hkind hvalue ho hentered hwalk⟩
  | _ =>
    simp only [hvalue] at hexec
    cases hexec
    refine ⟨hs, _, _, .single href (fun target htarget => ?_) (hreport s).symm fun _ => rfl⟩
    rw [htarget.2] at hvalue
    cases hvalue

variable {nested : Nested} (hclasses : ClassesOf objects classes)
  (hn : NestedPerforms v env objects classes store nested)
include hclasses hn

theorem evaluate_performs (check : Check) {site : Site} (hsite : site.Within env objects classes) :
    Performs v env objects classes store (evaluate env nested check site) [.evaluate check site] := by
  cases hcheck : check.isComposite with
  | false =>
    rw [evaluate_eq_test env nested hcheck]
    exact test_performs hcheck site
  | true =>
    unfold evaluate
    cases hkind : check.kind with
    | assertValid => exact cascade_performs hn hkind hsite
    | assertConstraintSet id =>
      refine .expand (fun _ => True) _ (fun s resolved t hs hexec => ?_)
        fun found _ => hn.apply found.checks site hsite
      obtain ⟨ht, hbefore, hentered, hfound⟩ := hs.setOf henv hexec
      exact ⟨ht, hbefore, hentered, trivial, .set hkind hfound⟩
    | assertFieldConstraints field declaringClass =>
      cases hdeclared : (site.scope env).declared? field declaringClass with
      | none =>
        obtain ⟨name, he⟩ := referencedChecks_none hdeclared
        intro s violations s' hs hexec
        simp only [he] at hexec
        cases hexec
      | some declared =>
        obtain ⟨declaring, name⟩ := declared
        have hdeclaring := Scope.declared_mem hclasses hsite.scope hdeclared
        simp only [referencedChecks_some hdeclared, bind_assoc, pure_bind]
        refine .expand (fun _ => True) _ (fun s checks t hs hexec => ?_)
          fun checks _ => hn.apply (checks.of (.field name)) site hsite
        obtain ⟨ht, hbefore, hentered, -, hfound⟩ := hs.checksOf henv hdeclaring hexec
        exact ⟨ht, hbefore, hentered, trivial, .reference hkind hdeclared hfound⟩
    | _ => simp [Check.isComposite, CheckKind.isComposite, hkind] at hcheck

theorem applyCheck_performs (hfields : store.ClosedOver objects) (check : Check) {site : Site}
    (hsite : site.Within env objects classes) :
    Performs v env objects classes store (applyCheck env nested site check) [.apply check site] := by
  rw [applyCheck_eq, ← bind_assoc]
  refine .expand (fun sites => ∀ p ∈ sites, p.Within env objects classes) _ (fun s sites t hs hexec => ?_)
    fun sites hsites => .gather fun p hp => evaluate_performs henv hclasses hn check (hsites p hp)
  rw [Run.exec_bind_of_ok _ (Run.exec_get s), Run.exec_lift_ok] at hexec
  obtain ⟨hsites, rfl⟩ := hexec
  refine ⟨hs, .refl s, rfl, fun p hp => ?_, .apply hsites⟩
  rw [hs.store] at hsites
  exact hsite.follows (outlook_follows hfields hsite.value hsites p hp)

theorem applyAll_performs (hfields : store.ClosedOver objects) (checks : List Check) {site : Site}
    (hsite : site.Within env objects classes) :
    Performs v env objects classes store (applyAll env nested checks site)
      (applications checks site) :=
  .gather fun check _ => applyCheck_performs henv hclasses hn hfields check hsite

-- ---------------------------------------------------------------------------
-- Visits
-- ---------------------------------------------------------------------------

variable (graph : StillGraph v env.implementation objects classes store) {o : Object}
  (ho : o ∈ objects)
include graph ho

omit hclasses in
theorem visitFields_performs (c : Class) (checks : ClassChecks) :
    Performs v env objects classes store (visitFields env nested o c checks)
      (checks.constrainedFields.map (.field o c checks)) := by
  refine .gather fun field _ => .expand (·.Over objects) _ (fun s value t hs hexec => ?_)
    fun value hvalue => applyAll_performs henv graph.classesOf hn graph.fields _
      (.of_owner graph.classesOf ho hvalue _ _)
  obtain ⟨hget, rfl⟩ := Run.exec_read_ok.mp hexec
  have hover := graph.fields o ho field value (hs.store ▸ hget)
  exact ⟨hs, .refl s, rfl, hover, .field hget⟩

omit hclasses in
theorem visitInvariants_performs (checks : ClassChecks)
    (hcalls : ∀ method ∈ checks.invariants, v.Calls classes method) :
    Performs v env objects classes store (visitInvariants env nested o checks)
      (invariantTasks o checks) := by
  refine .gather fun method hmethod => .expand (·.Over objects) _ (fun s value t hs hexec => ?_)
    fun value hvalue => applyAll_performs henv graph.classesOf hn graph.fields _
      (.of_owner graph.classesOf ho hvalue _ _)
  obtain ⟨hinvoke, rfl⟩ := Run.exec_access_ok.mp hexec
  have hover := graph.getters o ho method (hcalls method hmethod) value (hs.store ▸ hinvoke)
  have hquiet : (o.invoke env.implementation method [] s.store).2 = s.store := by
    rw [hs.store]
    exact graph.quiet o ho method (hcalls method hmethod)
  rw [hquiet]
  exact ⟨hs, .refl s, rfl, hover, .invariant hinvoke⟩

omit hclasses in
theorem visitInterface_performs (hinterface : interface ∈ classes) :
    Performs v env objects classes store (visitInterface env nested o interface)
      [.interface o interface] := by
  refine .expand (fun checks => ∃ d ∈ classes, (v.checksOf d).1 = .ok checks) (invariantTasks o)
    (fun s checks t hs hexec => ?_) fun checks hchecks => ?_
  · obtain ⟨ht, hbefore, hentered, hknown, hfound⟩ := hs.checksOf henv hinterface hexec
    exact ⟨ht, hbefore, hentered, hknown, .interface hfound⟩
  · obtain ⟨d, hd, hchecks⟩ := hchecks
    exact visitInvariants_performs henv hn graph ho checks fun method hmethod =>
      ⟨d, hd, checks, hchecks, hmethod⟩

omit hclasses in
theorem visitLevel_performs (hc : c ∈ classes) :
    Performs v env objects classes store (visitLevel env nested o c) [.level o c] := by
  rw [visitLevel_eq]
  refine .expand (fun checks => ∃ d ∈ classes, (v.checksOf d).1 = .ok checks) (levelTasks o c)
    (fun s checks t hs hexec => ?_) fun checks hchecks => ?_
  · obtain ⟨ht, hbefore, hentered, hknown, hfound⟩ := hs.checksOf henv hc hexec
    exact ⟨ht, hbefore, hentered, hknown, .level hfound⟩
  · obtain ⟨d, hd, hchecks⟩ := hchecks
    have hfields := visitFields_performs henv hn graph ho c checks
    have hinvariants := visitInvariants_performs henv hn graph ho checks fun method hmethod =>
      ⟨d, hd, checks, hchecks, hmethod⟩
    have hinherited : Performs v env objects classes store
        (Run.gather (visitInterface env nested o) (inspected checks c))
        ((inspected checks c).map (.interface o)) := by
      refine .gather fun interface hinterface => ?_
      unfold inspected at hinterface
      split at hinterface
      · exact visitInterface_performs henv hn graph ho (graph.classesOf.interfaces c hc _ hinterface)
      · cases hinterface
    have hown := applyAll_performs henv graph.classesOf hn graph.fields (checks.of .object)
      (.of_owner graph.classesOf ho (Value.over_object.mpr ho) (.object c.name) (.object c.name))
    have hall := ((hfields.append hinvariants).append hinherited).append hown
    simp only [bind_assoc, pure_bind] at hall
    exact hall

omit hclasses in
theorem visit_performs (hs : Ready v classes store s)
    (hexec : (visit env nested o).exec s = (.ok violations, s')) :
    Ready v classes store s' ∧ ∃ evaluations entries, Walk env objects (ownTasks o)
      { s with entered := (s.entered.enter o).2 } violations s' evaluations entries := by
  have hlevels : Performs v env objects classes store
      (Run.gather (visitLevel env nested o) o.cls.hierarchy) (ownTasks o) :=
    .gather fun c hc => visitLevel_performs henv hn graph ho
      (graph.classesOf.levels _ (graph.classesOf.objects o ho) c hc)
  rw [visit, Run.exec_bind_of_ok _ (Run.exec_enter o s)] at hexec
  exact hlevels _ violations s' ⟨hs.store, hs.known.checks, hs.known.sets⟩ hexec

end

theorem ofDepth_performs (henv : env.configurers = v.configurers)
    (graph : StillGraph v env.implementation objects classes store) (depth : Nat) :
    NestedPerforms v env objects classes store (Nested.ofDepth env depth) := by
  induction depth with
  | zero =>
    constructor
    · intro o _ s violations s' _ _ hexec
      cases hexec
    · intro checks site _ s violations s' _ hexec
      cases hexec
  | succ depth ih =>
    exact ⟨fun o ho s violations s' hs _ hexec => visit_performs henv ih graph ho hs hexec,
      fun checks site hsite => applyAll_performs henv graph.classesOf ih graph.fields checks hsite⟩

-- ---------------------------------------------------------------------------
-- Reports
-- ---------------------------------------------------------------------------

theorem validate_ok {world : World}
    (h : v.validate world depth requested o store = (.ok violations, after, store')) :
    ∃ s', (visit (v.environment world requested none)
        (Nested.ofDepth (v.environment world requested none) depth) o).exec (v.start none store) =
          (.ok violations, s') ∧
      after = { v with compiled := s'.compiled, sets := s'.sets } := by
  have hrun : v.validate world depth requested o store = v.conclude o.text
    ((visit (v.environment world requested none)
      (Nested.ofDepth (v.environment world requested none) depth) o).exec (v.start none store)) := rfl
  rw [hrun] at h
  generalize (visit _ _ o).exec _ = x at h
  obtain ⟨r, s'⟩ := x
  simp only [Validator.conclude, Prod.mk.injEq, Run.mapError_ok] at h
  obtain ⟨rfl, rfl, rfl⟩ := h
  exact ⟨s', rfl, rfl⟩

/-- What holds the objects that its evaluations cascade into holds all that is reached from one of
its objects. -/
theorem Reached.mem {s : RunState} {visited : List Visited}
    (hown : ∀ e ∈ visited, Evaluations env s (ownTasks e.object) e.evaluations)
    (hroot : o ∈ visited.map (·.object))
    (hclosed : ∀ e ∈ visited, ∀ evaluation ∈ e.evaluations, ∀ target,
      evaluation.CascadesInto target → target ∈ visited.map (·.object))
    (h : Reached env s o p) : p ∈ visited.map (·.object) := by
  induction h with
  | root => exact hroot
  | cascade _ hevaluations hmem htarget ih =>
    obtain ⟨e, he, rfl⟩ := List.mem_map.mp ih
    have hsame := hevaluations.unique (hown e he)
    exact hclosed e he _ (hsame ▸ hmem) _ htarget

/-- A visit of an object before anything else is entered visits the objects that are reached from
it, each once. -/
theorem Walk.visits_reached {s : RunState}
    (hapart : ∀ o ∈ objects, ∀ p ∈ objects, o.id = p.id → o = p) (ho : o ∈ objects) (hs : s.entered = {})
    (h : Walk env objects (ownTasks o) { s with entered := (s.entered.enter o).2 } violations s'
      evaluations entries) (later : Entered) :
    let visited := ⟨o, evaluations⟩ :: entries
    (visited.map (·.object)).Nodup ∧
      (∀ p, p ∈ visited.map (·.object) ↔ Reached env { s' with entered := later } o p) ∧
      ∀ e ∈ visited, Evaluations env { s' with entered := later } (ownTasks e.object) e.evaluations := by
  intro visited
  have hempty (p : Object) : s.entered.contains p = false := by
    rw [hs]
    rfl
  -- The visit is a cascade into its object, from nowhere.
  let site : Site := ⟨none, .object o, .any, .object o.cls.name⟩
  have hcascade : Walk env objects [.evaluate { kind := .assertValid } site] s
      (Walk.pass env { kind := .assertValid } site violations) s' [⟨{ kind := .assertValid }, site⟩]
      visited := .cascade rfl rfl ho (hempty o) h
  have hown : ∀ e ∈ visited,
      Evaluations env { s' with entered := later } (ownTasks e.object) e.evaluations :=
    fun e he => (hcascade.own e he).withEntered later
  have hclosed : ∀ e ∈ visited, ∀ evaluation ∈ e.evaluations, ∀ target,
      evaluation.CascadesInto target → target ∈ visited.map (·.object) := by
    intro e he evaluation hmem target htarget
    have hall : evaluation ∈ allEvaluations [⟨{ kind := .assertValid }, site⟩] visited :=
      List.mem_append_right _ (List.mem_flatMap.mpr ⟨e, he, hmem⟩)
    obtain ⟨hknown, hentered⟩ := hcascade.targets evaluation hall target htarget
    obtain hstart | hid := (hcascade.entered target).mp hentered
    · rw [hempty target] at hstart
      cases hstart
    · obtain ⟨other, hother, hid⟩ := List.mem_map.mp hid
      rw [← hapart _ (hcascade.known other hother) target hknown hid]
      exact List.mem_map_of_mem hother
  refine ⟨?_, fun p => ⟨fun hp => ?_, fun hp => hp.mem hown List.mem_cons_self hclosed⟩, hown⟩
  · refine List.Nodup.of_map (·.id) ?_
    rw [List.map_map]
    exact hcascade.apart
  · obtain ⟨e, he, rfl⟩ := List.mem_map.mp hp
    refine hcascade.reached (Reached env { s' with entered := later } o)
      (fun root hroot target htarget => ?_)
      (fun other hother hp evaluation hmem target htarget =>
        .cascade hp (hown other hother) hmem htarget) e he
    rw [List.mem_singleton.mp hroot] at htarget
    cases htarget.2
    exact .root

theorem reports_eq_nil {s : RunState} {visited : List Visited}
    (hreached : ∀ p, p ∈ visited.map (·.object) ↔ Reached env s o p)
    (hown : ∀ e ∈ visited, Evaluations env s (ownTasks e.object) e.evaluations) :
    (visited.flatMap (·.evaluations)).flatMap (·.report env store) = [] ↔
      ∀ p evaluations, Reached env s o p → Evaluations env s (ownTasks p) evaluations →
        ∀ e ∈ evaluations, e.fails env store = false := by
  simp only [List.flatMap_eq_nil_iff, Evaluation.report, List.mem_flatMap, forall_exists_index, and_imp]
  constructor
  · intro hnone p evaluations hp hevaluations evaluation hmem
    obtain ⟨e, he, rfl⟩ := List.mem_map.mp ((hreached p).mpr hp)
    rw [hevaluations.unique (hown e he)] at hmem
    simpa using hnone evaluation e he hmem
  · intro hnone evaluation e he hmem
    have hp := (hreached e.object).mp (List.mem_map_of_mem he)
    simp [hnone e.object e.evaluations hp (hown e he) evaluation hmem]

/-- A validation of an object that completes visits the objects that are reached from it, each once,
and reports the failures of their evaluations and no others. In particular it reports nothing if and
only if no evaluation of an object that is reached fails. -/
theorem validate_reports_reached {world : World}
    (graph : StillGraph v world.implementation objects classes store) (ho : o ∈ objects)
    (h : v.validate world depth requested o store = (.ok violations, after, store')) :
    let env := v.environment world requested none
    let s := after.start none store
    ∃ visited : List Visited, (visited.map (·.object)).Nodup ∧
      (∀ p, p ∈ visited.map (·.object) ↔ Reached env s o p) ∧
      (∀ e ∈ visited, Evaluations env s (ownTasks e.object) e.evaluations) ∧
      (tested violations).Perm ((visited.flatMap (·.evaluations)).flatMap (·.report env store)) ∧
      (violations = [] ↔ ∀ p evaluations, Reached env s o p →
        Evaluations env s (ownTasks p) evaluations → ∀ e ∈ evaluations, e.fails env store = false) := by
  intro env s
  obtain ⟨s', hexec, rfl⟩ := validate_ok h
  obtain ⟨hs', evaluations, entries, hwalk⟩ := visit_performs rfl (ofDepth_performs rfl graph depth)
    graph ho ⟨rfl, .start v classes none store⟩ hexec
  have hstore : s'.store = store := hs'.store
  have hs : s = { s' with entered := {} } := by
    subst hstore
    rfl
  obtain ⟨hnodup, hreached, hown⟩ := hwalk.visits_reached graph.apart ho rfl {}
  rw [← hs] at hreached hown
  have hreported : (tested violations).Perm
      (((⟨o, evaluations⟩ :: entries : List Visited).flatMap (·.evaluations)).flatMap
        (·.report env store)) := hwalk.reported
  refine ⟨_, hnodup, hreached, hown, hreported, ?_⟩
  rw [← reports_eq_nil hreached hown]
  constructor
  · rintro rfl
    exact hreported.symm.eq_nil
  · intro hnone
    rw [hnone] at hreported
    exact hwalk.silent hreported.eq_nil

theorem ring_still (implementation : Implementation) :
    StillGraph ringValidator implementation ringObjects [node] ring where
  apart o ho p hp hid := by
    simp only [ringObjects, List.mem_cons, List.not_mem_nil, or_false] at ho hp
    rcases ho with rfl | rfl <;> rcases hp with rfl | rfl <;> simp_all
  classesOf := ring_classesOf
  fields := ring_closed
  getters _ _ method hcalls := absurd hcalls (ring_calls method)
  quiet _ _ method hcalls := absurd hcalls (ring_calls method)

theorem ring_reports :
    ((ringValidator.validate stillWorld 2 none ⟨0, node⟩ ring).1.map fun violations =>
      (tested violations).map (·.object.map (·.id))).toOption = some [some 1, some 0] := by
  decide

theorem validate_reports_reached_ring :
    let env := ringValidator.environment stillWorld none none
    let o : Object := ⟨0, node⟩
    let outcome := ringValidator.validate stillWorld 2 none o ring
    StillGraph ringValidator stillWorld.implementation ringObjects [node] ring ∧ o ∈ ringObjects ∧
      ∃ violations, outcome.1 = .ok violations ∧
        (tested violations).map (·.object.map (·.id)) = [some 1, some 0] ∧
        ∃ visited : List Visited,
          (∀ p, p ∈ visited.map (·.object) ↔ Reached env (outcome.2.1.start none ring) o p) ∧
          (tested violations).Perm ((visited.flatMap (·.evaluations)).flatMap (·.report env ring)) := by
  intro env o outcome
  have hrun := ring_reports
  have ho : o ∈ ringObjects := List.mem_cons_self
  refine ⟨ring_still _, ho, ?_⟩
  cases hresult : outcome.1 with
  | error e =>
    rw [hresult] at hrun
    cases hrun
  | ok violations =>
    rw [hresult] at hrun
    injection hrun with hrun
    obtain ⟨visited, -, hreached, -, hreported, -⟩ :=
      validate_reports_reached (ring_still stillWorld.implementation) ho (Prod.ext hresult rfl)
    exact ⟨violations, rfl, hrun, visited, hreached, hreported⟩

end ObjectConstraints
