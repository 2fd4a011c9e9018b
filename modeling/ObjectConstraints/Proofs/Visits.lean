import ObjectConstraints.Proofs.Placement
import ObjectConstraints.Proofs.Provenance
import ObjectConstraints.Proofs.ReportShape

/-!
# Visits of objects

A visit of an object is a sequence of steps that the class of the object and the checks determine
(`visit_follows`): lookups of checks, evaluations of a field, of an invariant, and of the object itself.
Each step reports at a place of its own (`VisitStep.run_stands`). What a report nests below an object is
what a visit of that object has reported (`visit_discloses`).
-/

namespace ObjectConstraints

open Traversal

-- ---------------------------------------------------------------------------
-- Steps
-- ---------------------------------------------------------------------------

/-- The checks that are known for a class. -/
def CompiledChecks.checks? (compiled : CompiledChecks) (c : Class) : Option ClassChecks :=
  (compiled.get? c.name).join

/-- A step of a visit: to look up the checks of a class, or to apply the checks of a member. -/
inductive VisitStep where
  | look (c : Class)
  | field (c : Class) (checks : ClassChecks) (name : String)
  | invariant (checks : ClassChecks) (getter : String)
  | own (c : Class) (checks : ClassChecks)

namespace VisitStep

def run (env : Environment) (nested : Nested) (o : Object) : VisitStep → Run (List Violation)
  | .look c => do
    let _ ← Run.checksOf env c
    pure []
  | .field c checks name => do
    let value ← Run.read (o.get name)
    applyAll env nested (checks.of (.field name)) ⟨some o, value, fieldKind c name, .field c.name name⟩
  | .invariant checks getter => do
    let value ← Run.access (o.invoke env.implementation getter [])
    applyAll env nested (checks.of (.result getter 0))
      ⟨some o, value, resultKind checks.cls getter 0, .result checks.cls.name getter⟩
  | .own c checks =>
    applyAll env nested (checks.of .object) ⟨some o, .object o, .object c.name, .object c.name⟩

/-- Where a step reports, if it reports anything. -/
def place? : VisitStep → Option Context
  | .look _ => none
  | .field c _ name => some (.field c.name name)
  | .invariant checks getter => some (.result checks.cls.name getter)
  | .own c _ => some (.object c.name)

end VisitStep

/-- The evaluations of the invariants of a class. -/
def invariantSteps (checks : ClassChecks) : List VisitStep := checks.invariants.map (.invariant checks)

section

variable (compiled : CompiledChecks)

/-- What is done for an interface that is inspected. -/
def interfaceSteps (interface : Class) : List VisitStep :=
  .look interface :: (compiled.checks? interface).elim [] invariantSteps

/-- What is done at a level: nothing more than a lookup, where there are no checks. -/
def levelSteps (c : Class) : List VisitStep :=
  .look c :: (compiled.checks? c).elim [] fun checks =>
    checks.constrainedFields.map (.field c checks) ++ invariantSteps checks ++
      (inspected checks c).flatMap (interfaceSteps compiled) ++ [.own c checks]

/-- What a visit of an object does. -/
def visitSteps (o : Object) : List VisitStep := o.cls.hierarchy.flatMap (levelSteps compiled)

end

-- ---------------------------------------------------------------------------
-- Runs of steps
-- ---------------------------------------------------------------------------

/-- Whether a run does the steps that the checks known at any later time determine, however it ends. -/
structure Follows (env : Environment) (nested : Nested) (o : Object) (m : Run (List Violation))
    (steps : CompiledChecks → List VisitStep) : Prop where
  progresses : Progresses env (fun _ => True) m
  same : ∀ (s final : RunState), (m.exec s).2.Before final →
    (Run.gather (VisitStep.run env nested o) (steps final.compiled)).exec s = m.exec s

namespace Follows

variable {env : Environment} {nested : Nested} {o : Object} {m m' : Run (List Violation)}

theorem nil : Follows env nested o (pure []) fun _ => [] :=
  ⟨(progress env).pure trivial, fun _ _ _ => rfl⟩

theorem single {step : VisitStep} (h : Progresses env (fun _ => True) (step.run env nested o)) :
    Follows env nested o (step.run env nested o) fun _ => [step] :=
  ⟨h, fun _ _ _ => by rw [Run.gather_singleton]⟩

theorem append {first second : CompiledChecks → List VisitStep} (h : Follows env nested o m first)
    (h' : Follows env nested o m' second) :
    Follows env nested o (do
      let front ← m
      let back ← m'
      pure (front ++ back)) fun compiled => first compiled ++ second compiled where
  progresses := h.progresses.bind fun _ _ => h'.progresses.bind fun _ _ => (progress env).pure trivial
  same s final hfinal := by
    rw [Run.gather_append, Run.exec_bind, Run.exec_bind]
    rw [Run.exec_bind] at hfinal
    have hfirst := h.same s final
    rcases hm : m.exec s with ⟨e | front, t⟩ <;> rw [hm] at hfirst hfinal
    · rw [hfirst hfinal]
    · -- All that is known after the first part is known at the end.
      dsimp only at hfinal
      have hback : (m'.exec t).2.Before final := by
        rw [Run.exec_bind] at hfinal
        rcases hm' : m'.exec t with ⟨e | back, t'⟩ <;> rw [hm'] at hfinal <;> exact hfinal
      rw [hfirst ((h'.progresses.leads t).before.trans hback)]
      dsimp only
      rw [Run.exec_bind, Run.exec_bind, h'.same t final hback]

theorem each {α : Type} {step : α → VisitStep} {l : List α}
    (h : ∀ a, Progresses env (fun _ => True) ((step a).run env nested o)) :
    Follows env nested o (Run.gather (fun a => (step a).run env nested o) l) fun _ => l.map step where
  progresses := RunLogic.gather (L := progress env) fun a _ => h a
  same _ _ _ := by rw [Run.gather_map]

theorem gather {α : Type} {step : α → Run (List Violation)} {steps : α → CompiledChecks → List VisitStep}
    (h : ∀ a, Follows env nested o (step a) (steps a)) (l : List α) :
    Follows env nested o (Run.gather step l) fun compiled => l.flatMap (steps · compiled) := by
  induction l with
  | nil => exact nil
  | cons a rest ih =>
    simp only [List.flatMap_cons]
    exact (h a).append ih

/-- What is done with the checks of a class follows the lookup of the checks. -/
theorem look {f : ClassChecks → Run (List Violation)}
    {steps : ClassChecks → CompiledChecks → List VisitStep} (c : Class)
    (hf : ∀ checks, Follows env nested o (f checks) (steps checks)) :
    Follows env nested o (Run.checksOf env c >>= f) fun compiled =>
      .look c :: (compiled.checks? c).elim [] (steps · compiled) where
  progresses := (Progresses.checksOf c).bind fun checks _ => (hf checks).progresses
  same s final hfinal := by
    simp only [Run.gather, VisitStep.run, bind_assoc, pure_bind, List.nil_append, bind_pure]
    rw [Run.exec_bind, Run.exec_bind]
    rw [Run.exec_bind] at hfinal
    rcases hc : (Run.checksOf env c).exec s with ⟨e | checks, t⟩
    · rfl
    · rw [hc] at hfinal
      have hknown : final.compiled.checks? c = some checks := by
        obtain ⟨hchecks, rfl⟩ := Run.exec_checksOf_ok.mp hc
        have hbefore := ((hf checks).progresses.leads _).before.trans hfinal
        exact Option.join_eq_some_iff.mpr
          (hbefore.compiled _ _ (CompiledChecks.get?_resolve_self hchecks))
      rw [hknown]
      exact (hf checks).same t final hfinal

end Follows

section

variable {env : Environment} {nested : Nested} (hn : (progress env).Nests nested) (o : Object)
include hn

theorem applyAll_progresses (checks : List Check) (site : Site) :
    Progresses env (fun _ => True) (applyAll env nested checks site) :=
  RunLogic.applyAll hn checks ⟨trivial, fun _ _ => trivial⟩

theorem VisitStep.run_progresses (step : VisitStep) :
    Progresses env (fun _ => True) (step.run env nested o) := by
  cases step with
  | look c => exact (Progresses.checksOf c).bind fun _ _ => (progress env).pure trivial
  | field c checks name =>
    exact (Progresses.read fun _ => trivial).bind (P := fun _ => True) fun _ _ => applyAll_progresses hn _ _
  | invariant checks getter =>
    exact (Progresses.access fun _ => trivial).bind (P := fun _ => True) fun _ _ =>
      applyAll_progresses hn _ _
  | own c checks => exact applyAll_progresses hn _ _

theorem visitInvariants_follows (checks : ClassChecks) :
    Follows env nested o (visitInvariants env nested o checks) fun _ => invariantSteps checks :=
  .each fun getter => VisitStep.run_progresses hn o (.invariant checks getter)

theorem visitLevel_follows (c : Class) :
    Follows env nested o (visitLevel env nested o c) (levelSteps · c) := by
  rw [visitLevel_eq]
  refine .look c fun checks => ?_
  have hfields : Follows env nested o (visitFields env nested o c checks) fun _ =>
      checks.constrainedFields.map (.field c checks) :=
    .each fun name => VisitStep.run_progresses hn o (.field c checks name)
  have hinherited : Follows env nested o (Run.gather (visitInterface env nested o) (inspected checks c))
      fun compiled => (inspected checks c).flatMap (interfaceSteps compiled) :=
    .gather (fun interface => .look interface fun found => visitInvariants_follows hn o found) _
  have hown : Follows env nested o (applyAll env nested (checks.of .object)
      ⟨some o, .object o, .object c.name, .object c.name⟩) fun _ => [.own c checks] :=
    .single (VisitStep.run_progresses hn o (.own c checks))
  have hall := ((hfields.append (visitInvariants_follows hn o checks)).append hinherited).append hown
  simp only [bind_assoc, pure_bind] at hall
  exact hall

/-- A visit enters the object and does the steps that the checks known afterwards determine, in order,
up to the first one that fails. -/
theorem visit_follows (s : RunState) {final : RunState}
    (hfinal : ((visit env nested o).exec s).2.Before final) :
    (do
      Run.enter o
      Run.gather (VisitStep.run env nested o) (visitSteps final.compiled o)).exec s =
      (visit env nested o).exec s := by
  rw [visit, Run.exec_bind_of_ok _ (Run.exec_enter o s)] at hfinal ⊢
  rw [Run.exec_bind_of_ok _ (Run.exec_enter o s)]
  exact (Follows.gather (fun c => visitLevel_follows hn o c) o.cls.hierarchy).same _ final hfinal

end

-- ---------------------------------------------------------------------------
-- Reports of steps
-- ---------------------------------------------------------------------------

/-- Whether steps, one after the other, report parts and lead from one state to another. -/
inductive Performed (env : Environment) (nested : Nested) (o : Object) :
    RunState → List VisitStep → List (List Violation) → RunState → Prop
  | nil (s) : Performed env nested o s [] [] s
  | cons {step steps part parts s t s'} : (step.run env nested o).exec s = (.ok part, t) →
      Performed env nested o t steps parts s' → Performed env nested o s (step :: steps) (part :: parts) s'

/-- The parts that steps report whose place is the given one. -/
def partsAt (place : Context) (steps : List VisitStep) (parts : List (List Violation)) :
    List (List Violation) :=
  ((steps.zip parts).filter (·.1.place? == some place)).map (·.2)

/-- A step reports at its place. -/
theorem VisitStep.run_stands {env : Environment} {nested : Nested} {o : Object}
    (hn : ∀ checks site, Reporting (Violation.StandsAt site.context.root) (nested.apply checks site))
    (step : VisitStep) :
    Reporting (fun w => step.place? = some w.context.root) (step.run env nested o) := by
  cases step with
  | look c => exact .after fun _ => .pure_nil
  | field c checks name =>
    exact .after fun _ => (applyAll_stands hn _ _).mono fun _ hw => congrArg some hw.symm
  | invariant checks getter =>
    exact .after fun _ => (applyAll_stands hn _ _).mono fun _ hw => congrArg some hw.symm
  | own c checks => exact (applyAll_stands hn _ _).mono fun _ hw => congrArg some hw.symm

namespace Performed

variable {env : Environment} {nested : Nested} {o : Object} {steps : List VisitStep}
  {parts : List (List Violation)}

/-- What a sequence of steps reports is what its steps report. -/
theorem of_gather (h : (Run.gather (VisitStep.run env nested o) steps).exec s = (.ok report, s')) :
    ∃ parts, Performed env nested o s steps parts s' ∧ report = parts.flatten := by
  induction steps generalizing s report with
  | nil =>
    cases h
    exact ⟨[], .nil _, rfl⟩
  | cons step rest ih =>
    obtain ⟨part, t, back, hpart, hback, rfl⟩ := Run.exec_append_ok h
    obtain ⟨parts, hparts, rfl⟩ := ih hback
    exact ⟨part :: parts, .cons hpart hparts, rfl⟩

/-- The parts of a place are as many as the steps that report there. -/
theorem length_partsAt (h : Performed env nested o s steps parts s') (place : Context) :
    (partsAt place steps parts).length = steps.countP (·.place? == some place) := by
  induction h with
  | nil => rfl
  | cons _ _ ih =>
    rw [List.countP_cons, ← ih]
    simp only [partsAt, List.zip_cons_cons, List.filter_cons]
    split <;> simp

/-- What steps report at a place is what those among them report whose place it is, one after the other. -/
theorem reported_at (h : Performed env nested o s steps parts s')
    (hn : ∀ checks site, Reporting (Violation.StandsAt site.context.root) (nested.apply checks site))
    (place : Context) :
    parts.flatten.filter (·.context.root == place) = (partsAt place steps parts).flatten := by
  induction h with
  | nil => rfl
  | @cons step _ part _ before after _ hpart _ ih =>
    have hstands := step.run_stands hn before part after hpart
    rw [List.flatten_cons, List.filter_append, ih]
    simp only [partsAt, List.zip_cons_cons, List.filter_cons]
    by_cases hstep : step.place? = some place
    · have hall : part.filter (·.context.root == place) = part := List.filter_eq_self.mpr fun w hw =>
        beq_iff_eq.mpr (Option.some.inj ((hstands w hw).symm.trans hstep))
      simp [hall, hstep]
    · have hnone : part.filter (·.context.root == place) = [] := List.filter_eq_nil_iff.mpr fun w hw heq =>
        hstep (by rw [hstands w hw, beq_iff_eq.mp heq])
      simp [hnone, hstep]

end Performed

-- ---------------------------------------------------------------------------
-- Nested reports
-- ---------------------------------------------------------------------------

/-- Whether a visit of an object between two states of a run has reported violations. -/
def HasReported (env : Environment) (start final : RunState) (o : Object) (report : List Violation) :
    Prop :=
  ∃ depth s s', start.Before s ∧ (visit env (Nested.ofDepth env depth) o).exec s = (.ok report, s') ∧
    s'.Before final

theorem HasReported.within {env : Environment} (h : HasReported env start final o report)
    (hstart : s.Before start) (hfinal : final.Before s') : HasReported env s s' o report := by
  obtain ⟨depth, t, t', hbefore, hvisit, hafter⟩ := h
  exact ⟨depth, t, t', hstart.trans hbefore, hvisit, hafter.trans hfinal⟩

/-- Whether what a run reports below objects is what visits of these objects have reported. -/
structure Discloses (env : Environment) (m : Run (List Violation)) : Prop where
  progresses : Progresses env (fun _ => True) m
  visited : ∀ s report s', m.exec s = (.ok report, s') → ∀ w ∈ Violation.flattenAll report, ∀ target,
    w.target? = some target → HasReported env s s' target w.causes

namespace Discloses

variable {env : Environment} {m m' : Run (List Violation)}

theorem nil : Discloses env (pure []) := by
  refine ⟨(progress env).pure trivial, fun s report s' hexec w hw => ?_⟩
  cases hexec
  simp at hw

theorem stop (stop : Stop) : Discloses env (throw stop) :=
  ⟨⟨fun s => .refl s, fun _ _ _ => trivial⟩, fun s report s' hexec => by cases hexec⟩

theorem bind {α : Type} {P : α → Prop} {m : Run α} {f : α → Run (List Violation)}
    (hm : Progresses env P m) (hf : ∀ a, P a → Discloses env (f a)) : Discloses env (m >>= f) := by
  refine ⟨hm.bind fun a ha => (hf a ha).progresses, fun s report s' hexec => ?_⟩
  obtain ⟨a, t, hstep, hexec⟩ := Run.exec_bind_ok.mp hexec
  have hlater := (hm.leads s).before
  rw [hstep] at hlater
  intro w hw target htarget
  have hreported := (hf a (hm.result s a (congrArg Prod.fst hstep))).visited t report s' hexec
  exact (hreported w hw target htarget).within hlater (.refl s')

theorem append (h : Discloses env m) (h' : Discloses env m') :
    Discloses env (do
      let front ← m
      let back ← m'
      pure (front ++ back)) := by
  refine ⟨h.progresses.bind fun _ _ => h'.progresses.bind fun _ _ => (progress env).pure trivial, ?_⟩
  intro s report s'' hexec w hw target htarget
  obtain ⟨front, s', back, hfront, hback, rfl⟩ := Run.exec_append_ok hexec
  rw [Violation.flattenAll_append] at hw
  rcases List.mem_append.mp hw with hw | hw
  · have hlater := (h'.progresses.leads s').before
    rw [hback] at hlater
    exact (h.visited s front s' hfront w hw target htarget).within (.refl s) hlater
  · have hlater := (h.progresses.leads s).before
    rw [hfront] at hlater
    exact (h'.visited s' back s'' hback w hw target htarget).within hlater (.refl s'')

theorem gather {α : Type} {step : α → Run (List Violation)} {l : List α}
    (h : ∀ a ∈ l, Discloses env (step a)) : Discloses env (Run.gather step l) :=
  Run.gather_induction nil (fun _ _ => append) h

end Discloses

/-- What checks lead to discloses what has been visited, and is a visit where it leads into an object. -/
structure NestedDiscloses (env : Environment) (nested : Nested) : Prop where
  visit : ∀ o, Discloses env (nested.visit o)
  reported : ∀ o s report s', (nested.visit o).exec s = (.ok report, s') → HasReported env s s' o report
  apply : ∀ checks site, Discloses env (nested.apply checks site)

section

variable {env : Environment} {nested : Nested} {check : Check}

theorem test_discloses (hcheck : check.isComposite = false) (site : Site) :
    Discloses env (test env check site) := by
  refine ⟨(progress env).test check ⟨trivial, fun _ _ => trivial⟩, ?_⟩
  intro s report s' hexec w hw target htarget
  rw [test, Run.exec_bind_of_ok _ (Run.exec_get s)] at hexec
  obtain ⟨satisfied, t, -, hexec⟩ := Run.exec_bind_ok.mp hexec
  cases hexec
  cases satisfied with
  | true => simp at hw
  | false =>
    rw [if_neg Bool.false_ne_true, Violation.flattenAll_singleton] at hw
    obtain rfl : w = violation env check site [] := by simpa [violation] using hw
    have hcascade : check.isCascade = false := by
      refine Bool.eq_false_iff.mpr fun h => ?_
      simp [Check.isComposite, Check.isCascade_iff.mp h, CheckKind.isComposite] at hcheck
    simp [Violation.target?, violation, hcascade] at htarget

variable (hn : NestedDiscloses env nested)
include hn

theorem cascade_discloses (hkind : check.kind = .assertValid) (site : Site) :
    Discloses env (cascade env nested check site) := by
  unfold cascade
  cases hvalue : site.value with
  | object target =>
    refine .bind (P := fun _ => True) ((progress env).isEntered trivial) fun entered _ => ?_
    cases entered with
    | true => exact .nil
    | false =>
      refine ⟨(hn.visit target).progresses.bind fun _ _ => (progress env).pure trivial, ?_⟩
      intro s report s' hexec w hw other hother
      obtain ⟨causes, t, hvisit, hexec⟩ := Run.exec_bind_ok.mp hexec
      cases hexec
      cases causes with
      | nil => simp at hw
      | cons cause rest =>
        rw [List.isEmpty_cons, if_neg Bool.false_ne_true, Violation.flattenAll_singleton] at hw
        rcases List.mem_cons.mp hw with rfl | hw
        · obtain rfl : target = other := by
            simpa [Violation.target?, violation, Check.isCascade_iff.mpr hkind, hvalue, Value.object?]
              using hother
          exact hn.reported target s _ _ hvisit
        · exact (hn.visit target).visited s _ _ hvisit w hw other hother
  | _ => exact .nil

theorem evaluate_discloses (check : Check) (site : Site) :
    Discloses env (evaluate env nested check site) := by
  cases hcheck : check.isComposite with
  | false =>
    rw [evaluate_eq_test env nested hcheck]
    exact test_discloses hcheck site
  | true =>
    unfold evaluate
    cases hkind : check.kind with
    | assertValid => exact cascade_discloses hn hkind site
    | assertConstraintSet id => exact .bind (.setOf id) fun found _ => hn.apply found.checks site
    | assertFieldConstraints field declaringClass =>
      have hsite : Realm.all.Site env site := ⟨trivial, fun _ _ => trivial⟩
      have hprogresses := RunLogic.referencedChecks (L := progress env) hsite field declaringClass
      exact .bind hprogresses fun checks _ => hn.apply checks site
    | _ => simp [Check.isComposite, CheckKind.isComposite, hkind] at hcheck

theorem applyAll_discloses (checks : List Check) (site : Site) :
    Discloses env (applyAll env nested checks site) := by
  refine .gather fun check _ => ?_
  rw [applyCheck_eq, ← bind_assoc]
  refine .bind ((progress env).outlook check ⟨trivial, fun _ _ => trivial⟩) fun sites _ => ?_
  exact .gather fun p _ => evaluate_discloses hn check p

theorem VisitStep.run_discloses (o : Object) (step : VisitStep) :
    Discloses env (step.run env nested o) := by
  cases step with
  | look c => exact .bind (.checksOf c) fun _ _ => .nil
  | field c checks name =>
    exact .bind (P := fun _ => True) (.read fun _ => trivial) fun _ _ => applyAll_discloses hn _ _
  | invariant checks getter =>
    exact .bind (P := fun _ => True) (.access fun _ => trivial) fun _ _ => applyAll_discloses hn _ _
  | own c checks => exact applyAll_discloses hn _ _

omit hn in
theorem visit_discloses (depth : Nat) (h : NestedDiscloses env (Nested.ofDepth env depth)) (o : Object) :
    Discloses env (visit env (Nested.ofDepth env depth) o) := by
  have hnests := (progress env).ofDepth depth
  refine ⟨RunLogic.visit hnests trivial, fun s report s' hexec => ?_⟩
  have hsteps := visit_follows hnests o s (.refl _)
  rw [hexec, Run.exec_bind_of_ok _ (Run.exec_enter o s)] at hsteps
  intro w hw target htarget
  have hreported := (Discloses.gather fun step _ => step.run_discloses h o).visited _ report s' hsteps
  exact (hreported w hw target htarget).within (.enter s o) (.refl s')

end

theorem ofDepth_discloses (env : Environment) (depth : Nat) :
    NestedDiscloses env (Nested.ofDepth env depth) := by
  induction depth with
  | zero =>
    refine ⟨fun _ => .stop _, fun o s report s' hexec => ?_, fun _ _ => .stop _⟩
    cases hexec
  | succ depth ih =>
    exact ⟨visit_discloses depth ih, fun o s report s' hexec => ⟨depth, s, s', .refl s, hexec, .refl s'⟩,
      applyAll_discloses ih⟩

-- ---------------------------------------------------------------------------
-- Validations
-- ---------------------------------------------------------------------------

/-- The objects that a report on an object is about, each with what is reported for it. -/
def Violation.reports (o : Object) (violations : List Violation) : List (Object × List Violation) :=
  (o, violations) :: (flattenAll violations).filterMap fun w => w.target?.map (·, w.causes)

theorem Violation.reports_objects (o : Object) (violations : List Violation) :
    (reports o violations).map (·.1) = o :: targets violations := by
  simp only [reports, targets, List.map_cons, List.map_filterMap, Option.map_map, Function.comp_def,
    Option.map_id_fun', id_eq]

/-- A report that a validation gives is about each object once, and tells of each what a visit of it has
reported. -/
theorem validate_reports {v : Validator} {world : World}
    (h : v.validate world depth requested o store = (.ok violations, after, store')) :
    let env := v.environment world requested none
    ((Violation.reports o violations).map (·.1.id)).Nodup ∧ ∃ final : RunState,
      final.compiled = after.compiled ∧
      (visit env (Nested.ofDepth env depth) o).exec (v.start none store) = (.ok violations, final) ∧
      ∀ entry ∈ Violation.reports o violations,
        HasReported env (v.start none store) final entry.1 entry.2 := by
  intro env
  have hanswer : v.answer world depth store (.object requested o) = (.ok violations, after, store') := h
  obtain ⟨-, hapart, hsubject⟩ := answer_shaped hanswer
  obtain ⟨s', hvisit, rfl⟩ := validate_ok h
  refine ⟨?_, s', rfl, hvisit, fun entry hentry => ?_⟩
  · have hobjects := congrArg (List.map (·.id)) (Violation.reports_objects o violations)
    rw [List.map_map] at hobjects
    rw [show (fun entry : Object × List Violation => entry.1.id) = (·.id) ∘ (·.1) from rfl, hobjects,
      List.map_cons, List.nodup_cons]
    exact ⟨hsubject o rfl, hapart⟩
  · rcases List.mem_cons.mp hentry with rfl | hentry
    · exact ⟨depth, _, s', .refl _, hvisit, .refl s'⟩
    · obtain ⟨w, hw, hnested⟩ := List.mem_filterMap.mp hentry
      obtain ⟨target, htarget, rfl⟩ := Option.map_eq_some_iff.mp hnested
      exact (visit_discloses depth (ofDepth_discloses _ depth) o).visited _ _ s' hvisit w hw target htarget

end ObjectConstraints
