import ObjectConstraints.Proofs.InterfaceWalk
import ObjectConstraints.Proofs.Setters
import ObjectConstraints.Proofs.Visits

/-!
# Invariants of interfaces

How often a visit of an object evaluates the invariants of an interface: once for each level of the
object's class that inspects interfaces and reaches this one, along however many paths, and once more if
the interface is a level itself (`evaluationsAt_interface`). What is reported at a getter of the interface
is what these evaluations report, one after the other (`Validator.Reachable.interface_reports`). So an
interface that two inspecting levels reach is evaluated twice.
-/

namespace ObjectConstraints

open Traversal

-- ---------------------------------------------------------------------------
-- Evaluated classes
-- ---------------------------------------------------------------------------

section

variable (compiled : CompiledChecks)

/-- The interfaces that are inspected at a level. -/
def inspectedAt (c : Class) : List Class := (compiled.checks? c).elim [] (inspected · c)

/-- The classes whose invariants a visit of an object evaluates, each as often as it does. -/
def evaluatedClasses (o : Object) : List Class := o.cls.hierarchy.flatMap fun c => c :: inspectedAt compiled c

/-- Whether a getter of a class is noted as an invariant. -/
def notes (c : Class) (getter : String) : Bool := (compiled.checks? c).any (·.invariants.contains getter)

/-- How often a visit of an object evaluates a getter as an invariant of classes of a name. -/
def evaluationsAt (o : Object) (name getter : String) : Nat :=
  (evaluatedClasses compiled o).countP fun c => c.name == name && notes compiled c getter

end

/-- Whether a class has its name for itself among those whose invariants a visit evaluates. -/
def Class.NamedApart (compiled : CompiledChecks) (o : Object) (c : Class) : Prop :=
  ∀ d ∈ evaluatedClasses compiled o, d.id = c.id ↔ d.name = c.name

/-- Whether checks belong together and are those of a class of that name. -/
def ClassChecks.KeptFor (name : String) (checks : ClassChecks) : Prop :=
  checks.Consistent ∧ checks.cls.name = name

theorem lasting_keptFor : Lasting (fun _ => True) ClassChecks.KeptFor where
  compiled c _ configurers checks h := ⟨ClassChecks.compile_consistent h, by rw [ClassChecks.compile_cls h]⟩
  performed operation name checks h :=
    ⟨Operation.perform_consistent h.1 operation, (congrArg Class.name (operation.perform_cls checks)).trans h.2⟩

-- ---------------------------------------------------------------------------
-- Counting
-- ---------------------------------------------------------------------------

theorem countP_flatMap_of_one {α β : Type} {f : α → List β} {p : β → Bool} {q : α → Bool} {l : List α}
    (h : ∀ a ∈ l, (f a).countP p = if q a then 1 else 0) : (l.flatMap f).countP p = l.countP q := by
  induction l with
  | nil => rfl
  | cons a rest ih =>
    rw [List.flatMap_cons, List.countP_append, h a List.mem_cons_self,
      ih fun b hb => h b (List.mem_cons_of_mem _ hb), List.countP_cons, Nat.add_comm]

theorem countP_id_of_nodup {l : List Class} (h : (l.map (·.id)).Nodup) (id : Nat) :
    l.countP (·.id == id) = if l.any (·.id == id) then 1 else 0 := by
  have hcount : l.countP (·.id == id) = (l.map (·.id)).count id := by
    rw [List.count, List.countP_map]
    rfl
  rw [hcount, h.count]
  congr 1
  simp

section

variable {compiled : CompiledChecks} (hkept : compiled.Each ClassChecks.KeptFor) {o : Object}
include hkept

theorem checks?_kept (h : compiled.checks? c = some checks) : ClassChecks.KeptFor c.name checks :=
  hkept _ _ (Option.join_eq_some_iff.mp h)

/-- The checks of a class evaluate each of its invariants once. -/
theorem invariantSteps_at (c : Class) (name getter : String) :
    ((compiled.checks? c).elim [] invariantSteps).countP (·.place? == some (.result name getter)) =
      if c.name == name && notes compiled c getter then 1 else 0 := by
  unfold notes
  cases hchecks : compiled.checks? c with
  | none => simp
  | some checks =>
    obtain ⟨hconsistent, hname⟩ := checks?_kept hkept hchecks
    have hnodup : checks.invariants.Nodup := (hconsistent.apart false).2
    rw [Option.elim_some, Option.any_some, invariantSteps, List.countP_map]
    have hplace : ((fun step : VisitStep => step.place? == some (.result name getter)) ∘
        VisitStep.invariant checks) = fun other => c.name == name && other == getter := by
      funext other
      simp [VisitStep.place?, hname, Bool.beq_eq_decide_eq]
    rw [hplace]
    cases hsame : c.name == name with
    | false => simp
    | true =>
      have hcount : checks.invariants.countP (· == getter) = checks.invariants.count getter := rfl
      simp only [Bool.true_and, hcount, hnodup.count, List.contains_iff_mem]

/-- What is done for an interface evaluates each of its invariants once. -/
theorem interfaceSteps_at (interface : Class) (name getter : String) :
    (interfaceSteps compiled interface).countP (·.place? == some (.result name getter)) =
      if interface.name == name && notes compiled interface getter then 1 else 0 := by
  rw [interfaceSteps, List.countP_cons, invariantSteps_at hkept]
  rfl

theorem levelSteps_at (c : Class) (name getter : String) :
    (levelSteps compiled c).countP (·.place? == some (.result name getter)) =
      (c :: inspectedAt compiled c).countP fun d => d.name == name && notes compiled d getter := by
  have hinvariants := invariantSteps_at hkept c name getter
  unfold levelSteps inspectedAt
  rw [List.countP_cons, List.countP_cons, ← hinvariants]
  cases hchecks : compiled.checks? c with
  | none => simp [VisitStep.place?]
  | some checks =>
    have hfields : (checks.constrainedFields.map (VisitStep.field c checks)).countP
        (·.place? == some (.result name getter)) = 0 := by
      simp [List.countP_eq_zero, VisitStep.place?]
    have hinherited := countP_flatMap_of_one (l := inspected checks c)
      fun interface _ => interfaceSteps_at hkept interface name getter
    simp only [Option.elim_some, List.countP_append, hfields, hinherited]
    simp [VisitStep.place?, Nat.add_comm]

theorem visitSteps_at (o : Object) (name getter : String) :
    (visitSteps compiled o).countP (·.place? == some (.result name getter)) =
      evaluationsAt compiled o name getter := by
  unfold visitSteps evaluationsAt evaluatedClasses
  rw [List.countP_flatMap, List.countP_flatMap]
  congr 2
  funext c
  exact levelSteps_at hkept c name getter

/-- An evaluation of an invariant of classes of a name uses the checks that are known under the name. -/
theorem invariantSteps_result {step : VisitStep}
    (h : step ∈ (compiled.checks? c).elim [] invariantSteps)
    (hplace : step.place? = some (.result name getter)) :
    ∃ checks, compiled.get? name = some (some checks) ∧ getter ∈ checks.invariants ∧
      step = .invariant checks getter := by
  cases hchecks : compiled.checks? c with
  | none => simp [hchecks] at h
  | some checks =>
    rw [hchecks, Option.elim_some] at h
    obtain ⟨other, hother, rfl⟩ := List.mem_map.mp h
    cases hplace
    refine ⟨checks, ?_, hother, rfl⟩
    rw [(checks?_kept hkept hchecks).2]
    exact Option.join_eq_some_iff.mp hchecks

/-- A step of a visit that reports at a getter of classes of a name evaluates the getter with the checks
that are known under the name. -/
theorem visitSteps_result {step : VisitStep} (h : step ∈ visitSteps compiled o)
    (hplace : step.place? = some (.result name getter)) :
    ∃ checks, compiled.get? name = some (some checks) ∧ getter ∈ checks.invariants ∧
      step = .invariant checks getter := by
  obtain ⟨c, -, hstep⟩ := List.mem_flatMap.mp h
  rcases List.mem_cons.mp hstep with rfl | hstep
  · cases hplace
  · cases hchecks : compiled.checks? c with
    | none => simp [hchecks] at hstep
    | some checks =>
      rw [hchecks, Option.elim_some] at hstep
      simp only [List.mem_append, List.mem_singleton] at hstep
      rcases hstep with ((hfield | hstep) | hinherited) | rfl
      · obtain ⟨_, -, rfl⟩ := List.mem_map.mp hfield
        cases hplace
      · exact invariantSteps_result hkept (by rwa [hchecks]) hplace
      · obtain ⟨interface, -, hstep⟩ := List.mem_flatMap.mp hinherited
        rcases List.mem_cons.mp hstep with rfl | hstep
        · cases hplace
        · exact invariantSteps_result hkept hstep hplace
      · cases hplace

end

theorem inspectedAt_nodup (compiled : CompiledChecks) (c : Class) :
    ((inspectedAt compiled c).map (·.id)).Nodup := by
  unfold inspectedAt
  cases compiled.checks? c with
  | none => exact List.nodup_nil
  | some checks =>
    rw [Option.elim_some, inspected]
    split
    · exact c.allInterfaces_nodup
    · exact List.nodup_nil

theorem evaluatedClasses_count (compiled : CompiledChecks) (o : Object) (id : Nat) :
    (evaluatedClasses compiled o).countP (·.id == id) = o.cls.hierarchy.countP (·.id == id) +
      o.cls.hierarchy.countP fun level => (inspectedAt compiled level).any (·.id == id) := by
  unfold evaluatedClasses
  induction o.cls.hierarchy with
  | nil => rfl
  | cons c rest ih =>
    rw [List.flatMap_cons, List.countP_append, List.countP_cons,
      countP_id_of_nodup (inspectedAt_nodup compiled c), ih, List.countP_cons, List.countP_cons]
    omega

/-- The invariants of an interface that has its name for itself are evaluated once for each level that
inspects interfaces and reaches this one, and once more for a level that is the interface itself. -/
theorem evaluationsAt_interface {compiled : CompiledChecks} {o : Object} {interface : Class}
    (hnamed : interface.NamedApart compiled o) (getter : String) :
    evaluationsAt compiled o interface.name getter =
      if notes compiled interface getter then
        o.cls.hierarchy.countP (·.id == interface.id) +
          o.cls.hierarchy.countP fun level => (inspectedAt compiled level).any (·.id == interface.id)
      else 0 := by
  have hsame (d : Class) (hname : d.name = interface.name) :
      notes compiled d getter = notes compiled interface getter := by
    rw [notes, notes, CompiledChecks.checks?, CompiledChecks.checks?, hname]
  have hcongr : evaluationsAt compiled o interface.name getter =
      (evaluatedClasses compiled o).countP fun d => d.id == interface.id && notes compiled interface getter := by
    refine List.countP_congr fun d hd => ?_
    simp only [Bool.and_eq_true, beq_iff_eq, hnamed d hd]
    exact and_congr_right fun hname => by rw [hsame d hname]
  rw [hcongr, ← evaluatedClasses_count]
  cases notes compiled interface getter <;> simp

-- ---------------------------------------------------------------------------
-- Validations
-- ---------------------------------------------------------------------------

/-- Whether a report on an object is what the steps of a visit of it report, one after the other, which
lead from one state to another, and tells at a getter of classes of a name what those of the steps report
that evaluate the getter. -/
def TellsOf (env : Environment) (nested : Nested) (known : CompiledChecks) (o : Object) (s s' : RunState)
    (name getter : String) (report : List Violation) : Prop :=
  ∃ parts, Performed env nested o ((Run.enter o).exec s).2 (visitSteps known o) parts s' ∧
    report = parts.flatten ∧
    report.filter (·.context.root == .result name getter) =
      (partsAt (.result name getter) (visitSteps known o) parts).flatten ∧
    (partsAt (.result name getter) (visitSteps known o) parts).length = evaluationsAt known o name getter

/-- What a visit reports at a getter, its evaluations of the getter report. -/
theorem visit_tellsOf {env : Environment} {depth : Nat} {o : Object} {final : RunState}
    (hvisit : (visit env (Nested.ofDepth env depth) o).exec s = (.ok report, s')) (hlater : s'.Before final)
    (hkept : final.compiled.Each ClassChecks.KeptFor) (name getter : String) :
    TellsOf env (Nested.ofDepth env depth) final.compiled o s s' name getter report := by
  have hfinal : ((visit env (Nested.ofDepth env depth) o).exec s).2.Before final := by rwa [hvisit]
  have hsteps := visit_follows ((progress env).ofDepth depth) o s hfinal
  rw [hvisit, Run.exec_bind_of_ok _ (Run.exec_enter o s)] at hsteps
  obtain ⟨parts, hparts, rfl⟩ := Performed.of_gather hsteps
  refine ⟨parts, hparts, rfl, hparts.reported_at (ofDepth_stands env depth) _, ?_⟩
  exact (hparts.length_partsAt _).trans (visitSteps_at hkept o name getter)

/-- A visit of an object, whether it completes or not, evaluates a getter as an invariant once for each
class of a name that it comes to, with the checks that are known under the name: for an interface with a
name of its own these are the levels that inspect interfaces and reach it. What a validation reports at
the getter, for the object or for one that it cascades into, is what these evaluations report in a visit
of that object, one after the other, and each object is in the report once. -/
theorem Validator.Reachable.interface_reports {v : Validator} (hv : v.Reachable) (world : World)
    (requested : Option (List String)) :
    let env := v.environment world requested none
    (∀ depth o owner store s, (v.start owner store).Leads v.configurers s →
      let nested := Nested.ofDepth env depth
      let visited := (visit env nested o).exec s
      let known := visited.2.compiled
      (do
        Run.enter o
        Run.gather (VisitStep.run env nested o) (visitSteps known o)).exec s = visited ∧
      ∀ name getter,
        (visitSteps known o).countP (·.place? == some (.result name getter)) =
          evaluationsAt known o name getter ∧
        (∀ step ∈ visitSteps known o, step.place? = some (.result name getter) →
          ∃ checks, known.get? name = some (some checks) ∧ getter ∈ checks.invariants ∧
            step = .invariant checks getter) ∧
        ∀ report, visited.1 = .ok report →
          TellsOf env nested known o s visited.2 name getter report) ∧
    (∀ depth o store violations after store',
      v.validate world depth requested o store = (.ok violations, after, store') →
      ((Violation.reports o violations).map (·.1.id)).Nodup ∧ ∃ final : RunState,
        final.compiled = after.compiled ∧
        (visit env (Nested.ofDepth env depth) o).exec (v.start none store) = (.ok violations, final) ∧
        ∀ entry ∈ Violation.reports o violations, ∃ depth s s', (v.start none store).Before s ∧
          (visit env (Nested.ofDepth env depth) entry.1).exec s = (.ok entry.2, s') ∧ s'.Before final ∧
          ∀ name getter,
            TellsOf env (Nested.ofDepth env depth) after.compiled entry.1 s s' name getter entry.2) ∧
    ∀ compiled o (interface : Class) getter, interface.NamedApart compiled o →
      evaluationsAt compiled o interface.name getter =
        if notes compiled interface getter then
          o.cls.hierarchy.countP (·.id == interface.id) +
            o.cls.hierarchy.countP fun level => (inspectedAt compiled level).any (·.id == interface.id)
        else 0 := by
  intro env
  have hkept : v.compiled.Each ClassChecks.KeptFor := hv.each lasting_keptFor
  refine ⟨?_, ?_, fun compiled o interface getter hnamed => evaluationsAt_interface hnamed getter⟩
  · intro depth o owner store s hs nested visited known
    have hnests := (progress env).ofDepth depth
    have hleads := hs.trans ((RunLogic.visit hnests (o := o) trivial).leads s)
    have hknown : known.Each ClassChecks.KeptFor := hleads.each lasting_keptFor hkept
    refine ⟨visit_follows hnests o s (.refl _), fun name getter => ⟨visitSteps_at hknown o name getter,
      fun step hstep hplace => visitSteps_result hknown hstep hplace, fun report hreport => ?_⟩⟩
    exact visit_tellsOf (Prod.ext hreport rfl) (.refl _) hknown name getter
  · intro depth o store violations after store' h
    obtain ⟨hapart, final, hfinal, hvisit, hreports⟩ := validate_reports h
    have hafter : final.compiled.Each ClassChecks.KeptFor := by
      have hanswer : v.answer world depth store (.object requested o) = (.ok violations, after, store') := h
      have heach := Event.answer_each lasting_keptFor hkept world depth store (.object requested o)
      rwa [hanswer, ← hfinal] at heach
    refine ⟨hapart, final, hfinal, hvisit, fun entry hentry => ?_⟩
    obtain ⟨depth, s, s', hbefore, hreported, hlater⟩ := hreports entry hentry
    refine ⟨depth, s, s', hbefore, hreported, hlater, fun name getter => ?_⟩
    exact hfinal ▸ visit_tellsOf hreported hlater hafter name getter

-- ---------------------------------------------------------------------------
-- Items
-- ---------------------------------------------------------------------------

/-- An interface with a label. -/
def namedInterface : Class where
  id := 0
  name := "Named"
  superclass := none
  interfaces := []
  isInterface := true
  fields := []
  methods := [⟨"label", [], some .string, false, true⟩]
  constructors := []

/-- Two interfaces that extend it. -/
def taggedInterface : Class := { namedInterface with id := 1, name := "Tagged", interfaces := [namedInterface] }

def auditedInterface : Class := { namedInterface with id := 2, name := "Audited", interfaces := [namedInterface] }

/-- A class that implements both. -/
def itemClass : Class :=
  { namedInterface with
    id := 3
    name := "Item"
    interfaces := [taggedInterface, auditedInterface]
    isInterface := false
    methods := [⟨"label", [], some .string, false, false⟩] }

/-- A class that inherits from it and implements the first interface again. -/
def noticeClass : Class :=
  { itemClass with id := 4, name := "Notice", superclass := some itemClass, interfaces := [namedInterface] }

/-- Labels have to be there, and interfaces are inspected at both classes. -/
def itemValidator : Validator :=
  Event.run [.addChecks namedInterface (.result "label" 0) true [{ kind := .notNull }],
    .setFlags itemClass { inspectInterfaces := some true },
    .setFlags noticeClass { inspectInterfaces := some true }] {}

/-- Methods that answer nothing. -/
def silentWorld : World := ⟨fun _ _ _ _ store => (.ok .null, store), ⟨0, 0⟩⟩

theorem item_reachable : itemValidator.Reachable := ⟨_, {}, rfl, rfl⟩

theorem item_reported :
    let outcome := itemValidator.validate silentWorld 0 none ⟨0, itemClass⟩ {}
    let known := outcome.2.1.compiled
    (outcome.1.toOption.map fun violations => violations.map (·.context)) = some [.result "Named" "label"] ∧
      (∀ c ∈ evaluatedClasses known ⟨0, itemClass⟩, c.id = 0 ↔ c.name = "Named") ∧
      notes known namedInterface "label" = true ∧
      itemClass.hierarchy.countP (·.id == 0) = 0 ∧
      (itemClass.hierarchy.countP fun level => (inspectedAt known level).any (·.id == 0)) = 1 := by
  decide +kernel

/-- Two paths lead from an item to the label, which is evaluated once. -/
theorem interface_reports_item :
    let o : Object := ⟨0, itemClass⟩
    let outcome := itemValidator.validate silentWorld 0 none o {}
    let known := outcome.2.1.compiled
    let env := itemValidator.environment silentWorld none none
    itemValidator.Reachable ∧ namedInterface.NamedApart known o ∧
      evaluationsAt known o "Named" "label" = 1 ∧
      ∃ violations final, outcome.1 = .ok violations ∧
        violations.map (·.context) = [.result "Named" "label"] ∧
        (visit env (Nested.ofDepth env 0) o).exec (itemValidator.start none {}) = (.ok violations, final) ∧
        TellsOf env (Nested.ofDepth env 0) known o (itemValidator.start none {}) final "Named" "label"
          violations := by
  intro o outcome known env
  obtain ⟨hcontexts, hnamed, hnoted, hlevels, hinspecting⟩ := item_reported
  obtain ⟨violations, hviolations, hcontexts⟩ := Run.toOption_map_eq_some.mp hcontexts
  obtain ⟨hvisits, hreports, hcount⟩ := Validator.Reachable.interface_reports item_reachable silentWorld none
  have hevaluations : evaluationsAt known o "Named" "label" = 1 := by
    have hsum := hcount known o namedInterface "label" hnamed
    rw [if_pos hnoted] at hsum
    exact hsum.trans (congrArg₂ (· + ·) hlevels hinspecting)
  obtain ⟨-, final, hfinal, hvisit, -⟩ :=
    hreports 0 o {} violations outcome.2.1 outcome.2.2 (Prod.ext hviolations rfl)
  refine ⟨item_reachable, hnamed, hevaluations, violations, final, hviolations, hcontexts, hvisit, ?_⟩
  obtain ⟨-, hsteps⟩ := hvisits 0 o none {} (itemValidator.start none {}) (.refl _)
  have htells := (hsteps "Named" "label").2.2 violations (congrArg Prod.fst hvisit)
  have hvisited : ((visit env (Nested.ofDepth env 0) o).exec (itemValidator.start none {})).2 = final :=
    congrArg Prod.snd hvisit
  have hknown : final.compiled = known := hfinal
  rwa [hvisited, hknown] at htells

/-- The label of a notice is evaluated at both levels of its class, as both inspect interfaces, so that one
check of it is reported twice. -/
theorem interface_reports_notice :
    let outcome := itemValidator.validate silentWorld 0 none ⟨0, noticeClass⟩ {}
    ((itemValidator.checksOf namedInterface).1.toOption.map fun checks =>
        (checks.of (.result "label" 0)).length) = some 1 ∧
      (outcome.1.toOption.map fun violations => violations.map fun w => (w.object.map (·.id), w.context)) =
        some [(some 0, .result "Named" "label"), (some 0, .result "Named" "label")] ∧
      evaluationsAt outcome.2.1.compiled ⟨0, noticeClass⟩ "Named" "label" = 2 := by
  decide +kernel

end ObjectConstraints
