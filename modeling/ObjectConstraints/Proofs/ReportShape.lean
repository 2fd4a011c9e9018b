import ObjectConstraints.Proofs.KnownClasses

/-!
# The shape of reports

What every report looks like, whatever was asked for and whatever getters do (`answer_shaped`):
checks that refer to others report nothing themselves, only checks that cascade nest violations, those
of the object they cascaded into, and no object is cascaded into twice. A stretch of a run reports
for one owner, and passes violations on from objects that it entered itself (`Reported`).
-/

namespace ObjectConstraints

open Traversal

-- ---------------------------------------------------------------------------
-- Targets of cascades
-- ---------------------------------------------------------------------------

/-- Whether a check validates the object it looks at. -/
def Check.isCascade (check : Check) : Bool :=
  match check.kind with
  | .assertValid => true
  | _ => false

theorem Check.isCascade_iff {check : Check} : check.isCascade = true ↔ check.kind = .assertValid := by
  unfold isCascade
  split <;> simp_all

namespace Violation

/-- The object whose violations a violation passes on. -/
def target? (violation : Violation) : Option Object :=
  if violation.check.isCascade then violation.value.object? else none

/-- The objects whose violations are passed on, at any depth. -/
def targets (violations : List Violation) : List Object :=
  (flattenAll violations).filterMap target?

/-- What is true of each violation of a report, nested or not. -/
structure Shaped (violation : Violation) : Prop where
  direct : violation.check.isReference = false
  causes : violation.causes ≠ [] ↔ violation.check.kind = .assertValid
  nested : violation.check.kind = .assertValid →
    ∃ t, violation.value = .object t ∧ ∀ cause ∈ violation.causes, cause.object = some t

@[simp] theorem flattenAll_nil : flattenAll [] = [] := by simp [flattenAll]

theorem flattenAll_singleton (violation : Violation) :
    flattenAll [violation] = violation :: flattenAll violation.causes := by
  simp [flattenAll, flatten_eq]

@[simp] theorem targets_nil : targets [] = [] := by simp [targets]

theorem targets_append (first second : List Violation) :
    targets (first ++ second) = targets first ++ targets second := by
  simp [targets, flattenAll_append]

end Violation

-- ---------------------------------------------------------------------------
-- Stretches of runs
-- ---------------------------------------------------------------------------

/-- What is known of the violations that a stretch of a run reports. -/
structure Reported (owner : Option Object) (s s' : RunState) (violations : List Violation) : Prop where
  owned : ∀ w ∈ violations, w.object = owner
  shaped : ∀ w ∈ Violation.flattenAll violations, w.Shaped
  apart : ((Violation.targets violations).map (·.id)).Nodup
  fresh : ∀ o ∈ Violation.targets violations, s.entered.contains o = false
  entered : ∀ o ∈ Violation.targets violations, s'.entered.contains o = true
  kept : ∀ o, s.entered.contains o = true → s'.entered.contains o = true

/-- Whether a run that completes reports violations of the right shape. -/
def Reports (owner : Option Object) (m : Run (List Violation)) : Prop :=
  ∀ s violations s', m.exec s = (.ok violations, s') → Reported owner s s' violations

theorem Entered.contains_eq_of_id {entered : Entered} {o p : Object} (h : o.id = p.id) :
    entered.contains o = entered.contains p := by
  simp [contains, h]

namespace Reported

variable {owner : Option Object}

theorem nil (s : RunState) : Reported owner s s [] where
  owned w hw := by cases hw
  shaped w hw := by simp at hw
  apart := by simp
  fresh o ho := by simp at ho
  entered o ho := by simp at ho
  kept _ h := h

theorem append (h : Reported owner s s' first) (h' : Reported owner s' s'' second) :
    Reported owner s s'' (first ++ second) where
  owned w hw := (List.mem_append.mp hw).elim (h.owned w) (h'.owned w)
  shaped w hw := by
    rw [Violation.flattenAll_append] at hw
    exact (List.mem_append.mp hw).elim (h.shaped w) (h'.shaped w)
  apart := by
    rw [Violation.targets_append, List.map_append, List.nodup_append]
    refine ⟨h.apart, h'.apart, ?_⟩
    -- What the first part entered is not new to the second one.
    rintro id hid _ hid' rfl
    obtain ⟨o, ho, rfl⟩ := List.mem_map.mp hid
    obtain ⟨p, hp, hsame⟩ := List.mem_map.mp hid'
    have hfresh := h'.fresh p hp
    rw [Entered.contains_eq_of_id hsame, h.entered o ho] at hfresh
    cases hfresh
  fresh o ho := by
    rw [Violation.targets_append] at ho
    rcases List.mem_append.mp ho with ho | ho
    · exact h.fresh o ho
    · have hfresh := h'.fresh o ho
      cases hs : s.entered.contains o with
      | false => rfl
      | true => simp [h.kept o hs] at hfresh
  entered o ho := by
    rw [Violation.targets_append] at ho
    rcases List.mem_append.mp ho with ho | ho
    · exact h'.kept o (h.entered o ho)
    · exact h'.entered o ho
  kept o ho := h'.kept o (h.kept o ho)

theorem tested {env : Environment} (hcheck : check.isComposite = false) (site : Site) (s : RunState) :
    Reported site.owner s s [violation env check site []] := by
  have hkind : check.kind ≠ .assertValid := by
    rintro hkind
    simp [Check.isComposite, hkind, CheckKind.isComposite] at hcheck
  have htargets : Violation.targets [violation env check site []] = [] := by
    have hcascade : check.isCascade = false := Bool.eq_false_iff.mpr (mt Check.isCascade_iff.mp hkind)
    simp [Violation.targets, Violation.flattenAll_singleton, Violation.target?, violation, hcascade]
  have hreference : check.isReference = false := by
    unfold Check.isReference
    split <;> simp_all [Check.isComposite, CheckKind.isComposite]
  refine ⟨fun w hw => ?_, fun w hw => ?_, ?_, ?_, ?_, fun _ h => h⟩
  · cases List.mem_singleton.mp hw
    rfl
  · rw [Violation.flattenAll_singleton] at hw
    simp only [violation, Violation.flattenAll_nil, List.mem_singleton] at hw
    subst hw
    exact ⟨hreference, by simpa using hkind, fun h => absurd h hkind⟩
  all_goals simp [htargets]

/-- The violation of a check that passes violations on from an object that had not been entered. -/
theorem cascaded {env : Environment} {target : Object} (hkind : check.kind = .assertValid)
    (hsite : site.value = .object target) (hfresh : s.entered.contains target = false)
    (hne : causes ≠ [])
    (h : Reported (some target) { s with entered := (s.entered.enter target).2 } s' causes) :
    Reported site.owner s s' [violation env check site causes] := by
  have hentered : (s.entered.enter target).2.contains target = true := by
    simp [Entered.contains_enter]
  have hkept (o : Object) (ho : s.entered.contains o = true) :
      (s.entered.enter target).2.contains o = true := by
    simp [Entered.contains_enter, ho]
  have htargets : Violation.targets [violation env check site causes] =
      target :: Violation.targets causes := by
    simp [Violation.targets, Violation.flattenAll_singleton, Violation.target?, violation,
      Check.isCascade_iff.mpr hkind, hsite, Value.object?]
  refine ⟨fun w hw => ?_, fun w hw => ?_, ?_, fun o ho => ?_, fun o ho => ?_, fun o ho =>
    h.kept o (hkept o ho)⟩
  · cases List.mem_singleton.mp hw
    rfl
  · rw [Violation.flattenAll_singleton] at hw
    rcases List.mem_cons.mp hw with rfl | hw
    · exact ⟨by simp [violation, Check.isReference, hkind], by simp [violation, hkind, hne],
        fun _ => ⟨target, hsite, h.owned⟩⟩
    · exact h.shaped w hw
  · rw [htargets, List.map_cons, List.nodup_cons]
    refine ⟨fun hid => ?_, h.apart⟩
    obtain ⟨o, ho, hsame⟩ := List.mem_map.mp hid
    have hnew := h.fresh o ho
    rw [Entered.contains_eq_of_id hsame, hentered] at hnew
    cases hnew
  · rw [htargets] at ho
    rcases List.mem_cons.mp ho with rfl | ho
    · exact hfresh
    · cases hs : s.entered.contains o with
      | false => rfl
      | true => simpa [hkept o hs] using h.fresh o ho
  · rw [htargets] at ho
    rcases List.mem_cons.mp ho with rfl | ho
    · exact h.kept _ hentered
    · exact h.entered o ho

end Reported

namespace Reports

variable {owner : Option Object}

theorem pure_nil : Reports owner (pure []) := by
  intro s violations s' hexec
  cases hexec
  exact .nil s

theorem append (h : Reports owner m) (h' : Reports owner m') :
    Reports owner (do
      let front ← m
      let back ← m'
      pure (front ++ back)) := by
  intro s violations s'' hexec
  obtain ⟨front, s', back, hfront, hback, rfl⟩ := Run.exec_append_ok hexec
  exact (h _ _ _ hfront).append (h' _ _ _ hback)

theorem gather {α : Type} {step : α → Run (List Violation)} {l : List α}
    (h : ∀ a ∈ l, Reports owner (step a)) : Reports owner (Run.gather step l) :=
  Run.gather_induction pure_nil (fun _ _ => append) h

/-- A step that enters nothing may come first. -/
theorem bind {α : Type} {m : Run α} {f : α → Run (List Violation)} {P : α → Prop}
    (hm : ∀ s a t, m.exec s = (.ok a, t) → t.entered = s.entered ∧ P a)
    (hf : ∀ a, P a → Reports owner (f a)) : Reports owner (m >>= f) := by
  intro s violations s' hexec
  obtain ⟨a, t, hstep, hexec⟩ := Run.exec_bind_ok.mp hexec
  obtain ⟨hentered, ha⟩ := hm s a t hstep
  have h := hf a ha t violations s' hexec
  exact ⟨h.owned, h.shaped, h.apart, hentered ▸ h.fresh, h.entered, hentered ▸ h.kept⟩

theorem read {α : Type} {access : Store → Except AccessError α} {f : α → Run (List Violation)}
    (hf : ∀ a, Reports owner (f a)) : Reports owner (Run.read access >>= f) := by
  refine bind (P := fun _ => True) (fun s a t h => ?_) fun a _ => hf a
  obtain ⟨-, rfl⟩ := Run.exec_read_ok.mp h
  exact ⟨rfl, trivial⟩

theorem access {α : Type} {action : Store → Except AccessError α × Store}
    {f : α → Run (List Violation)} (hf : ∀ a, Reports owner (f a)) :
    Reports owner (Run.access action >>= f) := by
  refine bind (P := fun _ => True) (fun s a t h => ?_) fun a _ => hf a
  obtain ⟨-, rfl⟩ := Run.exec_access_ok.mp h
  exact ⟨rfl, trivial⟩

theorem checksOf {env : Environment} {f : ClassChecks → Run (List Violation)}
    (hf : ∀ checks, Reports owner (f checks)) : Reports owner (Run.checksOf env c >>= f) := by
  refine bind (P := fun _ => True) (fun s checks t h => ?_) fun checks _ => hf checks
  obtain ⟨-, rfl⟩ := Run.exec_checksOf_ok.mp h
  exact ⟨rfl, trivial⟩

theorem setOf {env : Environment} {id : String} {f : ConstraintSet → Run (List Violation)}
    (hf : ∀ found, Reports owner (f found)) : Reports owner (Run.setOf env id >>= f) := by
  refine bind (P := fun _ => True) (fun s found t h => ?_) fun found _ => hf found
  obtain ⟨sets, -, rfl⟩ := Run.exec_setOf_ok.mp h
  exact ⟨rfl, trivial⟩

end Reports

-- ---------------------------------------------------------------------------
-- Checks
-- ---------------------------------------------------------------------------

/-- What checks lead to reports violations of the right shape: those of an object from when it has
been entered, those of a list of checks for the owner of the site. -/
structure NestedReports (nested : Nested) : Prop where
  visit : ∀ o s violations s', (nested.visit o).exec s = (.ok violations, s') →
    Reported (some o) { s with entered := (s.entered.enter o).2 } s' violations
  apply : ∀ checks site, Reports site.owner (nested.apply checks site)

section

variable {env : Environment} {nested : Nested} (hn : NestedReports nested)

theorem test_reports (hcheck : check.isComposite = false) (site : Site) :
    Reports site.owner (test env check site) := by
  intro s violations s' hexec
  rw [test, Run.exec_bind_of_ok _ (Run.exec_get s)] at hexec
  obtain ⟨satisfied, t, hsatisfied, hexec⟩ := Run.exec_bind_ok.mp hexec
  obtain ⟨-, rfl⟩ := Run.exec_lift_ok.mp hsatisfied
  cases hexec
  cases satisfied with
  | true => exact .nil s
  | false => exact .tested hcheck site s

include hn

theorem cascade_reports (hkind : check.kind = .assertValid) (site : Site) :
    Reports site.owner (cascade env nested check site) := by
  unfold cascade
  cases hvalue : site.value with
  | object target =>
    intro s violations s' hexec
    simp only [Run.exec_bind_of_ok _ (Run.exec_isEntered target s)] at hexec
    cases hentered : s.entered.contains target with
    | true =>
      rw [hentered] at hexec
      cases hexec
      exact .nil s
    | false =>
      rw [hentered] at hexec
      obtain ⟨causes, t, hvisit, hexec⟩ := Run.exec_bind_ok.mp hexec
      cases hexec
      have hcauses := hn.visit target s causes _ hvisit
      cases causes with
      | nil =>
        refine ⟨fun w hw => by simp at hw, by simp, by simp, by simp, by simp, fun o ho => ?_⟩
        exact hcauses.kept o (by simp [Entered.contains_enter, ho])
      | cons cause rest => exact .cascaded hkind hvalue hentered (by simp) hcauses
  | _ => exact Reports.pure_nil

theorem evaluate_reports (check : Check) (site : Site) :
    Reports site.owner (evaluate env nested check site) := by
  cases hcheck : check.isComposite with
  | false =>
    rw [evaluate_eq_test env nested hcheck]
    exact test_reports hcheck site
  | true =>
    unfold evaluate
    cases hkind : check.kind with
    | assertValid => exact cascade_reports hn hkind site
    | assertConstraintSet id => exact Reports.setOf fun found => hn.apply found.checks site
    | assertFieldConstraints field declaringClass =>
      cases hdeclared : (site.scope env).declared? field declaringClass with
      | none =>
        obtain ⟨name, he⟩ := referencedChecks_none hdeclared
        intro s violations s' hexec
        simp only [he] at hexec
        cases hexec
      | some declared =>
        obtain ⟨declaring, name⟩ := declared
        simp only [referencedChecks_some hdeclared, bind_assoc, pure_bind]
        exact Reports.checksOf fun checks => hn.apply (checks.of (.field name)) site
    | _ => simp [Check.isComposite, CheckKind.isComposite, hkind] at hcheck

theorem applyCheck_reports (check : Check) (site : Site) :
    Reports site.owner (applyCheck env nested site check) := by
  rw [applyCheck_eq, ← bind_assoc]
  refine Reports.bind (P := fun sites => ∀ p ∈ sites, p.owner = site.owner) (fun s sites t h => ?_)
    fun sites hsites => Reports.gather fun p hp => hsites p hp ▸ evaluate_reports hn check p
  rw [Run.exec_bind_of_ok _ (Run.exec_get s), Run.exec_lift_ok] at h
  obtain ⟨hsites, rfl⟩ := h
  exact ⟨rfl, outlook_owner hsites⟩

theorem applyAll_reports (checks : List Check) (site : Site) :
    Reports site.owner (applyAll env nested checks site) :=
  Reports.gather fun check _ => applyCheck_reports hn check site

-- ---------------------------------------------------------------------------
-- Visits
-- ---------------------------------------------------------------------------

theorem visitInvariants_reports (o : Object) (checks : ClassChecks) :
    Reports (some o) (visitInvariants env nested o checks) :=
  Reports.gather fun _ _ => Reports.access fun _ => applyAll_reports hn _ _

theorem visitLevel_reports (o : Object) (c : Class) :
    Reports (some o) (visitLevel env nested o c) := by
  rw [visitLevel_eq]
  refine Reports.checksOf fun checks => ?_
  have hfields : Reports (some o) (visitFields env nested o c checks) :=
    Reports.gather fun _ _ => Reports.read fun _ => applyAll_reports hn _ _
  have hinvariants : Reports (some o) (visitInvariants env nested o checks) :=
    visitInvariants_reports hn o checks
  have hinherited : Reports (some o)
      (Run.gather (visitInterface env nested o) (inspected checks c)) :=
    Reports.gather fun _ _ => Reports.checksOf fun inherited => visitInvariants_reports hn o inherited
  have hown : Reports (some o) (applyAll env nested (checks.of .object)
      ⟨some o, .object o, .object c.name, .object c.name⟩) :=
    applyAll_reports hn _ _
  have hall := ((hfields.append hinvariants).append hinherited).append hown
  simp only [bind_assoc, pure_bind] at hall
  exact hall

theorem visit_reports (o : Object) (s : RunState)
    (hexec : (visit env nested o).exec s = (.ok violations, s')) :
    Reported (some o) { s with entered := (s.entered.enter o).2 } s' violations := by
  rw [visit, Run.exec_bind_of_ok _ (Run.exec_enter o s)] at hexec
  have hlevels : Reports (some o) (Run.gather (visitLevel env nested o) o.cls.hierarchy) :=
    Reports.gather fun c _ => visitLevel_reports hn o c
  exact hlevels _ violations s' hexec

theorem visitStatic_reports (c : Class) : Reports none (visitStatic env nested c) := by
  refine Reports.checksOf fun checks => Reports.append ?_ ?_
  · exact Reports.gather fun _ _ => Reports.read fun _ => applyAll_reports hn _ _
  · exact Reports.gather fun _ _ => Reports.access fun _ => applyAll_reports hn _ _

theorem memberSteps_reports (c : Class) (members : List (Member × Site))
    (hmembers : ∀ entry ∈ members, entry.2.owner = owner) :
    Reports owner (memberSteps c members env nested) :=
  Reports.checksOf fun checks => Reports.gather fun entry hentry =>
    hmembers entry hentry ▸ applyAll_reports hn (checks.of entry.1) entry.2

end

theorem ofDepth_reports (env : Environment) (depth : Nat) :
    NestedReports (Nested.ofDepth env depth) := by
  induction depth with
  | zero =>
    constructor
    · intro o s violations s' hexec
      cases hexec
    · intro checks site s violations s' hexec
      cases hexec
  | succ depth ih =>
    exact ⟨fun o s _ _ hexec => visit_reports ih o s hexec,
      fun checks site => applyAll_reports ih checks site⟩

-- ---------------------------------------------------------------------------
-- Requests
-- ---------------------------------------------------------------------------

/-- The object that a request is about, if it is about one. -/
def Request.subject : Request → Option Object
  | .object _ o | .field o .. | .result o .. | .arguments o .. => some o
  | .static _ | .construction .. => none

theorem argumentSites_owner {site : Nat → Parameter → Value → Site}
    (h : ∀ index p arg, (site index p arg).owner = owner) (member : Nat → Member)
    (parameters : List Parameter) (args : List Value) :
    ∀ entry ∈ argumentSites member site parameters args, entry.2.owner = owner := by
  intro entry hentry
  obtain ⟨⟨⟨p, arg⟩, index⟩, -, rfl⟩ := List.mem_map.mp hentry
  exact h index p arg

/-- What a request asks for is reported for its object, which is entered by then. -/
theorem steps_reported {env : Environment} {nested : Nested} (hn : NestedReports nested)
    {request : Request} (hp : request.plan = .ok plan) {v : Validator}
    (hexec : (plan.steps env nested).exec (v.start plan.owner store) = (.ok violations, s')) :
    ∃ s, Reported request.subject s s' violations ∧
      ∀ o, request.subject = some o → s.entered.contains o = true := by
  have hmembers (owner : Option Object) {c : Class} {members : List (Member × Site)}
      (h : ∀ entry ∈ members, entry.2.owner = owner)
      (hexec : (memberSteps c members env nested).exec (v.start owner store) = (.ok violations, s')) :
      ∃ s, Reported owner s s' violations ∧ ∀ o, owner = some o → s.entered.contains o = true := by
    refine ⟨_, memberSteps_reports hn c members h _ _ _ hexec, ?_⟩
    rintro o rfl
    simp [Validator.start, Entered.contains_enter]
  cases request with
  | object requested o =>
    cases hp
    refine ⟨_, visit_reports hn o _ hexec, ?_⟩
    rintro _ ⟨⟩
    simp [Entered.contains_enter]
  | static c =>
    cases hp
    exact ⟨_, visitStatic_reports hn c _ _ _ hexec, fun o ho => by cases ho⟩
  | field o name value | result o method arity value =>
    simp only [Request.plan] at hp
    split at hp <;> cases hp
    exact hmembers (some o) (by simp) hexec
  | arguments o method args =>
    simp only [Request.plan] at hp
    split at hp <;> cases hp
    exact hmembers (some o) (argumentSites_owner (by simp) _ _ _) hexec
  | construction c constructor args =>
    simp only [Request.plan] at hp
    split at hp
    · cases hp
    · split at hp <;> cases hp
      exact hmembers none (argumentSites_owner (by simp) _ _ _) hexec

/-- In a report no violation is one of a check that refers to other checks. A violation has causes if
and only if its check cascades; it is about an object then, and its causes are violations of that
object. No object is the target of two such violations, nor is the one that the request is about. -/
theorem answer_shaped {v : Validator} {world : World} {request : Request}
    (h : v.answer world depth store request = (.ok violations, after, store')) :
    (∀ w ∈ Violation.flattenAll violations, w.check.isReference = false ∧
        (w.causes ≠ [] ↔ w.check.kind = .assertValid) ∧
        (w.check.kind = .assertValid →
          ∃ t, w.value = .object t ∧ ∀ cause ∈ w.causes, cause.object = some t)) ∧
      ((Violation.targets violations).map (·.id)).Nodup ∧
      ∀ o, request.subject = some o → o.id ∉ (Violation.targets violations).map (·.id) := by
  rw [answer_eq] at h
  cases hp : request.plan with
  | error e =>
    rw [hp] at h
    cases h
  | ok plan =>
    rw [hp] at h
    simp only [Plan.perform_eq, Validator.conclude, Prod.mk.injEq, Run.mapError_ok] at h
    obtain ⟨s, hreported, hsubject⟩ := steps_reported (ofDepth_reports _ depth) hp (Prod.ext h.1 rfl)
    refine ⟨fun w hw => ?_, hreported.apart, fun o ho hmem => ?_⟩
    · have hshaped := hreported.shaped w hw
      exact ⟨hshaped.direct, hshaped.causes, hshaped.nested⟩
    · obtain ⟨target, htarget, hid⟩ := List.mem_map.mp hmem
      have hfresh := hreported.fresh target htarget
      rw [Entered.contains_eq_of_id hid, hsubject o ho] at hfresh
      cases hfresh

theorem ring_targets :
    ((ringValidator.answer stillWorld 2 ring (.object none ⟨0, node⟩)).1.map fun violations =>
      (Violation.targets violations).map (·.id)).toOption = some [1] := by
  decide

theorem answer_shaped_ring :
    ∃ violations, (ringValidator.answer stillWorld 2 ring (.object none ⟨0, node⟩)).1 = .ok violations ∧
      (Violation.targets violations).map (·.id) = [1] ∧
      (∀ w ∈ Violation.flattenAll violations, w.causes ≠ [] ↔ w.check.kind = .assertValid) ∧
      ((Violation.targets violations).map (·.id)).Nodup ∧
      0 ∉ (Violation.targets violations).map (·.id) := by
  have hrun := ring_targets
  cases hresult : (ringValidator.answer stillWorld 2 ring (.object none ⟨0, node⟩)).1 with
  | error e =>
    rw [hresult] at hrun
    cases hrun
  | ok violations =>
    rw [hresult] at hrun
    injection hrun with hrun
    obtain ⟨hshaped, hapart, hsubject⟩ := answer_shaped (Prod.ext hresult rfl)
    exact ⟨violations, rfl, hrun, fun w hw => (hshaped w hw).2.1, hapart, hsubject ⟨0, node⟩ rfl⟩

end ObjectConstraints
