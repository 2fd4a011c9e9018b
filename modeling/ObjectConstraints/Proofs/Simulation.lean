import Mathlib.Data.List.Forall2
import ObjectConstraints.Proofs.Steps

/-!
# Simulations

Two traversals over check lists that correspond: a relation between runs that the single steps and
their sequences keep (`Simulation`) is kept by whole visits (`visit_rel`, `visitStatic_rel`), if it
is kept where check lists are applied. One check keeps it if the two checks are gated alike and what
they lead to corresponds (`applyCheck_rel`).

The runs compared are two families of them. A family over one index is a single run; a family over
depths is a run that may nest as deep as it needs to.
-/

namespace ObjectConstraints

open Traversal

/-- A check without the context it was registered for. -/
def Check.unstamped (check : Check) : Check := { check with context := none }

/-- Class checks with the same members constrained, whose lists correspond. -/
structure ClassChecks.Corresponds (L : List Check → List Check → Prop) (a b : ClassChecks) : Prop where
  cls : a.cls = b.cls
  flags : a.flags = b.flags
  constrainedFields : a.constrainedFields = b.constrainedFields
  constrainedStatics : a.constrainedStatics = b.constrainedStatics
  invariants : a.invariants = b.invariants
  staticInvariants : a.staticInvariants = b.staticInvariants
  of : ∀ member, L (a.of member) (b.of member)

/-- Environments in which values, methods and conditions have the same results. Their profiles and
the sources of configuration may differ. -/
structure Environment.SameWorld (env env' : Environment) : Prop where
  languages : env.languages = env'.languages
  implementation : env.implementation = env'.implementation
  now : env.now = env'.now
  scope : env.scope = env'.scope

/-- A relation between families of runs that the steps of a traversal keep, for check lists that
correspond by `L` and violations that correspond by `W`. -/
structure Simulation (ι κ : Type) (env env' : Environment) (L : List Check → List Check → Prop)
    (W : Violation → Violation → Prop) where
  Rel : {α β : Type} → (α → β → Prop) → (ι → Run α) → (κ → Run β) → Prop
  pure_rel {α β : Type} {Q : α → β → Prop} {a : α} {b : β} :
    Q a b → Rel Q (fun _ => pure a) (fun _ => pure b)
  bind_rel {α β γ δ : Type} {Q : α → β → Prop} {R : γ → δ → Prop} {m : ι → Run α} {m' : κ → Run β}
    {f : ι → α → Run γ} {f' : κ → β → Run δ} :
    Rel Q m m' → (∀ a b, Q a b → Rel R (fun i => f i a) (fun j => f' j b)) →
      Rel R (fun i => m i >>= f i) (fun j => m' j >>= f' j)
  fail_rel {α β : Type} {Q : α → β → Prop} (e : ValidationError) :
    Rel Q (fun _ => Run.fail e) (fun _ => Run.fail e)
  get_rel : Rel (fun s s' => s.store = s'.store ∧ s.entered = s'.entered) (fun _ => get) (fun _ => get)
  access_rel {α : Type} (action : Store → Except AccessError α × Store) :
    Rel Eq (fun _ => Run.access action) (fun _ => Run.access action)
  enter_rel (o : Object) : Rel Eq (fun _ => Run.enter o) (fun _ => Run.enter o)
  checksOf_rel (c : Class) : Rel (ClassChecks.Corresponds L) (fun _ => Run.checksOf env c)
    (fun _ => Run.checksOf env' c)
  setOf_rel (id : String) : Rel (fun a b => L a.checks b.checks) (fun _ => Run.setOf env id)
    (fun _ => Run.setOf env' id)

/-- Checks that differ at most in the context they were registered for, and whose violations
correspond. -/
structure Check.Corresponds (env env' : Environment) (W : Violation → Violation → Prop)
    (a b : Check) : Prop where
  unstamped : a.unstamped = b.unstamped
  violation : ∀ site causes causes', List.Forall₂ W causes causes' →
    W (violation env a site causes) (violation env' b site causes')

namespace Check

variable {a b : Check} (h : a.unstamped = b.unstamped)
include h

theorem kind_eq : a.kind = b.kind := congrArg (·.kind) h

theorem isComposite_eq : a.isComposite = b.isComposite := congrArg (·.isComposite) h

theorem profiles_eq : a.profiles = b.profiles := congrArg (·.profiles) h

theorem targets_eq : a.targets = b.targets := congrArg (·.targets) h

theorem target_eq : a.target = b.target := congrArg (·.target) h

theorem isActive_eq (languages : Languages) (owner : Option Object) (value : Value) (store : Store) :
    a.isActive languages owner value store = b.isActive languages owner value store :=
  congrArg (·.isActive languages owner value store) h

theorem isSatisfied_eq (languages : Languages) (now : Instant) (owner : Option Object)
    (value : Value) (context : Context) (store : Store) :
    a.isSatisfied languages now owner value context store =
      b.isSatisfied languages now owner value context store :=
  congrArg (·.isSatisfied languages now owner value context store) h

end Check

namespace Simulation

variable {ι κ : Type} {env env' : Environment} {L : List Check → List Check → Prop}
  {W : Violation → Violation → Prop} (S : Simulation ι κ env env' L W)

-- ---------------------------------------------------------------------------
-- Derived steps
-- ---------------------------------------------------------------------------

theorem lift_rel {α : Type} (r : Except ValidationError α) :
    S.Rel Eq (fun _ => Run.lift r) (fun _ => Run.lift r) := by
  cases r with
  | ok a => exact S.pure_rel rfl
  | error e => exact S.fail_rel e

theorem read_rel {α : Type} (access : Store → Except AccessError α) :
    S.Rel Eq (fun _ => Run.read access) (fun _ => Run.read access) := by
  refine S.bind_rel S.get_rel ?_
  rintro s s' ⟨hs, -⟩
  rw [hs]
  exact S.lift_rel _

theorem isEntered_rel (o : Object) :
    S.Rel Eq (fun _ => Run.isEntered o) (fun _ => Run.isEntered o) := by
  refine S.bind_rel S.get_rel ?_
  rintro s s' ⟨-, hs⟩
  exact S.pure_rel (by rw [hs])

theorem gather_rel {α β γ : Type} {Q : β → γ → Prop} {step : ι → α → Run (List β)}
    {step' : κ → α → Run (List γ)} {l : List α}
    (h : ∀ a ∈ l, S.Rel (List.Forall₂ Q) (fun i => step i a) (fun j => step' j a)) :
    S.Rel (List.Forall₂ Q) (fun i => Run.gather (step i) l) (fun j => Run.gather (step' j) l) := by
  induction l with
  | nil => exact S.pure_rel .nil
  | cons a rest ih =>
    refine S.bind_rel (h a List.mem_cons_self) fun front front' hfront => ?_
    refine S.bind_rel (ih fun b hb => h b (List.mem_cons_of_mem _ hb)) fun back back' hback => ?_
    exact S.pure_rel (List.rel_append hfront hback)

-- ---------------------------------------------------------------------------
-- One check
-- ---------------------------------------------------------------------------

/-- What checks lead to corresponds. -/
structure RelNested (nested : ι → Nested) (nested' : κ → Nested) : Prop where
  visit : ∀ o, S.Rel (List.Forall₂ W) (fun i => (nested i).visit o) (fun j => (nested' j).visit o)
  apply : ∀ checks checks' site, L checks checks' →
    S.Rel (List.Forall₂ W) (fun i => (nested i).apply checks site)
      (fun j => (nested' j).apply checks' site)

variable {S} (hw : env.SameWorld env') {nested : ι → Nested} {nested' : κ → Nested}
include hw

theorem referencedChecks_rel (site : Site) (field declaringClass : Option String) :
    S.Rel L (fun _ => referencedChecks env site field declaringClass)
      (fun _ => referencedChecks env' site field declaringClass) := by
  unfold referencedChecks
  rw [hw.scope]
  cases field.or site.context.inferredField with
  | none => exact S.fail_rel _
  | some name =>
    cases (site.owner.map (·.cls)).or env'.scope with
    | none => exact S.fail_rel _
    | some scope =>
      dsimp only
      cases (scope.hierarchy.filter fun c => declaringClass.all (c.name == ·)).find?
          fun c => (c.field? name).isSome with
      | none => exact S.fail_rel _
      | some declaring =>
        exact S.bind_rel (S.checksOf_rel declaring) fun checks checks' h => S.pure_rel (h.of _)

omit hw in
theorem cascade_rel (hn : S.RelNested nested nested') (h : Check.Corresponds env env' W a b)
    (site : Site) :
    S.Rel (List.Forall₂ W) (fun i => cascade env (nested i) a site)
      (fun j => cascade env' (nested' j) b site) := by
  unfold cascade
  cases site.value with
  | object target =>
    refine S.bind_rel (S.isEntered_rel target) ?_
    rintro entered _ rfl
    cases entered with
    | true => exact S.pure_rel .nil
    | false =>
      refine S.bind_rel (hn.visit target) fun causes causes' hc => S.pure_rel ?_
      cases hc with
      | nil => exact .nil
      | cons hd tl => exact .cons (h.violation site _ _ (.cons hd tl)) .nil
  | _ => exact S.pure_rel .nil

theorem test_rel (h : Check.Corresponds env env' W a b) (site : Site) :
    S.Rel (List.Forall₂ W) (fun _ => test env a site) (fun _ => test env' b site) := by
  refine S.bind_rel S.get_rel ?_
  rintro s s' ⟨hs, -⟩
  rw [Check.isSatisfied_eq h.unstamped, hw.languages, hw.now, hs]
  refine S.bind_rel (S.lift_rel _) ?_
  rintro satisfied _ rfl
  cases satisfied with
  | true => exact S.pure_rel .nil
  | false => exact S.pure_rel (.cons (h.violation site _ _ .nil) .nil)

theorem evaluate_rel (hn : S.RelNested nested nested') (h : Check.Corresponds env env' W a b)
    (site : Site) :
    S.Rel (List.Forall₂ W) (fun i => evaluate env (nested i) a site)
      (fun j => evaluate env' (nested' j) b site) := by
  have hk := Check.kind_eq h.unstamped
  by_cases hc : a.isComposite
  · unfold evaluate
    rw [← hk]
    cases hkind : a.kind with
    | assertValid => exact cascade_rel hn h site
    | assertConstraintSet id =>
      exact S.bind_rel (S.setOf_rel id) fun found found' hf => hn.apply _ _ _ hf
    | assertFieldConstraints field declaringClass =>
      exact S.bind_rel (referencedChecks_rel hw site field declaringClass) fun checks checks' hc =>
        hn.apply _ _ _ hc
    | _ => simp [Check.isComposite, CheckKind.isComposite, hkind] at hc
  · have ha : a.isComposite = false := by simpa using hc
    have hb : b.isComposite = false := Check.isComposite_eq h.unstamped ▸ ha
    simp only [evaluate_eq_test _ _ ha, evaluate_eq_test _ _ hb]
    exact test_rel hw h site

/-- Two checks that are gated alike correspond wherever they are applied. -/
theorem applyCheck_rel (hn : S.RelNested nested nested') (h : Check.Corresponds env env' W a b)
    (hp : env.profiles.isAnyEnabled a.profiles env.requested =
      env'.profiles.isAnyEnabled b.profiles env'.requested) (site : Site) :
    S.Rel (List.Forall₂ W) (fun i => applyCheck env (nested i) site a)
      (fun j => applyCheck env' (nested' j) site b) := by
  simp only [applyCheck_eq]
  refine S.bind_rel S.get_rel ?_
  rintro s s' ⟨hs, -⟩
  have hsites : outlook env s.store a site = outlook env' s'.store b site := by
    unfold outlook
    rw [hp, hs, hw.languages, Check.isActive_eq h.unstamped, Check.target_eq h.unstamped,
      Check.targets_eq h.unstamped]
  rw [hsites]
  refine S.bind_rel (S.lift_rel _) ?_
  rintro sites _ rfl
  exact S.gather_rel fun position _ => evaluate_rel hw hn h position

-- ---------------------------------------------------------------------------
-- Visits
-- ---------------------------------------------------------------------------

/-- Applying lists that correspond gives violations that correspond. -/
def RelLists (S : Simulation ι κ env env' L W) (nested : ι → Nested) (nested' : κ → Nested) : Prop :=
  ∀ checks checks' site, L checks checks' →
    S.Rel (List.Forall₂ W) (fun i => applyAll env (nested i) checks site)
      (fun j => applyAll env' (nested' j) checks' site)

variable (hl : S.RelLists nested nested')
include hl

omit hw in
theorem visitFields_rel (o : Object) (c : Class) (h : ClassChecks.Corresponds L checks checks') :
    S.Rel (List.Forall₂ W) (fun i => visitFields env (nested i) o c checks)
      (fun j => visitFields env' (nested' j) o c checks') := by
  unfold visitFields
  rw [h.constrainedFields]
  refine S.gather_rel fun field _ => S.bind_rel (S.read_rel _) ?_
  rintro value _ rfl
  exact hl _ _ _ (h.of _)

theorem visitInvariants_rel (o : Object) (h : ClassChecks.Corresponds L checks checks') :
    S.Rel (List.Forall₂ W) (fun i => visitInvariants env (nested i) o checks)
      (fun j => visitInvariants env' (nested' j) o checks') := by
  unfold visitInvariants
  rw [h.invariants, hw.implementation, h.cls]
  refine S.gather_rel fun method _ => S.bind_rel (S.access_rel _) ?_
  rintro value _ rfl
  exact hl _ _ _ (h.of _)

theorem visitInterface_rel (o : Object) (interface : Class) :
    S.Rel (List.Forall₂ W) (fun i => visitInterface env (nested i) o interface)
      (fun j => visitInterface env' (nested' j) o interface) :=
  S.bind_rel (S.checksOf_rel interface) fun _ _ h => visitInvariants_rel hw hl o h

theorem visitLevel_rel (o : Object) (c : Class) :
    S.Rel (List.Forall₂ W) (fun i => visitLevel env (nested i) o c)
      (fun j => visitLevel env' (nested' j) o c) := by
  simp only [visitLevel_eq]
  refine S.bind_rel (S.checksOf_rel c) fun checks checks' h => ?_
  have hinspected : inspected checks c = inspected checks' c := by rw [inspected, h.flags]; rfl
  rw [hinspected]
  refine S.bind_rel (visitFields_rel hl o c h) fun fields fields' hfields => ?_
  refine S.bind_rel (visitInvariants_rel hw hl o h) fun invariants invariants' hinvariants => ?_
  refine S.bind_rel (S.gather_rel fun interface _ => visitInterface_rel hw hl o interface)
    fun inherited inherited' hinherited => ?_
  refine S.bind_rel (hl _ _ _ (h.of .object)) fun own own' hown => S.pure_rel ?_
  exact List.rel_append (List.rel_append (List.rel_append hfields hinvariants) hinherited) hown

theorem visit_rel (o : Object) :
    S.Rel (List.Forall₂ W) (fun i => visit env (nested i) o)
      (fun j => visit env' (nested' j) o) :=
  S.bind_rel (S.enter_rel o) fun _ _ _ => S.gather_rel fun c _ => visitLevel_rel hw hl o c

theorem visitStatic_rel (c : Class) :
    S.Rel (List.Forall₂ W) (fun i => visitStatic env (nested i) c)
      (fun j => visitStatic env' (nested' j) c) := by
  refine S.bind_rel (S.checksOf_rel c) fun checks checks' h => ?_
  rw [h.constrainedStatics, h.staticInvariants, hw.implementation]
  refine S.bind_rel (Q := List.Forall₂ W) (S.gather_rel fun field _ => S.bind_rel (S.read_rel _) ?_)
    fun fields fields' hfields => ?_
  · rintro value _ rfl
    exact hl _ _ _ (h.of _)
  refine S.bind_rel (Q := List.Forall₂ W) (S.gather_rel fun method _ => S.bind_rel (S.access_rel _) ?_)
    fun results results' hresults => S.pure_rel (List.rel_append hfields hresults)
  rintro value _ rfl
  exact hl _ _ _ (h.of _)

end Simulation

end ObjectConstraints
