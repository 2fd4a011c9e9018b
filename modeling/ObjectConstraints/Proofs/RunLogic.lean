import ObjectConstraints.Proofs.KnownClasses

/-!
# A logic of runs

A property of runs that the single steps of a traversal have and that sequences of such runs have
again (`RunLogic`) is one that every request has (`RunLogic.steps`), however deep it may nest. The
steps need to have it only within bounds that a traversal stays in: the objects it visits, the classes
whose checks it looks up and the values it looks at (`Realm`).
-/

namespace ObjectConstraints

open Traversal

-- ---------------------------------------------------------------------------
-- Realms
-- ---------------------------------------------------------------------------

/-- Objects, classes and values that refer to none but each other. -/
structure Realm where
  object : Object → Prop
  cls : Class → Prop
  value : Value → Prop
  value_object : ∀ o, value (.object o) ↔ object o
  object_cls : ∀ o, object o → cls o.cls
  levels : ∀ c, cls c → ∀ d ∈ c.hierarchy, cls d
  interfaces : ∀ c, cls c → ∀ d ∈ c.allInterfaces, cls d

namespace Realm

/-- No bounds at all. -/
def all : Realm where
  object _ := True
  cls _ := True
  value _ := True
  value_object _ := Iff.rfl
  object_cls _ _ := trivial
  levels _ _ _ _ := trivial
  interfaces _ _ _ _ := trivial

/-- Some objects, their classes and the values over them. -/
def known (h : ClassesOf objects classes) : Realm where
  object o := o ∈ objects
  cls c := c ∈ classes
  value v := v.Over objects
  value_object _ := Value.over_object
  object_cls := h.objects
  levels := h.levels
  interfaces := h.interfaces

variable (realm : Realm) (env : Environment)

/-- A site at a value of the realm, with a class of the realm in scope. -/
structure Site (site : Site) : Prop where
  value : realm.value site.value
  scope : ∀ c, (site.scope env).cls = some c → realm.cls c

/-- What a request names belongs to the realm. -/
def Admits : Request → Prop
  | .object _ o => realm.object o
  | .static c => realm.cls c
  | .field o _ value => realm.object o ∧ realm.value value
  | .result o _ _ value => realm.object o ∧ realm.value value
  | .arguments o _ args => realm.object o ∧ ∀ arg ∈ args, realm.value arg
  | .construction c _ args => realm.cls c ∧ ∀ arg ∈ args, realm.value arg

theorem all_admits (request : Request) : all.Admits request := by
  cases request <;> simp [Admits, all]

variable {realm env}

theorem Site.of_owner (ho : realm.object o) {value : Value} (hvalue : realm.value value)
    (declared : Kind) (context : Context) : realm.Site env ⟨some o, value, declared, context⟩ where
  value := hvalue
  scope c hc := by
    cases hc
    exact realm.object_cls o ho

theorem Site.of_scope (hscope : env.scope = some c) (hc : realm.cls c) {value : Value}
    (hvalue : realm.value value) (declared : Kind) (context : Context) :
    realm.Site env ⟨none, value, declared, context⟩ where
  value := hvalue
  scope d hd := by
    have hd : env.scope = some d := hd
    rw [hscope] at hd
    cases hd
    exact hc

theorem Site.declares {site : ObjectConstraints.Site} (h : realm.Site env site)
    (hdeclared : (site.scope env).declared? field declaringClass = some (declaring, name)) :
    realm.cls declaring := by
  obtain ⟨c, hc, hlevel⟩ := Scope.declared_level hdeclared
  exact realm.levels c (h.scope c hc) _ hlevel

end Realm

-- ---------------------------------------------------------------------------
-- Logics
-- ---------------------------------------------------------------------------

/-- A property of runs together with what their results have, that the steps of a traversal have and
that sequencing keeps. -/
structure RunLogic (env : Environment) (realm : Realm) where
  Holds : {α : Type} → (α → Prop) → Run α → Prop
  /-- What is true of the checks that are found for a class. -/
  finds : Class → ClassChecks → Prop
  pure {α : Type} {P : α → Prop} {a : α} : P a → Holds P (pure a)
  bind {α β : Type} {P : α → Prop} {Q : β → Prop} {m : Run α} {f : α → Run β} :
    Holds P m → (∀ a, P a → Holds Q (f a)) → Holds Q (m >>= f)
  tooDeep {α : Type} (P : α → Prop) : Holds P (throw .tooDeep)
  unresolved {α : Type} (P : α → Prop) (field context : String) :
    Holds P (Run.fail (.fieldNotResolved field context))
  isEntered {o : Object} : realm.object o → Holds (fun _ => True) (Run.isEntered o)
  enter {o : Object} : realm.object o → Holds (fun _ => True) (Run.enter o)
  checksOf {c : Class} : realm.cls c → Holds (finds c) (Run.checksOf env c)
  setOf (id : String) : Holds (fun _ => True) (Run.setOf env id)
  outlook (check : Check) {site : Site} : realm.Site env site →
    Holds (fun sites => ∀ p ∈ sites, realm.Site env p)
      (do Run.lift (outlook env (← get).store check site))
  test (check : Check) {site : Site} : realm.Site env site →
    Holds (fun _ => True) (test env check site)
  field {o : Object} {c : Class} {checks : ClassChecks} {field : String} : realm.object o →
    c ∈ o.cls.hierarchy → finds c checks → field ∈ checks.constrainedFields →
      Holds realm.value (Run.read (o.get field))
  getter {o : Object} {c : Class} {checks : ClassChecks} {method : String} : realm.object o →
    realm.cls c → finds c checks → method ∈ checks.invariants →
      Holds realm.value (Run.access (o.invoke env.implementation method []))
  staticField {c : Class} {checks : ClassChecks} {field : String} : realm.cls c →
    finds c checks → field ∈ checks.constrainedStatics →
      Holds realm.value (Run.read (c.getStatic field))
  staticGetter {c : Class} {checks : ClassChecks} {method : String} : realm.cls c →
    finds c checks → method ∈ checks.staticInvariants →
      Holds realm.value (Run.access (c.invokeStatic env.implementation method []))

namespace RunLogic

variable {env : Environment} {realm : Realm} (L : RunLogic env realm)

/-- A property of runs, whatever their results are. -/
def Fine {α : Type} (m : Run α) : Prop := L.Holds (fun _ => True) m

variable {L}

theorem gather {α β : Type} {step : α → Run (List β)} {l : List α} (h : ∀ a ∈ l, L.Fine (step a)) :
    L.Fine (Run.gather step l) :=
  Run.gather_induction (L.pure trivial)
    (fun _ _ hfront hback => L.bind hfront fun _ _ => L.bind hback fun _ _ => L.pure trivial) h

-- ---------------------------------------------------------------------------
-- One check
-- ---------------------------------------------------------------------------

/-- What checks lead to has the property within the realm. -/
structure Nests (L : RunLogic env realm) (nested : Nested) : Prop where
  visit : ∀ o, realm.object o → L.Fine (nested.visit o)
  apply : ∀ checks site, realm.Site env site → L.Fine (nested.apply checks site)

variable {nested : Nested}

theorem referencedChecks {site : Site} (hsite : realm.Site env site) (field declaringClass : Option String) :
    L.Fine (referencedChecks env site field declaringClass) := by
  cases hdeclared : (site.scope env).declared? field declaringClass with
  | none =>
    obtain ⟨name, he⟩ := referencedChecks_none hdeclared
    rw [he]
    exact L.unresolved _ _ _
  | some declared =>
    obtain ⟨declaring, name⟩ := declared
    rw [referencedChecks_some hdeclared]
    exact L.bind (L.checksOf (hsite.declares hdeclared)) fun _ _ => L.pure trivial

theorem cascade (hn : L.Nests nested) (check : Check) {site : Site} (hsite : realm.Site env site) :
    L.Fine (cascade env nested check site) := by
  obtain ⟨owner, value, declared, context⟩ := site
  unfold Traversal.cascade
  cases value with
  | object target =>
    have ho : realm.object target := (realm.value_object target).mp hsite.value
    refine L.bind (L.isEntered ho) fun entered _ => ?_
    cases entered with
    | true => exact L.pure trivial
    | false => exact L.bind (hn.visit target ho) fun _ _ => L.pure trivial
  | _ => exact L.pure trivial

theorem evaluate (hn : L.Nests nested) (check : Check) {site : Site} (hsite : realm.Site env site) :
    L.Fine (evaluate env nested check site) := by
  by_cases hcomposite : check.isComposite = true
  · unfold Traversal.evaluate
    cases hkind : check.kind with
    | assertValid => exact cascade hn check hsite
    | assertConstraintSet id => exact L.bind (L.setOf id) fun found _ => hn.apply _ _ hsite
    | assertFieldConstraints field declaringClass =>
      exact L.bind (referencedChecks hsite field declaringClass) fun checks _ => hn.apply _ _ hsite
    | _ => simp [Check.isComposite, CheckKind.isComposite, hkind] at hcomposite
  -- All other kinds are tested where they are applied and lead nowhere.
  · rw [evaluate_eq_test env nested (by simpa using hcomposite)]
    exact L.test check hsite

theorem applyAll (hn : L.Nests nested) (checks : List Check) {site : Site}
    (hsite : realm.Site env site) : L.Fine (applyAll env nested checks site) := by
  refine gather fun check _ => ?_
  rw [applyCheck_eq, ← bind_assoc]
  exact L.bind (L.outlook check hsite) fun sites hsites =>
    gather fun p hp => evaluate hn check (hsites p hp)

-- ---------------------------------------------------------------------------
-- Visits
-- ---------------------------------------------------------------------------

theorem visitInvariants (hn : L.Nests nested) (ho : realm.object o) (hc : realm.cls c)
    (hchecks : L.finds c checks) : L.Fine (visitInvariants env nested o checks) :=
  gather fun _ hmethod => L.bind (L.getter ho hc hchecks hmethod) fun _ hvalue =>
    applyAll hn _ (.of_owner ho hvalue _ _)

theorem visitLevel (hn : L.Nests nested) (ho : realm.object o) (hc : c ∈ o.cls.hierarchy) :
    L.Fine (visitLevel env nested o c) := by
  have hcls : realm.cls c := realm.levels _ (realm.object_cls o ho) c hc
  rw [visitLevel_eq]
  refine L.bind (L.checksOf hcls) fun checks hchecks => ?_
  refine L.bind (P := fun _ => True) (gather fun field hfield => ?_) fun _ _ => ?_
  · exact L.bind (L.field ho hc hchecks hfield) fun _ hvalue => applyAll hn _ (.of_owner ho hvalue _ _)
  refine L.bind (visitInvariants hn ho hcls hchecks) fun _ _ => ?_
  refine L.bind (P := fun _ => True) (gather fun interface hinterface => ?_) fun _ _ => ?_
  · have hinterface : realm.cls interface := by
      unfold inspected at hinterface
      split at hinterface
      · exact realm.interfaces c hcls _ hinterface
      · cases hinterface
    exact L.bind (L.checksOf hinterface) fun _ hfound => visitInvariants hn ho hinterface hfound
  exact L.bind (applyAll hn _ (.of_owner ho ((realm.value_object o).mpr ho) _ _)) fun _ _ =>
    L.pure trivial

theorem visit (hn : L.Nests nested) (ho : realm.object o) : L.Fine (visit env nested o) :=
  L.bind (L.enter ho) fun _ _ => gather fun _ hc => visitLevel hn ho hc

theorem visitStatic (hn : L.Nests nested) (hscope : env.scope = some c) (hc : realm.cls c) :
    L.Fine (visitStatic env nested c) := by
  refine L.bind (L.checksOf hc) fun checks hchecks => ?_
  refine L.bind (P := fun _ => True) (gather fun field hfield => ?_) fun _ _ => ?_
  · exact L.bind (L.staticField hc hchecks hfield) fun _ hvalue =>
      applyAll hn _ (.of_scope hscope hc hvalue _ _)
  refine L.bind (P := fun _ => True) (gather fun method hmethod => ?_) fun _ _ => L.pure trivial
  exact L.bind (L.staticGetter hc hchecks hmethod) fun _ hvalue =>
    applyAll hn _ (.of_scope hscope hc hvalue _ _)

theorem ofDepth (L : RunLogic env realm) (depth : Nat) : L.Nests (Nested.ofDepth env depth) := by
  induction depth with
  | zero => exact ⟨fun _ _ => L.tooDeep _, fun _ _ _ => L.tooDeep _⟩
  | succ depth ih =>
    exact ⟨fun _ ho => visit ih ho, fun checks _ hsite => applyAll ih checks hsite⟩

-- ---------------------------------------------------------------------------
-- Requests
-- ---------------------------------------------------------------------------

theorem memberSteps (hn : L.Nests nested) (hc : realm.cls c) {members : List (Member × Site)}
    (hmembers : ∀ entry ∈ members, realm.Site env entry.2) :
    L.Fine (memberSteps c members env nested) :=
  L.bind (L.checksOf hc) fun _ _ => gather fun entry hentry => applyAll hn _ (hmembers entry hentry)

theorem argumentSites {args : List Value} (hargs : ∀ arg ∈ args, realm.value arg)
    {member : Nat → Member} {site : Nat → Parameter → Value → Site} {parameters : List Parameter}
    (hsite : ∀ index p arg, realm.value arg → realm.Site env (site index p arg)) :
    ∀ entry ∈ argumentSites member site parameters args, realm.Site env entry.2 := by
  intro entry hentry
  obtain ⟨⟨⟨p, arg⟩, index⟩, hmem, rfl⟩ := List.mem_map.mp hentry
  have hzip := (List.of_mem_zip (List.fst_mem_of_mem_zipIdx hmem)).2
  exact hsite index p arg (hargs arg hzip)

/-- What a request asks for has the property, whatever the depth. -/
theorem steps (L : RunLogic env realm) (depth : Nat) {request : Request} (hplan : request.plan = .ok plan)
    (hscope : env.scope = plan.scope) (hrequest : realm.Admits request) :
    L.Fine (plan.steps env (Nested.ofDepth env depth)) := by
  have hn := L.ofDepth depth
  have hlevels {o : Object} (ho : realm.object o) := realm.levels _ (realm.object_cls o ho)
  cases request with
  | object requested o =>
    cases hplan
    exact visit hn hrequest
  | static c =>
    cases hplan
    exact visitStatic hn hscope hrequest
  | field o name value =>
    simp only [Request.plan] at hplan
    split at hplan
    · cases hplan
    · next c hc =>
      cases hplan
      refine memberSteps hn (hlevels hrequest.1 c (declaring_mem hc)) fun entry hentry => ?_
      cases List.mem_singleton.mp hentry
      exact .of_owner hrequest.1 hrequest.2 _ _
  | result o method arity value =>
    simp only [Request.plan] at hplan
    split at hplan
    · cases hplan
    · next c m hc =>
      cases hplan
      refine memberSteps hn (hlevels hrequest.1 c (findMethod_mem hc)) fun entry hentry => ?_
      cases List.mem_singleton.mp hentry
      exact .of_owner hrequest.1 hrequest.2 _ _
  | arguments o method args =>
    simp only [Request.plan] at hplan
    split at hplan
    · cases hplan
    · next c m hc =>
      cases hplan
      exact memberSteps hn (hlevels hrequest.1 c (findMethod_mem hc))
        (argumentSites hrequest.2 fun _ _ _ harg => .of_owner hrequest.1 harg _ _)
  | construction c constructor args =>
    simp only [Request.plan] at hplan
    split at hplan
    · cases hplan
    · split at hplan
      · cases hplan
      · cases hplan
        exact memberSteps hn hrequest.1
          (argumentSites hrequest.2 fun _ _ _ harg => .of_scope hscope hrequest.1 harg _ _)

end RunLogic

end ObjectConstraints
