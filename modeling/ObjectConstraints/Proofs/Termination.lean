import ObjectConstraints.Proofs.Halting

/-!
# Termination

On a finite graph of objects, however cyclic, every request is answered within some depth if no list
of checks leads back to itself (`answer_terminates`). A cascade leaves one object less to enter, a
reference leads to a list further down, and a check looks at finitely many sites. So cascades are
never nested deeper than there are objects.
-/

namespace ObjectConstraints

open Traversal

-- ---------------------------------------------------------------------------
-- Cascades counted apart
-- ---------------------------------------------------------------------------

/-- What checks lead to when they may lead on so many times in a row, and into an object so many
times. -/
def Nested.ofBudget (env : Environment) : Nat → Nat → Nested
  | 0, _ => ⟨fun _ => throw .tooDeep, fun _ _ => throw .tooDeep⟩
  | depth + 1, cascades =>
    ⟨fun o =>
      match cascades with
      | 0 => throw .tooDeep
      | left + 1 => Traversal.visit env (Nested.ofBudget env depth left) o,
      fun checks site => Traversal.applyAll env (Nested.ofBudget env depth cascades) checks site⟩

/-- A bound on cascades is nothing but a bound. -/
theorem ofBudget_within (env : Environment) (depth cascades : Nat) :
    (Nested.ofBudget env depth cascades).Within env (Nested.ofDepth env depth) := by
  induction depth generalizing cascades with
  | zero => exact ⟨fun o s => ⟨.refl s, fun hfin => absurd rfl hfin⟩,
      fun checks checks' site _ s => ⟨.refl s, fun hfin => absurd rfl hfin⟩⟩
  | succ depth ih =>
    refine ⟨fun o => ?_, (ih cascades).lists⟩
    cases cascades with
    | zero => exact fun s => ⟨.refl s, fun hfin => absurd rfl hfin⟩
    | succ left => exact Simulation.visit_rel (.refl env) (ih left).lists o

/-- What a validator answers to a request if checks may lead into an object so many times in a
row. -/
def Validator.answerWithin (v : Validator) (world : World) (cascades depth : Nat) (store : Store)
    (request : Request) : Validator.Outcome :=
  match request.plan with
  | .error e => v.refuse e store
  | .ok plan => plan.perform v world (Nested.ofBudget · depth cascades) store

-- ---------------------------------------------------------------------------
-- References between lists
-- ---------------------------------------------------------------------------

/-- The lists that a source of checks stands for: those of the validator's sets, and those it has for
the known classes of a name. -/
def Validator.Lists (v : Validator) (classes : List Class) : CheckSource → List Check → Prop
  | .set id, checks => ∃ found, v.found id = .ok found ∧ checks = found.checks
  | .field className field, checks => ∃ c ∈ classes, c.name = className ∧
      ∃ compiled, (v.checksOf c).1 = .ok compiled ∧ checks = compiled.of (.field field)

/-- Whether one list of checks leads on to another one. -/
def Validator.Refers (v : Validator) (classes : List Class) (scope : Scope)
    (source target : CheckSource) : Prop :=
  ∃ checks, v.Lists classes source checks ∧ ∃ check ∈ checks, check.leadsTo? scope = some target

variable {v : Validator} {env : Environment} {objects : List Object} {classes : List Class}
  {store : Store} {n : Nat}

-- ---------------------------------------------------------------------------
-- Checks
-- ---------------------------------------------------------------------------

/-- Whether cascades into objects that have not been entered halt. -/
def CascadesHalt (v : Validator) (env : Environment) (objects : List Object) (classes : List Class)
    (store : Store) (n : Nat) : Prop :=
  ∀ o ∈ objects, ∀ s, Alive v env.implementation objects classes store n s →
    s.entered.contains o = false → ∃ r s', Settles (fun d => (Nested.ofBudget env d n).visit o) s (r, s') ∧
      Finished r ∧ Alive v env.implementation objects classes store n s'

theorem cascade_halts (hcascades : CascadesHalt v env objects classes store n) (check : Check)
    {site : Site} (hsite : site.Within env objects classes) :
    Halts v env objects classes store n (fun _ => True)
      fun d => cascade env (Nested.ofBudget env d n) check site := by
  unfold cascade
  cases hvalue : site.value with
  | object o =>
    have ho : o ∈ objects := Value.over_object.mp (hvalue ▸ hsite.value)
    intro s hs
    have hstep := Settles.const (Run.isEntered o) s
    rw [Run.exec_isEntered] at hstep
    cases hentered : s.entered.contains o with
    | true =>
      rw [hentered] at hstep
      exact ⟨.ok [], s, hstep.bind_ok _ (.const _ _), finished_ok, hs, fun _ _ => trivial⟩
    | false =>
      rw [hentered] at hstep
      obtain ⟨r, s', hsettles, hfin, hs'⟩ := hcascades o ho s hs hentered
      cases r with
      | ok causes =>
        exact ⟨_, s', hstep.bind_ok _ (hsettles.bind_ok _ (.const _ _)), finished_ok, hs',
          fun _ _ => trivial⟩
      | error e =>
        exact ⟨.error e, s', hstep.bind_ok _ (hsettles.bind_error _),
          finished_error.mpr (finished_error.mp hfin), hs', fun _ _ => trivial⟩
  | _ => exact .pure trivial

theorem test_halts (check : Check) (site : Site) :
    Halts v env objects classes store n (fun _ => True) fun _ => test env check site := by
  refine .bind (P := fun _ => True) (.of_step fun s hs => ⟨finished_ok, hs, fun _ _ => trivial⟩)
    fun s _ => ?_
  exact .bind (P := fun _ => True) (.lift fun _ _ => trivial) fun _ _ => .pure trivial

section

variable (henv : env.configurers = v.configurers) (hclasses : ClassesOf objects classes)
  (hcascades : CascadesHalt v env objects classes store n)
include henv hclasses hcascades

theorem evaluate_halts {check : Check} {site : Site} (hsite : site.Within env objects classes)
    (hleads : ∀ source, check.leadsTo? (site.scope env) = some source → ∀ checks,
      v.Lists classes source checks → Halts v env objects classes store n (fun _ => True)
        fun d => applyAll env (Nested.ofBudget env d n) checks site) :
    Halts v env objects classes store n (fun _ => True)
      fun d => evaluate env (Nested.ofBudget env d n) check site := by
  cases hcheck : check.isComposite with
  | false =>
    simp only [evaluate_eq_test env _ hcheck]
    exact test_halts check site
  | true =>
    unfold evaluate
    cases hkind : check.kind with
    | assertValid => exact cascade_halts hcascades check hsite
    | assertConstraintSet id =>
      refine .bind (setOf_halts henv id) fun found hfound => ?_
      exact (hleads (.set id) (by simp [Check.leadsTo?, hkind]) found.checks
        ⟨found, hfound, rfl⟩).succ fun d => rfl
    | assertFieldConstraints field declaringClass =>
      cases hdeclared : (site.scope env).declared? field declaringClass with
      | none =>
        obtain ⟨name, he⟩ := referencedChecks_none hdeclared
        simp only [he]
        exact .bind (P := fun _ => False) (.lift (r := .error _) fun _ h => by cases h) fun _ h => h.elim
      | some declared =>
        obtain ⟨declaring, name⟩ := declared
        have hdeclaring := Scope.declared_mem hclasses hsite.scope hdeclared
        simp only [referencedChecks_some hdeclared, bind_assoc, pure_bind]
        refine .bind (checksOf_halts henv hdeclaring) fun checks hchecks => ?_
        obtain ⟨c, hc, hname, hchecks⟩ := hchecks
        exact (hleads (.field declaring.name name) (by simp [Check.leadsTo?, hkind, hdeclared])
          (checks.of (.field name)) ⟨c, hc, hname, checks, hchecks, rfl⟩).succ fun d => rfl
    | _ => simp [Check.isComposite, CheckKind.isComposite, hkind] at hcheck

theorem applyCheck_halts
    (hfields : ∀ later, Later v env.implementation objects classes store later →
      later.ClosedOver objects) {check : Check} {site : Site} (hsite : site.Within env objects classes)
    (hleads : ∀ p, p.Within env objects classes → p.scope env = site.scope env →
      ∀ source, check.leadsTo? (site.scope env) = some source → ∀ checks,
        v.Lists classes source checks → Halts v env objects classes store n (fun _ => True)
          fun d => applyAll env (Nested.ofBudget env d n) checks p) :
    Halts v env objects classes store n (fun _ => True)
      fun d => applyCheck env (Nested.ofBudget env d n) site check := by
  simp only [applyCheck_eq]
  refine .bind (P := fun s => Later v env.implementation objects classes store s.store)
    (.of_step fun s hs => ⟨finished_ok, hs, fun t ht => by cases ht; exact hs.later⟩) fun s hs => ?_
  refine .bind (.lift fun sites hsites => outlook_follows (hfields _ hs) hsite.value hsites)
    fun sites hfollows => .gather fun p hp => ?_
  have hp := hfollows p hp
  have hscope : p.scope env = site.scope env := Site.scope_eq hp.owner hp.root
  refine evaluate_halts henv hclasses hcascades (hsite.follows hp) fun source hsource => ?_
  exact hleads p (hsite.follows hp) hscope source (hscope ▸ hsource)

end

section

variable (henv : env.configurers = v.configurers)
  (graph : FiniteGraph v env.implementation objects classes store)
  (hrefers : ∀ scope : Scope, (∀ c, scope.cls = some c → c ∈ classes) →
    WellFounded fun target source => v.Refers classes scope source target)
include henv graph hrefers

/-- What sources of checks stand for halts, by induction along the references. -/
theorem sources_halt (hcascades : CascadesHalt v env objects classes store n) (source : CheckSource)
    {site : Site} (hsite : site.Within env objects classes) (hlists : v.Lists classes source checks) :
    Halts v env objects classes store n (fun _ => True)
      fun d => applyAll env (Nested.ofBudget env d n) checks site := by
  have hacc := (hrefers (site.scope env) hsite.scope).apply source
  generalize hscope : site.scope env = scope at hacc
  induction hacc generalizing checks site with
  | intro source _ ih =>
    refine .gather fun check hcheck => ?_
    refine applyCheck_halts henv graph.classesOf hcascades graph.fields hsite
      fun p hp hpscope target htarget others hothers => ?_
    exact ih target ⟨checks, hlists, check, hcheck, hscope ▸ htarget⟩ hp hothers (hpscope.trans hscope)

theorem lists_halt (hcascades : CascadesHalt v env objects classes store n) :
    ListsHalt v env objects classes store n fun d => Nested.ofBudget env d n := by
  intro checks site hsite
  refine .gather fun check _ => ?_
  exact applyCheck_halts henv graph.classesOf hcascades graph.fields hsite
    fun p hp _ source _ others hothers => sources_halt henv graph hrefers hcascades source hp hothers

/-- Cascades halt, by induction on the number of objects that have not been entered. -/
theorem cascades_halt (n : Nat) : CascadesHalt v env objects classes store n := by
  induction n with
  | zero =>
    intro o ho s hs hentered
    exact absurd (Entered.missing_pos ho hentered) (Nat.not_lt.mpr hs.missing)
  | succ n ih =>
    intro o ho s hs hentered
    have hless := Entered.missing_enter ho hentered
    obtain ⟨r, s', hsettles, hfin, hs'⟩ := visit_halts henv graph (lists_halt henv graph hrefers ih) ho hs
      (Nat.le_of_lt_succ (Nat.lt_of_lt_of_le hless hs.missing))
    exact ⟨r, s', hsettles.succ fun d => rfl, hfin, hs'.mono (Nat.le_succ n)⟩

end

-- ---------------------------------------------------------------------------
-- Requests
-- ---------------------------------------------------------------------------

/-- Requests about known objects and classes, with values over known objects. -/
def Request.Within (objects : List Object) (classes : List Class) : Request → Prop
  | .object _ o => o ∈ objects
  | .static c => c ∈ classes
  | .field o _ value => o ∈ objects ∧ value.Over objects
  | .result o _ _ value => o ∈ objects ∧ value.Over objects
  | .arguments o _ args => o ∈ objects ∧ ∀ arg ∈ args, arg.Over objects
  | .construction c _ args => c ∈ classes ∧ ∀ arg ∈ args, arg.Over objects

theorem argumentSites_over {args : List Value} (hargs : ∀ arg ∈ args, arg.Over objects)
    {member : Nat → Member} {site : Nat → Parameter → Value → Site} {parameters : List Parameter}
    (hsite : ∀ index p arg, arg.Over objects → (site index p arg).Within env objects classes) :
    ∀ entry ∈ argumentSites member site parameters args, entry.2.Within env objects classes := by
  intro entry hentry
  obtain ⟨⟨⟨p, arg⟩, index⟩, hmem, rfl⟩ := List.mem_map.mp hentry
  have hzip := (List.of_mem_zip (List.fst_mem_of_mem_zipIdx hmem)).2
  exact hsite index p arg (hargs arg hzip)

theorem steps_halt (henv : env.configurers = v.configurers)
    (graph : FiniteGraph v env.implementation objects classes store) {nested : Nat → Nested}
    (hl : ListsHalt v env objects classes store objects.length nested) {request : Request}
    (hp : request.plan = .ok plan) (hrequest : request.Within objects classes)
    (hscope : env.scope = plan.scope)
    (hs : Alive v env.implementation objects classes store objects.length s) :
    ∃ r s', Settles (fun d => plan.steps env (nested d)) s (r, s') ∧ Finished r := by
  have hhalts {m : Nat → Run (List Violation)}
      (h : Halts v env objects classes store objects.length (fun _ => True) m) :
      ∃ r s', Settles m s (r, s') ∧ Finished r := by
    obtain ⟨r, s', hsettles, hfin, -⟩ := h s hs
    exact ⟨r, s', hsettles, hfin⟩
  have howner {o : Object} (ho : o ∈ objects) := graph.classesOf.levels _ (graph.classesOf.objects o ho)
  cases request with
  | object requested o =>
    cases hp
    obtain ⟨r, s', hsettles, hfin, -⟩ := visit_halts henv graph hl hrequest hs List.countP_le_length
    exact ⟨r, s', hsettles, hfin⟩
  | static c =>
    cases hp
    refine hhalts (visitStatic_halts henv graph hl hrequest fun d hd => ?_)
    rw [hscope] at hd
    cases hd
    exact hrequest
  | field o name value =>
    simp only [Request.plan] at hp
    split at hp
    · cases hp
    · next c hc =>
      cases hp
      refine hhalts (memberSteps_halts henv hl (howner hrequest.1 c (declaring_mem hc)) _ ?_)
      intro entry hentry
      cases List.mem_singleton.mp hentry
      exact .of_owner graph.classesOf hrequest.1 hrequest.2 _ _
  | result o method arity value =>
    simp only [Request.plan] at hp
    split at hp
    · cases hp
    · next c _ hc =>
      cases hp
      refine hhalts (memberSteps_halts henv hl (howner hrequest.1 c (findMethod_mem hc)) _ ?_)
      intro entry hentry
      cases List.mem_singleton.mp hentry
      exact .of_owner graph.classesOf hrequest.1 hrequest.2 _ _
  | arguments o method args =>
    simp only [Request.plan] at hp
    split at hp
    · cases hp
    · next c _ hc =>
      cases hp
      refine hhalts (memberSteps_halts henv hl (howner hrequest.1 c (findMethod_mem hc)) _ ?_)
      exact argumentSites_over hrequest.2 fun _ _ _ harg =>
        .of_owner graph.classesOf hrequest.1 harg _ _
  | construction c constructor args =>
    simp only [Request.plan] at hp
    split at hp
    · cases hp
    · split at hp
      · cases hp
      · cases hp
        refine hhalts (memberSteps_halts henv hl hrequest.1 _ ?_)
        refine argumentSites_over hrequest.2 fun _ _ _ harg => ⟨harg, fun d hd => ?_⟩
        have hd : env.scope = some d := hd
        rw [hscope] at hd
        cases hd
        exact hrequest.1

/-- Every request on a finite graph is answered within some depth, the same way within any larger
one, and with cascades nested no deeper than there are objects, if no list of checks refers to others
endlessly. -/
theorem answer_terminates {world : World}
    (graph : FiniteGraph v world.implementation objects classes store)
    (hrefers : ∀ scope : Scope, (∀ c, scope.cls = some c → c ∈ classes) →
      WellFounded fun target source => v.Refers classes scope source target)
    (request : Request) (hrequest : request.Within objects classes) :
    ∃ answer : Validator.Outcome, Finished answer.1 ∧ ∃ bound, ∀ depth, bound ≤ depth →
      v.answer world depth store request = answer ∧
        v.answerWithin world objects.length depth store request = answer := by
  simp only [answer_eq, Validator.answerWithin]
  cases hp : request.plan with
  | error e =>
    refine ⟨v.refuse e store, finished_error.mpr (by simp), 0, fun _ _ => ⟨rfl, rfl⟩⟩
  | ok plan =>
    let env := v.environment world plan.requested plan.scope
    have graph : FiniteGraph v env.implementation objects classes store := graph
    have henv : env.configurers = v.configurers := rfl
    have hcascades := cascades_halt henv graph hrefers objects.length
    obtain ⟨r, s', ⟨bound, hsettles⟩, hfin⟩ := steps_halt henv graph
      (lists_halt henv graph hrefers hcascades) hp hrequest rfl
      ⟨.start, .start v classes plan.owner store, List.countP_le_length⟩
    have hwithin (depth : Nat) (hdepth : bound ≤ depth) :
        plan.perform v world (Nested.ofBudget · depth objects.length) store =
          v.conclude plan.target (r, s') := by
      rw [Plan.perform_eq, ← hsettles depth hdepth]
    refine ⟨v.conclude plan.target (r, s'), finished_wrap.mpr hfin, bound, fun depth hdepth => ⟨?_, ?_⟩⟩
    · rw [← hwithin depth hdepth]
      refine Plan.perform_within hp v world store (fun env => ofBudget_within env depth _) ?_
      rw [hwithin depth hdepth]
      exact finished_wrap.mpr hfin
    · exact hwithin depth hdepth

theorem ring_statics (field : String) (value : Value) :
    ∀ c ∈ [node], c.getStatic field ring = .ok value → value.Over ringObjects := by
  intro c hc hget
  cases List.mem_singleton.mp hc
  have hnone : node.staticField? field = none := by
    unfold Class.staticField?
    cases hfound : node.field? field with
    | none => rfl
    | some f =>
      have hmem : f ∈ node.fields := List.mem_of_find?_eq_some hfound
      simp only [node, List.mem_cons, List.not_mem_nil, or_false] at hmem
      rcases hmem with rfl | rfl <;> rfl
  simp [Class.getStatic, hnone] at hget

theorem ring_finite (implementation : Implementation) :
    FiniteGraph ringValidator implementation ringObjects [node] ring := by
  have hstatic (method : String) : ¬ ringValidator.CallsStatic [node] method := by
    rintro ⟨c, hc, checks, hchecks, hmethod⟩
    cases List.mem_singleton.mp hc
    cases hchecks
    cases hmethod
  have hlater {later : Store} (h : Later ringValidator implementation ringObjects [node] ring later) :
      later = ring := by
    cases h with
    | start => rfl
    | getter _ _ hcalls => exact absurd hcalls (ring_calls _)
    | staticGetter _ _ hcalls => exact absurd hcalls (hstatic _)
  exact ⟨ring_classesOf, fun later h => hlater h ▸ ring_closed,
    fun later h c hc field value hget => ring_statics field value c hc (hlater h ▸ hget),
    fun _ _ _ _ method hcalls => absurd hcalls (ring_calls method),
    fun _ _ _ _ method hcalls => absurd hcalls (hstatic method)⟩

theorem ring_refers (scope : Scope) :
    WellFounded fun target source => ringValidator.Refers [node] scope source target := by
  have hset (id : String) (target : CheckSource) : ¬ ringValidator.Refers [node] scope (.set id) target := by
    rintro ⟨checks, ⟨found, hfound, rfl⟩, check, hcheck, hleads⟩
    have hchecks : found.checks = [{ kind := .notNull }] := by
      rw [Validator.found, ConstraintSets.found_eq] at hfound
      by_cases hid : "text" = id
      · simp [ringValidator, Table.get?, Table.getEntry, hid] at hfound
        rw [← hfound]
      · simp [ringValidator, Table.get?, Table.getEntry, hid, ConstraintSet.ofConfigurers] at hfound
    rw [hchecks] at hcheck
    cases List.mem_singleton.mp hcheck
    cases hleads
  have hfield {className field : String} {target : CheckSource}
      (h : ringValidator.Refers [node] scope (.field className field) target) : target = .set "text" := by
    obtain ⟨checks, ⟨c, hc, -, compiled, hcompiled, rfl⟩, check, hcheck, hleads⟩ := h
    cases List.mem_singleton.mp hc
    have hcompiled : compiled = nodeChecks := by cases hcompiled; rfl
    subst hcompiled
    by_cases hnext : field = "next"
    · subst hnext
      cases List.mem_singleton.mp hcheck
      cases hleads
    · by_cases hlabel : field = "label"
      · subst hlabel
        cases List.mem_singleton.mp hcheck
        cases hleads
        rfl
      · simp [ClassChecks.of, ClassChecks.registered, nodeChecks, Table.get?, Table.getEntry,
          Ne.symm hnext, Ne.symm hlabel] at hcheck
  refine ⟨fun source => ⟨source, fun target h => ?_⟩⟩
  cases source with
  | set id => exact absurd h (hset id target)
  | field className field =>
    rw [hfield h]
    exact ⟨_, fun other h => absurd h (hset "text" other)⟩

theorem answer_terminates_ring :
    FiniteGraph ringValidator stillWorld.implementation ringObjects [node] ring ∧
      (∀ scope, (∀ c, scope.cls = some c → c ∈ [node]) →
        WellFounded fun target source => ringValidator.Refers [node] scope source target) ∧
      (Request.object none ⟨0, node⟩).Within ringObjects [node] ∧
      ∃ answer : Validator.Outcome, Finished answer.1 ∧ ∃ bound, ∀ depth, bound ≤ depth →
        ringValidator.answer stillWorld depth ring (.object none ⟨0, node⟩) = answer ∧
          ringValidator.answerWithin stillWorld 2 depth ring (.object none ⟨0, node⟩) = answer := by
  have hrefers : ∀ scope : Scope, (∀ c, scope.cls = some c → c ∈ [node]) →
      WellFounded fun target source => ringValidator.Refers [node] scope source target :=
    fun scope _ => ring_refers scope
  have hrequest : (Request.object none ⟨0, node⟩).Within ringObjects [node] := List.mem_cons_self
  exact ⟨ring_finite _, hrefers, hrequest, answer_terminates (ring_finite _) hrefers _ hrequest⟩

end ObjectConstraints
