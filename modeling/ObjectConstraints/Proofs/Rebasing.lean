import ObjectConstraints.Proofs.Depth
import ObjectConstraints.Proofs.ObjectGraph
import ObjectConstraints.Proofs.References

/-!
# Checks at another member

Checks that do not ask where a value stands find the same for it at another member
(`ofDepth_moves`): the same violations, except that the member they name is the other one, or the
same failure, except for the context it quotes. Only two kinds of checks do ask: references to the
field that the context stands for, and predicates that are given the context.
-/

namespace ObjectConstraints

open Traversal

-- ---------------------------------------------------------------------------
-- Positions
-- ---------------------------------------------------------------------------

/-- The same position inside of another member. -/
def Context.rebase (context root : Context) : Context :=
  match context with
  | .element parent index => .element (parent.rebase root) index
  | .mapKey parent index => .mapKey (parent.rebase root) index
  | .mapValue parent key => .mapValue (parent.rebase root) key
  | _ => root

/-- The same violation of the value at another member, with the message that its template gives
there. -/
def Violation.rebase (violation : Violation) (root : Context) : Violation :=
  let context := violation.context.rebase root
  { violation with
    context
    message := Message.render violation.template (("context", context.text) ::
      ("invalidValue", violation.value.text) :: violation.check.kind.placeholders) }

namespace Site

/-- The same value at another member. -/
def rebase (site : Site) (root : Context) : Site := { site with context := site.context.rebase root }

variable {targets : Targets} {owner : Option Object} {root : Context}

theorem own_rebase (site : Site) :
    (site.rebase root).own targets = (site.own targets).map (·.rebase root) := by
  have hsame : (site.rebase root).isContainer = site.isContainer := rfl
  rw [own, own, hsame]
  split <;> rfl

mutual

theorem reached_rebase (declared : Kind) (context : Context) : (value : Value) →
    reached targets owner declared (context.rebase root) value =
      (reached targets owner declared context value).map (·.rebase root)
  | .list items => by
    have hown := @own_rebase targets root ⟨owner, .list items, declared, context⟩
    simp only [reached, List.map_append, ← hown, reachedItems_rebase context 0 items]
    split <;> rfl
  | .array items => by
    have hown := @own_rebase targets root ⟨owner, .array items, declared, context⟩
    simp only [reached, List.map_append, ← hown, reachedItems_rebase context 0 items]
    split <;> rfl
  | .map entries => by
    have hown := @own_rebase targets root ⟨owner, .map entries, declared, context⟩
    simp only [reached, List.map_append, ← hown, reachedKeys_rebase context 0 entries,
      reachedValues_rebase context entries]
    split <;> split <;> rfl
  | .null | .bool _ | .int _ | .float _ | .string _ | .instant _ | .object _ =>
    own_rebase ⟨owner, _, declared, context⟩

theorem reachedItems_rebase (context : Context) (index : Nat) : (items : List Value) →
    reachedItems targets owner (context.rebase root) index items =
      (reachedItems targets owner context index items).map (·.rebase root)
  | [] => rfl
  | item :: rest => by
    have hitem := reached_rebase .any (.element context index) item
    have hrest := reachedItems_rebase context (index + 1) rest
    simp only [reachedItems, List.map_append, ← hitem, ← hrest, Context.rebase]

theorem reachedKeys_rebase (context : Context) (index : Nat) : (entries : List (Value × Value)) →
    reachedKeys targets owner (context.rebase root) index entries =
      (reachedKeys targets owner context index entries).map (·.rebase root)
  | [] => rfl
  | (key, _) :: rest => by
    have hkey := reached_rebase .any (.mapKey context index) key
    have hrest := reachedKeys_rebase context (index + 1) rest
    simp only [reachedKeys, List.map_append, ← hkey, ← hrest, Context.rebase]

theorem reachedValues_rebase (context : Context) : (entries : List (Value × Value)) →
    reachedValues targets owner (context.rebase root) entries =
      (reachedValues targets owner context entries).map (·.rebase root)
  | [] => rfl
  | (key, value) :: rest => by
    have hvalue := reached_rebase .any (.mapValue context key.text) value
    have hrest := reachedValues_rebase context rest
    simp only [reachedValues, List.map_append, ← hvalue, ← hrest, Context.rebase]

end

theorem positions_rebase (site : Site) :
    (site.rebase root).positions targets = (site.positions targets).map (·.rebase root) :=
  reached_rebase site.declared site.context site.value

end Site

theorem violation_rebase (env : Environment) (check : Check) (site : Site) (root : Context)
    (causes : List Violation) :
    violation env check (site.rebase root) causes = (violation env check site causes).rebase root :=
  rfl

theorem outlook_rebase (env : Environment) (store : Store) (check : Check) (site : Site)
    (root : Context) :
    outlook env store check (site.rebase root) =
      (outlook env store check site).map fun sites => sites.map (·.rebase root) := by
  have hactive : check.isActive env.languages (site.rebase root).owner (site.rebase root).value store =
      check.isActive env.languages site.owner site.value store := rfl
  unfold outlook
  rw [hactive]
  split
  · rfl
  · rcases check.isActive env.languages site.owner site.value store with e | _ | _
    · rfl
    · rfl
    · cases check.target with
      | none => exact congrArg Except.ok (Site.positions_rebase site)
      | some path =>
        have hpath : TargetPath.navigate path store (site.rebase root).value =
            TargetPath.navigate path store site.value := rfl
        simp only [hpath]
        rcases TargetPath.navigate path store site.value with e | _ | value
        · rfl
        · rfl
        · exact congrArg Except.ok (Site.positions_rebase { site with value, declared := .any })

-- ---------------------------------------------------------------------------
-- Checks that do not ask for the member
-- ---------------------------------------------------------------------------

/-- Whether a check is neither a reference to the field that the context stands for nor a predicate
whose answer depends on the context. -/
structure Check.IgnoresContext (check : Check) : Prop where
  reference : ∀ declaringClass, check.kind ≠ .assertFieldConstraints none declaringClass
  predicate : ∀ predicate, check.kind = .custom predicate → ∀ owner value context context' store,
    predicate.test owner value context store = predicate.test owner value context' store

/-- The checks that a list for objects of a class contains: its own ones, and those of the sets and of
the fields it refers to. The lists of a field are known by the name of the class that declares it. -/
inductive Validator.Contains (v : Validator) (c : Class) : List Check → Check → Prop
  | own {checks check} : check ∈ checks → v.Contains c checks check
  | set {checks check reference id} {found : ConstraintSet} : reference ∈ checks →
      reference.kind = .assertConstraintSet id → v.found id = .ok found →
      v.Contains c found.checks check → v.Contains c checks check
  | field {checks check reference field declaringClass} {declaring d : Class} {compiled : ClassChecks} :
      reference ∈ checks → reference.kind = .assertFieldConstraints (some field) declaringClass →
      Scope.declared? ⟨some c, none⟩ (some field) declaringClass = some (declaring, field) →
      d.name = declaring.name → (v.checksOf d).1 = .ok compiled →
      v.Contains c (compiled.of (.field field)) check → v.Contains c checks check

/-- Whether no check that a list contains asks for the member. -/
def Validator.IgnoresContext (v : Validator) (c : Class) (checks : List Check) : Prop :=
  ∀ check, v.Contains c checks check → check.IgnoresContext

/-- Lists that lead on to no other list and have no predicates. -/
theorem Validator.ignoresContext_of_kinds {v : Validator} {c : Class} {checks : List Check}
    {kinds : List CheckKind} (h : checks.map (·.kind) = kinds)
    (hkinds : ∀ kind ∈ kinds, (∀ id, kind ≠ .assertConstraintSet id) ∧
      (∀ field declaringClass, kind ≠ .assertFieldConstraints field declaringClass) ∧
      ∀ predicate, kind ≠ .custom predicate) : v.IgnoresContext c checks := by
  have hplain {check : Check} (hmem : check ∈ checks) := hkinds _ (h ▸ List.mem_map_of_mem hmem)
  intro check hcheck
  cases hcheck with
  | own hmem =>
    obtain ⟨-, hreference, hcustom⟩ := hplain hmem
    exact ⟨hreference none, fun predicate hkind => absurd hkind (hcustom predicate)⟩
  | set hmem hkind => exact absurd hkind ((hplain hmem).1 _)
  | field hmem hkind => exact absurd hkind ((hplain hmem).2.1 _ _)

theorem Check.IgnoresContext.isSatisfied {check : Check} (h : check.IgnoresContext)
    (languages : Languages) (now : Instant) (owner : Option Object) (value : Value)
    (context context' : Context) (store : Store) :
    check.isSatisfied languages now owner value context' store =
      check.isSatisfied languages now owner value context store := by
  unfold Check.isSatisfied
  split
  · rfl
  · rfl
  · rfl
  · next predicate hkind => rw [h.predicate predicate hkind owner value context' context store]
  · rfl

-- ---------------------------------------------------------------------------
-- Tables of a validator
-- ---------------------------------------------------------------------------

/-- A state in which nothing but what the validator has for classes and sets can be looked up. -/
structure Stems (v : Validator) (s : RunState) : Prop where
  checks : ∀ c checks, (s.compiled.resolve c v.configurers).1 = .ok checks →
    ∃ d, d.name = c.name ∧ (v.checksOf d).1 = .ok checks
  sets : ∀ id, s.sets.found v.configurers id = v.found id

namespace Stems

variable {v : Validator}

theorem start (v : Validator) (owner : Option Object) (store : Store) : Stems v (v.start owner store) :=
  ⟨fun c _ h => ⟨c, rfl, h⟩, fun _ => rfl⟩

theorem checksOf (h : Stems v s) (c : Class) :
    Stems v { s with compiled := (s.compiled.resolve c v.configurers).2 } := by
  refine ⟨fun other checks hchecks => ?_, h.sets⟩
  cases hresult : (s.compiled.resolve c v.configurers).1 with
  | error e => exact h.checks other checks (CompiledChecks.resolve_retry hresult ▸ hchecks)
  | ok found =>
    by_cases hname : other.name = c.name
    · have hsame := CompiledChecks.resolve_namesake hname hresult
      obtain ⟨d, hd, hfound⟩ := h.checks c found hresult
      exact ⟨d, hd.trans hname.symm, hfound.trans (hsame.symm.trans hchecks)⟩
    · exact h.checks other checks (CompiledChecks.resolve_other hname ▸ hchecks)

theorem setOf (h : Stems v s) {id : String} {after : ConstraintSets}
    (hset : s.sets.resolve id v.configurers = .ok (resolved, after)) :
    Stems v { s with sets := after } :=
  ⟨h.checks, fun other => (ConstraintSets.found_resolve hset other).trans (h.sets other)⟩

section

variable {env : Environment} (he : env.configurers = v.configurers)
include he

theorem exec_checksOf (h : Stems v s) (c : Class) : Stems v ((Run.checksOf env c).exec s).2 := by
  rw [Run.exec_checksOf, he]
  exact h.checksOf c

theorem exec_checksOf_ok (h : Stems v s) (hrun : (Run.checksOf env c).exec s = (.ok compiled, t)) :
    ∃ d, d.name = c.name ∧ (v.checksOf d).1 = .ok compiled := by
  obtain ⟨hresolved, -⟩ := Run.exec_checksOf_ok.mp hrun
  exact h.checks c compiled (he ▸ hresolved)

theorem exec_setOf (h : Stems v s) (id : String) : Stems v ((Run.setOf env id).exec s).2 := by
  rw [Run.exec_setOf, he]
  cases hset : s.sets.resolve id v.configurers with
  | ok found => exact h.setOf hset
  | error e => exact h

theorem exec_setOf_ok {id : String} (h : Stems v s)
    (hrun : (Run.setOf env id).exec s = (.ok found, t)) : v.found id = .ok found := by
  obtain ⟨sets, hset, -⟩ := Run.exec_setOf_ok.mp hrun
  rw [← h.sets id]
  exact ConstraintSets.found_ok.mpr ⟨sets, he ▸ hset⟩

end

end Stems

/-- Runs after which nothing but what the validator has can be looked up either. -/
def stemming (v : Validator) (env : Environment) (he : env.configurers = v.configurers) :
    Simulation Unit Unit env env Eq Eq where
  Rel Q m m' := ∀ s, Stems v s → Stems v ((m ()).exec s).2 ∧ Ends Q Eq ((m ()).exec s) ((m' ()).exec s)
  pure_rel h _ hs := ⟨hs, .ok h rfl⟩
  bind_rel {α β γ δ Q R m m' f f'} hm hf s hs := by
    obtain ⟨ht, hend⟩ := hm s hs
    rw [Run.exec_bind, Run.exec_bind]
    generalize (m ()).exec s = x at ht hend
    generalize (m' ()).exec s = y at hend
    cases hend with
    | ok hq heq =>
      subst heq
      exact hf _ _ hq _ ht
    | error e heq =>
      subst heq
      exact ⟨ht, .error e rfl⟩
  fail_rel e _ hs := ⟨hs, .error _ rfl⟩
  get_rel _ hs := ⟨hs, .ok ⟨rfl, rfl⟩ rfl⟩
  access_rel action s hs := by
    rw [Run.exec_access]
    refine ⟨⟨hs.checks, hs.sets⟩, ?_⟩
    cases (action s.store).1 with
    | ok a => exact .ok rfl rfl
    | error e => exact .error _ rfl
  enter_rel o s hs := ⟨⟨hs.checks, hs.sets⟩, .ok rfl rfl⟩
  checksOf_rel c s hs := by
    rw [Run.exec_checksOf, he]
    refine ⟨hs.checksOf c, ?_⟩
    cases (s.compiled.resolve c v.configurers).1 with
    | ok checks => exact .ok ⟨rfl, rfl, rfl, rfl, rfl, rfl, fun _ => rfl⟩ rfl
    | error e => exact .error _ rfl
  setOf_rel id s hs := by
    rw [Run.exec_setOf, he]
    cases hset : s.sets.resolve id v.configurers with
    | ok found => exact ⟨hs.setOf hset, .ok rfl rfl⟩
    | error e => exact ⟨hs, .error _ rfl⟩

theorem stemming_ofDepth (v : Validator) (env : Environment) (he : env.configurers = v.configurers)
    (d : Nat) :
    (stemming v env he).RelNested (fun _ => Nested.ofDepth env d) (fun _ => Nested.ofDepth env d) := by
  induction d with
  | zero =>
    exact ⟨fun o s hs => ⟨hs, .error _ rfl⟩, fun checks checks' site _ s hs => ⟨hs, .error _ rfl⟩⟩
  | succ d ih =>
    have hlists : (stemming v env he).RelLists (fun _ => Nested.ofDepth env d)
        (fun _ => Nested.ofDepth env d) := by
      rintro checks _ site rfl
      refine (stemming v env he).gather_rel fun check _ =>
        Simulation.applyCheck_rel (.refl env) ih ⟨rfl, ?_⟩ rfl site
      intro site causes causes' hcauses
      rw [List.forall₂_eq_eq_eq] at hcauses
      rw [hcauses]
    exact ⟨fun o => Simulation.visit_rel (.refl env) hlists o, hlists⟩

/-- Visiting an object looks up nothing but what the validator has. -/
theorem visit_stems {v : Validator} {env : Environment} (he : env.configurers = v.configurers)
    (d : Nat) (o : Object) (hs : Stems v s) : Stems v (((Nested.ofDepth env d).visit o).exec s).2 :=
  ((stemming_ofDepth v env he d).visit o s hs).1

-- ---------------------------------------------------------------------------
-- Runs at two members
-- ---------------------------------------------------------------------------

/-- The same failure, or that of the same reference at a position inside of another member. -/
inductive ValidationError.Requoted (root : Context) : ValidationError → ValidationError → Prop
  | same (e) : Requoted root e e
  | quoted (field : String) (context : Context) :
      Requoted root (.fieldNotResolved field context.text)
        (.fieldNotResolved field (context.rebase root).text)

/-- Ends of runs at a member and at another one: alike, but for the member. -/
inductive Moved (root : Context) :
    Except Stop (List Violation) × RunState → Except Stop (List Violation) × RunState → Prop
  | ok (violations s) : Moved root (.ok violations, s) (.ok (violations.map (·.rebase root)), s)
  | failed (s) : ValidationError.Requoted root e e' →
      Moved root (.error (.failed e), s) (.error (.failed e'), s)
  | tooDeep (s) : Moved root (.error .tooDeep, s) (.error .tooDeep, s)

theorem Moved.error (root : Context) (e : Stop) (s : RunState) :
    Moved root (.error e, s) (.error e, s) := by
  cases e with
  | failed e => exact .failed s (.same e)
  | tooDeep => exact .tooDeep s

/-- Runs that end alike but for the member, where nothing but what the validator has can be looked
up. -/
def Moves (v : Validator) (root : Context) (m m' : Run (List Violation)) : Prop :=
  ∀ s, Stems v s → Stems v (m.exec s).2 ∧ Moved root (m.exec s) (m'.exec s)

namespace Moves

variable {v : Validator} {root : Context}

theorem pure (violations : List Violation) :
    Moves v root (pure violations) (Pure.pure (violations.map (·.rebase root))) :=
  fun s hs => ⟨hs, .ok violations s⟩

theorem bind {α : Type} {m : Run α} {f f' : α → Run (List Violation)}
    (hm : ∀ s, Stems v s → Stems v (m.exec s).2)
    (hf : ∀ s a t, Stems v s → m.exec s = (.ok a, t) → Moves v root (f a) (f' a)) :
    Moves v root (m >>= f) (m >>= f') := by
  intro s hs
  have ht := hm s hs
  rw [Run.exec_bind, Run.exec_bind]
  rcases hexec : m.exec s with ⟨e | a, t⟩
  · rw [hexec] at ht
    exact ⟨ht, .error root e t⟩
  · rw [hexec] at ht
    exact hf s a t hs hexec t ht

theorem gather {α : Type} {step step' : α → Run (List Violation)} {l : List α}
    (h : ∀ a ∈ l, Moves v root (step a) (step' a)) :
    Moves v root (Run.gather step l) (Run.gather step' l) := by
  induction l with
  | nil => exact pure []
  | cons a rest ih =>
    intro s hs
    obtain ⟨ht, hfirst⟩ := h a List.mem_cons_self s hs
    simp only [Run.gather, Run.exec_bind]
    generalize (step a).exec s = x at ht hfirst
    generalize (step' a).exec s = y at hfirst
    cases hfirst with
    | failed t he => exact ⟨ht, .failed t he⟩
    | tooDeep t => exact ⟨ht, .tooDeep t⟩
    | ok front t =>
      obtain ⟨hu, hrest⟩ := ih (fun b hb => h b (List.mem_cons_of_mem _ hb)) t ht
      simp only
      generalize (Run.gather step rest).exec t = x at hu hrest
      generalize (Run.gather step' rest).exec t = y at hrest
      cases hrest with
      | failed u he => exact ⟨hu, .failed u he⟩
      | tooDeep u => exact ⟨hu, .tooDeep u⟩
      | ok back u =>
        simp only [← List.map_append]
        exact ⟨hu, .ok _ u⟩

end Moves

theorem Scope.declared?_name {scope : Scope} {name : String}
    (h : scope.declared? (some name) declaringClass = some (declaring, field)) : field = name := by
  simp only [declared?, Option.some_or, Option.bind_some, Option.bind_eq_some_iff,
    Option.map_eq_some_iff, Prod.mk.injEq] at h
  obtain ⟨_, _, _, _, _, rfl⟩ := h
  rfl

theorem referencedChecks_unresolved {env : Environment} {site : Site} {field : String}
    (h : (site.scope env).declared? (some field) declaringClass = none) :
    referencedChecks env site (some field) declaringClass =
      Run.fail (.fieldNotResolved field site.context.text) := by
  simp only [Scope.declared?, Site.scope, Option.some_or, Option.bind_some] at h
  unfold referencedChecks
  simp only [Option.some_or]
  split
  · rfl
  · next c hc =>
    simp only [hc, Option.bind_some, Option.map_eq_none_iff] at h
    rw [h]

/-- What checks lead on to moves: an object to itself, a list that ignores the member to the same list
at another one. -/
structure NestedMoves (v : Validator) (c : Class) (root : Context) (nested : Nested) : Prop where
  visit : ∀ o s, Stems v s → Stems v ((nested.visit o).exec s).2
  apply : ∀ checks site, v.IgnoresContext c checks → site.owner.map (·.cls) = some c →
    Moves v root (nested.apply checks site) (nested.apply checks (site.rebase root))

section

variable {v : Validator} {env : Environment} {c : Class} {root : Context} {nested : Nested}
  (he : env.configurers = v.configurers) (hn : NestedMoves v c root nested)
include hn

theorem cascade_moves (check : Check) (site : Site) :
    Moves v root (cascade env nested check site) (cascade env nested check (site.rebase root)) := by
  have hvalue : (site.rebase root).value = site.value := rfl
  unfold cascade
  rw [hvalue]
  cases site.value with
  | object target =>
    refine .bind (fun s hs => hs) fun s entered t _ _ => ?_
    cases entered with
    | true => exact .pure []
    | false =>
      refine .bind (hn.visit target) fun s causes t _ _ => ?_
      cases causes with
      | nil => exact .pure []
      | cons first rest =>
        rw [violation_rebase]
        exact .pure [violation env check site (first :: rest)]
  | _ => exact .pure []

omit hn in
theorem test_moves {check : Check} (h : check.IgnoresContext) (site : Site) :
    Moves v root (test env check site) (test env check (site.rebase root)) := by
  refine .bind (fun s hs => hs) fun s state t _ _ => ?_
  have hsame := h.isSatisfied env.languages env.now site.owner site.value site.context
    (site.rebase root).context state.store
  show Moves v root _ (do
    let satisfied ← Run.lift (check.isSatisfied env.languages env.now site.owner site.value
      (site.rebase root).context state.store)
    _)
  rw [hsame]
  refine .bind (fun s hs => by rw [Run.exec_lift]; exact hs) fun s satisfied t _ _ => ?_
  cases satisfied with
  | true => exact .pure []
  | false =>
    rw [violation_rebase]
    exact .pure [violation env check site []]

include he

theorem reference_moves {checks : List Check} {check : Check} {name : String}
    (h : v.IgnoresContext c checks) (hcheck : check ∈ checks)
    (hkind : check.kind = .assertFieldConstraints (some name) declaringClass) (site : Site)
    (howner : site.owner.map (·.cls) = some c) :
    Moves v root
      (do let found ← referencedChecks env site (some name) declaringClass; nested.apply found site)
      (do
        let found ← referencedChecks env (site.rebase root) (some name) declaringClass
        nested.apply found (site.rebase root)) := by
  have hscope (p : Site) (hp : p.owner.map (·.cls) = some c) :
      (p.scope env).declared? (some name) declaringClass =
        Scope.declared? ⟨some c, none⟩ (some name) declaringClass := by
    simp only [Site.scope, hp]
    rfl
  have hsite := hscope site howner
  have hsite' := hscope (site.rebase root) howner
  cases hdeclared : Scope.declared? ⟨some c, none⟩ (some name) declaringClass with
  | none =>
    rw [hdeclared] at hsite hsite'
    simp only [referencedChecks_unresolved hsite, referencedChecks_unresolved hsite']
    exact fun s hs => ⟨hs, .failed s (.quoted name site.context)⟩
  | some declared =>
    obtain ⟨declaring, field⟩ := declared
    rw [hdeclared] at hsite hsite'
    simp only [referencedChecks_some hsite, referencedChecks_some hsite', bind_assoc, pure_bind]
    refine .bind (fun s hs => hs.exec_checksOf he declaring) fun s compiled t hs hcompiled => ?_
    obtain ⟨d, hname, hd⟩ := hs.exec_checksOf_ok he hcompiled
    obtain rfl := Scope.declared?_name hdeclared
    exact hn.apply _ site
      (fun other hother => h other (.field hcheck hkind hdeclared hname hd hother)) howner

theorem evaluate_moves {checks : List Check} {check : Check} (h : v.IgnoresContext c checks)
    (hcheck : check ∈ checks) (site : Site) (howner : site.owner.map (·.cls) = some c) :
    Moves v root (evaluate env nested check site) (evaluate env nested check (site.rebase root)) := by
  have hignores := h check (.own hcheck)
  cases hcomposite : check.isComposite with
  | false =>
    rw [evaluate_eq_test env nested hcomposite, evaluate_eq_test env nested hcomposite]
    exact test_moves hignores site
  | true =>
    unfold evaluate
    cases hkind : check.kind with
    | assertValid => exact cascade_moves hn check site
    | assertConstraintSet id =>
      refine .bind (fun s hs => hs.exec_setOf he id) fun s found t hs hfound => ?_
      have hset := hs.exec_setOf_ok he hfound
      exact hn.apply _ site (fun other hother => h other (.set hcheck hkind hset hother)) howner
    | assertFieldConstraints field declaringClass =>
      cases field with
      | none => exact absurd hkind (hignores.reference declaringClass)
      | some name => exact reference_moves he hn h hcheck hkind site howner
    | _ => simp [Check.isComposite, CheckKind.isComposite, hkind] at hcomposite

theorem applyAll_moves {checks : List Check} (h : v.IgnoresContext c checks) (site : Site)
    (howner : site.owner.map (·.cls) = some c) :
    Moves v root (applyAll env nested checks site) (applyAll env nested checks (site.rebase root)) := by
  refine .gather fun check hcheck => ?_
  simp only [applyCheck_eq, outlook_rebase]
  refine .bind (fun s hs => hs) fun s state t _ hget => ?_
  cases hsites : outlook env state.store check site with
  | error e => exact fun s hs => ⟨hs, .failed s (.same e)⟩
  | ok sites =>
    simp only [Except.map, Run.lift, pure_bind, Run.gather_map]
    exact .gather fun p hp => evaluate_moves he hn h hcheck p (outlook_owner hsites p hp ▸ howner)

end

/-- However deep checks lead, those that ignore the member find the same at another one. -/
theorem ofDepth_moves {v : Validator} {env : Environment} {c : Class} {root : Context}
    (he : env.configurers = v.configurers) (d : Nat) : NestedMoves v c root (Nested.ofDepth env d) := by
  induction d with
  | zero => exact ⟨fun o s hs => hs, fun checks site _ _ s hs => ⟨hs, .tooDeep s⟩⟩
  | succ d ih =>
    exact ⟨fun o s hs => visit_stems he (d + 1) o hs, fun checks site h => applyAll_moves he ih h site⟩

end ObjectConstraints
