import ObjectConstraints.Proofs.Fallbacks
import ObjectConstraints.Proofs.Heaps
import ObjectConstraints.Proofs.Wrapping

/-!
# Legal runs

What every stretch of a run keeps where methods do nothing but create and assign (`Safe`). Fields that
are constrained can be read, so that it does not matter what is done where they cannot; the store
remains one that creations and assignments lead to, and what has been looked up is what the validator
has; an error for lack of a field comes from the body of a method or from a target path; violations are
told of the members they were found at (`Request.Tells`).
-/

namespace ObjectConstraints

open Traversal

-- ---------------------------------------------------------------------------
-- Errors that are not about access
-- ---------------------------------------------------------------------------

/-- Whether a result is no error about access to a member. -/
def FailsElsewhere {α : Type} (r : Except ValidationError α) : Prop :=
  ∀ e, r = .error e → ∀ reason, e.rootCause ≠ .access reason

namespace FailsElsewhere

variable {α β : Type}

theorem error {e : ValidationError} (h : ∀ reason, e.rootCause ≠ .access reason) :
    FailsElsewhere (.error e : Except ValidationError α) := by
  rintro _ ⟨⟩
  exact h

theorem ok (a : α) : FailsElsewhere (.ok a) := by
  rintro _ ⟨⟩

theorem mapError {ε : Type} {f : ε → ValidationError} {r : Except ε α}
    (h : ∀ e reason, (f e).rootCause ≠ .access reason) : FailsElsewhere (r.mapError f) := by
  intro e he
  obtain ⟨reason, -, rfl⟩ := Run.mapError_error.mp he
  exact h reason

theorem map {r : Except ValidationError α} (h : FailsElsewhere r) (f : α → β) :
    FailsElsewhere (r.map f) := by
  cases r with
  | ok a => exact ok (f a)
  | error e => exact error (h e rfl)

theorem bind {r : Except ValidationError α} {f : α → Except ValidationError β} (h : FailsElsewhere r)
    (hf : ∀ a, FailsElsewhere (f a)) : FailsElsewhere (r >>= f) := by
  cases r with
  | ok a => exact hf a
  | error e => exact error (h e rfl)

theorem foldlM {f : β → α → Except ValidationError β} (h : ∀ b a, FailsElsewhere (f b a))
    (l : List α) (b : β) : FailsElsewhere (l.foldlM f b) := by
  induction l generalizing b with
  | nil => exact ok b
  | cons a rest ih =>
    rw [List.foldlM_cons]
    exact bind (h b a) ih

theorem language (languages : Languages) (check language expression : String) (owner : Option Object)
    (value : Value) (store : Store) :
    FailsElsewhere (languages.evaluate check language expression owner value store) := by
  unfold Languages.evaluate
  split
  · exact error (by simp [ValidationError.rootCause])
  · exact mapError (by simp [ValidationError.rootCause])

theorem isActive (check : Check) (languages : Languages) (owner : Option Object) (value : Value)
    (store : Store) : FailsElsewhere (check.isActive languages owner value store) := by
  unfold Check.isActive
  split
  · exact ok true
  · exact language _ _ _ _ _ _ _

theorem isSatisfied (check : Check) (languages : Languages) (now : Instant) (owner : Option Object)
    (value : Value) (context : Context) (store : Store) :
    FailsElsewhere (check.isSatisfied languages now owner value context store) := by
  unfold Check.isSatisfied
  split
  · exact ok _
  · exact ok _
  · exact language _ _ _ _ _ _ _
  · exact mapError (by simp [ValidationError.rootCause])
  · exact ok _

theorem compile (c : Class) (configurers : List Configurer) :
    FailsElsewhere (ClassChecks.compile c configurers) := by
  refine bind (foldlM (fun checks configurer => ?_) _ _) fun checks => ?_
  · unfold ClassChecks.applyConfigurer
    split
    · exact error (by simp [ValidationError.rootCause])
    · exact ok _
    · exact mapError (by simp [ValidationError.rootCause])
  · exact mapError (by simp [ValidationError.rootCause])

theorem found (v : Validator) (id : String) : FailsElsewhere (v.found id) := by
  rw [Validator.found, ConstraintSets.found_eq]
  split
  · exact ok _
  · refine bind (foldlM (fun gathered configurer => ?_) _ _) fun gathered => ?_
    · unfold ConstraintSet.gatherFrom
      split
      · exact error (by simp [ValidationError.rootCause])
      · exact ok _
      · exact ok _
    · split
      · exact ok _
      · exact error (by simp [ValidationError.rootCause])

theorem checksOf (v : Validator) (c : Class) : FailsElsewhere (v.checksOf c).1 := by
  change FailsElsewhere (v.compiled.resolve c v.configurers).1
  rcases v.compiled.get?_cases c.name with ⟨checks, hchecks⟩ | hnone
  · rw [CompiledChecks.resolve_of_get? hchecks]
    exact ok checks
  · rw [CompiledChecks.resolve_of_ne hnone]
    exact compile c v.configurers

end FailsElsewhere

-- ---------------------------------------------------------------------------
-- What violations are told of
-- ---------------------------------------------------------------------------

/-- Whether a context stands for a member of instances of some class, or for the instances themselves. -/
inductive Universe.OnInstance (u : Universe) : Context → Prop
  | object {c : Class} : u.has c → OnInstance u (.object c.name)
  | field {c : Class} {field : String} : u.has c → c.DeclaresField false field →
      OnInstance u (.field c.name field)
  | result {c : Class} {method : String} : u.has c → c.DeclaresGetter false method →
      OnInstance u (.result c.name method)

/-- Whether a context stands for a static member of a class. -/
inductive Class.OnStatic (c : Class) : Context → Prop
  | field {field : String} : c.DeclaresField true field → OnStatic c (.field c.name field)
  | result {method : String} : c.DeclaresGetter true method → OnStatic c (.result c.name method)

/-- Whether a violation is one of an owner at a member, and what it passes on is on instances. -/
structure Universe.Tells (u : Universe) (owner : Option Object) (member : Context) (w : Violation) :
    Prop where
  owner : w.object = owner
  root : w.context.root = member
  causes : ∀ cause ∈ Violation.flattenAll w.causes, u.OnInstance cause.context.root

/-- Whether a violation is one of an object, and is on instances with all that it passes on. -/
def Universe.TellsOf (u : Universe) (o : Object) (w : Violation) : Prop :=
  w.object = some o ∧ ∀ part ∈ w.flatten, u.OnInstance part.context.root

/-- What the violations that are reported to a request are told of. -/
def Request.Tells (u : Universe) : Request → Violation → Prop
  | .object _ o, w => u.TellsOf o w
  | .static c, w => w.object = none ∧ c.OnStatic w.context.root
  | _, _ => True

theorem Violation.mem_flattenAll {part : Violation} {violations : List Violation} :
    part ∈ flattenAll violations ↔ ∃ w ∈ violations, part ∈ w.flatten := by
  induction violations with
  | nil => simp [flattenAll]
  | cons w rest ih => simp [flattenAll, ih]

theorem Universe.Tells.of {u : Universe} {o : Object} {w : Violation} (h : u.Tells (some o) member w)
    (hmember : u.OnInstance member) : u.TellsOf o w := by
  refine ⟨h.owner, fun part hpart => ?_⟩
  rw [Violation.flatten_eq] at hpart
  rcases List.mem_cons.mp hpart with rfl | hpart
  · rw [h.root]
    exact hmember
  · exact h.causes part hpart

-- ---------------------------------------------------------------------------
-- Stretches of runs
-- ---------------------------------------------------------------------------

variable {u : Universe} {v : Validator} {env : Environment} {stage later : Stage u}

/-- Whether the checks that a validator has for classes are those of members of these classes. -/
def Validator.Sound (u : Universe) (v : Validator) : Prop :=
  ∀ c, u.has c → ∀ checks, (v.checksOf c).1 = .ok checks → checks.cls = c ∧ checks.Consistent

/-- Whether a validator has a check, for a member of a class or in a set. -/
def Validator.Has (u : Universe) (v : Validator) (check : Check) : Prop :=
  (∃ c checks member, u.has c ∧ (v.checksOf c).1 = .ok checks ∧ check ∈ checks.of member) ∨
    ∃ id found, v.found id = .ok found ∧ check ∈ found.checks

/-- Whether a field is lacking on the target path of a check that a validator has. -/
def Validator.Strays (u : Universe) (v : Validator) (className field : String) : Prop :=
  ∃ (check : Check) (path : String) (now : Stage u) (store : Store) (value : Value),
    v.Has u check ∧ check.target = some path ∧ Heap u now.objects store ∧ value.Over now.objects ∧
      TargetPath.navigate path store value = .error (.access (.noSuchField className field))

/-- Whether an error is for lack of a field only where the body of a method or a target path lacks it. -/
def Explained (u : Universe) (v : Validator) (implementation : Implementation) (e : ValidationError) :
    Prop :=
  ∀ className field, e.rootCause = .access (.noSuchField className field) →
    implementation.Lacks u className field ∨ v.Strays u className field

/-- A state in a run of a validator at a stage. -/
structure Staged (v : Validator) (stage : Stage u) (s : RunState) : Prop where
  heap : Heap u stage.objects s.store
  checks : ∀ c, u.has c → (s.compiled.resolve c v.configurers).1 = (v.checksOf c).1
  sets : ∀ id, s.sets.found v.configurers id = v.found id

/-- Whether a stretch of a run ends well: at a later stage, with a result of a kind or with an error
that is explained. -/
def EndsWell {α : Type} (v : Validator) (implementation : Implementation) (P : Stage u → α → Prop)
    (stage : Stage u) (r : Except Stop α × RunState) : Prop :=
  ∃ later : Stage u, stage.objects ⊆ later.objects ∧ Staged v later r.2 ∧
    (∀ a, r.1 = .ok a → P later a) ∧ ∀ e, r.1 = .error (.failed e) → Explained u v implementation e

/-- Whether two runs go the same way from a stage on, and end well. -/
def Safe {α : Type} (v : Validator) (implementation : Implementation) (P : Stage u → α → Prop)
    (stage : Stage u) (m m' : Run α) : Prop :=
  ∀ s, Staged v stage s → m.exec s = m'.exec s ∧ EndsWell v implementation P stage (m.exec s)

/-- Whether two runs go the same way from a stage on, end well and report violations of a kind. -/
abbrev SafelyReports (v : Validator) (implementation : Implementation) (R : Violation → Prop)
    (stage : Stage u) (m m' : Run (List Violation)) : Prop :=
  Safe v implementation (fun _ violations => ∀ w ∈ violations, R w) stage m m'

theorem FailsElsewhere.explained {α : Type} {r : Except ValidationError α} (h : FailsElsewhere r)
    (implementation : Implementation) (he : r = .error e) : Explained u v implementation e :=
  fun _ _ hcause => absurd hcause (h e he _)

namespace Safe

variable {implementation : Implementation} {α β : Type} {P : Stage u → α → Prop}
  {Q : Stage u → β → Prop}

theorem of_ends {m : Run α} (h : ∀ s, Staged v stage s → EndsWell v implementation P stage (m.exec s)) :
    Safe v implementation P stage m m := fun s hs => ⟨rfl, h s hs⟩

/-- A step that changes neither the store nor what has been looked up. -/
theorem of_result {m : Run α} (r : RunState → Except ValidationError α) (after : RunState → RunState)
    (hm : ∀ s, m.exec s = ((r s).mapError .failed, after s))
    (hafter : ∀ s, Staged v stage s → Staged v stage (after s))
    (hok : ∀ s, Staged v stage s → ∀ a, r s = .ok a → P stage a)
    (herror : ∀ s, Staged v stage s → ∀ e, r s = .error e → Explained u v implementation e) :
    Safe v implementation P stage m m := by
  refine of_ends fun s hs => ?_
  rw [hm s]
  refine ⟨stage, List.Subset.refl _, hafter s hs, fun a ha => hok s hs a (Run.mapError_ok.mp ha), ?_⟩
  intro e he
  obtain ⟨reason, hreason, hsame⟩ := Run.mapError_error.mp he
  cases hsame
  exact herror s hs _ hreason

theorem pure {a : α} (h : P stage a) : Safe v implementation P stage (pure a) (pure a) :=
  of_result (fun _ => .ok a) id (fun _ => rfl) (fun _ hs => hs) (fun _ _ _ ha => by cases ha; exact h)
    fun _ _ _ he => nomatch he

theorem bind {m m' : Run α} {f f' : α → Run β} (hm : Safe v implementation P stage m m')
    (hf : ∀ later : Stage u, stage.objects ⊆ later.objects → ∀ a, P later a →
      Safe v implementation Q later (f a) (f' a)) :
    Safe v implementation Q stage (m >>= f) (m' >>= f') := by
  intro s hs
  obtain ⟨hsame, later, hlater, hstaged, hok, herror⟩ := hm s hs
  rw [Run.exec_bind, Run.exec_bind, ← hsame]
  rcases hstep : m.exec s with ⟨e | a, s'⟩ <;> rw [hstep] at hstaged hok herror
  · refine ⟨rfl, later, hlater, hstaged, nofun, fun e he => ?_⟩
    cases he
    exact herror _ rfl
  · obtain ⟨hrest, last, hlast, hend⟩ := hf later hlater a (hok a rfl) s' hstaged
    exact ⟨hrest, last, List.Subset.trans hlater hlast, hend⟩

theorem tooDeep : Safe v implementation P stage (throw .tooDeep) (throw .tooDeep) := by
  exact of_ends fun s hs => ⟨stage, List.Subset.refl _, hs, nofun, nofun⟩

theorem isEntered (o : Object) :
    Safe v implementation (fun (_ : Stage u) _ => True) stage (Run.isEntered o) (Run.isEntered o) :=
  of_result (fun s => .ok (s.entered.contains o)) id (fun _ => rfl) (fun _ hs => hs)
    (fun _ _ _ _ => trivial) fun _ _ _ he => nomatch he

theorem enter (o : Object) :
    Safe v implementation (fun (_ : Stage u) _ => True) stage (Run.enter o) (Run.enter o) :=
  of_result (fun _ => .ok ()) (fun s => { s with entered := (s.entered.enter o).2 }) (fun _ => rfl)
    (fun _ hs => ⟨hs.heap, hs.checks, hs.sets⟩) (fun _ _ _ _ => trivial) fun _ _ _ he => nomatch he

theorem unresolved (field context : String) :
    Safe v implementation P stage (Run.fail (.fieldNotResolved field context))
      (Run.fail (.fieldNotResolved field context)) :=
  of_result (fun _ => .error (.fieldNotResolved field context)) id (fun _ => rfl) (fun _ hs => hs)
    (fun _ _ _ h => nomatch h) fun _ _ e he => by
      cases he
      intro className field hcause
      cases hcause

/-- Violations of a kind are gathered by steps that each report such. -/
theorem gather {R : Violation → Prop} {step step' : α → Run (List Violation)} {l : List α}
    (h : ∀ later : Stage u, stage.objects ⊆ later.objects → ∀ a ∈ l,
      SafelyReports v implementation R later (step a) (step' a)) :
    SafelyReports v implementation R stage (Run.gather step l) (Run.gather step' l) := by
  induction l generalizing stage with
  | nil => exact pure fun _ hw => absurd hw List.not_mem_nil
  | cons a rest ih =>
    refine bind (h stage (List.Subset.refl _) a List.mem_cons_self) fun middle hmiddle front hfront => ?_
    refine bind (ih fun later hlater b hb =>
      h later (List.Subset.trans hmiddle hlater) b (List.mem_cons_of_mem _ hb)) fun _ _ back hback => ?_
    refine pure fun w hw => ?_
    exact (List.mem_append.mp hw).elim (hfront w) (hback w)

theorem mono {m m' : Run α} {P' : Stage u → α → Prop} (h : Safe v implementation P stage m m')
    (hP : ∀ later a, P later a → P' later a) : Safe v implementation P' stage m m' := by
  intro s hs
  obtain ⟨hsame, later, hlater, hstaged, hok, herror⟩ := h s hs
  exact ⟨hsame, later, hlater, hstaged, fun a ha => hP later a (hok a ha), herror⟩

theorem readOr (fallback : Fallback) {access : Store → Except AccessError Value}
    (haccess : ∀ store, Heap u stage.objects store →
      ∃ value, access store = .ok value ∧ value.Over stage.objects) :
    Safe v implementation (fun (now : Stage u) value => value.Over now.objects) stage
      (Run.readOr fallback access) (Run.read access) := by
  intro s hs
  obtain ⟨value, hvalue, hover⟩ := haccess s.store hs.heap
  have hread : (Run.read access).exec s = (.ok value, s) := Run.exec_read_ok.mpr ⟨hvalue, rfl⟩
  rw [Run.exec_readOr_ok fallback hvalue, hread]
  refine ⟨rfl, stage, List.Subset.refl _, hs, fun a ha => ?_, nofun⟩
  cases ha
  exact hover

theorem access {action : Store → Except AccessError Value × Store}
    (haction : ∀ store, Heap u stage.objects store → Accessed stage implementation (action store)) :
    Safe v implementation (fun (now : Stage u) value => value.Over now.objects) stage
      (Run.access action) (Run.access action) := by
  refine of_ends fun s hs => ?_
  obtain ⟨⟨later, hlater, hheap, hvalue⟩, hlacks⟩ := haction s.store hs.heap
  rw [Run.exec_access]
  refine ⟨later, hlater, ⟨hheap, hs.checks, hs.sets⟩, fun a ha => ?_, fun e he => ?_⟩
  · exact hvalue a (Run.mapError_ok.mp (Run.mapError_ok.mp ha))
  · obtain ⟨reason, hreason, hsame⟩ := Run.mapError_error.mp he
    cases hsame
    obtain ⟨cause, hcause, rfl⟩ := Run.mapError_error.mp hreason
    intro className field hlack
    cases hlack
    exact .inl (hlacks className field hcause)

end Safe

-- ---------------------------------------------------------------------------
-- Steps
-- ---------------------------------------------------------------------------

theorem Staged.resolve {s : RunState} (h : Staged v stage s) (hc : u.has c) :
    Staged v stage { s with compiled := (s.compiled.resolve c v.configurers).2 } := by
  refine ⟨h.heap, fun other hother => ?_, h.sets⟩
  rw [← h.checks other hother]
  cases hresult : (s.compiled.resolve c v.configurers).1 with
  | error e => exact CompiledChecks.resolve_retry hresult
  | ok checks =>
    by_cases hname : other.name = c.name
    · rw [CompiledChecks.resolve_namesake hname hresult, u.named other c hother hc hname, hresult]
    · exact CompiledChecks.resolve_other hname

/-- What a run at a stage relies on: the configuration of a validator whose checks are sound, and
methods that do nothing but create and assign. -/
structure Backed (v : Validator) (env : Environment) (stage : Stage u) : Prop where
  configurers : env.configurers = v.configurers
  sound : v.Sound u
  legal : env.implementation.Legal stage

theorem Backed.mono (h : Backed v env stage) (hsub : stage.objects ⊆ later.objects) :
    Backed v env later :=
  ⟨h.configurers, h.sound, h.legal.mono hsub⟩

namespace Backed

variable (h : Backed v env stage)
include h

theorem checksOf (hc : u.has c) :
    Safe v env.implementation (fun (_ : Stage u) checks => (v.checksOf c).1 = .ok checks) stage
      (Run.checksOf env c) (Run.checksOf env c) := by
  refine .of_result (fun s => (s.compiled.resolve c v.configurers).1)
    (fun s => { s with compiled := (s.compiled.resolve c v.configurers).2 }) (fun s => ?_)
    (fun s hs => hs.resolve hc) (fun s hs checks hchecks => ?_) fun s hs e he => ?_
  · rw [Run.exec_checksOf, h.configurers]
  · rw [← hs.checks c hc]
    exact hchecks
  · rw [hs.checks c hc] at he
    exact (FailsElsewhere.checksOf v c).explained _ he

theorem setOf (id : String) :
    Safe v env.implementation (fun (_ : Stage u) found => v.found id = .ok found) stage
      (Run.setOf env id) (Run.setOf env id) := by
  refine .of_ends fun s hs => ?_
  rw [Run.exec_setOf, h.configurers]
  have hfound := hs.sets id
  cases hset : s.sets.resolve id v.configurers with
  | error e =>
    refine ⟨stage, List.Subset.refl _, hs, nofun, fun e he => ?_⟩
    cases he
    rw [ConstraintSets.found_error.mpr hset] at hfound
    exact (FailsElsewhere.found v id).explained _ hfound.symm
  | ok answer =>
    obtain ⟨found, sets⟩ := answer
    refine ⟨stage, List.Subset.refl _, ⟨hs.heap, hs.checks, fun other => ?_⟩, fun a ha => ?_,
      nofun⟩
    · rw [← hs.sets other]
      exact ConstraintSets.found_resolve hset other
    · cases ha
      rw [← hfound]
      exact ConstraintSets.found_ok.mpr ⟨sets, hset⟩

end Backed

-- ---------------------------------------------------------------------------
-- Checks
-- ---------------------------------------------------------------------------

theorem outlook_error {site : Site} (h : outlook env store check site = .error e) :
    check.isActive env.languages site.owner site.value store = .error e ∨
      ∃ path, check.target = some path ∧ TargetPath.navigate path store site.value = .error e := by
  unfold outlook at h
  split at h
  · cases h
  · rcases hactive : check.isActive env.languages site.owner site.value store with reason | _ | _ <;>
      simp only [hactive, bind, Except.bind] at h
    · cases h
      exact .inl rfl
    · cases h
    · cases htarget : check.target with
      | none =>
        simp only [htarget] at h
        cases h
      | some path =>
        rcases hpath : TargetPath.navigate path store site.value with reason | _ | value <;>
          simp only [htarget, hpath] at h <;> cases h
        exact .inr ⟨path, rfl, hpath⟩

theorem ValidationError.Bare.rootCause {e : ValidationError} (h : e.Bare) : e.rootCause = e := by
  cases e with
  | failed => cases h
  | _ => rfl

theorem Safe.outlook {site : Site} (hcheck : v.Has u check) (hsite : stage.realm.Site env site) :
    Safe v env.implementation (fun (now : Stage u) sites => ∀ p ∈ sites, now.realm.Site env p ∧
      p.owner = site.owner ∧ p.context.root = site.context.root) stage
      (do Run.lift (Traversal.outlook env (← get).store check site))
      (do Run.lift (Traversal.outlook env (← get).store check site)) := by
  refine of_result (fun s => Traversal.outlook env s.store check site) id
    (Run.exec_lift_store fun store => Traversal.outlook env store check site) (fun _ hs => hs)
    (fun s hs sites hsites p hp => ?_) fun s hs e he => ?_
  · have hfollows := outlook_follows hs.heap.closed hsite.value hsites p hp
    refine ⟨⟨hfollows.value, ?_⟩, hfollows.owner, hfollows.root⟩
    rw [Site.scope_eq hfollows.owner hfollows.root]
    exact hsite.scope
  · rcases outlook_error he with hactive | ⟨path, htarget, hpath⟩
    · exact (FailsElsewhere.isActive check _ _ _ _).explained _ hactive
    · intro className field hcause
      have hfails : FailsBare (TargetPath.navigate path s.store site.value) := .follow ..
      rw [hpath] at hfails
      rw [hfails.bare.rootCause] at hcause
      exact .inr ⟨check, path, stage, s.store, site.value, hcheck, htarget, hs.heap, hsite.value,
        hcause ▸ hpath⟩

theorem Safe.test (check : Check) (site : Site) :
    SafelyReports v env.implementation (u.Tells site.owner site.context.root) stage
      (Traversal.test env check site) (Traversal.test env check site) := by
  refine of_result (fun s => (check.isSatisfied env.languages env.now site.owner site.value
    site.context s.store).map fun satisfied => if satisfied then [] else [violation env check site []])
    id (fun s => exec_test env check site s) (fun _ hs => hs) (fun s hs violations h w hw => ?_)
    fun s hs e he => ?_
  · cases hsatisfied : check.isSatisfied env.languages env.now site.owner site.value site.context
      s.store with
    | error e =>
      rw [hsatisfied] at h
      cases h
    | ok satisfied =>
      rw [hsatisfied] at h
      cases h
      cases satisfied with
      | true => cases hw
      | false =>
        cases List.mem_singleton.mp hw
        exact ⟨rfl, rfl, fun _ hcause => absurd hcause List.not_mem_nil⟩
  · exact ((FailsElsewhere.isSatisfied check _ _ _ _ _ _).map _).explained _ he

/-- What checks lead to goes the same way from a stage on, and ends well. -/
structure SafelyNested (v : Validator) (env : Environment) (stage : Stage u) (nested nested' : Nested) :
    Prop where
  visit : ∀ later : Stage u, stage.objects ⊆ later.objects → ∀ o ∈ later.objects,
    SafelyReports v env.implementation (u.TellsOf o) later (nested.visit o) (nested'.visit o)
  apply : ∀ later : Stage u, stage.objects ⊆ later.objects → ∀ checks site,
    (∀ check ∈ checks, v.Has u check) → later.realm.Site env site →
      SafelyReports v env.implementation (u.Tells site.owner site.context.root) later
        (nested.apply checks site) (nested'.apply checks site)

theorem SafelyNested.mono {nested nested' : Nested} (h : SafelyNested v env stage nested nested')
    (hsub : stage.objects ⊆ later.objects) : SafelyNested v env later nested nested' :=
  ⟨fun last hlast => h.visit last (List.Subset.trans hsub hlast),
    fun last hlast => h.apply last (List.Subset.trans hsub hlast)⟩

namespace Backed

variable {nested nested' : Nested} {site : Site}

theorem cascade (hn : SafelyNested v env stage nested nested') (check : Check)
    (hsite : stage.realm.Site env site) :
    SafelyReports v env.implementation (u.Tells site.owner site.context.root) stage
      (Traversal.cascade env nested check site) (Traversal.cascade env nested' check site) := by
  unfold Traversal.cascade
  cases hvalue : site.value with
  | object target =>
    have htarget : target ∈ stage.objects := by
      have hover := hsite.value
      rw [hvalue] at hover
      exact Value.over_object.mp hover
    refine .bind (.isEntered target) fun middle hmiddle entered _ => ?_
    cases entered with
    | true => exact .pure fun _ hw => absurd hw List.not_mem_nil
    | false =>
      refine .bind (hn.visit middle hmiddle target (hmiddle htarget)) fun _ _ causes hcauses => ?_
      refine .pure fun w hw => ?_
      split at hw
      · cases hw
      · cases List.mem_singleton.mp hw
        refine ⟨rfl, rfl, fun cause hcause => ?_⟩
        obtain ⟨first, hfirst, hcause⟩ := Violation.mem_flattenAll.mp hcause
        exact (hcauses first hfirst).2 cause hcause
  | _ => exact .pure fun _ hw => absurd hw List.not_mem_nil

variable (h : Backed v env stage)
include h

theorem evaluate (hn : SafelyNested v env stage nested nested') (check : Check)
    (hsite : stage.realm.Site env site) :
    SafelyReports v env.implementation (u.Tells site.owner site.context.root) stage
      (Traversal.evaluate env nested check site) (Traversal.evaluate env nested' check site) := by
  by_cases hcomposite : check.isComposite = true
  · unfold Traversal.evaluate
    cases hkind : check.kind with
    | assertValid => exact cascade hn check hsite
    | assertConstraintSet id =>
      refine .bind (h.setOf id) fun later hlater found hfound => ?_
      exact hn.apply later hlater _ _ (fun check hcheck => .inr ⟨id, found, hfound, hcheck⟩)
        (Stage.site_mono hsite hlater)
    | assertFieldConstraints field declaringClass =>
      cases hdeclared : (site.scope env).declared? field declaringClass with
      | none =>
        obtain ⟨name, he⟩ := referencedChecks_none hdeclared
        simp only [he]
        exact .bind (.unresolved name _ (P := fun _ _ => False)) fun _ _ _ hfalse => hfalse.elim
      | some declared =>
        obtain ⟨declaring, name⟩ := declared
        have hdeclaring : u.has declaring := hsite.declares hdeclared
        simp only [referencedChecks_some hdeclared, bind_assoc, pure_bind]
        refine .bind (h.checksOf hdeclaring) fun later hlater checks hchecks => ?_
        exact hn.apply later hlater _ _
          (fun check hcheck => .inl ⟨declaring, checks, _, hdeclaring, hchecks, hcheck⟩)
          (Stage.site_mono hsite hlater)
    | _ => simp [Check.isComposite, CheckKind.isComposite, hkind] at hcomposite
  · have hplain : check.isComposite = false := by simpa using hcomposite
    rw [evaluate_eq_test env nested hplain, evaluate_eq_test env nested' hplain]
    exact .test check site

theorem applyAll (hn : SafelyNested v env stage nested nested') {checks : List Check}
    (hchecks : ∀ check ∈ checks, v.Has u check) (hsite : stage.realm.Site env site) :
    SafelyReports v env.implementation (u.Tells site.owner site.context.root) stage
      (Traversal.applyAll env nested checks site) (Traversal.applyAll env nested' checks site) := by
  refine .gather fun later hlater check hcheck => ?_
  rw [applyCheck_eq, applyCheck_eq, ← bind_assoc, ← bind_assoc]
  refine .bind (.outlook (hchecks check hcheck) (Stage.site_mono hsite hlater))
    fun last hlast sites hsites => ?_
  have hsub := List.Subset.trans hlater hlast
  refine .gather fun now hnow p hp => ?_
  obtain ⟨hplace, howner, hroot⟩ := hsites p hp
  rw [← howner, ← hroot]
  have hnow' := List.Subset.trans hsub hnow
  exact (h.mono hnow').evaluate (hn.mono hnow') check (Stage.site_mono hplace hnow)

-- ---------------------------------------------------------------------------
-- Visits
-- ---------------------------------------------------------------------------

theorem visitInvariants (hn : SafelyNested v env stage nested nested') (ho : o ∈ stage.objects)
    (hc : u.has c) (hchecks : (v.checksOf c).1 = .ok checks) :
    SafelyReports v env.implementation (u.TellsOf o) stage
      (Traversal.visitInvariants env nested o checks) (Traversal.visitInvariants env nested' o checks) := by
  obtain ⟨rfl, hconsistent⟩ := h.sound c hc checks hchecks
  refine .gather fun later hlater method hmethod => ?_
  have hnow := h.mono hlater
  refine .bind (.access fun store hheap => hheap.invoke hnow.legal (by simp) (hlater ho))
    fun last hlast value hvalue => ?_
  have hsub := List.Subset.trans hlater hlast
  have hsite : last.realm.Site env ⟨some o, value, resultKind checks.cls method 0,
      .result checks.cls.name method⟩ := .of_owner (hsub ho) hvalue _ _
  refine ((h.mono hsub).applyAll (hn.mono hsub)
    (fun check hcheck => .inl ⟨_, checks, _, hc, hchecks, hcheck⟩) hsite).mono
    fun _ violations htells w hw => ?_
  exact (htells w hw).of (.result hc (hconsistent.getters false method hmethod).1)

theorem visitFieldsOr (fallback : Fallback) (hn : SafelyNested v env stage nested nested')
    (ho : o ∈ stage.objects) (hlevel : c ∈ o.cls.hierarchy) (hchecks : (v.checksOf c).1 = .ok checks) :
    SafelyReports v env.implementation (u.TellsOf o) stage
      (Traversal.visitFieldsOr env fallback nested o c checks)
      (Traversal.visitFields env nested' o c checks) := by
  have hc : u.has c := u.levels _ (stage.classes o ho) c hlevel
  obtain ⟨rfl, hconsistent⟩ := h.sound c hc checks hchecks
  refine .gather fun later hlater field hfield => ?_
  -- A field that is noted is declared at this level, so that the object has it.
  have hdeclared := ((hconsistent.fields false field).mp hfield).1
  have hinstance := Class.mem_instanceFields hlevel hdeclared
  refine .bind (.readOr fallback fun store hheap => hheap.get (hlater ho) hinstance)
    fun last hlast value hvalue => ?_
  have hsub := List.Subset.trans hlater hlast
  have hsite : last.realm.Site env ⟨some o, value, fieldKind checks.cls field,
      .field checks.cls.name field⟩ := .of_owner (hsub ho) hvalue _ _
  refine ((h.mono hsub).applyAll (hn.mono hsub)
    (fun check hcheck => .inl ⟨_, checks, _, hc, hchecks, hcheck⟩) hsite).mono
    fun _ violations htells w hw => ?_
  exact (htells w hw).of (.field hc hdeclared)

theorem visitInterfaces (hn : SafelyNested v env stage nested nested') (ho : o ∈ stage.objects)
    (hc : u.has c) (checks : ClassChecks) :
    SafelyReports v env.implementation (u.TellsOf o) stage
      (Run.gather (visitInterface env nested o) (inspected checks c))
      (Run.gather (visitInterface env nested' o) (inspected checks c)) := by
  refine .gather fun later hlater interface hinterface => ?_
  have hcls : u.has interface := by
    unfold inspected at hinterface
    split at hinterface
    · exact u.interfaces c hc _ hinterface
    · cases hinterface
  refine .bind ((h.mono hlater).checksOf hcls) fun last hlast found hfound => ?_
  have hsub := List.Subset.trans hlater hlast
  exact (h.mono hsub).visitInvariants (hn.mono hsub) (hsub ho) hcls hfound

theorem visitLevelOr (fallback : Fallback) (hn : SafelyNested v env stage nested nested')
    (ho : o ∈ stage.objects) (hlevel : c ∈ o.cls.hierarchy) :
    SafelyReports v env.implementation (u.TellsOf o) stage
      (Traversal.visitLevelOr env fallback nested o c) (Traversal.visitLevel env nested' o c) := by
  have hc : u.has c := u.levels _ (stage.classes o ho) c hlevel
  rw [visitLevel_eq, Traversal.visitLevelOr]
  refine .bind (h.checksOf hc) fun s₁ h₁ checks hchecks => ?_
  refine .bind ((h.mono h₁).visitFieldsOr fallback (hn.mono h₁) (h₁ ho) hlevel hchecks)
    fun s₂ h₂ fields hfields => ?_
  have h₂ := List.Subset.trans h₁ h₂
  refine .bind ((h.mono h₂).visitInvariants (hn.mono h₂) (h₂ ho) hc hchecks)
    fun s₃ h₃ invariants hinvariants => ?_
  have h₃ := List.Subset.trans h₂ h₃
  refine .bind ((h.mono h₃).visitInterfaces (hn.mono h₃) (h₃ ho) hc checks)
    fun s₄ h₄ inherited hinherited => ?_
  have h₄ := List.Subset.trans h₃ h₄
  have hsite : s₄.realm.Site env ⟨some o, .object o, .object c.name, .object c.name⟩ :=
    .of_owner (h₄ ho) (Value.over_object.mpr (h₄ ho)) _ _
  refine .bind ((h.mono h₄).applyAll (hn.mono h₄)
    (fun check hcheck => .inl ⟨c, checks, _, hc, hchecks, hcheck⟩) hsite) fun _ _ own hown => ?_
  refine .pure fun w hw => ?_
  simp only [List.mem_append] at hw
  rcases hw with ((hw | hw) | hw) | hw
  · exact hfields w hw
  · exact hinvariants w hw
  · exact hinherited w hw
  · exact (hown w hw).of (.object hc)

theorem visitOr (fallback : Fallback) (hn : SafelyNested v env stage nested nested')
    (ho : o ∈ stage.objects) :
    SafelyReports v env.implementation (u.TellsOf o) stage
      (Traversal.visitOr env fallback nested o) (Traversal.visit env nested' o) := by
  refine .bind (.enter o) fun middle hmiddle _ _ => .gather fun later hlater c hlevel => ?_
  have hsub := List.Subset.trans hmiddle hlater
  exact (h.mono hsub).visitLevelOr fallback (hn.mono hsub) (hsub ho) hlevel

/-- The checks of a static member are applied to its value. -/
theorem applyStatic (hn : SafelyNested v env stage nested nested') (hscope : env.scope = some c)
    (hc : u.has c) (hchecks : (v.checksOf c).1 = .ok checks) (member : Member) {value : Value}
    (hvalue : value.Over stage.objects) (declared : Kind) (hstatic : c.OnStatic context)
    (hroot : context.root = context) :
    SafelyReports v env.implementation (fun w => w.object = none ∧ c.OnStatic w.context.root) stage
      (Traversal.applyAll env nested (checks.of member) ⟨none, value, declared, context⟩)
      (Traversal.applyAll env nested' (checks.of member) ⟨none, value, declared, context⟩) := by
  have hsite : stage.realm.Site env ⟨none, value, declared, context⟩ := .of_scope hscope hc hvalue _ _
  refine (h.applyAll hn (fun check hcheck => .inl ⟨c, checks, member, hc, hchecks, hcheck⟩) hsite).mono
    fun _ violations htells w hw => ⟨(htells w hw).owner, ?_⟩
  rw [(htells w hw).root, hroot]
  exact hstatic

theorem visitStaticOr (fallback : Fallback) (hn : SafelyNested v env stage nested nested')
    (hscope : env.scope = some c) (hc : u.has c) :
    SafelyReports v env.implementation (fun w => w.object = none ∧ c.OnStatic w.context.root) stage
      (Traversal.visitStaticOr env fallback nested c) (Traversal.visitStatic env nested' c) := by
  refine .bind (h.checksOf hc) fun first hfirst checks hchecks => ?_
  obtain ⟨rfl, hconsistent⟩ := h.sound c hc checks hchecks
  refine .bind (P := fun _ violations => ∀ w ∈ violations,
    w.object = none ∧ checks.cls.OnStatic w.context.root) (.gather fun later hlater field hfield => ?_)
    fun second hsecond fields hfields => ?_
  · have hlater := List.Subset.trans hfirst hlater
    have hdeclared := ((hconsistent.fields true field).mp hfield).1
    refine .bind (.readOr fallback fun store hheap => hheap.getStatic hdeclared)
      fun last hlast value hvalue => ?_
    have hlast := List.Subset.trans hlater hlast
    exact (h.mono hlast).applyStatic (hn.mono hlast) hscope hc hchecks _ hvalue _ (.field hdeclared) rfl
  have hsecond := List.Subset.trans hfirst hsecond
  refine .bind (P := fun _ violations => ∀ w ∈ violations,
    w.object = none ∧ checks.cls.OnStatic w.context.root) (.gather fun later hlater method hmethod => ?_)
    fun _ _ results hresults =>
      .pure fun w hw => (List.mem_append.mp hw).elim (hfields w) (hresults w)
  have hlater := List.Subset.trans hsecond hlater
  have hgetter := (hconsistent.getters true method hmethod).1
  refine .bind (.access fun store hheap => hheap.invokeStatic (h.mono hlater).legal (by simp) hc)
    fun last hlast value hvalue => ?_
  have hlast := List.Subset.trans hlater hlast
  exact (h.mono hlast).applyStatic (hn.mono hlast) hscope hc hchecks _ hvalue _ (.result hgetter) rfl

theorem ofDepthOr (fallback : Fallback) (depth : Nat) :
    SafelyNested v env stage (Nested.ofDepthOr fallback env depth) (Nested.ofDepth env depth) := by
  induction depth with
  | zero => exact ⟨fun _ _ _ _ => .tooDeep, fun _ _ _ _ _ _ => .tooDeep⟩
  | succ depth ih =>
    exact ⟨fun later hlater o ho => (h.mono hlater).visitOr fallback (ih.mono hlater) ho,
      fun later hlater checks site hchecks hsite =>
        (h.mono hlater).applyAll (ih.mono hlater) hchecks hsite⟩

theorem memberSteps (hn : SafelyNested v env stage nested nested') (hc : u.has c)
    {members : List (Member × Site)} (hmembers : ∀ entry ∈ members, stage.realm.Site env entry.2) :
    SafelyReports v env.implementation (fun _ => True) stage
      (ObjectConstraints.memberSteps c members env nested)
      (ObjectConstraints.memberSteps c members env nested') := by
  refine .bind (h.checksOf hc) fun first hfirst checks hchecks => .gather fun later hlater entry hentry => ?_
  have hsub := List.Subset.trans hfirst hlater
  exact ((h.mono hsub).applyAll (hn.mono hsub)
    (fun check hcheck => .inl ⟨c, checks, entry.1, hc, hchecks, hcheck⟩)
    (Stage.site_mono (hmembers entry hentry) hsub)).mono fun _ _ _ _ _ => trivial

end Backed

-- ---------------------------------------------------------------------------
-- Requests
-- ---------------------------------------------------------------------------

/-- Whether a request is about values of members, not about an object or the static members of a class. -/
def Request.OfMembers : Request → Prop
  | .object .. | .static _ => False
  | _ => True

/-- A request about values of members applies the checks of members of one class. -/
theorem Request.plan_members {realm : Realm} {request : Request} {planned : Plan}
    (hmembers : request.OfMembers) (hplan : request.plan = .ok planned)
    (hscope : env.scope = planned.scope) (hadmits : realm.Admits request) :
    ∃ c members, planned.steps = memberSteps c members ∧ realm.cls c ∧
      ∀ entry ∈ members, realm.Site env entry.2 := by
  have hlevels {o : Object} (ho : realm.object o) := realm.levels _ (realm.object_cls o ho)
  cases request with
  | object | static => exact hmembers.elim
  | field o name value =>
    simp only [Request.plan] at hplan
    split at hplan
    · cases hplan
    · next c hc =>
      cases hplan
      refine ⟨c, _, rfl, hlevels hadmits.1 c (declaring_mem hc), fun entry hentry => ?_⟩
      cases List.mem_singleton.mp hentry
      exact .of_owner hadmits.1 hadmits.2 _ _
  | result o method arity value =>
    simp only [Request.plan] at hplan
    split at hplan
    · cases hplan
    · next c m hc =>
      cases hplan
      refine ⟨c, _, rfl, hlevels hadmits.1 c (findMethod_mem hc), fun entry hentry => ?_⟩
      cases List.mem_singleton.mp hentry
      exact .of_owner hadmits.1 hadmits.2 _ _
  | arguments o method args =>
    simp only [Request.plan] at hplan
    split at hplan
    · cases hplan
    · next c m hc =>
      cases hplan
      exact ⟨c, _, rfl, hlevels hadmits.1 c (findMethod_mem hc),
        RunLogic.argumentSites hadmits.2 fun _ _ _ harg => .of_owner hadmits.1 harg _ _⟩
  | construction c constructor args =>
    simp only [Request.plan] at hplan
    split at hplan
    · cases hplan
    · split at hplan
      · cases hplan
      · cases hplan
        exact ⟨c, _, rfl, hadmits.1,
          RunLogic.argumentSites hadmits.2 fun _ _ _ harg => .of_scope hscope hadmits.1 harg _ _⟩

theorem Request.tells_members {request : Request} (hmembers : request.OfMembers) (w : Violation) :
    request.Tells u w := by
  cases request with
  | object | static => exact hmembers.elim
  | _ => trivial

theorem Request.planOr_members {request : Request} (hmembers : request.OfMembers) (fallback : Fallback) :
    request.planOr fallback = request.plan := by
  cases request with
  | object | static => exact hmembers.elim
  | _ => rfl

/-- How a validator answers at a stage: with a store of a later one, having the checks that it had, with
violations that are told of the right members or with an error that is explained. -/
structure Answered (v : Validator) (implementation : Implementation) (stage : Stage u) (request : Request)
    (outcome : Validator.Outcome) : Prop where
  heap : ∃ later : Stage u, stage.objects ⊆ later.objects ∧ Heap u later.objects outcome.2.2
  checks : ∀ c, u.has c → (outcome.2.1.checksOf c).1 = (v.checksOf c).1
  tells : ∀ violations, outcome.1 = .ok violations → ∀ w ∈ violations, request.Tells u w
  explained : ∀ e, outcome.1 = .error (.failed e) → Explained u v implementation e

theorem Explained.wrap {implementation : Implementation} {e : ValidationError}
    (h : Explained u v implementation e) (target : String) :
    Explained u v implementation (e.wrap target) := by
  intro className field hcause
  rw [ValidationError.rootCause_wrap] at hcause
  exact h className field hcause

section

variable {world : World} {store : Store} {request : Request} (hsound : v.Sound u)
  (heap : Heap u stage.objects store) (legal : world.implementation.Legal stage)
include hsound heap legal

/-- Carrying out plans that go the same way comes to the same answer. -/
theorem Plan.perform_safe {plan plan' : Plan} (hsame : plan' = { plan with steps := plan'.steps })
    (nested nested' : Environment → Nested)
    (hsteps : ∀ env : Environment, Backed v env stage → env.scope = plan.scope →
      SafelyReports v env.implementation (request.Tells u) stage (plan'.steps env (nested' env))
        (plan.steps env (nested env))) :
    plan'.perform v world nested' store = plan.perform v world nested store ∧
      Answered v world.implementation stage request (plan.perform v world nested store) := by
  have hperform : plan'.perform v world nested' store =
      v.conclude plan.target ((plan'.steps (v.environment world plan.requested plan.scope)
        (nested' (v.environment world plan.requested plan.scope))).exec (v.start plan.owner store)) := by
    rw [hsame]
    rfl
  rw [hperform, Plan.perform_eq]
  have hbacked : Backed v (v.environment world plan.requested plan.scope) stage := ⟨rfl, hsound, legal⟩
  have hstart : Staged v stage (v.start plan.owner store) := ⟨heap, fun _ _ => rfl, fun _ => rfl⟩
  obtain ⟨hexec, hends⟩ := hsteps _ hbacked rfl _ hstart
  rw [hexec] at hends ⊢
  generalize Run.exec _ (v.start plan.owner store) = r at hends
  obtain ⟨later, hlater, hstaged, hok, herror⟩ := hends
  refine ⟨rfl, ⟨later, hlater, hstaged.heap⟩, hstaged.checks, fun violations hviolations => ?_, ?_⟩
  · exact hok violations (Run.mapError_ok.mp hviolations)
  · intro e he
    obtain ⟨stop, hstop, hwrapped⟩ := Run.mapError_error.mp he
    cases stop with
    | tooDeep => cases hwrapped
    | failed reason =>
      cases hwrapped
      exact (herror reason hstop).wrap _

theorem answer_members (fallback : Fallback) (depth : Nat) (hrequest : stage.realm.Admits request)
    (hmembers : request.OfMembers) :
    v.answerOr fallback world depth store request = v.answer world depth store request ∧
      Answered v world.implementation stage request (v.answer world depth store request) := by
  rw [answer_eq, Validator.answerOr, Request.planOr_members hmembers]
  cases hplan : request.plan with
  | error e =>
    refine ⟨rfl, ⟨stage, List.Subset.refl _, heap⟩, fun _ _ => rfl, fun _ hviolations => ?_, ?_⟩
    · cases hviolations
    · rintro _ ⟨⟩ className field hcause
      cases hcause
  | ok plan =>
    refine Plan.perform_safe hsound heap legal (by rfl) _ _ fun env hbacked hscope => ?_
    obtain ⟨c, members, hsteps, hc, hsites⟩ := Request.plan_members hmembers hplan hscope hrequest
    rw [hsteps]
    exact (hbacked.memberSteps (hbacked.ofDepthOr fallback depth) hc hsites).mono
      fun _ _ _ w _ => Request.tells_members hmembers w

/-- Whatever is done where a constrained field cannot be read, a request is answered as it is. -/
theorem answer_legal (fallback : Fallback) (depth : Nat) (hrequest : stage.realm.Admits request) :
    v.answerOr fallback world depth store request = v.answer world depth store request ∧
      Answered v world.implementation stage request (v.answer world depth store request) := by
  cases request with
  | object requested o =>
    rw [answer_eq, Validator.answerOr]
    simp only [Request.planOr, Request.plan]
    refine Plan.perform_safe hsound heap legal (by rfl) _ _ fun env hbacked _ => ?_
    exact hbacked.visitOr fallback (hbacked.ofDepthOr fallback depth) hrequest
  | static c =>
    rw [answer_eq, Validator.answerOr]
    simp only [Request.planOr, Request.plan]
    refine Plan.perform_safe hsound heap legal (by rfl) _ _ fun env hbacked hscope => ?_
    exact hbacked.visitStaticOr fallback (hbacked.ofDepthOr fallback depth) hscope hrequest
  | _ => exact answer_members hsound heap legal fallback depth hrequest trivial

end

end ObjectConstraints
