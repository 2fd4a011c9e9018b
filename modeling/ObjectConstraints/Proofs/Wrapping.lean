import ObjectConstraints.Proofs.RunLogic

/-!
# Wrapped errors

A validation is refused for its arguments exactly where the member it names is missing, and whatever
the validator is. Every other error is wrapped once, with what was validated: what went wrong inside,
however deep, is neither wrapped already nor a bad argument (`answer_wrapped`).
-/

namespace ObjectConstraints

open Traversal

-- ---------------------------------------------------------------------------
-- Bare errors
-- ---------------------------------------------------------------------------

/-- An error that neither says what was being validated nor blames the arguments. -/
def ValidationError.Bare : ValidationError → Prop
  | .failed _ _ => False
  | .invalidArgument _ => False
  | _ => True

theorem ValidationError.Bare.wrap {e : ValidationError} (h : e.Bare) (target : String) :
    e.wrap target = .failed target e := by
  cases e with
  | failed => cases h
  | invalidArgument => cases h
  | _ => rfl

/-- A result that is no error or a bare one. -/
inductive FailsBare {α : Type} : Except ValidationError α → Prop
  | ok (a : α) : FailsBare (.ok a)
  | error {e : ValidationError} : e.Bare → FailsBare (.error e)

namespace FailsBare

variable {α β : Type}

theorem bare {e : ValidationError} (h : FailsBare (.error e : Except ValidationError α)) : e.Bare := by
  cases h with
  | error he => exact he

theorem mapError {ε : Type} {f : ε → ValidationError} {r : Except ε α}
    (h : ∀ reason, (f reason).Bare) : FailsBare (r.mapError f) := by
  cases r with
  | ok a => exact .ok a
  | error reason => exact .error (h reason)

theorem bind {r : Except ValidationError α} {f : α → Except ValidationError β} (h : FailsBare r)
    (hf : ∀ a, FailsBare (f a)) : FailsBare (r >>= f) := by
  cases h with
  | ok a => exact hf a
  | error he => exact .error he

theorem map {r : Except ValidationError α} (h : FailsBare r) (f : α → β) : FailsBare (r.map f) := by
  cases h with
  | ok a => exact .ok (f a)
  | error he => exact .error he

theorem foldlM {f : β → α → Except ValidationError β} (h : ∀ b a, FailsBare (f b a)) (l : List α)
    (b : β) : FailsBare (l.foldlM f b) := by
  induction l generalizing b with
  | nil => exact .ok b
  | cons a rest ih =>
    rw [List.foldlM_cons]
    exact bind (h b a) ih

-- ---------------------------------------------------------------------------
-- What can go wrong
-- ---------------------------------------------------------------------------

theorem evaluate (languages : Languages) (check language expression : String) (owner : Option Object)
    (value : Value) (store : Store) :
    FailsBare (languages.evaluate check language expression owner value store) := by
  unfold Languages.evaluate
  split
  · exact .error trivial
  · exact mapError fun _ => trivial

theorem isActive (check : Check) (languages : Languages) (owner : Option Object) (value : Value)
    (store : Store) : FailsBare (check.isActive languages owner value store) := by
  unfold Check.isActive
  split
  · exact .ok true
  · exact evaluate ..

theorem isSatisfied (check : Check) (languages : Languages) (now : Instant) (owner : Option Object)
    (value : Value) (context : Context) (store : Store) :
    FailsBare (check.isSatisfied languages now owner value context store) := by
  unfold Check.isSatisfied
  split
  · exact .ok _
  · exact .ok _
  · exact evaluate ..
  · exact mapError fun _ => trivial
  · exact .ok _

theorem follow (path : String) (store : Store) (value : Value) (segments : List String) :
    FailsBare (TargetPath.follow path store value segments) := by
  induction segments generalizing value with
  | nil => exact .ok _
  | cons segment rest ih =>
    cases value with
    | null => exact .ok none
    | object o =>
      simp only [TargetPath.follow]
      split
      · exact ih _
      · exact .error trivial
    | map entries => exact ih _
    | _ => exact .error trivial

theorem outlook (env : Environment) (store : Store) (check : Check) (site : Site) :
    FailsBare (outlook env store check site) := by
  unfold Traversal.outlook
  split
  · exact .ok []
  · refine bind (isActive ..) fun active => ?_
    split
    · exact .ok []
    · split
      · exact .ok _
      · refine bind (follow ..) fun reached => ?_
        split <;> exact .ok _

theorem compile (c : Class) (configurers : List Configurer) :
    FailsBare (ClassChecks.compile c configurers) := by
  refine bind (foldlM (fun checks configurer => ?_) _ _) fun _ => mapError fun _ => trivial
  unfold ClassChecks.applyConfigurer
  split
  · exact .error trivial
  · exact .ok checks
  · exact mapError fun _ => trivial

theorem resolve (compiled : CompiledChecks) (c : Class) (configurers : List Configurer) :
    FailsBare (compiled.resolve c configurers).1 := by
  unfold CompiledChecks.resolve
  split
  · exact .ok _
  · exact compile c configurers

theorem ofConfigurers (id : String) (configurers : List Configurer) :
    FailsBare (ConstraintSet.ofConfigurers id configurers) := by
  refine bind (foldlM (fun gathered configurer => ?_) _ _) fun gathered => ?_
  · unfold ConstraintSet.gatherFrom
    split
    · exact .error trivial
    · exact .ok gathered
    · exact .ok _
  · split
    · exact .ok _
    · exact .error trivial

theorem resolveSet (sets : ConstraintSets) (id : String) (configurers : List Configurer) :
    FailsBare (sets.resolve id configurers) := by
  unfold ConstraintSets.resolve
  split
  · exact .ok _
  · exact (ofConfigurers id configurers).map _

end FailsBare

-- ---------------------------------------------------------------------------
-- Runs
-- ---------------------------------------------------------------------------

/-- A run that fails with bare errors only, and that ends with results of a kind. -/
structure RunsBare {α : Type} (P : α → Prop) (m : Run α) : Prop where
  bare : ∀ s e, (m.exec s).1 = .error (.failed e) → e.Bare
  ends : ∀ s a, (m.exec s).1 = .ok a → P a

namespace RunsBare

variable {α β : Type} {P : α → Prop} {Q : β → Prop}

theorem pure {a : α} (ha : P a) : RunsBare P (Pure.pure a) where
  bare s e h := by simp at h
  ends s b h := by
    cases h
    exact ha

theorem stop {stop : Stop} (h : ∀ e, stop = .failed e → e.Bare) : RunsBare P (throw stop : Run α) where
  bare s e he := by
    cases he
    exact h e rfl
  ends s b h := by cases h

theorem bind {m : Run α} {f : α → Run β} (hm : RunsBare P m) (hf : ∀ a, P a → RunsBare Q (f a)) :
    RunsBare Q (m >>= f) where
  bare s e h := by
    rw [Run.exec_bind] at h
    rcases hexec : m.exec s with ⟨stop | a, s'⟩ <;> simp only [hexec] at h
    · cases h
      exact hm.bare s e (by rw [hexec])
    · exact (hf a (hm.ends s a (by rw [hexec]))).bare s' e h
  ends s b h := by
    rw [Run.exec_bind] at h
    rcases hexec : m.exec s with ⟨stop | a, s'⟩ <;> simp only [hexec] at h
    · cases h
    · exact (hf a (hm.ends s a (by rw [hexec]))).ends s' b h

theorem of_exec {m : Run α} {r : RunState → Except ValidationError α}
    (hm : ∀ s, (m.exec s).1 = (r s).mapError .failed) (hr : ∀ s, FailsBare (r s))
    (hP : ∀ s a, r s = .ok a → P a) : RunsBare P m where
  bare s e h := by
    rw [hm] at h
    obtain ⟨reason, hreason, heq⟩ := Run.mapError_error.mp h
    cases heq
    exact (hreason ▸ hr s).bare
  ends s a h := by
    rw [hm] at h
    exact hP s a (Run.mapError_ok.mp h)

theorem access (action : Store → Except AccessError α × Store) :
    RunsBare (fun _ => True) (Run.access action) :=
  of_exec (r := fun s => (action s.store).1.mapError .access) (fun s => by rw [Run.exec_access])
    (fun _ => .mapError fun _ => trivial) fun _ _ _ => trivial

theorem read (access : Store → Except AccessError α) :
    RunsBare (fun _ => True) (Run.read access) :=
  of_exec (r := fun s => (access s.store).mapError .access) (fun s => by rw [Run.exec_read])
    (fun _ => .mapError fun _ => trivial) fun _ _ _ => trivial

theorem test (env : Environment) (check : Check) (site : Site) :
    RunsBare (fun _ => True) (test env check site) :=
  of_exec (fun s => by rw [exec_test]) (fun _ => (FailsBare.isSatisfied ..).map _) fun _ _ _ => trivial

end RunsBare

/-- Traversals fail with bare errors only. -/
def bareErrors (env : Environment) : RunLogic env .all where
  Holds := RunsBare
  finds _ _ := True
  pure := .pure
  bind := .bind
  tooDeep _ := .stop fun _ h => by cases h
  unresolved _ _ _ := .stop fun _ h => by
    cases h
    trivial
  isEntered _ := ⟨fun _ _ h => by simp at h, fun _ _ _ => trivial⟩
  enter _ := ⟨fun _ _ h => by simp at h, fun _ _ _ => trivial⟩
  checksOf {c} _ := .of_exec (r := fun s => (s.compiled.resolve c env.configurers).1)
    (fun s => by rw [Run.exec_checksOf]) (fun s => FailsBare.resolve s.compiled c env.configurers)
    fun _ _ _ => trivial
  setOf id := .of_exec (r := fun s => (s.sets.resolve id env.configurers).map (·.1))
    (fun s => by rw [Run.exec_setOf]; cases s.sets.resolve id env.configurers <;> rfl)
    (fun s => (FailsBare.resolveSet s.sets id env.configurers).map _) fun _ _ _ => trivial
  outlook check site _ := .of_exec (r := fun s => outlook env s.store check site)
    (fun s => by rw [Run.exec_lift_store fun store => outlook env store check site])
    (fun s => FailsBare.outlook env s.store check site) fun _ _ _ _ _ => ⟨trivial, fun _ _ => trivial⟩
  test check site _ := .test env check site
  field _ _ _ _ := .read _
  getter _ _ _ _ := .access _
  staticField _ _ _ := .read _
  staticGetter _ _ _ := .access _

-- ---------------------------------------------------------------------------
-- Requests
-- ---------------------------------------------------------------------------

theorem Class.declaring_none {c : Class} {field : String} :
    c.declaring? field = none ↔ ∀ d ∈ c.hierarchy, ∀ f ∈ d.fields, f.name ≠ field := by
  simp [declaring?, field?]

theorem Class.findMethod_none {c : Class} {method : String} {arity : Nat} :
    c.findMethod? method arity = none ↔
      ∀ d ∈ c.hierarchy, ∀ m ∈ d.methods, m.name = method → m.arity ≠ arity := by
  simp [findMethod?, method?]

namespace Request

/-- The member that a request names is missing: no class of the hierarchy declares the field, or the
method with that number of parameters, or the class has no such constructor for so many arguments. -/
def Missing : Request → Prop
  | .object _ _ => False
  | .static _ => False
  | .field o name _ => ∀ c ∈ o.cls.hierarchy, ∀ f ∈ c.fields, f.name ≠ name
  | .result o method arity _ =>
    ∀ c ∈ o.cls.hierarchy, ∀ m ∈ c.methods, m.name = method → m.arity ≠ arity
  | .arguments o method args =>
    ∀ c ∈ o.cls.hierarchy, ∀ m ∈ c.methods, m.name = method → m.arity ≠ args.length
  | .construction c constructor args =>
    ∀ parameters, c.constructors[constructor]? = some parameters → parameters.length ≠ args.length

/-- What a request is about: the object, the class, or the member, of the lowest class that declares
it. -/
inductive About : Request → String → Prop
  | object : About (.object requested o) o.text
  | static : About (.static c) c.name
  | field : o.cls.declaring? name = some c →
      About (.field o name value) (Context.field c.name name).text
  | result : o.cls.findMethod? method arity = some (c, m) →
      About (.result o method arity value) (Context.result c.name method).text
  | arguments : o.cls.findMethod? method args.length = some (c, m) →
      About (.arguments o method args) (c.name ++ "." ++ method)
  | construction : About (.construction c constructor args) (c.name ++ "#" ++ toString constructor)

theorem plan_error (request : Request) : (∃ e, request.plan = .error e) ↔ request.Missing := by
  cases request with
  | object | static => simp [plan, Missing]
  | field o name value =>
    rw [Missing, ← Class.declaring_none, plan]
    cases o.cls.declaring? name <;> simp
  | result o method arity value =>
    rw [Missing, ← Class.findMethod_none, plan]
    cases o.cls.findMethod? method arity <;> simp
  | arguments o method args =>
    rw [Missing, ← Class.findMethod_none, plan]
    cases o.cls.findMethod? method args.length <;> simp
  | construction c constructor args =>
    simp only [Missing, plan, Class.constructor?]
    cases c.constructors[constructor]? with
    | none => simp
    | some parameters => by_cases h : parameters.length = args.length <;> simp [h]

theorem plan_target {request : Request} {plan : Plan} (h : request.plan = .ok plan) :
    request.About plan.target := by
  cases request with
  | object =>
    cases h
    exact .object
  | static =>
    cases h
    exact .static
  | field o name value =>
    simp only [Request.plan] at h
    split at h <;> cases h
    next c hc => exact .field hc
  | result o method arity value =>
    simp only [Request.plan] at h
    split at h <;> cases h
    next c m hc => exact .result hc
  | arguments o method args =>
    simp only [Request.plan] at h
    split at h <;> cases h
    next c m hc => exact .arguments hc
  | construction c constructor args =>
    simp only [Request.plan] at h
    split at h
    · cases h
    · split at h <;> cases h
      exact .construction

end Request

/-- An error of a plan that is carried out is a bare one, wrapped with the target of the plan. -/
theorem Plan.perform_error {request : Request} (hplan : request.plan = .ok plan) (v : Validator)
    (world : World) (depth : Nat) (store : Store)
    (h : (plan.perform v world (Nested.ofDepth · depth) store).1 = .error (.failed e)) :
    ∃ source, source.Bare ∧ e = .failed plan.target source := by
  rw [Plan.perform_eq] at h
  obtain ⟨stop, hstop, hwrap⟩ := Run.mapError_error.mp h
  have hruns := (bareErrors (v.environment world plan.requested plan.scope)).steps depth hplan rfl
    (Realm.all_admits request)
  cases stop with
  | tooDeep => cases hwrap
  | failed source =>
    -- A bare error is the one kind that `wrap` does not pass through.
    have hbare : source.Bare := hruns.bare _ _ hstop
    refine ⟨source, hbare, ?_⟩
    rw [← hbare.wrap]
    cases hwrap
    rfl

/-- A request is refused for its arguments exactly where its member is missing, whatever the validator
is and before it looks anything up. Every other error is a bare one that is wrapped once, with what
the request is about. -/
theorem answer_wrapped (v : Validator) (world : World) (depth : Nat) (store : Store)
    (request : Request) :
    ((∃ reason, (v.answer world depth store request).1 = .error (.failed (.invalidArgument reason))) ↔
      request.Missing) ∧
    (request.Missing → ∃ reason, ∀ (v : Validator) (world : World) (depth : Nat) (store : Store),
      v.answer world depth store request = (.error (.failed (.invalidArgument reason)), v, store)) ∧
    ∀ e, (v.answer world depth store request).1 = .error (.failed e) → ¬ request.Missing →
      ∃ target source, request.About target ∧ source.Bare ∧ e = .failed target source := by
  rw [← request.plan_error]
  cases hplan : request.plan with
  | error reason =>
    have hanswer (v : Validator) (world : World) (depth : Nat) (store : Store) :
        v.answer world depth store request = v.refuse reason store := by
      rw [answer_eq, hplan]
    refine ⟨⟨fun _ => ⟨reason, rfl⟩, fun _ => ⟨reason, by rw [hanswer]; rfl⟩⟩, ?_, ?_⟩
    · exact fun _ => ⟨reason, hanswer⟩
    · exact fun _ _ h => absurd ⟨reason, rfl⟩ h
  | ok plan =>
    have hanswer : v.answer world depth store request =
        plan.perform v world (Nested.ofDepth · depth) store := by
      rw [answer_eq, hplan]
    have hwrapped : ∀ e, (v.answer world depth store request).1 = .error (.failed e) →
        ∃ source, source.Bare ∧ e = .failed plan.target source := by
      rw [hanswer]
      exact fun e => Plan.perform_error hplan v world depth store
    refine ⟨⟨fun ⟨reason, h⟩ => ?_, by simp⟩, by simp, fun e h _ => ?_⟩
    · obtain ⟨_, _, he⟩ := hwrapped _ h
      cases he
    · obtain ⟨source, hbare, he⟩ := hwrapped e h
      exact ⟨plan.target, source, Request.plan_target hplan, hbare, he⟩

end ObjectConstraints
