import ObjectConstraints.Proofs.Requests

/-!
# Depth

A bound on how deep a run may nest is nothing but a bound: a run that ends within it ends the same
way within any larger one (`ofDepth_within`, `answer_deeper`).
-/

namespace ObjectConstraints

open Traversal

-- ---------------------------------------------------------------------------
-- How runs end
-- ---------------------------------------------------------------------------

/-- Runs that end alike: with results that correspond or with the same error. -/
inductive Ends {α β : Type} (Q : α → β → Prop) (T : RunState → RunState → Prop) :
    Except Stop α × RunState → Except Stop β × RunState → Prop
  | ok {a b s s'} : Q a b → T s s' → Ends Q T (.ok a, s) (.ok b, s')
  | error {s s'} (e : Stop) : T s s' → Ends Q T (.error e, s) (.error e, s')

/-- Whether a run came to an end within its depth. -/
def Finished {α : Type} (r : Except Stop α) : Prop := r ≠ .error .tooDeep

theorem finished_ok {α : Type} {a : α} : Finished (.ok a) := by simp [Finished]

theorem finished_error {α : Type} {e : Stop} : Finished (.error e : Except Stop α) ↔ e ≠ .tooDeep := by
  simp [Finished]

theorem finished_failed {α : Type} (r : Except ValidationError α) :
    Finished (r.mapError Stop.failed) := by
  simp [Finished, Run.mapError_error]

theorem wrap_eq_tooDeep {target : String} {e : Stop} : e.wrap target = .tooDeep ↔ e = .tooDeep := by
  cases e <;> simp [Stop.wrap]

theorem finished_wrap {α : Type} {target : String} {r : Except Stop α} :
    Finished (r.mapError (Stop.wrap target)) ↔ Finished r := by
  simp [Finished, Run.mapError_error, wrap_eq_tooDeep]

theorem Ends.eq {α : Type} {x y : Except Stop α × RunState} (h : Ends Eq Eq x y) : y = x := by
  cases h with
  | ok hq hs => rw [hq, hs]
  | error e hs => rw [hs]

/-- Runs that end the same way if the first one is finished. -/
def deepening (env : Environment) : Simulation Unit Unit env env Eq Eq where
  Rel Q m m' := ∀ s, s.Before ((m ()).exec s).2 ∧
    (Finished ((m ()).exec s).1 → Ends Q Eq ((m ()).exec s) ((m' ()).exec s))
  pure_rel h s := ⟨.refl s, fun _ => .ok h rfl⟩
  bind_rel {α β γ δ Q R m m' f f'} hm hf s := by
    obtain ⟨hs, hend⟩ := hm s
    rw [Run.exec_bind, Run.exec_bind]
    generalize (m ()).exec s = x at hs hend
    generalize (m' ()).exec s = y at hend
    rcases x with ⟨e | a, s₁⟩
    · refine ⟨hs, fun hfin => ?_⟩
      cases hend (finished_error.mpr (finished_error.mp hfin)) with
      | error e he => exact .error e he
    · cases hend finished_ok with
      | ok hq he =>
        subst he
        obtain ⟨hs', hend'⟩ := hf _ _ hq s₁
        exact ⟨hs.trans hs', hend'⟩
  fail_rel e s := ⟨.refl s, fun _ => .error _ rfl⟩
  get_rel s := ⟨.refl s, fun _ => .ok ⟨rfl, rfl⟩ rfl⟩
  access_rel action s := by
    rw [Run.exec_access]
    refine ⟨.withStore s _, fun _ => ?_⟩
    cases (action s.store).1 with
    | ok a => exact .ok rfl rfl
    | error e => exact .error _ rfl
  enter_rel o s := ⟨.enter s o, fun _ => .ok rfl rfl⟩
  checksOf_rel c s := by
    rw [Run.exec_checksOf]
    refine ⟨.resolve s c _, fun _ => ?_⟩
    cases (s.compiled.resolve c env.configurers).1 with
    | ok checks => exact .ok ⟨rfl, rfl, rfl, rfl, rfl, rfl, fun _ => rfl⟩ rfl
    | error e => exact .error _ rfl
  setOf_rel id s := by
    rw [Run.exec_setOf]
    cases h : s.sets.resolve id env.configurers with
    | ok found => exact ⟨.resolveSet h, fun _ => .ok rfl rfl⟩
    | error e => exact ⟨.refl s, fun _ => .error _ rfl⟩

-- ---------------------------------------------------------------------------
-- Runs that are deep enough
-- ---------------------------------------------------------------------------

/-- Runs of a family that are all the same from some depth on. -/
def Settles {α : Type} (m : Nat → Run α) (s : RunState) (x : Except Stop α × RunState) : Prop :=
  ∃ bound, ∀ d, bound ≤ d → (m d).exec s = x

namespace Settles

variable {α β : Type} {m : Nat → Run α}

theorem const (m : Run α) (s : RunState) : Settles (fun _ => m) s (m.exec s) := ⟨0, fun _ _ => rfl⟩

theorem bind_ok (h : Settles m s (.ok a, s')) (f : Nat → α → Run β)
    (h' : Settles (fun d => f d a) s' x) : Settles (fun d => m d >>= f d) s x := by
  obtain ⟨bound, h⟩ := h
  obtain ⟨bound', h'⟩ := h'
  refine ⟨max bound bound', fun d hd => ?_⟩
  rw [Run.exec_bind_of_ok _ (h d (by omega))]
  exact h' d (by omega)

theorem bind_error (h : Settles m s (.error e, s')) (f : Nat → α → Run β) :
    Settles (fun d => m d >>= f d) s (.error e, s') := by
  obtain ⟨bound, h⟩ := h
  exact ⟨bound, fun d hd => Run.exec_bind_of_error _ (h d hd)⟩

theorem succ {m' : Nat → Run α} (h : Settles m s x) (hm : ∀ d, m' (d + 1) = m d) : Settles m' s x := by
  obtain ⟨bound, h⟩ := h
  refine ⟨bound + 1, fun d hd => ?_⟩
  obtain ⟨d, rfl⟩ := Nat.exists_eq_add_of_le' (Nat.le_of_add_left_le hd)
  rw [hm, h d (Nat.le_of_add_le_add_right hd)]

end Settles

-- ---------------------------------------------------------------------------
-- Larger bounds
-- ---------------------------------------------------------------------------

theorem Environment.SameWorld.refl (env : Environment) : env.SameWorld env := ⟨rfl, rfl, rfl, rfl⟩

/-- What checks lead to is finished in the same way by the second of two. -/
def Nested.Within (env : Environment) (nested nested' : Nested) : Prop :=
  (deepening env).RelNested (fun _ => nested) (fun _ => nested')

theorem Nested.Within.lists (h : Nested.Within env nested nested') :
    (deepening env).RelLists (fun _ => nested) (fun _ => nested') := by
  rintro checks _ site rfl
  refine (deepening env).gather_rel fun check _ =>
    Simulation.applyCheck_rel (.refl env) h ⟨rfl, ?_⟩ rfl site
  intro site causes causes' hc
  rw [List.forall₂_eq_eq_eq] at hc
  rw [hc]

theorem ofDepth_within (env : Environment) (h : d ≤ e) :
    (Nested.ofDepth env d).Within env (Nested.ofDepth env e) := by
  induction d generalizing e with
  | zero =>
    constructor
    · exact fun o s => ⟨.refl s, fun hfin => absurd rfl hfin⟩
    · exact fun checks checks' site _ s => ⟨.refl s, fun hfin => absurd rfl hfin⟩
  | succ d ih =>
    cases e with
    | zero => omega
    | succ e =>
      have hlists := (ih (Nat.le_of_succ_le_succ h)).lists
      exact ⟨fun o => Simulation.visit_rel (.refl env) hlists o, hlists⟩

/-- A plan that is finished with what checks lead to is finished in the same way with more. -/
theorem Plan.perform_within {request : Request} (hp : request.plan = .ok plan) (v : Validator)
    (world : World) {nested nested' : Environment → Nested} (store : Store)
    (h : ∀ env, (nested env).Within env (nested' env))
    (hfin : Finished (plan.perform v world nested store).1) :
    plan.perform v world nested' store = plan.perform v world nested store := by
  have hrel := Plan.steps_rel (.refl (v.environment world plan.requested plan.scope)) (h _).lists hp
  obtain ⟨-, hend⟩ := hrel (v.start plan.owner store)
  rw [List.forall₂_eq_eq_eq] at hend
  have heq := (hend (finished_wrap.mp hfin)).eq
  exact congrArg (v.conclude plan.target) heq

/-- An answer that is finished within a depth is the answer within any larger one. -/
theorem answer_deeper (v : Validator) (world : World) (store : Store) (request : Request)
    (h : d ≤ e) (hfin : Finished (v.answer world d store request).1) :
    v.answer world e store request = v.answer world d store request := by
  simp only [answer_eq] at hfin ⊢
  cases hp : request.plan with
  | error e => rfl
  | ok plan =>
    rw [hp] at hfin
    exact Plan.perform_within hp v world store (fun env => ofDepth_within env h) hfin

end ObjectConstraints
