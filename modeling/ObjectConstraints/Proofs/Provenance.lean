import ObjectConstraints.Proofs.Registries

/-!
# Where checks come from

A run loses nothing of what it has looked up, and the checks that it adds for a class have just been
compiled (`RunState.Leads`). So checks of a kind that lasts are all that a validator ever has, whatever
has happened to it since it knew no classes (`Validator.Reachable.each`).
-/

namespace ObjectConstraints

open Traversal

/-- A state that a run leads to from another one, with sources of configuration that compile what is
new. -/
structure RunState.Leads (configurers : List Configurer) (s s' : RunState) : Prop where
  before : s.Before s'
  made : ∀ name checks, s'.compiled.get? name = some (some checks) →
    s.compiled.get? name = some (some checks) ∨
      ∃ c, c.name = name ∧ ClassChecks.compile c configurers = .ok checks

namespace RunState.Leads

variable {configurers : List Configurer} {s s' s'' : RunState}

theorem of_compiled (h : s.Before s') (hsame : s'.compiled = s.compiled) : s.Leads configurers s' :=
  ⟨h, fun _ _ hget => .inl (hsame ▸ hget)⟩

theorem refl (s : RunState) : s.Leads configurers s := .of_compiled (.refl s) rfl

theorem trans (h : s.Leads configurers s') (h' : s'.Leads configurers s'') : s.Leads configurers s'' where
  before := h.before.trans h'.before
  made name checks hget := (h'.made name checks hget).elim (h.made name checks) .inr

theorem resolve (s : RunState) (c : Class) :
    s.Leads configurers { s with compiled := (s.compiled.resolve c configurers).2 } where
  before := .resolve s c configurers
  made := (CompiledChecks.Each.resolve (fun _ _ h => .inl h) fun _ h => .inr ⟨c, rfl, h⟩).1

/-- What lasts is true of all checks again. -/
theorem each {Q : String → ClassChecks → Prop} (h : s.Leads configurers s')
    (hQ : Lasting (fun _ => True) Q) (hs : s.compiled.Each Q) : s'.compiled.Each Q := by
  intro name checks hget
  rcases h.made name checks hget with hold | ⟨c, rfl, hcompiled⟩
  · exact hs name checks hold
  · exact hQ.compiled c trivial configurers checks hcompiled

end RunState.Leads

-- ---------------------------------------------------------------------------
-- Runs
-- ---------------------------------------------------------------------------

/-- Whether a run leaves behind a state that it may lead to, however it ends, with results of a kind. -/
structure Progresses {α : Type} (env : Environment) (P : α → Prop) (m : Run α) : Prop where
  leads : ∀ s : RunState, s.Leads env.configurers (m.exec s).2
  result : ∀ s a, (m.exec s).1 = .ok a → P a

namespace Progresses

variable {env : Environment} {α β : Type} {P : α → Prop} {Q : β → Prop}

theorem bind {m : Run α} {f : α → Run β} (hm : Progresses env P m)
    (hf : ∀ a, P a → Progresses env Q (f a)) : Progresses env Q (m >>= f) := by
  refine ⟨fun s => ?_, fun s b h => ?_⟩
  · have hfirst := hm.leads s
    rw [Run.exec_bind]
    rcases hstep : m.exec s with ⟨e | a, t⟩ <;> rw [hstep] at hfirst
    · exact hfirst
    · exact hfirst.trans ((hf a (hm.result s a (congrArg Prod.fst hstep))).leads t)
  · obtain ⟨a, t, hstep, h⟩ := Run.exec_bind_ok.mp (Prod.ext h rfl)
    exact (hf a (hm.result s a (congrArg Prod.fst hstep))).result t b (congrArg Prod.fst h)

theorem of_leads {m : Run α} (h : ∀ s : RunState, s.Leads env.configurers (m.exec s).2) (hP : ∀ a, P a) :
    Progresses env P m := ⟨h, fun _ a _ => hP a⟩

theorem of_state {m : Run α} (h : ∀ s, (m.exec s).2 = s) (hP : ∀ a, P a) : Progresses env P m :=
  .of_leads (fun s => (h s).symm ▸ .refl s) hP

theorem read {access : Store → Except AccessError α} (hP : ∀ a, P a) :
    Progresses env P (Run.read access) :=
  .of_state (fun s => by rw [Run.exec_read]) hP

theorem access {action : Store → Except AccessError α × Store} (hP : ∀ a, P a) :
    Progresses env P (Run.access action) := by
  refine .of_leads (fun s => ?_) hP
  rw [Run.exec_access]
  exact .of_compiled (.withStore s _) rfl

theorem checksOf (c : Class) : Progresses env (fun _ => True) (Run.checksOf env c) := by
  refine .of_leads (fun s => ?_) fun _ => trivial
  rw [Run.exec_checksOf]
  exact .resolve s c

theorem setOf (id : String) : Progresses env (fun _ => True) (Run.setOf env id) := by
  refine .of_leads (fun s => ?_) fun _ => trivial
  rw [Run.exec_setOf]
  cases hset : s.sets.resolve id env.configurers with
  | error e => exact .refl s
  | ok found => exact .of_compiled (.resolveSet hset) rfl

end Progresses

/-- Traversals lead on from the state they start in. -/
def progress (env : Environment) : RunLogic env .all where
  Holds := Progresses env
  finds _ _ := True
  pure ha := ⟨fun s => .refl s, fun _ _ h => by cases h; exact ha⟩
  bind := .bind
  tooDeep _ := ⟨fun s => .refl s, fun _ _ h => by cases h⟩
  unresolved _ _ _ := ⟨fun s => .refl s, fun _ _ h => by cases h⟩
  isEntered _ := .of_state (fun _ => rfl) fun _ => trivial
  enter o := .of_leads (fun s => .of_compiled (.enter s _) rfl) fun _ => trivial
  checksOf _ := .checksOf _
  setOf := .setOf
  outlook check site _ := .of_state
    (fun s => by rw [Run.exec_lift_store fun store => outlook env store check site])
    fun _ _ _ => ⟨trivial, fun _ _ => trivial⟩
  test check site _ := .of_state (fun s => by rw [exec_test]) fun _ => trivial
  field _ _ _ _ := .read fun _ => trivial
  getter _ _ _ _ := .access fun _ => trivial
  staticField _ _ _ := .read fun _ => trivial
  staticGetter _ _ _ := .access fun _ => trivial

-- ---------------------------------------------------------------------------
-- Histories
-- ---------------------------------------------------------------------------

section

variable {v : Validator} {Q : String → ClassChecks → Prop} (hQ : Lasting (fun _ => True) Q)
  (h : v.compiled.Each Q)
include hQ h

namespace Event

theorem answer_each (world : World) (depth : Nat) (store : Store) (request : Request) :
    (v.answer world depth store request).2.1.compiled.Each Q := by
  simp only [answer_eq]
  cases hplan : request.plan with
  | error e => exact h
  | ok plan =>
    have hsteps := (progress (v.environment world plan.requested plan.scope)).steps depth hplan rfl
      (Realm.all_admits request)
    exact (hsteps.leads (v.start plan.owner store)).each hQ h

theorem reply_each (implementation : Implementation) (store : Store) (asked : Call) :
    (v.reply implementation store asked).2.1.compiled.Each Q :=
  v.reply_keeps_of implementation store asked (P := fun v => v.compiled.Each Q) h
    (fun world depth request => answer_each hQ h world depth store request)
    (fun _ => (resolve_each hQ h trivial).1) fun _ _ _ _ => h

theorem perform_all (event : Event) : (event.perform v).compiled.Each Q := by
  refine perform_each hQ h ?_ fun implementation store asked _ => reply_each hQ h implementation store asked
  cases event <;> trivial

end Event

end

/-- What lasts is true of all checks that a validator has, whatever has happened to it. -/
theorem Validator.Reachable.each {v : Validator} {Q : String → ClassChecks → Prop} (h : v.Reachable)
    (hQ : Lasting (fun _ => True) Q) : v.compiled.Each Q := by
  obtain ⟨events, start, hstart, rfl⟩ := h
  exact Event.run_keeps (P := fun v => v.compiled.Each Q) (fun event _ _ h => event.perform_all hQ h)
    (hstart ▸ CompiledChecks.Each.empty)

end ObjectConstraints
