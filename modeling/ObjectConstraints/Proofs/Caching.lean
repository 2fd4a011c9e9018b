import ObjectConstraints.Proofs.Cascade
import ObjectConstraints.Proofs.RunLogic
import ObjectConstraints.Proofs.Termination

/-!
# Caching

What a validator has compiled and put together so far is never seen in what it replies. On a graph
that looking at it does not change, every call of a sequence is replied to as if it had been the first
one, whether those before it succeeded or not (`serve_replies`).
-/

namespace ObjectConstraints

open Traversal

-- ---------------------------------------------------------------------------
-- Calls
-- ---------------------------------------------------------------------------

/-- What a validator can be called for: a validation, a validation that fails if there are violations,
the checks of a class, and a constraint set. -/
inductive Call where
  | validate (now : Instant) (depth : Nat) (request : Request)
  | assertValid (now : Instant) (depth : Nat) (o : Object)
  | checks (c : Class)
  | constraintSet (id : String)

/-- What a validator replies to a call. -/
inductive Reply where
  | report (result : Except Stop (List Violation))
  | verdict (result : Except Stop Unit)
  | checks (result : Except ValidationError ClassChecks)
  | constraintSet (result : Except ValidationError ConstraintSet)

namespace Validator

variable (implementation : Implementation)

/-- The reply to a call, with the validator and the store afterwards. -/
def reply (v : Validator) (store : Store) : Call → Reply × Validator × Store
  | .validate now depth request =>
    let (result, after) := v.answer ⟨implementation, now⟩ depth store request
    (.report result, after)
  | .assertValid now depth o =>
    let (result, after) := v.assertValid ⟨implementation, now⟩ depth o store
    (.verdict result, after)
  | .checks c =>
    let (result, after) := v.checksOf c
    (.checks result, after, store)
  | .constraintSet id =>
    match v.setOf id with
    | .ok (found, after) => (.constraintSet (.ok found), after, store)
    | .error e => (.constraintSet (.error e), v, store)

/-- The replies to a sequence of calls, with the validator and the store afterwards. -/
def serve : Validator → Store → List Call → List Reply × Validator × Store
  | v, store, [] => ([], v, store)
  | v, store, call :: rest =>
    let (first, v, store) := v.reply implementation store call
    let (others, after) := v.serve store rest
    (first :: others, after)

end Validator

/-- Calls about known objects and classes, with values over known objects. -/
def Call.Within (objects : List Object) (classes : List Class) : Call → Prop
  | .validate _ _ request => request.Within objects classes
  | .assertValid _ _ o => o ∈ objects
  | .checks c => c ∈ classes
  | .constraintSet _ => True

/-- A graph that looking at it does not change, not even at the static members of its classes, which
have distinct names. -/
structure StillProgram (v : Validator) (implementation : Implementation) (objects : List Object)
    (classes : List Class) (store : Store) : Prop
    extends StillGraph v implementation objects classes store where
  names : ∀ c ∈ classes, ∀ d ∈ classes, c.name = d.name → c = d
  statics : ∀ c ∈ classes, ∀ field value, c.getStatic field store = .ok value → value.Over objects
  staticGetters : ∀ c ∈ classes, ∀ method, v.CallsStatic classes method → ∀ value,
    (c.invokeStatic implementation method [] store).1 = .ok value → value.Over objects
  staticQuiet : ∀ c ∈ classes, ∀ method, v.CallsStatic classes method →
    (c.invokeStatic implementation method [] store).2 = store

-- ---------------------------------------------------------------------------
-- Settled tables
-- ---------------------------------------------------------------------------

/-- Tables in which everything is looked up as in those of the validator. -/
structure Settled (v : Validator) (classes : List Class) (compiled : CompiledChecks)
    (sets : ConstraintSets) : Prop where
  checks : ∀ c ∈ classes, (compiled.resolve c v.configurers).1 = (v.checksOf c).1
  sets : ∀ id, sets.found v.configurers id = v.found id

namespace Settled

variable {v : Validator} {classes : List Class} {compiled : CompiledChecks} {sets : ConstraintSets}

theorem start (v : Validator) (classes : List Class) : Settled v classes v.compiled v.sets :=
  ⟨fun _ _ => rfl, fun _ => rfl⟩

theorem resolve (h : Settled v classes compiled sets)
    (names : ∀ c ∈ classes, ∀ d ∈ classes, c.name = d.name → c = d) (hc : c ∈ classes) :
    Settled v classes (compiled.resolve c v.configurers).2 sets := by
  refine ⟨fun other hother => ?_, h.sets⟩
  rw [← h.checks other hother]
  cases hresult : (compiled.resolve c v.configurers).1 with
  -- A class that does not compile is compiled anew the next time.
  | error e => exact CompiledChecks.resolve_retry hresult
  | ok checks =>
    by_cases hname : other.name = c.name
    · rw [CompiledChecks.resolve_namesake hname hresult, names other hother c hc hname, hresult]
    · exact CompiledChecks.resolve_other hname

theorem resolveSet (h : Settled v classes compiled sets) {id : String}
    (hset : sets.resolve id v.configurers = .ok (resolved, after)) :
    Settled v classes compiled after :=
  ⟨h.checks, fun other => by rw [ConstraintSets.found_resolve hset, h.sets other]⟩

end Settled

-- ---------------------------------------------------------------------------
-- Runs
-- ---------------------------------------------------------------------------

/-- A state of a run over a graph with settled tables. -/
structure Steady (v : Validator) (classes : List Class) (store : Store) (s : RunState) : Prop where
  store : s.store = store
  settled : Settled v classes s.compiled s.sets

/-- States of a run over a graph that differ in nothing but what has been looked up. -/
structure Alike (v : Validator) (classes : List Class) (store : Store) (s t : RunState) : Prop where
  left : Steady v classes store s
  right : Steady v classes store t
  entered : s.entered = t.entered

/-- Whether a run goes the same way from states that are alike, with results of a kind. -/
def CacheBlind {α : Type} (v : Validator) (classes : List Class) (store : Store) (P : α → Prop)
    (m : Run α) : Prop :=
  ∀ s t, Alike v classes store s t →
    Ends (fun a b => a = b ∧ P a) (Alike v classes store) (m.exec s) (m.exec t)

namespace CacheBlind

variable {v : Validator} {env : Environment} {objects : List Object} {classes : List Class}
  {store : Store} {α β : Type} {P : α → Prop} {Q : β → Prop}

theorem pure {a : α} (ha : P a) : CacheBlind v classes store P (Pure.pure a) :=
  fun _ _ h => .ok ⟨rfl, ha⟩ h

theorem stop (stop : Stop) : CacheBlind v classes store P (throw stop : Run α) :=
  fun _ _ h => .error stop h

theorem bind {m : Run α} {f : α → Run β} (hm : CacheBlind v classes store P m)
    (hf : ∀ a, P a → CacheBlind v classes store Q (f a)) : CacheBlind v classes store Q (m >>= f) := by
  intro s t h
  have hend := hm s t h
  rw [Run.exec_bind, Run.exec_bind]
  generalize m.exec s = x at hend
  generalize m.exec t = y at hend
  cases hend with
  | error e h' => exact .error e h'
  | ok hq h' =>
    obtain ⟨rfl, ha⟩ := hq
    exact hf _ ha _ _ h'

/-- A step whose result depends on the graph only, and that enters nothing. -/
theorem of_result (r : Except ValidationError α) {m : Run α}
    (hm : ∀ s, Steady v classes store s → (m.exec s).1 = r.mapError .failed ∧
      Steady v classes store (m.exec s).2 ∧ (m.exec s).2.entered = s.entered)
    (hP : ∀ a, r = .ok a → P a) : CacheBlind v classes store P m := by
  intro s t h
  obtain ⟨hresult, hs, hentered⟩ := hm s h.left
  obtain ⟨hresult', ht, hentered'⟩ := hm t h.right
  have halike : Alike v classes store (m.exec s).2 (m.exec t).2 :=
    ⟨hs, ht, by rw [hentered, hentered', h.entered]⟩
  rw [← Prod.eta (m.exec s), ← Prod.eta (m.exec t), hresult, hresult']
  cases r with
  | ok a => exact .ok ⟨rfl, hP a rfl⟩ halike
  | error e => exact .error _ halike

theorem of_store (r : Store → Except ValidationError α) {m : Run α}
    (hm : ∀ s, m.exec s = ((r s.store).mapError .failed, s)) (hP : ∀ a, r store = .ok a → P a) :
    CacheBlind v classes store P m := by
  refine of_result (r store) (fun s hs => ?_) hP
  rw [hm, hs.store]
  exact ⟨rfl, hs, rfl⟩

theorem isEntered (o : Object) : CacheBlind v classes store (fun _ => True) (Run.isEntered o) := by
  intro s t h
  rw [Run.exec_isEntered, Run.exec_isEntered, h.entered]
  exact .ok ⟨rfl, trivial⟩ h

theorem enter (o : Object) : CacheBlind v classes store (fun _ => True) (Run.enter o) := by
  intro s t h
  rw [Run.exec_enter, Run.exec_enter, h.entered]
  exact .ok ⟨rfl, trivial⟩ ⟨⟨h.left.store, h.left.settled⟩, ⟨h.right.store, h.right.settled⟩, rfl⟩

theorem access {action : Store → Except AccessError α × Store} (hquiet : (action store).2 = store)
    (hP : ∀ a, (action store).1 = .ok a → P a) : CacheBlind v classes store P (Run.access action) := by
  refine of_result ((action store).1.mapError .access) (fun s hs => ?_)
    fun a h => hP a (Run.mapError_ok.mp h)
  rw [Run.exec_access, hs.store]
  exact ⟨rfl, ⟨hquiet, hs.settled⟩, rfl⟩

theorem read {get : Store → Except AccessError α} (hP : ∀ a, get store = .ok a → P a) :
    CacheBlind v classes store P (Run.read get) :=
  of_store (fun store => (get store).mapError .access) (Run.exec_read get)
    fun a h => hP a (Run.mapError_ok.mp h)

theorem test (check : Check) (site : Site) :
    CacheBlind v classes store (fun _ => True) (Traversal.test env check site) :=
  of_store (fun store => (check.isSatisfied env.languages env.now site.owner site.value site.context
    store).map fun satisfied => if satisfied then [] else [violation env check site []])
    (exec_test env check site) fun _ _ => trivial

section

variable (henv : env.configurers = v.configurers)
include henv

theorem checksOf (names : ∀ c ∈ classes, ∀ d ∈ classes, c.name = d.name → c = d) (hc : c ∈ classes) :
    CacheBlind v classes store (fun checks => (v.checksOf c).1 = .ok checks) (Run.checksOf env c) := by
  refine of_result (v.checksOf c).1 (fun s hs => ?_) fun _ h => h
  rw [Run.exec_checksOf, henv]
  exact ⟨by rw [hs.settled.checks c hc], ⟨hs.store, hs.settled.resolve names hc⟩, rfl⟩

theorem setOf (id : String) :
    CacheBlind v classes store (fun _ => True) (Run.setOf env id) := by
  refine of_result (v.found id) (fun s hs => ?_) fun _ _ => trivial
  rw [Run.exec_setOf, henv, ← hs.settled.sets id, ConstraintSets.found]
  cases hset : s.sets.resolve id v.configurers with
  | error e => exact ⟨rfl, hs, rfl⟩
  | ok resolved => exact ⟨rfl, ⟨hs.store, hs.settled.resolveSet hset⟩, rfl⟩

end

end CacheBlind

/-- Traversals of a still program do not see what has been looked up. -/
def cacheBlindness (v : Validator) (env : Environment) {objects : List Object} {classes : List Class}
    {store : Store} (henv : env.configurers = v.configurers)
    (still : StillProgram v env.implementation objects classes store) :
    RunLogic env (.known still.classesOf) where
  Holds := CacheBlind v classes store
  finds c checks := (v.checksOf c).1 = .ok checks
  pure := .pure
  bind := .bind
  tooDeep _ := .stop _
  unresolved _ _ _ := .stop _
  isEntered _ := .isEntered _
  enter _ := .enter _
  checksOf hc := .checksOf henv still.names hc
  setOf id := .setOf henv id
  outlook check site hsite := by
    let look (store : Store) := outlook env store check site
    refine .of_store look (Run.exec_lift_store look) fun sites hsites p hp => ?_
    have hfollows := outlook_follows still.fields hsite.value hsites p hp
    exact ⟨hfollows.value, by rw [Site.scope_eq hfollows.owner hfollows.root]; exact hsite.scope⟩
  test check site _ := .test check site
  field ho _ _ _ := .read (still.fields _ ho _)
  getter ho hc hchecks hmethod :=
    have hcalls := ⟨_, hc, _, hchecks, hmethod⟩
    .access (still.quiet _ ho _ hcalls) (still.getters _ ho _ hcalls)
  staticField hc _ _ := .read (still.statics _ hc _)
  staticGetter hc hchecks hmethod :=
    have hcalls := ⟨_, hc, _, hchecks, hmethod⟩
    .access (still.staticQuiet _ hc _ hcalls) (still.staticGetters _ hc _ hcalls)

-- ---------------------------------------------------------------------------
-- One call
-- ---------------------------------------------------------------------------

/-- A validator that has looked things up, and is the given one otherwise. -/
structure Validator.Warmed (v : Validator) (classes : List Class) (w : Validator) : Prop where
  same : w = { v with compiled := w.compiled, sets := w.sets }
  settled : Settled v classes w.compiled w.sets

/-- What a validation amounts to where it has to find no violations. -/
def verdict : Except Stop (List Violation) → Except Stop Unit
  | .ok [] => .ok ()
  | .ok violations => .error (.failed (.violated violations))
  | .error stop => .error stop

theorem Validator.reply_assertValid (v : Validator) (implementation : Implementation) (store : Store)
    (now : Instant) (depth : Nat) (o : Object) :
    v.reply implementation store (.assertValid now depth o) =
      let answer := v.answer ⟨implementation, now⟩ depth store (.object none o)
      (.verdict (verdict answer.1), answer.2) := by
  simp only [reply, assertValid, answer]
  rcases v.validate ⟨implementation, now⟩ depth none o store with ⟨stop | _ | ⟨first, others⟩, after⟩ <;>
    rfl

theorem Validator.reply_constraintSet (v : Validator) (implementation : Implementation) (store : Store)
    (id : String) :
    (v.reply implementation store (.constraintSet id)).1 = .constraintSet (v.found id) ∧
      ((v.reply implementation store (.constraintSet id)).2 = (v, store) ∨
        ∃ found sets, v.sets.resolve id v.configurers = .ok (found, sets) ∧
          (v.reply implementation store (.constraintSet id)).2 = ({ v with sets }, store)) := by
  simp only [reply, setOf, found, ConstraintSets.found]
  cases v.sets.resolve id v.configurers with
  | error e => exact ⟨rfl, .inl rfl⟩
  | ok resolved => exact ⟨rfl, .inr ⟨resolved.1, resolved.2, rfl, rfl⟩⟩

/-- What answers keep, and lookups of checks and of sets, replies keep. -/
theorem Validator.reply_keeps_of (v : Validator) (implementation : Implementation) (store : Store)
    (call : Call) {P : Validator → Prop} (h : P v)
    (hanswer : ∀ world depth request, P (v.answer world depth store request).2.1)
    (hchecks : ∀ c, P (v.checksOf c).2)
    (hset : ∀ id found sets, v.sets.resolve id v.configurers = .ok (found, sets) → P { v with sets }) :
    P (v.reply implementation store call).2.1 := by
  cases call with
  | validate now depth request => exact hanswer ⟨implementation, now⟩ depth request
  | assertValid now depth o =>
    rw [reply_assertValid]
    exact hanswer ⟨implementation, now⟩ depth (.object none o)
  | checks c => exact hchecks c
  | constraintSet id =>
    obtain ⟨-, hafter | ⟨found, sets, hresolved, hafter⟩⟩ := v.reply_constraintSet implementation store id
    · rw [hafter]
      exact h
    · rw [hafter]
      exact hset id found sets hresolved

section

variable {v w : Validator} {implementation : Implementation} {objects : List Object}
  {classes : List Class} {store : Store}

theorem Validator.Warmed.start (v : Validator) (classes : List Class) : v.Warmed classes v :=
  ⟨rfl, .start v classes⟩

variable (still : StillProgram v implementation objects classes store) (hw : v.Warmed classes w)
include still hw

theorem answer_warmed (now : Instant) (depth : Nat) (request : Request)
    (hrequest : request.Within objects classes) :
    (w.answer ⟨implementation, now⟩ depth store request).1 =
        (v.answer ⟨implementation, now⟩ depth store request).1 ∧
      v.Warmed classes (w.answer ⟨implementation, now⟩ depth store request).2.1 ∧
      (w.answer ⟨implementation, now⟩ depth store request).2.2 = store := by
  obtain ⟨hsame, hsettled⟩ := hw
  simp only [answer_eq]
  cases hplan : request.plan with
  | error e => exact ⟨rfl, ⟨hsame, hsettled⟩, rfl⟩
  | ok plan =>
    simp only [Plan.perform_eq]
    have henv : w.environment ⟨implementation, now⟩ plan.requested plan.scope =
        v.environment ⟨implementation, now⟩ plan.requested plan.scope := by
      rw [hsame]
      rfl
    have hblind := (cacheBlindness v (v.environment ⟨implementation, now⟩ plan.requested plan.scope) rfl
      still).steps depth hplan rfl (by cases request <;> exact hrequest)
    -- Both runs rely on the same environment and start from states that are alike.
    have hend := hblind (w.start plan.owner store) (v.start plan.owner store)
      ⟨⟨rfl, hsettled⟩, ⟨rfl, .start v classes⟩, rfl⟩
    rw [henv]
    generalize Run.exec _ (w.start plan.owner store) = x at hend ⊢
    generalize Run.exec _ (v.start plan.owner store) = y at hend ⊢
    have hfinal (s : RunState) (hs : Steady v classes store s) :
        v.Warmed classes { w with compiled := s.compiled, sets := s.sets } :=
      ⟨by rw [hsame], hs.settled⟩
    cases hend with
    | error e halike => exact ⟨rfl, hfinal _ halike.left, halike.left.store⟩
    | ok hq halike =>
      obtain ⟨rfl, -⟩ := hq
      exact ⟨rfl, hfinal _ halike.left, halike.left.store⟩

/-- What has been looked up is not seen in a reply, and the reply leaves the graph as it is. -/
theorem reply_warmed {call : Call} (hcall : call.Within objects classes) :
    (w.reply implementation store call).1 = (v.reply implementation store call).1 ∧
      v.Warmed classes (w.reply implementation store call).2.1 ∧
      (w.reply implementation store call).2.2 = store := by
  cases call with
  | validate now depth request =>
    obtain ⟨hresult, hafter⟩ := answer_warmed still hw now depth request hcall
    exact ⟨congrArg Reply.report hresult, hafter⟩
  | assertValid now depth o =>
    obtain ⟨hresult, hafter⟩ := answer_warmed still hw now depth (.object none o) hcall
    rw [Validator.reply_assertValid, Validator.reply_assertValid]
    exact ⟨congrArg (Reply.verdict ∘ verdict) hresult, hafter⟩
  | checks c =>
    obtain ⟨hsame, hsettled⟩ := hw
    have hchecks : w.checksOf c = ((w.compiled.resolve c v.configurers).1,
        { w with compiled := (w.compiled.resolve c v.configurers).2 }) := by
      rw [hsame]
      rfl
    simp only [Validator.reply, hchecks, hsettled.checks c hcall]
    exact ⟨trivial, ⟨by rw [hsame], hsettled.resolve still.names hcall⟩, trivial⟩
  | constraintSet id =>
    obtain ⟨hsame, hsettled⟩ := hw
    have hconfigurers : w.configurers = v.configurers := by rw [hsame]
    have hfound : w.found id = v.found id := by
      rw [← hsettled.sets id, Validator.found, hconfigurers]
    obtain ⟨hreply, hafter⟩ := w.reply_constraintSet implementation store id
    refine ⟨by rw [hreply, hfound, (v.reply_constraintSet implementation store id).1], ?_⟩
    obtain hafter | ⟨found, sets, hset, hafter⟩ := hafter
    · rw [hafter]
      exact ⟨⟨hsame, hsettled⟩, rfl⟩
    · rw [hafter]
      exact ⟨⟨by rw [hsame], hsettled.resolveSet (hconfigurers ▸ hset)⟩, rfl⟩

end

-- ---------------------------------------------------------------------------
-- Compiled once
-- ---------------------------------------------------------------------------

/-- What an answer has looked up is what was there before, and more. -/
theorem answer_grows (v : Validator) (world : World) (depth : Nat) (store : Store) (request : Request) :
    let after := (v.answer world depth store request).2.1
    (∀ name checks, v.compiled.get? name = some (some checks) →
      after.compiled.get? name = some (some checks)) ∧
    ∀ id found, v.sets.get? id = some found → after.sets.get? id = some found := by
  simp only [answer_eq]
  cases hplan : request.plan with
  | error e => exact ⟨fun _ _ h => h, fun _ _ h => h⟩
  | ok plan =>
    have hrel := Plan.steps_rel (.refl (v.environment world plan.requested plan.scope))
      (ofDepth_within _ (Nat.le_refl depth)).lists hplan
    have hbefore := (hrel (v.start plan.owner store)).1
    exact ⟨hbefore.compiled, hbefore.sets⟩

theorem reply_keeps (v : Validator) (implementation : Implementation) (store : Store) (call : Call)
    (h : v.compiled.get? name = some (some checks)) :
    (v.reply implementation store call).2.1.compiled.get? name = some (some checks) :=
  v.reply_keeps_of implementation store call (P := fun v => v.compiled.get? name = some (some checks)) h
    (fun world depth request => (answer_grows v world depth store request).1 name checks h)
    (fun _ => CompiledChecks.get?_resolve h) fun _ _ _ _ => h

-- ---------------------------------------------------------------------------
-- Sequences of calls
-- ---------------------------------------------------------------------------

section

variable (implementation : Implementation)

theorem serve_cons (v : Validator) (store : Store) (call : Call) (rest : List Call) :
    v.serve implementation store (call :: rest) =
      let first := v.reply implementation store call
      let others := first.2.1.serve implementation first.2.2 rest
      (first.1 :: others.1, others.2) := rfl

theorem serve_append (v : Validator) (store : Store) (front back : List Call) :
    (v.serve implementation store (front ++ back)).2 =
      ((v.serve implementation store front).2.1.serve implementation
        (v.serve implementation store front).2.2 back).2 := by
  induction front generalizing v store with
  | nil => rfl
  | cons call rest ih => exact ih ..

theorem serve_keeps (v : Validator) (store : Store) (calls : List Call)
    (h : v.compiled.get? name = some (some checks)) :
    (v.serve implementation store calls).2.1.compiled.get? name = some (some checks) := by
  induction calls generalizing v store with
  | nil => exact h
  | cons call rest ih => exact ih _ _ (reply_keeps v implementation store call h)

end

section

variable {v : Validator} {implementation : Implementation} {objects : List Object}
  {classes : List Class} {store : Store}

theorem serve_warmed (still : StillProgram v implementation objects classes store) {w : Validator}
    (hw : v.Warmed classes w) {calls : List Call} (hcalls : ∀ call ∈ calls, call.Within objects classes) :
    (w.serve implementation store calls).1 =
        calls.map (fun call => (v.reply implementation store call).1) ∧
      v.Warmed classes (w.serve implementation store calls).2.1 ∧
      (w.serve implementation store calls).2.2 = store := by
  -- Each call finds the graph as it was and a validator that has looked up more.
  induction calls generalizing w with
  | nil => exact ⟨rfl, hw, rfl⟩
  | cons call rest ih =>
    obtain ⟨hreply, hnext, hstore⟩ := reply_warmed still hw (hcalls call List.mem_cons_self)
    obtain ⟨hothers, hafter⟩ := ih hnext fun other hother => hcalls other (List.mem_cons_of_mem _ hother)
    simp only [serve_cons, List.map_cons, hstore]
    exact ⟨by rw [hreply, hothers], hafter⟩

/-- Every call of a sequence is replied to as if it had been the first one. The calls leave the graph
as it is and change nothing of the validator but what it has looked up, and what one of them has
compiled serves all later ones. -/
theorem serve_replies (still : StillProgram v implementation objects classes store) (calls : List Call)
    (hcalls : ∀ call ∈ calls, call.Within objects classes) :
    let served := v.serve implementation store calls
    served.1 = calls.map (fun call => (v.reply implementation store call).1) ∧
      served.2.2 = store ∧
      (∃ compiled sets, served.2.1 = { v with compiled, sets }) ∧
      ∀ front back c checks, calls = front ++ back →
        (v.serve implementation store front).2.1.compiled.get? c.name = some (some checks) →
          served.2.1.checksOf c = (.ok checks, served.2.1) := by
  intro served
  obtain ⟨hreplies, hafter, hstore⟩ := serve_warmed still (.start v classes) hcalls
  refine ⟨hreplies, hstore, ⟨_, _, hafter.same⟩, ?_⟩
  rintro front back c checks rfl h
  have hkept : served.2.1.compiled.get? c.name = some (some checks) := by
    have hback := serve_keeps implementation _ (v.serve implementation store front).2.2 back h
    rwa [← serve_append] at hback
  rw [Validator.checksOf, CompiledChecks.resolve_of_get? hkept]

end

/-- What there is to know of nodes and of the set of their labels. -/
def ringTable : ConfigTable where
  classes := ⟨[("Node", {
    className := "Node"
    fields := [{ name := "next", checks := [{ kind := .assertValid }] },
      { name := "label", checks := [{ kind := .assertConstraintSet "text" }] }] })]⟩
  sets := ⟨[("text", { id := "text", checks := [{ kind := .notNull }] })]⟩

/-- A validator that has not looked anything up. -/
def freshValidator : Validator where
  configurers := [ringTable.configurer]

/-- A set that nobody defines, a validation that compiles the checks of nodes, a field that nodes do not
have, and the same validation again. -/
def ringCalls : List Call :=
  [.constraintSet "number", .validate ⟨0, 0⟩ 2 (.object none ⟨0, node⟩),
    .validate ⟨0, 0⟩ 2 (.field ⟨1, node⟩ "previous" .null),
    .validate ⟨0, 0⟩ 2 (.object none ⟨0, node⟩)]

theorem fresh_checks : ∃ checks, (freshValidator.checksOf node).1 = .ok checks ∧
    checks.invariants = [] ∧ checks.staticInvariants = [] := ⟨_, rfl, rfl, rfl⟩

theorem fresh_still (implementation : Implementation) :
    StillProgram freshValidator implementation ringObjects [node] ring := by
  obtain ⟨compiled, hcompiled, hinvariants, hstatic⟩ := fresh_checks
  have hcalls (method : String) : ¬ freshValidator.Calls [node] method := by
    rintro ⟨c, hc, checks, hchecks, hmethod⟩
    cases List.mem_singleton.mp hc
    rw [hcompiled] at hchecks
    cases hchecks
    simp [hinvariants] at hmethod
  have hcallsStatic (method : String) : ¬ freshValidator.CallsStatic [node] method := by
    rintro ⟨c, hc, checks, hchecks, hmethod⟩
    cases List.mem_singleton.mp hc
    rw [hcompiled] at hchecks
    cases hchecks
    simp [hstatic] at hmethod
  have hring := ring_still implementation
  exact {
    apart := hring.apart
    classesOf := hring.classesOf
    fields := hring.fields
    getters := fun _ _ method h => absurd h (hcalls method)
    quiet := fun _ _ method h => absurd h (hcalls method)
    names := fun c hc d hd _ => by rw [List.mem_singleton.mp hc, List.mem_singleton.mp hd]
    statics := fun c hc field value => ring_statics field value c hc
    staticGetters := fun _ _ method h => absurd h (hcallsStatic method)
    staticQuiet := fun _ _ method h => absurd h (hcallsStatic method) }

theorem fresh_compiled :
    ((freshValidator.serve stillWorld.implementation ring (ringCalls.take 2)).2.1.compiled.get?
      "Node").join.isSome = true := by
  decide +kernel

theorem serve_replies_ring :
    StillProgram freshValidator stillWorld.implementation ringObjects [node] ring ∧
      (∀ call ∈ ringCalls, call.Within ringObjects [node]) ∧
      freshValidator.compiled.get? "Node" = none ∧
      (freshValidator.serve stillWorld.implementation ring ringCalls).1 = ringCalls.map (fun call =>
        (freshValidator.reply stillWorld.implementation ring call).1) ∧
      ∃ checks, (freshValidator.serve stillWorld.implementation ring ringCalls).2.1.checksOf node =
        (.ok checks, (freshValidator.serve stillWorld.implementation ring ringCalls).2.1) := by
  have hcalls : ∀ call ∈ ringCalls, call.Within ringObjects [node] := by
    simp [ringCalls, Call.Within, Request.Within, ringObjects, Value.over_null]
  obtain ⟨hreplies, -, -, hserves⟩ := serve_replies (fresh_still _) ringCalls hcalls
  obtain ⟨checks, hchecks⟩ := Option.isSome_iff_exists.mp fresh_compiled
  refine ⟨fresh_still _, hcalls, rfl, hreplies, checks, ?_⟩
  exact hserves (ringCalls.take 2) (ringCalls.drop 2) node checks rfl (Option.join_eq_some_iff.mp hchecks)

end ObjectConstraints
