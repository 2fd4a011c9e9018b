import ObjectConstraints.Proofs.Histories

/-!
# Lookups

What is looked up and is not there is made: the checks of a class are compiled, which may fail, and a
constraint set is put together. Every call makes things in this way (`Call.exists_makes`), and what is
there afterwards is what was there before or has been made (`Mark.reply`). A history of a validator
keeps account of what was made and of what was dropped (`Event.History`).
-/

namespace ObjectConstraints

open Traversal

-- ---------------------------------------------------------------------------
-- Single lookups
-- ---------------------------------------------------------------------------

/-- What a lookup makes: the checks of a class, unless compiling them fails, or a set. -/
inductive Made where
  | compiled (c : Class) (result : Except ValidationError ClassChecks)
  | gathered (found : ConstraintSet)

/-- What is made where the checks of a class are looked up. -/
def CompiledChecks.made (compiled : CompiledChecks) (c : Class) (configurers : List Configurer) :
    List Made :=
  match compiled.get? c.name with
  | some (some _) => []
  | _ => [.compiled c (ClassChecks.compile c configurers)]

/-- What is made where a set is looked up. -/
def ConstraintSets.made (sets : ConstraintSets) (id : String) (configurers : List Configurer) :
    List Made :=
  match sets.get? id with
  | some _ => []
  | none => (ConstraintSet.ofConfigurers id configurers).toOption.toList.map .gathered

theorem CompiledChecks.made_of_get? {compiled : CompiledChecks} {c : Class}
    {configurers : List Configurer} (h : compiled.get? c.name = some (some checks)) :
    compiled.made c configurers = [] := by
  simp only [made, h]

theorem CompiledChecks.made_of_ne {compiled : CompiledChecks} {c : Class}
    {configurers : List Configurer} (h : ∀ checks, compiled.get? c.name ≠ some (some checks)) :
    compiled.made c configurers = [.compiled c (ClassChecks.compile c configurers)] := by
  unfold made
  split
  · next checks hchecks => exact absurd hchecks (h checks)
  · rfl

theorem ConstraintSet.ofConfigurers_id {id : String} {configurers : List Configurer}
    (h : ofConfigurers id configurers = .ok found) : found.id = id := by
  unfold ofConfigurers at h
  rcases hgathered : configurers.foldlM (gatherFrom id) none with e | _ | checks <;> rw [hgathered] at h
  · cases h
  · cases h
  · cases h
    rfl

/-- A lookup finds a set that is there, finds none and makes none, or makes the set that it finds. -/
theorem ConstraintSets.resolve_cases (sets : ConstraintSets) (id : String)
    (configurers : List Configurer) :
    (∃ found, sets.resolve id configurers = .ok (found, sets) ∧ sets.made id configurers = []) ∨
      (∃ e, sets.resolve id configurers = .error e ∧ sets.made id configurers = []) ∨
      ∃ found, found.id = id ∧ sets.resolve id configurers = .ok (found, sets.insert id found) ∧
        sets.made id configurers = [.gathered found] := by
  unfold resolve made
  cases hget : sets.get? id with
  | some found => exact .inl ⟨found, rfl, rfl⟩
  | none =>
    cases hmade : ConstraintSet.ofConfigurers id configurers with
    | error e => exact .inr (.inl ⟨e, rfl, rfl⟩)
    | ok found => exact .inr (.inr ⟨found, ConstraintSet.ofConfigurers_id hmade, rfl, rfl⟩)

theorem ConstraintSets.made_of_error {sets : ConstraintSets} {id : String}
    {configurers : List Configurer} (h : sets.resolve id configurers = .error e) :
    sets.made id configurers = [] := by
  obtain ⟨found, hset, -⟩ | ⟨_, -, hmade⟩ | ⟨found, -, hset, -⟩ := sets.resolve_cases id configurers
  · cases hset.symm.trans h
  · exact hmade
  · cases hset.symm.trans h

-- ---------------------------------------------------------------------------
-- Runs
-- ---------------------------------------------------------------------------

/-- What a run from a state makes, in order. -/
inductive Run.Makes (env : Environment) : {α : Type} → Run α → RunState → List Made → Prop where
  /-- A run that leaves what has been looked up as it is, wherever it starts. -/
  | nothing {α : Type} {m : Run α} (s : RunState)
      (h : ∀ s, (m.exec s).2.compiled = s.compiled ∧ (m.exec s).2.sets = s.sets) : Makes env m s []
  | checksOf (c : Class) (s : RunState) :
      Makes env (Run.checksOf env c) s (s.compiled.made c env.configurers)
  | setOf (id : String) (s : RunState) :
      Makes env (Run.setOf env id) s (s.sets.made id env.configurers)
  | bind {α β : Type} {m : Run α} {f : α → Run β} {s s' : RunState} {a : α} {first others : List Made}
      (hm : Makes env m s first) (hstep : m.exec s = (.ok a, s')) (hf : Makes env (f a) s' others) :
      Makes env (m >>= f) s (first ++ others)
  | stop {α β : Type} {m : Run α} {f : α → Run β} {s s' : RunState} {e : Stop} {made : List Made}
      (hm : Makes env m s made) (hstep : m.exec s = (.error e, s')) : Makes env (m >>= f) s made

/-- Whether there is an account of what a run makes, wherever it starts, with results of a kind. -/
structure Accounted (env : Environment) {α : Type} (P : α → Prop) (m : Run α) : Prop where
  makes : ∀ s, ∃ made, Run.Makes env m s made
  result : ∀ s a, (m.exec s).1 = .ok a → P a

namespace Accounted

variable {env : Environment} {α β : Type} {P : α → Prop} {Q : β → Prop}

theorem bind {m : Run α} {f : α → Run β} (hm : Accounted env P m)
    (hf : ∀ a, P a → Accounted env Q (f a)) : Accounted env Q (m >>= f) := by
  refine ⟨fun s => ?_, fun s b h => ?_⟩
  · obtain ⟨first, hfirst⟩ := hm.makes s
    rcases hstep : m.exec s with ⟨e | a, t⟩
    · exact ⟨first, .stop hfirst hstep⟩
    · obtain ⟨others, hothers⟩ := (hf a (hm.result s a (congrArg Prod.fst hstep))).makes t
      exact ⟨first ++ others, .bind hfirst hstep hothers⟩
  · obtain ⟨a, t, hstep, h⟩ := Run.exec_bind_ok.mp (Prod.ext h rfl)
    exact (hf a (hm.result s a (congrArg Prod.fst hstep))).result t b (congrArg Prod.fst h)

theorem nothing {m : Run α} (h : ∀ s, (m.exec s).2.compiled = s.compiled ∧ (m.exec s).2.sets = s.sets)
    (hP : ∀ a, P a) : Accounted env P m :=
  ⟨fun s => ⟨[], .nothing s h⟩, fun _ a _ => hP a⟩

theorem throw (stop : Stop) : Accounted env P (throw stop : Run α) :=
  ⟨fun s => ⟨[], .nothing s fun _ => ⟨rfl, rfl⟩⟩, fun _ _ h => by cases h⟩

end Accounted

/-- There is an account of what a traversal makes. -/
def accounts (env : Environment) : RunLogic env .all where
  Holds := Accounted env
  finds _ _ := True
  pure ha := ⟨fun s => ⟨[], .nothing s fun _ => ⟨rfl, rfl⟩⟩, fun _ _ h => by cases h; exact ha⟩
  bind := .bind
  tooDeep _ := .throw _
  unresolved _ _ _ := .throw _
  isEntered _ := .nothing (fun _ => ⟨rfl, rfl⟩) fun _ => trivial
  enter _ := .nothing (fun _ => ⟨rfl, rfl⟩) fun _ => trivial
  checksOf {c} _ := ⟨fun s => ⟨_, .checksOf c s⟩, fun _ _ _ => trivial⟩
  setOf id := ⟨fun s => ⟨_, .setOf id s⟩, fun _ _ _ => trivial⟩
  outlook check site _ := .nothing
    (fun s => by simp [Run.exec_lift_store fun store => outlook env store check site])
    fun _ _ _ => ⟨trivial, fun _ _ => trivial⟩
  test check site _ := .nothing (fun s => by simp [exec_test]) fun _ => trivial
  field _ _ _ _ := .nothing (fun s => by simp [Run.exec_read]) fun _ => trivial
  getter _ _ _ _ := .nothing (fun s => by simp [Run.exec_access]) fun _ => trivial
  staticField _ _ _ := .nothing (fun s => by simp [Run.exec_read]) fun _ => trivial
  staticGetter _ _ _ := .nothing (fun s => by simp [Run.exec_access]) fun _ => trivial

-- ---------------------------------------------------------------------------
-- Calls
-- ---------------------------------------------------------------------------

/-- What a validator makes when it answers a request. -/
def Request.Makes (v : Validator) (world : World) (depth : Nat) (store : Store) (request : Request)
    (made : List Made) : Prop :=
  match request.plan with
  | .error _ => made = []
  | .ok plan =>
    let env := v.environment world plan.requested plan.scope
    Run.Makes env (plan.steps env (Nested.ofDepth env depth)) (v.start plan.owner store) made

/-- What a validator makes when it replies to a call. -/
def Call.Makes (v : Validator) (implementation : Implementation) (store : Store) :
    Call → List Made → Prop
  | .validate now depth request, made => request.Makes v ⟨implementation, now⟩ depth store made
  | .assertValid now depth o, made =>
    (Request.object none o).Makes v ⟨implementation, now⟩ depth store made
  | .checks c, made => made = v.compiled.made c v.configurers
  | .constraintSet id, made => made = v.sets.made id v.configurers

theorem Request.exists_makes (v : Validator) (world : World) (depth : Nat) (store : Store)
    (request : Request) : ∃ made, request.Makes v world depth store made := by
  unfold Makes
  cases hplan : request.plan with
  | error e => exact ⟨[], rfl⟩
  | ok plan =>
    let env := v.environment world plan.requested plan.scope
    exact ((accounts env).steps depth hplan rfl (Realm.all_admits request)).makes
      (v.start plan.owner store)

theorem Call.exists_makes (v : Validator) (implementation : Implementation) (store : Store)
    (call : Call) : ∃ made, call.Makes v implementation store made := by
  cases call with
  | validate now depth request => exact request.exists_makes v ⟨implementation, now⟩ depth store
  | assertValid now depth o =>
    exact (Request.object none o).exists_makes v ⟨implementation, now⟩ depth store
  | checks c => exact ⟨_, rfl⟩
  | constraintSet id => exact ⟨_, rfl⟩

/-- What can be true of what has been looked up, and becomes true by what lookups make alone. -/
structure Mark where
  holds : CompiledChecks → ConstraintSets → Prop
  leftBy : Made → Prop
  checks : ∀ compiled sets c configurers, holds (compiled.resolve c configurers).2 sets ↔
    holds compiled sets ∨ ∃ made ∈ compiled.made c configurers, leftBy made
  set : ∀ compiled sets id configurers found after, sets.resolve id configurers = .ok (found, after) →
    (holds compiled after ↔ holds compiled sets ∨ ∃ made ∈ sets.made id configurers, leftBy made)

namespace Mark

variable (mark : Mark)

theorem exec {env : Environment} {α : Type} {m : Run α} {s : RunState} {made : List Made}
    (h : Run.Makes env m s made) :
    mark.holds (m.exec s).2.compiled (m.exec s).2.sets ↔
      mark.holds s.compiled s.sets ∨ ∃ one ∈ made, mark.leftBy one := by
  induction h with
  | nothing s h => simp [h s]
  | checksOf c s =>
    rw [Run.exec_checksOf]
    exact mark.checks s.compiled s.sets c env.configurers
  | setOf id s =>
    rw [Run.exec_setOf]
    rcases hset : s.sets.resolve id env.configurers with e | ⟨found, after⟩
    · simp [ConstraintSets.made_of_error hset]
    · exact mark.set s.compiled s.sets id env.configurers found after hset
  | bind hm hstep hf ihm ihf =>
    rw [hstep] at ihm
    simp only [Run.exec_bind_of_ok _ hstep, ihf, ihm, List.mem_append, or_and_right, exists_or, or_assoc]
  | stop hm hstep ih =>
    rw [hstep] at ih
    rw [Run.exec_bind_of_error _ hstep, ih]

/-- Whether what a mark says is true of what a validator has looked up. -/
def on (v : Validator) : Prop := mark.holds v.compiled v.sets

variable {v : Validator} {made : List Made}

theorem answer {world : World} {depth : Nat} {store : Store} {request : Request}
    (h : request.Makes v world depth store made) :
    mark.on (v.answer world depth store request).2.1 ↔ mark.on v ∨ ∃ one ∈ made, mark.leftBy one := by
  unfold Request.Makes at h
  simp only [answer_eq]
  cases hplan : request.plan with
  | error e =>
    rw [hplan] at h
    subst h
    simp [Validator.refuse]
  | ok plan =>
    rw [hplan] at h
    exact mark.exec h

theorem reply {implementation : Implementation} {store : Store} {call : Call}
    (h : call.Makes v implementation store made) :
    mark.on (v.reply implementation store call).2.1 ↔ mark.on v ∨ ∃ one ∈ made, mark.leftBy one := by
  cases call with
  | validate now depth request => exact mark.answer h
  | assertValid now depth o =>
    have hobject : (Request.object none o).Makes v ⟨implementation, now⟩ depth store made := h
    rw [Validator.reply_assertValid]
    exact mark.answer hobject
  | checks c =>
    cases h
    exact mark.checks v.compiled v.sets c v.configurers
  | constraintSet id =>
    cases h
    simp only [Validator.reply, Validator.setOf]
    rcases hset : v.sets.resolve id v.configurers with e | ⟨found, after⟩
    · simp [Except.map, ConstraintSets.made_of_error hset]
    · exact mark.set v.compiled v.sets id v.configurers found after hset

end Mark

-- ---------------------------------------------------------------------------
-- Logs
-- ---------------------------------------------------------------------------

/-- Whether something has happened and what would undo it has not happened since. -/
def Since {ε : Type} (does undoes : ε → Prop) (log : List ε) : Prop :=
  ∃ before entry after, log = before ++ entry :: after ∧ does entry ∧ ∀ later ∈ after, ¬ undoes later

namespace Since

variable {ε : Type} {does undoes : ε → Prop}

theorem nil : ¬ Since does undoes [] := by
  rintro ⟨before, entry, after, h, -⟩
  simp at h

theorem append {front back : List ε} : Since does undoes (front ++ back) ↔
    Since does undoes back ∨ Since does undoes front ∧ ∀ later ∈ back, ¬ undoes later := by
  constructor
  · rintro ⟨before, entry, after, h, hdoes, hafter⟩
    obtain ⟨middle, -, hback⟩ | ⟨_ | ⟨_, middle⟩, hfront, hrest⟩ := List.append_eq_append_iff.mp h
    · exact .inl ⟨middle, entry, after, hback, hdoes, hafter⟩
    · exact .inl ⟨[], entry, after, hrest.symm, hdoes, hafter⟩
    · cases hrest
      exact .inr ⟨⟨before, entry, middle, hfront, hdoes,
        fun later hlater => hafter later (List.mem_append_left _ hlater)⟩,
        fun later hlater => hafter later (List.mem_append_right _ hlater)⟩
  · rintro (⟨before, entry, after, rfl, hdoes, hafter⟩ |
      ⟨⟨before, entry, after, rfl, hdoes, hafter⟩, hback⟩)
    · exact ⟨front ++ before, entry, after, by simp, hdoes, hafter⟩
    · refine ⟨before, entry, after ++ back, by simp, hdoes, fun later hlater => ?_⟩
      exact (List.mem_append.mp hlater).elim (hafter later) (hback later)

theorem singleton {entry : ε} : Since does undoes [entry] ↔ does entry := by
  constructor
  · rintro ⟨_ | _, _, _, h, hdoes, -⟩
    · cases h
      exact hdoes
    · simp at h
  · intro h
    exact ⟨[], entry, [], rfl, h, by simp⟩

/-- What nothing undoes holds from when it has happened. -/
theorem of_lasting {log : List ε} (h : ∀ entry ∈ log, ¬ undoes entry) :
    Since does undoes log ↔ ∃ entry ∈ log, does entry := by
  constructor
  · rintro ⟨before, entry, after, rfl, hdoes, -⟩
    exact ⟨entry, by simp, hdoes⟩
  · rintro ⟨entry, hentry, hdoes⟩
    obtain ⟨before, after, rfl⟩ := List.append_of_mem hentry
    exact ⟨before, entry, after, rfl, hdoes, fun later hlater =>
      h later (List.mem_append_right _ (List.mem_cons_of_mem _ hlater))⟩

end Since

/-- Whether a log explains what became of something: it is so because an entry has made it so and none
has undone it since, or because it was so before and no entry has undone it. -/
def Explains {ε : Type} (does undoes : ε → Prop) (log : List ε) (before after : Prop) : Prop :=
  after ↔ Since does undoes log ∨ before ∧ ∀ entry ∈ log, ¬ undoes entry

namespace Explains

variable {ε : Type} {does undoes : ε → Prop} {first others : List ε} {before between after : Prop}

theorem of_lasting {log : List ε} (hlog : ∀ entry ∈ log, ¬ undoes entry) :
    Explains does undoes log before after ↔ (after ↔ before ∨ ∃ entry ∈ log, does entry) := by
  rw [Explains, Since.of_lasting hlog, and_iff_left hlog, or_comm]

/-- Entries that neither do nor undo anything leave it as it was. -/
theorem of_quiet {log : List ε} (hlog : ∀ entry ∈ log, ¬ does entry ∧ ¬ undoes entry) :
    Explains does undoes log before after ↔ (after ↔ before) := by
  have hdoes : ¬ ∃ entry ∈ log, does entry := fun ⟨entry, hentry, h⟩ => (hlog entry hentry).1 h
  rw [of_lasting fun entry hentry => (hlog entry hentry).2, or_iff_left hdoes]

theorem nil : Explains does undoes [] before after ↔ (after ↔ before) :=
  of_quiet (List.forall_mem_nil _)

theorem append (h : Explains does undoes first before between)
    (h' : Explains does undoes others between after) :
    Explains does undoes (first ++ others) before after := by
  rw [Explains] at h h' ⊢
  rw [h', h, Since.append]
  simp only [List.mem_append, or_imp, forall_and]
  tauto

theorem singleton {entry : ε} :
    Explains does undoes [entry] before after ↔ (after ↔ does entry ∨ before ∧ ¬ undoes entry) := by
  simp [Explains, Since.singleton]

end Explains

-- ---------------------------------------------------------------------------
-- Histories
-- ---------------------------------------------------------------------------

/-- What a history is remembered for: what was made, and what was dropped on request. -/
inductive LogEntry where
  | made (made : Made)
  | evicted (className : String)
  | evictedAll
  | removedSet (id : String)

namespace Event

/-- What an event that happens to a validator is remembered for. -/
def Logs (v : Validator) : Event → List LogEntry → Prop
  | .call implementation store asked, log =>
    ∃ made, asked.Makes v implementation store made ∧ log = made.map .made
  | .reconfigure c, log =>
    log = .evicted c.name :: ((v.evict c.name).2.compiled.made c v.configurers).map .made
  | .evict className, log => log = [.evicted className]
  | .evictAll, log => log = [.evictedAll]
  | .addChecks c .., log | .removeChecks c .., log | .clearMember c _, log | .clearAll c, log
  | .setFlags c _, log => log = (v.compiled.made c v.configurers).map .made
  | .removeSet id, log => log = [.removedSet id]
  | .configure _, log | .addSet .., log | .addLanguage .., log | .removeLanguage _, log
  | .profile _, log => log = []

/-- What a sequence of events that happen to a validator is remembered for. -/
inductive History : Validator → List Event → List LogEntry → Prop where
  | nil (v : Validator) : History v [] []
  | cons {v : Validator} {event : Event} {rest : List Event} {first others : List LogEntry}
      (hfirst : event.Logs v first) (hrest : History (event.perform v) rest others) :
      History v (event :: rest) (first ++ others)

theorem exists_logs (v : Validator) (event : Event) : ∃ log, event.Logs v log := by
  cases event with
  | call implementation store asked =>
    obtain ⟨made, hmade⟩ := asked.exists_makes v implementation store
    exact ⟨_, made, hmade, rfl⟩
  | _ => exact ⟨_, rfl⟩

theorem exists_history (v : Validator) (events : List Event) : ∃ log, History v events log := by
  induction events generalizing v with
  | nil => exact ⟨[], .nil v⟩
  | cons event rest ih =>
    obtain ⟨first, hfirst⟩ := event.exists_logs v
    obtain ⟨others, hothers⟩ := ih (event.perform v)
    exact ⟨first ++ others, .cons hfirst hothers⟩

/-- What every single event is remembered for explains what becomes of a validator. -/
theorem History.explains {does undoes : LogEntry → Prop} {P : Validator → Prop}
    (hstep : ∀ v (event : Event) log, event.Logs v log →
      Explains does undoes log (P v) (P (event.perform v)))
    (h : History v events log) : Explains does undoes log (P v) (P (run events v)) := by
  induction h with
  | nil v => exact Explains.nil.mpr Iff.rfl
  | cons hfirst _ ih => exact (hstep _ _ _ hfirst).append ih

end Event

end ObjectConstraints
