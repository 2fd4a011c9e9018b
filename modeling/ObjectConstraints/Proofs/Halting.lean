import ObjectConstraints.Proofs.Depth
import ObjectConstraints.Proofs.KnownClasses

/-!
# Halting

Runs that come to an end if they may nest deep enough, on a graph of objects whose getters may change
fields but bring in no other objects (`Halts`). Where lists of checks halt, visits of objects and
requests do (`visit_halts`, `steps_halt`).
-/

namespace ObjectConstraints

open Traversal

-- ---------------------------------------------------------------------------
-- Graphs
-- ---------------------------------------------------------------------------

/-- The getters of classes that a validator calls, those of the static invariants of known
classes. -/
def Validator.CallsStatic (v : Validator) (classes : List Class) (method : String) : Prop :=
  ∃ c ∈ classes, ∃ checks, (v.checksOf c).1 = .ok checks ∧ method ∈ checks.staticInvariants

/-- The stores that the getters a validator calls can lead to. -/
inductive Later (v : Validator) (implementation : Implementation) (objects : List Object)
    (classes : List Class) (store : Store) : Store → Prop
  | start : Later v implementation objects classes store store
  | getter {later o method} : Later v implementation objects classes store later → o ∈ objects →
      v.Calls classes method →
      Later v implementation objects classes store (o.invoke implementation method [] later).2
  | staticGetter {later c method} : Later v implementation objects classes store later →
      c ∈ classes → v.CallsStatic classes method →
      Later v implementation objects classes store (c.invokeStatic implementation method [] later).2

/-- A finite graph of objects: whatever getters have been called, fields and getters hold objects of
the graph. -/
structure FiniteGraph (v : Validator) (implementation : Implementation) (objects : List Object)
    (classes : List Class) (store : Store) : Prop where
  classesOf : ClassesOf objects classes
  fields : ∀ later, Later v implementation objects classes store later → later.ClosedOver objects
  statics : ∀ later, Later v implementation objects classes store later → ∀ c ∈ classes,
    ∀ field value, c.getStatic field later = .ok value → value.Over objects
  getters : ∀ later, Later v implementation objects classes store later → ∀ o ∈ objects,
    ∀ method, v.Calls classes method → ∀ value,
    (o.invoke implementation method [] later).1 = .ok value → value.Over objects
  staticGetters : ∀ later, Later v implementation objects classes store later → ∀ c ∈ classes,
    ∀ method, v.CallsStatic classes method → ∀ value,
    (c.invokeStatic implementation method [] later).1 = .ok value → value.Over objects

/-- How many of some objects have not been entered. -/
def Entered.missing (entered : Entered) (objects : List Object) : Nat :=
  objects.countP fun o => !entered.contains o

theorem Entered.missing_enter {entered : Entered} {o : Object} (ho : o ∈ objects)
    (h : entered.contains o = false) : (entered.enter o).2.missing objects < entered.missing objects := by
  have hmono (rest : List Object) : (entered.enter o).2.missing rest ≤ entered.missing rest := by
    refine List.countP_mono_left fun p _ hp => ?_
    rw [contains_enter] at hp
    simp_all
  obtain ⟨front, back, rfl⟩ := List.append_of_mem ho
  have hfront := hmono front
  have hback := hmono back
  have hentered : (entered.enter o).2.contains o = true := by simp [contains_enter]
  simp only [missing, List.countP_append, List.countP_cons, h, hentered] at hfront hback ⊢
  simp
  omega

theorem Entered.missing_pos {entered : Entered} {o : Object} (ho : o ∈ objects)
    (h : entered.contains o = false) : 0 < entered.missing objects :=
  List.countP_pos_iff.mpr ⟨o, ho, by simp [h]⟩

/-- A state of a run over a graph, at most so many objects of which have not been entered. -/
structure Alive (v : Validator) (implementation : Implementation) (objects : List Object)
    (classes : List Class) (store : Store) (n : Nat) (s : RunState) : Prop where
  later : Later v implementation objects classes store s.store
  known : Known v classes s
  missing : s.entered.missing objects ≤ n

variable {v : Validator} {env : Environment} {objects : List Object} {classes : List Class}
  {store : Store} {n : Nat}

theorem Alive.mono (h : Alive v implementation objects classes store n s) (hn : n ≤ m) :
    Alive v implementation objects classes store m s :=
  ⟨h.later, h.known, Nat.le_trans h.missing hn⟩

-- ---------------------------------------------------------------------------
-- Runs that halt
-- ---------------------------------------------------------------------------

/-- Whether a run halts from every state of a graph with so many objects to enter, in such a state
again, with a result of a kind or with an error. -/
def Halts {α : Type} (v : Validator) (env : Environment) (objects : List Object)
    (classes : List Class) (store : Store) (n : Nat) (P : α → Prop) (m : Nat → Run α) : Prop :=
  ∀ s, Alive v env.implementation objects classes store n s → ∃ r s', Settles m s (r, s') ∧
    Finished r ∧ Alive v env.implementation objects classes store n s' ∧ ∀ a, r = .ok a → P a

namespace Halts

variable {α β : Type} {P : α → Prop} {Q : β → Prop}

theorem of_step {m : Run α}
    (h : ∀ s, Alive v env.implementation objects classes store n s → Finished (m.exec s).1 ∧
      Alive v env.implementation objects classes store n (m.exec s).2 ∧
      ∀ a, (m.exec s).1 = .ok a → P a) :
    Halts v env objects classes store n P fun _ => m :=
  fun s hs => ⟨(m.exec s).1, (m.exec s).2, .const m s, h s hs⟩

theorem pure {a : α} (ha : P a) : Halts v env objects classes store n P fun _ => Pure.pure a :=
  of_step fun s hs => ⟨finished_ok, hs, fun b hb => by cases hb; exact ha⟩

theorem bind {m : Nat → Run α} {f : Nat → α → Run β} (hm : Halts v env objects classes store n P m)
    (hf : ∀ a, P a → Halts v env objects classes store n Q fun d => f d a) :
    Halts v env objects classes store n Q fun d => m d >>= f d := by
  intro s hs
  obtain ⟨r, s', hsettles, hfin, hs', hP⟩ := hm s hs
  cases r with
  | error e =>
    refine ⟨.error e, s', hsettles.bind_error f, finished_error.mpr (finished_error.mp hfin), hs', ?_⟩
    intro b hb
    cases hb
  | ok a =>
    obtain ⟨r', s'', hsettles', hend⟩ := hf a (hP a rfl) s' hs'
    exact ⟨r', s'', hsettles.bind_ok f hsettles', hend⟩

theorem gather {step : Nat → α → Run (List β)} {l : List α}
    (h : ∀ a ∈ l, Halts v env objects classes store n (fun _ => True) fun d => step d a) :
    Halts v env objects classes store n (fun _ => True) fun d => Run.gather (step d) l := by
  induction l with
  | nil => exact .pure trivial
  | cons a rest ih =>
    refine .bind (h a List.mem_cons_self) fun front _ => ?_
    exact .bind (ih fun b hb => h b (List.mem_cons_of_mem _ hb)) fun back _ => .pure trivial

theorem succ {m m' : Nat → Run α} (h : Halts v env objects classes store n P m)
    (hm : ∀ d, m' (d + 1) = m d) : Halts v env objects classes store n P m' := by
  intro s hs
  obtain ⟨r, s', hsettles, hend⟩ := h s hs
  exact ⟨r, s', hsettles.succ hm, hend⟩

theorem lift {r : Except ValidationError α} (h : ∀ a, r = .ok a → P a) :
    Halts v env objects classes store n P fun _ => Run.lift r := by
  refine of_step fun s hs => ?_
  rw [Run.exec_lift]
  exact ⟨finished_failed r, hs, fun a ha => h a (Run.mapError_ok.mp ha)⟩

end Halts

-- ---------------------------------------------------------------------------
-- Steps
-- ---------------------------------------------------------------------------

theorem read_halts {α : Type} {P : α → Prop} {access : Store → Except AccessError α}
    (h : ∀ later, Later v env.implementation objects classes store later → ∀ a,
      access later = .ok a → P a) :
    Halts v env objects classes store n P fun _ => Run.read access := by
  refine .of_step fun s hs => ?_
  rw [Run.read, Run.exec_bind_of_ok _ (Run.exec_get s), Run.exec_lift]
  exact ⟨finished_failed _, hs, fun a ha => h s.store hs.later a
    (Run.mapError_ok.mp (Run.mapError_ok.mp ha))⟩

theorem access_halts {α : Type} {P : α → Prop} {action : Store → Except AccessError α × Store}
    (h : ∀ later, Later v env.implementation objects classes store later →
      Later v env.implementation objects classes store (action later).2 ∧
        ∀ a, (action later).1 = .ok a → P a) :
    Halts v env objects classes store n P fun _ => Run.access action := by
  refine .of_step fun s hs => ?_
  obtain ⟨hlater, hP⟩ := h s.store hs.later
  rw [Run.exec_access]
  exact ⟨finished_failed _, ⟨hlater, hs.known.withStore _, hs.missing⟩, fun a ha => hP a
    (Run.mapError_ok.mp (Run.mapError_ok.mp ha))⟩

section

variable (henv : env.configurers = v.configurers)
include henv

theorem checksOf_halts (hc : c ∈ classes) :
    Halts v env objects classes store n
      (fun checks => ∃ d ∈ classes, d.name = c.name ∧ (v.checksOf d).1 = .ok checks)
      fun _ => Run.checksOf env c := by
  refine .of_step fun s hs => ?_
  rw [Run.exec_checksOf, henv]
  exact ⟨finished_failed _, ⟨hs.later, hs.known.checksOf hc, hs.missing⟩, fun checks hchecks =>
    hs.known.checks c hc checks (Run.mapError_ok.mp hchecks)⟩

theorem setOf_halts (id : String) :
    Halts v env objects classes store n (fun found => v.found id = .ok found)
      fun _ => Run.setOf env id := by
  refine .of_step fun s hs => ?_
  rw [Run.exec_setOf, henv]
  cases hset : s.sets.resolve id v.configurers with
  | error e => exact ⟨finished_failed (.error e), hs, fun _ h => by cases h⟩
  | ok resolved =>
    obtain ⟨hknown, hfound⟩ := hs.known.setOf hset
    exact ⟨finished_ok, ⟨hs.later, hknown, hs.missing⟩, fun found h => by cases h; exact hfound⟩

-- ---------------------------------------------------------------------------
-- Visits
-- ---------------------------------------------------------------------------

/-- Whether all lists of checks halt at all sites. -/
def ListsHalt (v : Validator) (env : Environment) (objects : List Object) (classes : List Class)
    (store : Store) (n : Nat) (nested : Nat → Nested) : Prop :=
  ∀ checks site, site.Within env objects classes →
    Halts v env objects classes store n (fun _ => True) fun d => applyAll env (nested d) checks site

variable (graph : FiniteGraph v env.implementation objects classes store) {nested : Nat → Nested}
  (hl : ListsHalt v env objects classes store n nested)
include graph hl

omit henv in
theorem visitInvariants_halts (ho : o ∈ objects) (checks : ClassChecks)
    (hcalls : ∀ method ∈ checks.invariants, v.Calls classes method) :
    Halts v env objects classes store n (fun _ => True)
      fun d => visitInvariants env (nested d) o checks := by
  refine .gather fun method hmethod => .bind (P := (·.Over objects)) (access_halts fun later hlater => ?_)
    fun value hvalue => hl _ _ (.of_owner graph.classesOf ho hvalue _ _)
  have hmethod := hcalls method hmethod
  exact ⟨.getter hlater ho hmethod, graph.getters later hlater o ho method hmethod⟩

theorem visitLevel_halts (ho : o ∈ objects) (hc : c ∈ classes) :
    Halts v env objects classes store n (fun _ => True) fun d => visitLevel env (nested d) o c := by
  simp only [visitLevel_eq]
  refine .bind (checksOf_halts henv hc) fun checks hchecks => ?_
  obtain ⟨known, hknown, -, hchecks⟩ := hchecks
  refine .bind (P := fun _ => True) (.gather fun field _ => ?_) fun _ _ => ?_
  · refine .bind (P := (·.Over objects)) (read_halts fun later hlater => ?_)
      fun value hvalue => hl _ _ (.of_owner graph.classesOf ho hvalue _ _)
    exact graph.fields later hlater o ho field
  refine .bind (visitInvariants_halts graph hl ho checks fun method hmethod =>
    ⟨known, hknown, checks, hchecks, hmethod⟩) fun _ _ => ?_
  refine .bind (P := fun _ => True) (.gather fun interface hinterface => ?_) fun _ _ => ?_
  · have hinterface : interface ∈ classes := by
      unfold inspected at hinterface
      split at hinterface
      · exact graph.classesOf.interfaces c hc _ hinterface
      · cases hinterface
    refine .bind (checksOf_halts henv hinterface) fun inherited hinherited => ?_
    obtain ⟨known, hknown, -, hinherited⟩ := hinherited
    exact visitInvariants_halts graph hl ho inherited fun method hmethod =>
      ⟨known, hknown, inherited, hinherited, hmethod⟩
  · exact .bind (hl _ _ (.of_owner graph.classesOf ho (Value.over_object.mpr ho) _ _)) fun _ _ =>
      .pure trivial

/-- A visit of an object that has not been entered halts where lists of checks do with one object
less to enter. -/
theorem visit_halts (ho : o ∈ objects)
    (hs : Alive v env.implementation objects classes store m s)
    (hn : (s.entered.enter o).2.missing objects ≤ n) :
    ∃ r s', Settles (fun d => visit env (nested d) o) s (r, s') ∧ Finished r ∧
      Alive v env.implementation objects classes store n s' := by
  have hlevels : Halts v env objects classes store n (fun _ => True)
      fun d => Run.gather (visitLevel env (nested d) o) o.cls.hierarchy :=
    .gather fun c hc => visitLevel_halts henv graph hl ho
      (graph.classesOf.levels _ (graph.classesOf.objects o ho) c hc)
  obtain ⟨r, s', hsettles, hfin, hs', -⟩ := hlevels { s with entered := (s.entered.enter o).2 }
    ⟨hs.later, ⟨hs.known.checks, hs.known.sets⟩, hn⟩
  exact ⟨r, s', (Settles.const (Run.enter o) s).bind_ok _ hsettles, hfin, hs'⟩

theorem visitStatic_halts (hc : c ∈ classes) (hscope : ∀ c, env.scope = some c → c ∈ classes) :
    Halts v env objects classes store n (fun _ => True) fun d => visitStatic env (nested d) c := by
  refine .bind (checksOf_halts henv hc) fun checks hchecks => ?_
  obtain ⟨known, hknown, -, hchecks⟩ := hchecks
  refine .bind (P := fun _ => True) (.gather fun field _ => ?_) fun _ _ => ?_
  · refine .bind (P := (·.Over objects)) (read_halts fun later hlater => ?_)
      fun value hvalue => hl _ _ ⟨hvalue, hscope⟩
    exact graph.statics later hlater c hc field
  refine .bind (P := fun _ => True) (.gather fun method hmethod => ?_) fun _ _ => .pure trivial
  refine .bind (P := (·.Over objects)) (access_halts fun later hlater => ?_)
    fun value hvalue => hl _ _ ⟨hvalue, hscope⟩
  have hmethod : v.CallsStatic classes method := ⟨known, hknown, checks, hchecks, hmethod⟩
  exact ⟨.staticGetter hlater hc hmethod, graph.staticGetters later hlater c hc method hmethod⟩

omit graph in
theorem memberSteps_halts (hc : c ∈ classes) (members : List (Member × Site))
    (hmembers : ∀ entry ∈ members, entry.2.Within env objects classes) :
    Halts v env objects classes store n (fun _ => True) fun d => memberSteps c members env (nested d) :=
  .bind (checksOf_halts henv hc) fun checks _ => .gather fun entry hentry =>
    hl (checks.of entry.1) entry.2 (hmembers entry hentry)

end

end ObjectConstraints
