import ObjectConstraints.Proofs.Deriving
import ObjectConstraints.Proofs.Histories

/-!
# Registries

The checks that a validator has for classes belong together at all times, whatever has happened to it
since it knew no classes (`Validator.Reachable.consistent`).
-/

namespace ObjectConstraints

open Traversal

-- ---------------------------------------------------------------------------
-- Tables
-- ---------------------------------------------------------------------------

namespace CompiledChecks

/-- Whether the checks in the places of classes are of a kind. -/
def Each (Q : String → ClassChecks → Prop) (compiled : CompiledChecks) : Prop :=
  ∀ name checks, compiled.get? name = some (some checks) → Q name checks

/-- Whether the checks of every class are as they should be. -/
def Sound (compiled : CompiledChecks) : Prop :=
  ∀ name checks, compiled.get? name = some (some checks) → checks.Consistent

variable {compiled : CompiledChecks} {Q : String → ClassChecks → Prop} {name : String}

theorem Each.empty : Each Q {} := fun name checks h => by simp [Table.get?_empty] at h

theorem Each.insert (h : compiled.Each Q) {made : Option ClassChecks}
    (hmade : ∀ checks, made = some checks → Q name checks) : Each Q (compiled.insert name made) := by
  intro other checks hget
  by_cases hname : other = name
  · rw [hname, Table.get?_insert_self] at hget
    rw [hname]
    exact hmade checks (Option.some.inj hget)
  · rw [Table.get?_insert_of_ne _ _ hname] at hget
    exact h other checks hget

theorem Each.erase (h : compiled.Each Q) (name : String) : Each Q (compiled.erase name) := by
  intro other checks hget
  by_cases hname : other = name
  · rw [hname, Table.get?_erase_self] at hget
    cases hget
  · rw [Table.get?_erase_of_ne _ hname] at hget
    exact h other checks hget

theorem Each.resolve (h : compiled.Each Q) {c : Class} {configurers : List Configurer}
    (hcompiled : ∀ checks, ClassChecks.compile c configurers = .ok checks → Q c.name checks) :
    (compiled.resolve c configurers).2.Each Q ∧
      ∀ checks, (compiled.resolve c configurers).1 = .ok checks → Q c.name checks := by
  rcases compiled.get?_cases c.name with ⟨found, hfound⟩ | hno
  · rw [resolve_of_get? hfound]
    refine ⟨h, ?_⟩
    rintro _ ⟨⟩
    exact h _ _ hfound
  · rw [resolve_of_ne hno]
    refine ⟨h.insert fun checks hchecks => hcompiled checks ?_, hcompiled⟩
    cases hresult : ClassChecks.compile c configurers with
    | error e => simp [hresult, Except.toOption] at hchecks
    | ok made => simpa [hresult, Except.toOption] using hchecks

theorem Sound.resolve (h : compiled.Sound) (c : Class) (configurers : List Configurer) :
    (compiled.resolve c configurers).2.Sound ∧
      ∀ checks, (compiled.resolve c configurers).1 = .ok checks → checks.Consistent :=
  Each.resolve (Q := fun _ checks => checks.Consistent) h fun _ => ClassChecks.compile_consistent

end CompiledChecks

-- ---------------------------------------------------------------------------
-- Runs
-- ---------------------------------------------------------------------------

/-- Whether a run leaves the checks of classes as they should be, with results of a kind. -/
structure KeepsSound {α : Type} (P : α → Prop) (m : Run α) : Prop where
  sound : ∀ s, s.compiled.Sound → (m.exec s).2.compiled.Sound
  result : ∀ s a, (m.exec s).1 = .ok a → P a

namespace KeepsSound

variable {env : Environment} {α β : Type} {P : α → Prop} {Q : β → Prop}

theorem bind {m : Run α} {f : α → Run β} (hm : KeepsSound P m) (hf : ∀ a, P a → KeepsSound Q (f a)) :
    KeepsSound Q (m >>= f) := by
  refine ⟨fun s hs => ?_, fun s b h => ?_⟩
  · have hsound := hm.sound s hs
    rw [Run.exec_bind]
    rcases hstep : m.exec s with ⟨e | a, t⟩ <;> rw [hstep] at hsound
    · exact hsound
    · exact (hf a (hm.result s a (congrArg Prod.fst hstep))).sound t hsound
  · obtain ⟨a, t, hstep, h⟩ := Run.exec_bind_ok.mp (Prod.ext h rfl)
    exact (hf a (hm.result s a (congrArg Prod.fst hstep))).result t b (congrArg Prod.fst h)

theorem of_compiled {m : Run α} (h : ∀ s, (m.exec s).2.compiled = s.compiled) (hP : ∀ a, P a) :
    KeepsSound P m :=
  ⟨fun s hs => (h s).symm ▸ hs, fun _ a _ => hP a⟩

theorem checksOf (c : Class) : KeepsSound (fun _ => True) (Run.checksOf env c) := by
  refine ⟨fun s hs => ?_, fun _ _ _ => trivial⟩
  rw [Run.exec_checksOf]
  exact (hs.resolve c env.configurers).1

theorem setOf (id : String) : KeepsSound (fun _ => True) (Run.setOf env id) := by
  refine of_compiled (fun s => ?_) fun _ => trivial
  rw [Run.exec_setOf]
  cases s.sets.resolve id env.configurers <;> rfl

end KeepsSound

/-- Traversals leave the checks of classes as they should be. -/
def soundness (env : Environment) : RunLogic env .all where
  Holds := KeepsSound
  finds _ _ := True
  pure ha := ⟨fun _ hs => hs, fun _ _ h => by cases h; exact ha⟩
  bind := .bind
  tooDeep _ := ⟨fun _ hs => hs, fun _ _ h => by cases h⟩
  unresolved _ _ _ := ⟨fun _ hs => hs, fun _ _ h => by cases h⟩
  isEntered _ := .of_compiled (fun _ => rfl) fun _ => trivial
  enter _ := .of_compiled (fun _ => rfl) fun _ => trivial
  checksOf _ := .checksOf _
  setOf := .setOf
  outlook check site _ := .of_compiled
    (fun s => by rw [Run.exec_lift_store fun store => outlook env store check site])
    fun _ _ _ => ⟨trivial, fun _ _ => trivial⟩
  test check site _ := .of_compiled (fun s => by rw [exec_test]) fun _ => trivial
  field _ _ _ _ := .of_compiled (fun s => by rw [Run.exec_read]) fun _ => trivial
  getter _ _ _ _ := .of_compiled (fun s => by rw [Run.exec_access]) fun _ => trivial
  staticField _ _ _ := .of_compiled (fun s => by rw [Run.exec_read]) fun _ => trivial
  staticGetter _ _ _ := .of_compiled (fun s => by rw [Run.exec_access]) fun _ => trivial

-- ---------------------------------------------------------------------------
-- Events
-- ---------------------------------------------------------------------------

/-- A kind of checks that those that are compiled for some classes are of, and that every operation on
checks keeps. -/
structure Lasting (has : Class → Prop) (Q : String → ClassChecks → Prop) : Prop where
  compiled : ∀ c, has c → ∀ configurers checks, ClassChecks.compile c configurers = .ok checks →
    Q c.name checks
  performed : ∀ (operation : Operation) name checks, Q name checks → Q name (operation.perform checks).2

theorem lasting_consistent : Lasting (fun _ => True) fun _ checks => checks.Consistent where
  compiled _ _ _ _ := ClassChecks.compile_consistent
  performed operation _ _ h := Operation.perform_consistent h operation

/-- Whether the class whose checks an event replaces or changes is of a kind. -/
def Event.Changes (has : Class → Prop) : Event → Prop
  | .reconfigure c | .addChecks c _ _ _ | .removeChecks c _ _ | .clearMember c _ | .clearAll c
  | .setFlags c _ => has c
  | _ => True

namespace Event

section

variable {v : Validator} {has : Class → Prop} {Q : String → ClassChecks → Prop} (hQ : Lasting has Q)
  (h : v.compiled.Each Q)
include hQ h

theorem resolve_each {c : Class} (hc : has c) :
    (v.compiled.resolve c v.configurers).2.Each Q ∧
      ∀ checks, (v.compiled.resolve c v.configurers).1 = .ok checks → Q c.name checks :=
  h.resolve fun checks => hQ.compiled c hc v.configurers checks

theorem updateChecks_each {c : Class} (hc : has c) (operation : Operation) :
    (v.updateChecks c fun checks => (operation.perform checks).2).2.compiled.Each Q := by
  obtain ⟨heach, hfound⟩ := resolve_each hQ h hc
  rcases hresolved : v.compiled.resolve c v.configurers with ⟨e | checks, compiled⟩ <;>
    rw [hresolved] at heach hfound <;>
    simp only [Validator.updateChecks, Validator.checksOf, hresolved]
  · exact heach
  · refine heach.insert ?_
    rintro _ ⟨⟩
    exact hQ.performed operation _ checks (hfound checks rfl)

theorem addChecks_each {c : Class} (hc : has c) (member : Member) (isInvariant : Bool)
    (checks : List Check) : (v.addChecks c member isInvariant checks).2.compiled.Each Q := by
  obtain ⟨heach, hfound⟩ := resolve_each hQ h hc
  rcases hresolved : v.compiled.resolve c v.configurers with ⟨e | found, compiled⟩ <;>
    rw [hresolved] at heach hfound <;>
    simp only [Validator.addChecks, Validator.checksOf, hresolved]
  · exact heach
  · split
    · exact heach
    · next added after hadd =>
      refine heach.insert ?_
      rintro _ ⟨⟩
      have hkept := hQ.performed
        (.add member isInvariant (Registered.numbered v.nextTicket checks)) _ found (hfound found rfl)
      rwa [Operation.perform, hadd] at hkept

/-- Checks of a kind that lasts are kept by everything that happens, if validations keep them. -/
theorem perform_each {event : Event} (hchanges : event.Changes has)
    (hcall : ∀ implementation store asked, event = .call implementation store asked →
      (v.reply implementation store asked).2.1.compiled.Each Q) :
    (event.perform v).compiled.Each Q := by
  cases event with
  | call implementation store asked => exact hcall implementation store asked rfl
  | reconfigure c => exact ((h.erase c.name).resolve fun _ => hQ.compiled c hchanges _ _).1
  | evict className => exact h.erase className
  | evictAll => exact .empty
  | addChecks c member isInvariant checks => exact addChecks_each hQ h hchanges member isInvariant checks
  | removeChecks c member handles => exact updateChecks_each hQ h hchanges (.remove member handles)
  | clearMember c member => exact updateChecks_each hQ h hchanges (.clear member)
  | clearAll c => exact updateChecks_each hQ h hchanges .clearAll
  | setFlags c settings => exact updateChecks_each hQ h hchanges (.setFlags settings)
  | addSet added overwrite =>
    simp only [perform, Validator.addSet]
    cases v.sets.add added overwrite <;> exact h
  | _ => exact h

end

variable {v : Validator}

theorem answer_sound (world : World) (depth : Nat) (store : Store) (request : Request)
    (h : v.compiled.Sound) : (v.answer world depth store request).2.1.compiled.Sound := by
  simp only [answer_eq]
  cases hplan : request.plan with
  | error e => exact h
  | ok plan =>
    have hsteps := (soundness (v.environment world plan.requested plan.scope)).steps depth hplan rfl
      (Realm.all_admits request)
    exact hsteps.sound (v.start plan.owner store) h

theorem reply_sound (implementation : Implementation) (store : Store) (asked : Call)
    (h : v.compiled.Sound) : (v.reply implementation store asked).2.1.compiled.Sound :=
  v.reply_keeps_of implementation store asked (P := fun v => v.compiled.Sound) h
    (fun world depth request => answer_sound world depth store request h)
    (fun c => (h.resolve c v.configurers).1) fun _ _ _ _ => h

theorem perform_sound (event : Event) (h : v.compiled.Sound) : (event.perform v).compiled.Sound := by
  refine perform_each lasting_consistent h ?_ fun implementation store asked _ =>
    reply_sound implementation store asked h
  cases event <;> trivial

end Event

/-- What a validator can become that knew no classes to begin with. -/
def Validator.Reachable (v : Validator) : Prop :=
  ∃ events start, start.compiled = {} ∧ Event.run events start = v

theorem Validator.Reachable.consistent {v : Validator} (h : v.Reachable)
    (hchecks : (v.checksOf c).1 = .ok checks) : checks.Consistent := by
  obtain ⟨events, start, hstart, rfl⟩ := h
  have hsound : (Event.run events start).compiled.Sound :=
    Event.run_keeps (P := fun v => v.compiled.Sound) (fun event _ _ => event.perform_sound)
      (hstart ▸ CompiledChecks.Each.empty)
  exact (hsound.resolve c _).2 checks hchecks

end ObjectConstraints
