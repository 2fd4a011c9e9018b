import ObjectConstraints.Proofs.Removal

/-!
# Getters that are invariants

Which getters of a class are noted as invariants after checks of results have been registered,
removed by their handles and cleared. A getter stays noted until it has no checks at all: it is noted if
it has a check that was registered as an invariant, or if the last one of those was removed while others
were kept (`Journal.run_status`).
-/

namespace ObjectConstraints

-- ---------------------------------------------------------------------------
-- Noted getters
-- ---------------------------------------------------------------------------

namespace ClassChecks

variable {s : ClassChecks}

theorem mem_notedGetters_clear {name : String} {isStatic : Bool} :
    name ∈ (s.clear member).notedGetters isStatic ↔
      name ∈ s.notedGetters isStatic ∧ member ≠ .result name 0 :=
  mem_notedGetters_forget

theorem mem_notedGetters_remove {name : String} {isStatic : Bool} :
    name ∈ (s.remove member handles).notedGetters isStatic ↔ name ∈ s.notedGetters isStatic ∧
      (member = .result name 0 → (s.remove member handles).registered member ≠ []) := by
  rw [registered_remove, if_pos rfl]
  simp only [ClassChecks.remove]
  split
  · next hnone =>
    rw [mem_notedGetters_clear]
    simp [List.isEmpty_iff.mp hnone]
  · next hkept =>
    refine (and_iff_left fun _ hnone => hkept ?_).symm
    exact List.isEmpty_iff.mpr hnone

end ClassChecks

-- ---------------------------------------------------------------------------
-- Journals
-- ---------------------------------------------------------------------------

/-- What can be done to the checks of methods' results. -/
inductive ResultOperation where
  | add (method : String) (arity : Nat) (isInvariant : Bool) (checks : List Check)
  | remove (method : String) (arity : Nat) (handles : Handles)
  | clear (method : String) (arity : Nat)

namespace ResultOperation

/-- The operation on the checks of the class, with the ticket that comes next. -/
def operation (next : Nat) : ResultOperation → Operation
  | .add method arity isInvariant checks =>
    .add (.result method arity) isInvariant (Registered.numbered next checks)
  | .remove method arity handles => .remove (.result method arity) handles
  | .clear method arity => .clear (.result method arity)

def isInvariant : ResultOperation → Bool
  | .add _ _ isInvariant _ => isInvariant
  | _ => false

end ResultOperation

/-- The checks of a class, with the ticket that comes next and the tickets of the checks that were
registered as invariants so far, removed or not. -/
structure Journal where
  checks : ClassChecks
  next : Nat := 0
  invariant : List Nat := []

namespace Journal

variable {journal : Journal} {c : Class} {operations : List ResultOperation} {getter : String}

/-- A journal after an operation. What is refused changes nothing. -/
def after (journal : Journal) (operation : ResultOperation) : Journal :=
  match (operation.operation journal.next).perform journal.checks with
  | (.ok added, checks) =>
    let tickets := added.filterMap (·.ticket)
    ⟨checks, journal.next + tickets.length,
      if operation.isInvariant then tickets ++ journal.invariant else journal.invariant⟩
  | (.error _, _) => journal

/-- The journal of a class, from no checks at all. -/
def run (c : Class) (operations : List ResultOperation) : Journal :=
  operations.foldl after ⟨{ cls := c }, 0, []⟩

/-- Whether a getter is noted as an invariant. -/
def Lists (journal : Journal) (getter : String) : Prop :=
  getter ∈ journal.checks.invariants ∨ getter ∈ journal.checks.staticInvariants

/-- Whether a getter has a check that was registered as an invariant. -/
def HasInvariant (journal : Journal) (getter : String) : Prop :=
  ∃ r ∈ journal.checks.registered (.result getter 0), ∃ ticket ∈ journal.invariant, r.ticket = some ticket

/-- Whether the last check of a getter that was registered as an invariant has been removed while
others were kept, and the getter has not been without checks since then. -/
def LeftOver (c : Class) (operations : List ResultOperation) (getter : String) : Prop :=
  ∃ before removal since, operations = before ++ removal :: since ∧
    (run c before).HasInvariant getter ∧ ¬ (run c (before ++ [removal])).HasInvariant getter ∧
    ∀ part, part <+: since → (run c (before ++ removal :: part)).checks.registered (.result getter 0) ≠ []

/-- What is true of every journal: the tickets so far are below the one that comes next. -/
structure Sound (journal : Journal) : Prop where
  consistent : journal.checks.Consistent
  tickets : ∀ member, ∀ r ∈ journal.checks.registered member, ∀ ticket,
    r.ticket = some ticket → ticket < journal.next
  invariant : ∀ ticket ∈ journal.invariant, ticket < journal.next

theorem lists_iff : journal.Lists getter ↔ ∃ isStatic, getter ∈ journal.checks.notedGetters isStatic := by
  simp [Lists, ClassChecks.notedGetters]

theorem Sound.of_lists (h : journal.Sound) (hlists : journal.Lists getter) :
    journal.checks.registered (.result getter 0) ≠ [] := by
  obtain ⟨isStatic, hnoted⟩ := lists_iff.mp hlists
  exact (h.consistent.getters isStatic getter hnoted).2

theorem HasInvariant.registered (h : journal.HasInvariant getter) :
    journal.checks.registered (.result getter 0) ≠ [] := by
  obtain ⟨r, hr, -⟩ := h
  exact List.ne_nil_of_mem hr

-- ---------------------------------------------------------------------------
-- One operation
-- ---------------------------------------------------------------------------

variable {operation : ResultOperation} {method : String} {arity : Nat} {isInvariant : Bool}
  {given : List Check} {added : List Registered}

theorem after_refused
    (h : journal.checks.add (.result method arity) isInvariant
      (Registered.numbered journal.next given) = .error e) :
    journal.after (.add method arity isInvariant given) = journal := by
  simp only [after, ResultOperation.operation, Operation.perform, h]

theorem after_added
    (h : journal.checks.add (.result method arity) isInvariant
      (Registered.numbered journal.next given) = .ok (added, t)) :
    journal.after (.add method arity isInvariant given) =
      ⟨t, journal.next + given.length,
        if isInvariant then List.range' journal.next given.length ++ journal.invariant
        else journal.invariant⟩ := by
  simp only [after, ResultOperation.operation, Operation.perform, h, ClassChecks.add_tickets h,
    List.length_range', ResultOperation.isInvariant]

theorem after_remove (journal : Journal) (method : String) (arity : Nat) (handles : Handles) :
    journal.after (.remove method arity handles) =
      { journal with checks := journal.checks.remove (.result method arity) handles } := rfl

theorem after_clear (journal : Journal) (method : String) (arity : Nat) :
    journal.after (.clear method arity) =
      { journal with checks := journal.checks.clear (.result method arity) } := rfl

theorem next_after (journal : Journal) (operation : ResultOperation) :
    journal.next ≤ (journal.after operation).next := by
  unfold after
  split
  · exact Nat.le_add_right ..
  · exact Nat.le_refl _

/-- A check that is registered after an operation was so before, or it got the ticket that came next
or one that follows. -/
theorem mem_after {r : Registered} (h : r ∈ (journal.after operation).checks.registered member) :
    r ∈ journal.checks.registered member ∨
      ∃ ticket, r.ticket = some ticket ∧ journal.next ≤ ticket ∧ ticket < (journal.after operation).next := by
  cases operation with
  | add method arity isInvariant given =>
    cases hadd : journal.checks.add (.result method arity) isInvariant
        (Registered.numbered journal.next given) with
    | error e =>
      rw [after_refused hadd] at h
      exact .inl h
    | ok answer =>
      obtain ⟨added, t⟩ := answer
      rw [after_added hadd] at h ⊢
      have hperform : r ∈ ((Operation.add (.result method arity) isInvariant
          (Registered.numbered journal.next given)).perform journal.checks).2.registered member := by
        simp only [Operation.perform, hadd]
        exact h
      refine (Operation.mem_perform hperform).imp_right ?_
      rintro ⟨_, _, source, context, hop, hsource, -, hticket, -⟩
      cases List.mem_singleton.mp hop
      obtain ⟨ticket, hnumbered, hlow, hhigh⟩ := ClassChecks.numbered_ticket hsource
      exact ⟨ticket, hticket.trans hnumbered, hlow, hhigh⟩
  | remove method arity handles =>
    rw [after_remove, ClassChecks.registered_remove] at h
    split at h
    · next heq => exact .inl (heq ▸ (handles.kept_sublist _).subset h)
    · exact .inl h
  | clear method arity =>
    rw [after_clear, ClassChecks.registered_clear] at h
    split at h
    · cases h
    · exact .inl h

theorem invariant_after {ticket : Nat} (h : ticket ∈ (journal.after operation).invariant) :
    ticket ∈ journal.invariant ∨ (operation.isInvariant = true ∧ journal.next ≤ ticket ∧
      ticket < (journal.after operation).next) := by
  cases operation with
  | add method arity isInvariant given =>
    cases hadd : journal.checks.add (.result method arity) isInvariant
        (Registered.numbered journal.next given) with
    | error e =>
      rw [after_refused hadd] at h
      exact .inl h
    | ok answer =>
      obtain ⟨added, t⟩ := answer
      rw [after_added hadd] at h ⊢
      cases isInvariant with
      | false => exact .inl h
      | true =>
        refine (List.mem_append.mp h).symm.imp_right fun h => ?_
        have hrange := List.mem_range'_1.mp h
        exact ⟨rfl, hrange.1, hrange.2⟩
  | remove method arity handles => exact .inl h
  | clear method arity => exact .inl h

theorem Sound.after (h : journal.Sound) (operation : ResultOperation) :
    (journal.after operation).Sound where
  consistent := by
    have hperform := Operation.perform_consistent h.consistent (operation.operation journal.next)
    unfold Journal.after
    split
    · next hanswer =>
      rw [hanswer] at hperform
      exact hperform
    · exact h.consistent
  tickets member r hr ticket hticket := by
    rcases mem_after hr with hr | ⟨other, hother, -, hlt⟩
    · exact Nat.lt_of_lt_of_le (h.tickets member r hr ticket hticket) (next_after ..)
    · rw [hother] at hticket
      exact Option.some.inj hticket ▸ hlt
  invariant ticket hticket := by
    rcases invariant_after hticket with hticket | ⟨-, -, hlt⟩
    · exact Nat.lt_of_lt_of_le (h.invariant ticket hticket) (next_after ..)
    · exact hlt

/-- A getter that is noted stays noted while it has checks. -/
theorem lists_kept (hchecked : (journal.after operation).checks.registered (.result getter 0) ≠ [])
    (h : journal.Lists getter) : (journal.after operation).Lists getter := by
  obtain ⟨isStatic, hnoted⟩ := lists_iff.mp h
  refine lists_iff.mpr ⟨isStatic, ?_⟩
  cases operation with
  | add method arity isInvariant given =>
    cases hadd : journal.checks.add (.result method arity) isInvariant
        (Registered.numbered journal.next given) with
    | error e =>
      rw [after_refused hadd]
      exact hnoted
    | ok answer =>
      obtain ⟨added, t⟩ := answer
      rw [after_added hadd]
      obtain ⟨context, -, -, ⟨-, rfl⟩ | ⟨-, rfl⟩⟩ := ClassChecks.add_ok hadd
      · exact hnoted
      · exact ClassChecks.mem_notedGetters_remember.mpr (.inl hnoted)
  | remove method arity handles =>
    rw [after_remove] at hchecked ⊢
    exact ClassChecks.mem_notedGetters_remove.mpr ⟨hnoted, fun heq => heq ▸ hchecked⟩
  | clear method arity =>
    rw [after_clear] at hchecked ⊢
    refine ClassChecks.mem_notedGetters_clear.mpr ⟨hnoted, ?_⟩
    rintro heq
    rw [ClassChecks.registered_clear, if_pos heq] at hchecked
    exact hchecked rfl

/-- A getter that is noted by now was so before, or it has just got a check as an invariant. -/
theorem lists_after (h : (journal.after operation).Lists getter) :
    journal.Lists getter ∨ (journal.after operation).HasInvariant getter := by
  obtain ⟨isStatic, hnoted⟩ := lists_iff.mp h
  cases operation with
  | add method arity isInvariant given =>
    cases hadd : journal.checks.add (.result method arity) isInvariant
        (Registered.numbered journal.next given) with
    | error e =>
      rw [after_refused hadd] at h
      exact .inl h
    | ok answer =>
      obtain ⟨added, t⟩ := answer
      rw [after_added hadd] at hnoted ⊢
      obtain ⟨context, -, hinvariant, ⟨-, rfl⟩ | ⟨hadded, rfl⟩⟩ := ClassChecks.add_ok hadd
      · exact .inl (lists_iff.mpr ⟨isStatic, hnoted⟩)
      · rcases ClassChecks.mem_notedGetters_remember.mp hnoted with hnoted | ⟨rfl, arity', hmember, -⟩
        · exact .inl (lists_iff.mpr ⟨isStatic, hnoted⟩)
        · cases hmember
          obtain rfl := ClassChecks.checkInvariant_ok hinvariant
          cases given with
          | nil => exact absurd rfl hadded
          | cons check rest =>
            refine .inr ⟨(⟨some journal.next, check⟩ : Registered).stamp context, ?_, journal.next, ?_, rfl⟩
            · rw [ClassChecks.registered_rememberMember, ClassChecks.registered_insert, if_pos rfl]
              exact List.mem_append_right _ (List.mem_map_of_mem List.mem_cons_self)
            · simp
  | remove method arity handles =>
    exact .inl (lists_iff.mpr ⟨isStatic, (ClassChecks.mem_notedGetters_remove.mp hnoted).1⟩)
  | clear method arity =>
    exact .inl (lists_iff.mpr ⟨isStatic, (ClassChecks.mem_notedGetters_clear.mp hnoted).1⟩)

/-- A getter that has a check as an invariant by now had one before, or it has just been noted. -/
theorem hasInvariant_after (hsound : journal.Sound) (h : (journal.after operation).HasInvariant getter) :
    journal.HasInvariant getter ∨ (journal.after operation).Lists getter := by
  obtain ⟨r, hr, ticket, hinvariant, hticket⟩ := h
  rcases mem_after hr with hold | ⟨other, hother, hfresh, -⟩
  · refine .inl ⟨r, hold, ticket, ?_, hticket⟩
    refine (invariant_after hinvariant).resolve_right fun hnew => ?_
    exact absurd (hsound.tickets _ r hold ticket hticket) (Nat.not_lt.mpr hnew.2.1)
  · obtain rfl : other = ticket := Option.some.inj (hother.symm.trans hticket)
    rcases invariant_after hinvariant with hold | ⟨hkind, -⟩
    · exact absurd (hsound.invariant other hold) (Nat.not_lt.mpr hfresh)
    · cases operation with
      | remove => cases hkind
      | clear => cases hkind
      | add method arity isInvariant given =>
        obtain rfl : isInvariant = true := hkind
        cases hadd : journal.checks.add (.result method arity) true
            (Registered.numbered journal.next given) with
        | error e =>
          rw [after_refused hadd] at hr
          exact absurd (hsound.tickets _ r hr other hticket) (Nat.not_lt.mpr hfresh)
        | ok answer =>
          obtain ⟨added, t⟩ := answer
          rw [after_added hadd] at hr ⊢
          have hnew : r ∉ journal.checks.registered (.result getter 0) := fun hold =>
            absurd (hsound.tickets _ r hold other hticket) (Nat.not_lt.mpr hfresh)
          obtain ⟨context, -, hinvariant, ⟨-, rfl⟩ | ⟨-, rfl⟩⟩ := ClassChecks.add_ok hadd
          · exact absurd hr hnew
          · rw [ClassChecks.registered_rememberMember, ClassChecks.registered_insert] at hr
            split at hr
            · next hmember =>
              cases hmember
              exact .inr (lists_iff.mpr ⟨_, ClassChecks.mem_notedGetters_remember.mpr
                (.inr ⟨rfl, 0, rfl, rfl⟩)⟩)
            · exact absurd hr hnew

-- ---------------------------------------------------------------------------
-- All operations
-- ---------------------------------------------------------------------------

theorem run_append_one (c : Class) (operations : List ResultOperation) (operation : ResultOperation) :
    run c (operations ++ [operation]) = (run c operations).after operation := by
  rw [run, List.foldl_append]
  rfl

theorem run_sound (c : Class) (operations : List ResultOperation) : (run c operations).Sound := by
  induction operations using List.reverseRecOn with
  | nil => exact ⟨.empty c, fun _ _ hr => absurd hr List.not_mem_nil, fun _ h => absurd h List.not_mem_nil⟩
  | append_singleton operations operation ih =>
    rw [run_append_one]
    exact ih.after operation

theorem LeftOver.registered (h : LeftOver c operations getter) :
    (run c operations).checks.registered (.result getter 0) ≠ [] := by
  obtain ⟨before, removal, since, rfl, -, -, hsince⟩ := h
  exact hsince since (List.prefix_refl _)

theorem leftOver_append_one :
    LeftOver c (operations ++ [operation]) getter ↔
      (run c (operations ++ [operation])).checks.registered (.result getter 0) ≠ [] ∧
        ((run c operations).HasInvariant getter ∧
            ¬ (run c (operations ++ [operation])).HasInvariant getter ∨
          LeftOver c operations getter) := by
  constructor
  · rintro h
    refine ⟨h.registered, ?_⟩
    obtain ⟨before, removal, since, hsplit, hbefore, hafter, hsince⟩ := h
    rcases since.eq_nil_or_concat with rfl | ⟨earlier, last, rfl⟩
    · obtain ⟨rfl, hlast⟩ := List.append_inj' hsplit rfl
      cases hlast
      exact .inl ⟨hbefore, hafter⟩
    · rw [List.concat_eq_append, ← List.cons_append, ← List.append_assoc] at hsplit
      obtain ⟨rfl, -⟩ := List.append_inj' hsplit rfl
      refine .inr ⟨before, removal, earlier, rfl, hbefore, hafter, fun part hpart => hsince part ?_⟩
      rw [List.concat_eq_append]
      exact hpart.trans (List.prefix_append _ _)
  · rintro ⟨hchecked, ⟨hbefore, hafter⟩ | ⟨before, removal, since, rfl, hbefore, hafter, hsince⟩⟩
    · refine ⟨operations, operation, [], rfl, hbefore, hafter, fun part hpart => ?_⟩
      rw [List.prefix_nil.mp hpart]
      exact hchecked
    · refine ⟨before, removal, since ++ [operation], by simp, hbefore, hafter, fun part hpart => ?_⟩
      rcases List.prefix_concat_iff.mp hpart with rfl | hpart
      · rw [List.append_assoc, List.cons_append] at hchecked
        exact hchecked
      · exact hsince part hpart

/-- A getter is noted while it has a check as an invariant, and when it is left over. -/
theorem lists_run (c : Class) (operations : List ResultOperation) (getter : String) :
    (run c operations).Lists getter ↔
      (run c operations).HasInvariant getter ∨ LeftOver c operations getter := by
  induction operations using List.reverseRecOn with
  | nil => simp [run, Lists, HasInvariant, LeftOver]
  | append_singleton operations operation ih =>
    have hsound := run_sound c operations
    have hsound' := run_sound c (operations ++ [operation])
    have hstep := run_append_one c operations operation
    constructor
    · intro hlists
      have hchecked := hsound'.of_lists hlists
      by_cases hinvariant : (run c (operations ++ [operation])).HasInvariant getter
      · exact .inl hinvariant
      · refine .inr (leftOver_append_one.mpr ⟨hchecked, ?_⟩)
        rw [hstep] at hlists hinvariant ⊢
        exact (ih.mp ((lists_after hlists).resolve_right hinvariant)).imp_left fun h => ⟨h, hinvariant⟩
    · rintro (hinvariant | hleft)
      · have hchecked := hinvariant.registered
        rw [hstep] at hinvariant hchecked ⊢
        rcases hasInvariant_after hsound hinvariant with h | h
        · exact lists_kept hchecked (ih.mpr (.inl h))
        · exact h
      · obtain ⟨hchecked, h⟩ := leftOver_append_one.mp hleft
        rw [hstep] at hchecked ⊢
        exact lists_kept hchecked (ih.mpr (h.imp_left fun h => h.1))

-- ---------------------------------------------------------------------------
-- Taking back
-- ---------------------------------------------------------------------------

/-- Registering checks of a getter as invariants and removing them again leaves what was there before,
but where the getter had other checks it is noted as an invariant from then on. -/
theorem Sound.take_back (h : journal.Sound) (hgiven : given ≠ [])
    (hadd : journal.checks.add (.result getter 0) true (Registered.numbered journal.next given) =
      .ok (added, t)) :
    t.remove (.result getter 0) (added.filterMap (·.ticket)) =
      if journal.checks.registered (.result getter 0) = [] then journal.checks
      else journal.checks.rememberMember true (.result getter 0) := by
  have hticketed : journal.checks.Ticketed journal.next := ⟨h.consistent, h.tickets⟩
  exact hticketed.remove_all hadd hgiven (List.Subset.refl _) (List.Subset.refl _)

/-- A getter of a class is noted as an invariant if it has a check that was registered as one, or if
the last one of those was removed while it had others, and it has had checks ever since. Registering
checks as invariants and removing them again undoes everything else. -/
theorem run_status (c : Class) (operations : List ResultOperation) (getter : String) :
    let journal := run c operations
    (journal.Lists getter ↔ journal.HasInvariant getter ∨ LeftOver c operations getter) ∧
      ∀ given added t, given ≠ [] →
        journal.checks.add (.result getter 0) true (Registered.numbered journal.next given) =
          .ok (added, t) →
        t.remove (.result getter 0) (added.filterMap (·.ticket)) =
          if journal.checks.registered (.result getter 0) = [] then journal.checks
          else journal.checks.rememberMember true (.result getter 0) :=
  ⟨lists_run c operations getter, fun _ _ _ => (run_sound c operations).take_back⟩

/-- A class with one getter. -/
def labelled : Class where
  id := 0
  name := "Labelled"
  superclass := none
  interfaces := []
  isInterface := false
  fields := []
  methods := [⟨"label", [], some .string, false, false⟩]
  constructors := []

/-- A check of the getter, and one as an invariant that is removed again. -/
def detour : List ResultOperation :=
  [.add "label" 0 false [{ kind := .notNull }], .add "label" 0 true [{ kind := .notBlank }],
    .remove "label" 0 (.tickets [1])]

theorem detour_hasInvariant :
    (run labelled (detour.take 2)).HasInvariant "label" ∧ ¬ (run labelled detour).HasInvariant "label" := by
  constructor
  · exact ⟨_, List.mem_cons_of_mem _ List.mem_cons_self, 1, List.mem_cons_self, rfl⟩
  · rintro ⟨r, hr, ticket, hinvariant, hticket⟩
    obtain rfl := List.mem_singleton.mp hr
    obtain rfl := List.mem_singleton.mp hinvariant
    cases hticket

theorem run_status_detour :
    let journal := run labelled (detour.take 1)
    (run labelled detour).Lists "label" ∧ LeftOver labelled detour "label" ∧
      ∃ given added t, given ≠ [] ∧
        journal.checks.add (.result "label" 0) true (Registered.numbered journal.next given) =
          .ok (added, t) ∧
        t.remove (.result "label" 0) (added.filterMap (·.ticket)) =
          journal.checks.rememberMember true (.result "label" 0) := by
  have hleft : LeftOver labelled detour "label" := by
    refine ⟨detour.take 2, .remove "label" 0 (.tickets [1]), [], rfl, detour_hasInvariant.1,
      detour_hasInvariant.2, ?_⟩
    rintro part hpart
    rw [List.prefix_nil.mp hpart]
    exact List.cons_ne_nil _ _
  refine ⟨(run_status labelled detour "label").1.mpr (.inr hleft), hleft, [{ kind := .notBlank }], _, _,
    List.cons_ne_nil _ _, rfl, ?_⟩
  have hrestored := (run_status labelled (detour.take 1) "label").2 [{ kind := .notBlank }] _ _
    (List.cons_ne_nil _ _) rfl
  have hordinary : (run labelled (detour.take 1)).checks.registered (.result "label" 0) ≠ [] :=
    List.cons_ne_nil _ _
  rw [if_neg hordinary] at hrestored
  exact hrestored

/-- What a getter is noted for need not be there any more: the other checks of the getter are evaluated
when an object is validated, as they were not before the detour. -/
theorem detour_stays_noted :
    let validatorOf (operations : List ResultOperation) : Validator :=
      { compiled := ⟨[("Labelled", some (run labelled operations).checks)]⟩ }
    let world : World := ⟨fun _ _ _ _ store => (.ok .null, store), ⟨0, 0⟩⟩
    let reported (operations : List ResultOperation) :=
      ((validatorOf operations).validate world 0 none ⟨0, labelled⟩ (labelled.make {}).2).1
    ¬ ((run labelled detour).Lists "label" ↔ (run labelled detour).HasInvariant "label") ∧
      ((run labelled detour).checks.registered (.result "label" 0) =
        (run labelled (detour.take 1)).checks.registered (.result "label" 0)) ∧
      (reported (detour.take 1)).toOption.map List.length = some 0 ∧
      (reported detour).toOption.map List.length = some 1 := by
  refine ⟨fun h => detour_hasInvariant.2 (h.mp (.inl List.mem_cons_self)), rfl, ?_, ?_⟩
  · decide +kernel
  · decide +kernel

end Journal

end ObjectConstraints
