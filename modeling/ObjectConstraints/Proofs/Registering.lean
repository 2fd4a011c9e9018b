import Mathlib.Data.List.Induction
import ObjectConstraints.Proofs.Compiling

/-!
# Registering checks

What every sequence of operations on the checks of a class keeps (`ClassChecks.Consistent`): the noted
fields are those that are declared and have checks, the noted getters are among those, each member is
noted once, and no empty list is kept. Each registered check was given for its member, and has the
context of the member unless it came with one (`Operation.run_consistent`).
-/

namespace ObjectConstraints

-- ---------------------------------------------------------------------------
-- Operations
-- ---------------------------------------------------------------------------

/-- What can be done to the checks of a class. -/
inductive Operation where
  | add (member : Member) (isInvariant : Bool) (added : List Registered)
  | remove (member : Member) (handles : Handles)
  | clear (member : Member)
  | clearAll
  | setFlags (settings : FlagSettings)

namespace Operation

/-- Does an operation: what it answers, and the checks afterwards. Only registrations are refused. -/
def perform (operation : Operation) (checks : ClassChecks) :
    Except ConfigError (List Registered) × ClassChecks :=
  match operation with
  | .add member isInvariant added =>
    match checks.add member isInvariant added with
    | .ok (stamped, after) => (.ok stamped, after)
    | .error e => (.error e, checks)
  | .remove member handles => (.ok [], checks.remove member handles)
  | .clear member => (.ok [], checks.clear member)
  | .clearAll => (.ok [], checks.clearAll)
  | .setFlags settings => (.ok [], checks.setFlags settings)

/-- The checks after operations, whether they were refused or not. -/
def run (operations : List Operation) (checks : ClassChecks) : ClassChecks :=
  operations.foldl (fun checks operation => (operation.perform checks).2) checks

end Operation

theorem Table.mem_insert {κ α : Type} [DecidableEq κ] {table : Table κ α} {entry : κ × α} {key : κ}
    {value : α} (h : entry ∈ (table.insert key value).entries) :
    entry = (key, value) ∨ entry ∈ table.entries := by
  obtain ⟨entries⟩ := table
  change entry ∈ insertEntry key value entries at h
  induction entries with
  | nil => exact .inl (List.mem_singleton.mp h)
  | cons first rest ih =>
    unfold insertEntry at h
    split at h
    · exact (List.mem_cons.mp h).imp_right (List.mem_cons_of_mem _)
    · rcases List.mem_cons.mp h with rfl | h
      · exact .inr List.mem_cons_self
      · exact (ih h).imp_right (List.mem_cons_of_mem _)

theorem Table.mem_of_get? {κ α : Type} [DecidableEq κ] {table : Table κ α} {key : κ} {value : α}
    (h : table.get? key = some value) : (key, value) ∈ table.entries := by
  obtain ⟨entries⟩ := table
  change getEntry key entries = some value at h
  induction entries with
  | nil => cases h
  | cons entry rest ih =>
    obtain ⟨other, found⟩ := entry
    by_cases hkey : other = key
    · simp_all [getEntry]
    · simp_all [getEntry]

-- ---------------------------------------------------------------------------
-- Noted members
-- ---------------------------------------------------------------------------

/-- Whether the first field of a name that a class declares is a static one, or one of instances. -/
def Class.DeclaresField (c : Class) (isStatic : Bool) (field : String) : Prop :=
  ∃ f, c.field? field = some f ∧ f.isStatic = isStatic

/-- Whether the first method of a name without parameters that a class declares returns something,
and is a static one or one of instances. -/
def Class.DeclaresGetter (c : Class) (isStatic : Bool) (getter : String) : Prop :=
  ∃ m, c.method? getter 0 = some m ∧ m.isGetter = true ∧ m.isStatic = isStatic

theorem Class.method?_arity {c : Class} {method : String} {arity : Nat} {m : Method}
    (h : c.method? method arity = some m) : m.arity = arity := by
  have hm := List.find?_some h
  simp only [Bool.and_eq_true, beq_iff_eq] at hm
  exact hm.2

theorem Class.declaresField_of_place {c : Class} {name : String} (h : c.place (.field name) = .ok context) :
    c.DeclaresField (((c.field? name).map (·.isStatic)).getD false) name := by
  cases hfield : c.field? name with
  | none =>
    simp only [place, hfield] at h
    cases h
  | some f => exact ⟨f, hfield, rfl⟩

theorem Class.declaresGetter_of_place {c : Class} {name : String} (h : c.place (.result name 0) = .ok context) :
    c.DeclaresGetter (((c.method? name 0).map (·.isStatic)).getD false) name := by
  cases hmethod : c.method? name 0 with
  | none =>
    simp only [place, hmethod] at h
    cases h
  | some m =>
    have harity := method?_arity hmethod
    simp only [place, hmethod] at h
    split at h
    · cases h
    · next hreturns =>
      refine ⟨m, hmethod, ?_, rfl⟩
      simpa [Method.isGetter, hreturns] using List.length_eq_zero_iff.mp harity

theorem Class.declaresField_unique {c : Class} {name : String}
    (h : c.DeclaresField first name) (h' : c.DeclaresField second name) : first = second := by
  obtain ⟨f, hf, rfl⟩ := h
  obtain ⟨f', hf', rfl⟩ := h'
  rw [hf] at hf'
  cases hf'
  rfl

namespace ClassChecks

variable {s t : ClassChecks}

/-- The noted fields: those that have checks. -/
def notedFields (checks : ClassChecks) (isStatic : Bool) : List String :=
  if isStatic then checks.constrainedStatics else checks.constrainedFields

/-- The noted getters: those that are invariants. -/
def notedGetters (checks : ClassChecks) (isStatic : Bool) : List String :=
  if isStatic then checks.staticInvariants else checks.invariants

theorem mem_remember {name other : String} {names : List String} :
    name ∈ remember other names ↔ name ∈ names ∨ name = other := by
  unfold remember
  split
  · next h => grind
  · rw [List.mem_append, List.mem_singleton]

theorem mem_forget {name other : String} {names : List String} :
    name ∈ forget other names ↔ name ∈ names ∧ name ≠ other := by
  rw [forget, List.mem_filter, bne_iff_ne]

/-- An entry that overwrites drops a name, and one with checks puts it back. -/
theorem mem_note (entry : Entry) (name other : String) (isStatic : Bool)
    (names : List String × List String) :
    other ∈ (entry.note name isStatic names).1 ++ (entry.note name isStatic names).2 ↔
      (if name = other then entry.overwrite = false ∧ other ∈ names.1 ++ names.2
        else other ∈ names.1 ++ names.2) ∨ (name = other ∧ entry.checks ≠ []) := by
  obtain ⟨member, isInvariant, overwrite, checks⟩ := entry
  simp only [Entry.note, List.mem_append]
  cases overwrite <;> cases checks <;> cases isStatic <;> by_cases hname : name = other <;>
    simp_all [mem_remember, mem_forget, eq_comm]

theorem nodup_remember {name : String} {names : List String} (h : names.Nodup) :
    (remember name names).Nodup := by
  unfold remember
  split
  · exact h
  · next hnew => simpa [List.nodup_append, h] using fun a ha heq => hnew (by simpa [← heq] using ha)

theorem nodup_forget {name : String} {names : List String} (h : names.Nodup) :
    (forget name names).Nodup := h.sublist List.filter_sublist

section

variable {isStatic isInvariant : Bool} {member : Member} {name : String}

theorem mem_notedFields_remember :
    name ∈ (s.rememberMember isInvariant member).notedFields isStatic ↔
      name ∈ s.notedFields isStatic ∨
        member = .field name ∧ ((s.cls.field? name).map (·.isStatic)).getD false = isStatic := by
  cases member with
  | field other =>
    cases hother : ((s.cls.field? other).map (·.isStatic)).getD false <;> cases isStatic <;>
      simp only [rememberMember, notedFields, hother, mem_remember, Member.field.injEq,
        Bool.false_eq_true, if_true, if_false] <;> grind
  | result method arity =>
    cases isInvariant <;> cases hmethod : ((s.cls.method? method arity).map (·.isStatic)).getD false <;>
      simp [rememberMember, notedFields, hmethod]
  | _ => simp [rememberMember, notedFields]

theorem mem_notedGetters_remember :
    name ∈ (s.rememberMember isInvariant member).notedGetters isStatic ↔
      name ∈ s.notedGetters isStatic ∨ isInvariant = true ∧ ∃ arity, member = .result name arity ∧
        ((s.cls.method? name arity).map (·.isStatic)).getD false = isStatic := by
  cases member with
  | field other =>
    cases hother : ((s.cls.field? other).map (·.isStatic)).getD false <;>
      simp [rememberMember, notedGetters, hother]
  | result method arity =>
    cases isInvariant with
    | false => simp [rememberMember]
    | true =>
      cases hmethod : ((s.cls.method? method arity).map (·.isStatic)).getD false <;>
        cases isStatic <;>
        simp only [rememberMember, notedGetters, hmethod, mem_remember, Member.result.injEq,
          Bool.false_eq_true, Bool.not_true, if_true, if_false] <;> grind
  | _ => simp [rememberMember, notedGetters]

theorem mem_notedFields_forget :
    name ∈ (s.forgetMember member).notedFields isStatic ↔
      name ∈ s.notedFields isStatic ∧ member ≠ .field name := by
  cases member with
  | field other =>
    cases isStatic <;>
      simp only [forgetMember, notedFields, mem_forget, ne_eq, Member.field.injEq,
        Bool.false_eq_true, if_true, if_false, eq_comm]
  | result method arity => cases arity <;> simp [forgetMember, notedFields]
  | _ => simp [forgetMember, notedFields]

theorem mem_notedGetters_forget :
    name ∈ (s.forgetMember member).notedGetters isStatic ↔
      name ∈ s.notedGetters isStatic ∧ member ≠ .result name 0 := by
  rcases member with _ | ⟨method, _ | arity⟩ | _ | _ | _
  case result.zero =>
    cases isStatic <;>
      simp only [forgetMember, notedGetters, mem_forget, ne_eq, Member.result.injEq, and_true,
        Bool.false_eq_true, if_true, if_false, eq_comm]
  all_goals simp [forgetMember, notedGetters]

theorem nodup_rememberMember
    (h : (s.notedFields isStatic).Nodup ∧ (s.notedGetters isStatic).Nodup) :
    ((s.rememberMember isInvariant member).notedFields isStatic).Nodup ∧
      ((s.rememberMember isInvariant member).notedGetters isStatic).Nodup := by
  cases member with
  | field name =>
    cases hfield : ((s.cls.field? name).map (·.isStatic)).getD false <;> cases isStatic <;>
      simp_all [rememberMember, notedFields, notedGetters, nodup_remember]
  | result method arity =>
    cases isInvariant <;> cases hmethod : ((s.cls.method? method arity).map (·.isStatic)).getD false <;>
      cases isStatic <;> simp_all [rememberMember, notedFields, notedGetters, nodup_remember]
  | _ => exact h

theorem nodup_forgetMember
    (h : (s.notedFields isStatic).Nodup ∧ (s.notedGetters isStatic).Nodup) :
    ((s.forgetMember member).notedFields isStatic).Nodup ∧
      ((s.forgetMember member).notedGetters isStatic).Nodup := by
  rcases member with _ | ⟨_, _ | _⟩ | _ | _ | _ <;> cases isStatic <;>
    simp_all [forgetMember, notedFields, notedGetters, nodup_forget]

end

-- ---------------------------------------------------------------------------
-- Lists
-- ---------------------------------------------------------------------------

theorem registered_insert (s : ClassChecks) (member other : Member) (list : List Registered) :
    ClassChecks.registered { s with lists := s.lists.insert member list } other =
      if member = other then list else s.registered other := by
  unfold ClassChecks.registered
  split
  · next h => rw [h, Table.get?_insert_self, Option.getD_some]
  · next h => rw [Table.get?_insert_of_ne _ _ (Ne.symm h)]

theorem registered_clear (s : ClassChecks) (member other : Member) :
    (s.clear member).registered other = if member = other then [] else s.registered other := by
  simp only [ClassChecks.registered, clear, forgetMember_cls]
  split
  · next h => rw [h, Table.get?_erase_self, Option.getD_none]
  · next h => rw [Table.get?_erase_of_ne _ (Ne.symm h)]

theorem registered_rememberMember (s : ClassChecks) (isInvariant : Bool) (member : Member) :
    (s.rememberMember isInvariant member).registered = s.registered := by
  funext other
  rw [ClassChecks.registered, ClassChecks.registered, (rememberMember_cls ..).2.2]

/-- What is true of the checks of a class at all times. -/
structure Consistent (checks : ClassChecks) : Prop where
  fields : ∀ isStatic name, name ∈ checks.notedFields isStatic ↔
    checks.cls.DeclaresField isStatic name ∧ checks.registered (.field name) ≠ []
  getters : ∀ isStatic, ∀ name ∈ checks.notedGetters isStatic,
    checks.cls.DeclaresGetter isStatic name ∧ checks.registered (.result name 0) ≠ []
  apart : ∀ isStatic, (checks.notedFields isStatic).Nodup ∧ (checks.notedGetters isStatic).Nodup
  stored : ∀ entry ∈ checks.lists.entries, entry.2 ≠ []
  placed : ∀ member, checks.registered member ≠ [] →
    ∃ context, checks.cls.place member = .ok context

theorem Consistent.empty (c : Class) : Consistent { cls := c } where
  fields isStatic name := by cases isStatic <;> simp [notedFields, ClassChecks.registered, Table.get?_empty]
  getters isStatic name h := by cases isStatic <;> cases h
  apart isStatic := by cases isStatic <;> exact ⟨.nil, .nil⟩
  stored entry h := by cases h
  placed member h := absurd rfl h

theorem Consistent.insert (h : s.Consistent) (hold : s.registered member ≠ []) (hnew : list ≠ []) :
    Consistent { s with lists := s.lists.insert member list } where
  fields isStatic name := by
    have hsame : ClassChecks.registered { s with lists := s.lists.insert member list } (.field name) ≠ [] ↔
        s.registered (.field name) ≠ [] := by
      rw [registered_insert]
      split
      · next heq => exact heq ▸ iff_of_true hnew hold
      · rfl
    rw [hsame]
    exact h.fields isStatic name
  getters isStatic name hname := by
    obtain ⟨hdeclared, hlist⟩ := h.getters isStatic name hname
    refine ⟨hdeclared, ?_⟩
    rw [registered_insert]
    split
    · exact hnew
    · exact hlist
  apart := h.apart
  stored entry hentry := by
    rcases Table.mem_insert hentry with rfl | hentry
    · exact hnew
    · exact h.stored entry hentry
  placed other hother := by
    rw [registered_insert] at hother
    split at hother
    · next heq => exact heq ▸ h.placed member hold
    · exact h.placed other hother

theorem checkInvariant_ok {method : String}
    (h : s.checkInvariant true (.result method arity) = .ok ()) : arity = 0 := by
  cases arity with
  | zero => rfl
  | succ arity => cases h

theorem Consistent.remember (h : s.Consistent) (hplace : s.cls.place member = .ok context)
    (hinvariant : s.checkInvariant isInvariant member = .ok ()) (hnew : list ≠ []) :
    Consistent
      (rememberMember { s with lists := s.lists.insert member list } isInvariant member) where
  fields isStatic name := by
    rw [mem_notedFields_remember, registered_rememberMember, registered_insert,
      (rememberMember_cls ..).1]
    have hfields := h.fields isStatic name
    by_cases hmember : member = .field name
    · obtain rfl := hmember
      have hdeclared := Class.declaresField_of_place hplace
      rw [if_pos rfl]
      constructor
      · rintro (hname | ⟨-, rfl⟩)
        · exact ⟨(hfields.mp hname).1, hnew⟩
        · exact ⟨hdeclared, hnew⟩
      · exact fun hname => .inr ⟨rfl, Class.declaresField_unique hdeclared hname.1⟩
    · rw [if_neg hmember, ← hfields]
      exact or_iff_left fun heq => hmember heq.1
  getters isStatic name hname := by
    rw [registered_rememberMember, registered_insert, (rememberMember_cls ..).1]
    -- A getter that is noted by now has no parameters, as `checkInvariant` makes sure.
    rcases mem_notedGetters_remember.mp hname with hname | ⟨rfl, arity, rfl, rfl⟩
    · obtain ⟨hdeclared, hlist⟩ := h.getters isStatic name hname
      refine ⟨hdeclared, ?_⟩
      split
      · exact hnew
      · exact hlist
    · obtain rfl := checkInvariant_ok hinvariant
      rw [if_pos rfl]
      exact ⟨Class.declaresGetter_of_place hplace, hnew⟩
  apart isStatic := nodup_rememberMember (h.apart isStatic)
  stored entry hentry := by
    rw [(rememberMember_cls ..).2.2] at hentry
    rcases Table.mem_insert hentry with rfl | hentry
    · exact hnew
    · exact h.stored entry hentry
  placed other hother := by
    rw [registered_rememberMember, registered_insert] at hother
    rw [(rememberMember_cls ..).1]
    split at hother
    · next heq => exact ⟨context, heq ▸ hplace⟩
    · exact h.placed other hother

theorem Consistent.add (h : s.Consistent)
    (hadd : s.add member isInvariant added = .ok (stamped, t)) : t.Consistent := by
  obtain ⟨context, hplace, hinvariant, ⟨-, rfl⟩ | ⟨hadded, rfl⟩⟩ := add_ok hadd
  · exact h
  · exact h.remember hplace hinvariant (by simp [hadded])

theorem Consistent.clear (h : s.Consistent) (member : Member) : (s.clear member).Consistent where
  fields isStatic name := by
    rw [registered_clear]
    simp only [ClassChecks.clear, mem_notedFields_forget, forgetMember_cls]
    split
    · next heq => simp [heq]
    · next hne => exact (and_iff_left hne).trans (h.fields isStatic name)
  getters isStatic name hname := by
    obtain ⟨hname, hne⟩ := mem_notedGetters_forget.mp hname
    obtain ⟨hdeclared, hlist⟩ := h.getters isStatic name hname
    rw [registered_clear, if_neg hne, ClassChecks.clear, (forgetMember_cls ..).1]
    exact ⟨hdeclared, hlist⟩
  apart isStatic := nodup_forgetMember (h.apart isStatic)
  stored entry hentry := by
    simp only [ClassChecks.clear, forgetMember_cls] at hentry
    exact h.stored entry (List.mem_filter.mp hentry).1
  placed other hother := by
    rw [registered_clear] at hother
    rw [ClassChecks.clear, (forgetMember_cls ..).1]
    split at hother
    · exact absurd rfl hother
    · exact h.placed other hother

theorem registered_remove (s : ClassChecks) (member : Member) (handles : Handles) (other : Member) :
    (s.remove member handles).registered other =
      if member = other then handles.kept (s.registered member) else s.registered other := by
  simp only [ClassChecks.remove]
  split
  · next hnone =>
    rw [registered_clear, List.isEmpty_iff.mp hnone]
  · rw [registered_insert]

theorem Consistent.remove (h : s.Consistent) (member : Member) (handles : Handles) :
    (s.remove member handles).Consistent := by
  simp only [ClassChecks.remove]
  split
  · exact h.clear member
  · next hkept =>
    refine h.insert (fun hnone => hkept ?_) (fun hnone => hkept ?_)
    · rw [hnone, List.sublist_nil.mp (handles.kept_sublist []), List.isEmpty_nil]
    · exact List.isEmpty_iff.mpr hnone

end ClassChecks

namespace Operation

variable {s : ClassChecks} {operation : Operation}

/-- Every operation, refused or not, keeps everything as it should be. -/
theorem perform_consistent (h : s.Consistent) (operation : Operation) :
    (operation.perform s).2.Consistent := by
  cases operation with
  | add member isInvariant added =>
    simp only [perform]
    cases hadd : s.add member isInvariant added with
    | error e => exact h
    | ok result => exact h.add hadd
  | remove member handles => exact h.remove member handles
  | clear member => exact h.clear member
  | clearAll => exact .empty s.cls
  | setFlags settings => exact ⟨h.fields, h.getters, h.apart, h.stored, h.placed⟩

theorem perform_cls (operation : Operation) (s : ClassChecks) :
    (operation.perform s).2.cls = s.cls := by
  cases operation with
  | add member isInvariant added =>
    simp only [perform]
    cases hadd : s.add member isInvariant added with
    | error e => rfl
    | ok result =>
      obtain ⟨context, -, -, ⟨-, ht⟩ | ⟨-, ht⟩⟩ := ClassChecks.add_ok hadd
      · exact congrArg ClassChecks.cls ht
      · rw [ht, (ClassChecks.rememberMember_cls ..).1]
  | remove member handles =>
    simp only [perform, ClassChecks.remove]
    split
    · exact (ClassChecks.forgetMember_cls ..).1
    · rfl
  | clear member => exact (ClassChecks.forgetMember_cls ..).1
  | clearAll => rfl
  | setFlags settings => rfl

/-- Whether a registered check is one that operations have added to a member: it has its own context,
or that of the member if it came without one. -/
def Adds (operations : List Operation) (c : Class) (member : Member) (registered : Registered) : Prop :=
  ∃ isInvariant added given context, .add member isInvariant added ∈ operations ∧ given ∈ added ∧
    c.place member = .ok context ∧ registered.ticket = given.ticket ∧
    registered.check = { given.check with context := some (given.check.context.getD context) }

theorem Adds.mono {first second : List Operation} (h : Adds first c member r)
    (hsub : ∀ operation ∈ first, operation ∈ second) : Adds second c member r := by
  obtain ⟨isInvariant, added, given, context, hadd, h⟩ := h
  exact ⟨isInvariant, added, given, context, hsub _ hadd, h⟩

theorem stamp_check (check : Check) (context : Context) :
    check.stamp context = { check with context := some (check.context.getD context) } := by
  cases h : check.context <;> simp [Check.stamp, h]

theorem mem_perform (h : r ∈ (operation.perform s).2.registered member) :
    r ∈ s.registered member ∨ Adds [operation] s.cls member r := by
  cases operation with
  | add target isInvariant added =>
    simp only [perform] at h
    cases hadd : s.add target isInvariant added with
    | error e =>
      rw [hadd] at h
      exact .inl h
    | ok result =>
      rw [hadd] at h
      obtain ⟨context, hplace, -, ⟨-, ht⟩ | ⟨-, ht⟩⟩ := ClassChecks.add_ok hadd
      · exact .inl (ht ▸ h)
      · rw [ht, ClassChecks.registered_rememberMember, ClassChecks.registered_insert] at h
        split at h
        · next heq =>
          obtain rfl := heq
          refine (List.mem_append.mp h).imp_right fun h => ?_
          obtain ⟨given, hgiven, rfl⟩ := List.mem_map.mp h
          exact ⟨isInvariant, added, given, context, List.mem_singleton_self _, hgiven, hplace, rfl,
            stamp_check ..⟩
        · exact .inl h
  | remove target handles =>
    simp only [perform, ClassChecks.registered_remove] at h
    split at h
    · next heq => exact .inl (heq ▸ (handles.kept_sublist _).subset h)
    · exact .inl h
  | clear target =>
    simp only [perform, ClassChecks.registered_clear] at h
    split at h
    · cases h
    · exact .inl h
  | clearAll => cases h
  | setFlags settings => exact .inl h

theorem perform_refused (h : (operation.perform s).1 = .error e) : (operation.perform s).2 = s := by
  cases operation with
  | add member isInvariant added =>
    simp only [perform] at h ⊢
    cases hadd : s.add member isInvariant added with
    | error e => rfl
    | ok result =>
      rw [hadd] at h
      cases h
  | _ => cases h

theorem run_append_one (operations : List Operation) (operation : Operation) (s : ClassChecks) :
    run (operations ++ [operation]) s = (operation.perform (run operations s)).2 := by
  rw [run, List.foldl_append]
  rfl

theorem run_kept (c : Class) (operations : List Operation) :
    (run operations { cls := c }).cls = c ∧ (run operations { cls := c }).Consistent ∧
      ∀ member, ∀ r ∈ (run operations { cls := c }).registered member,
        Adds operations c member r := by
  -- From the last operation backwards: it acts on the checks that those before it leave.
  induction operations using List.reverseRecOn with
  | nil =>
    refine ⟨rfl, .empty c, fun member r hr => ?_⟩
    change r ∈ [] at hr
    cases hr
  | append_singleton operations operation ih =>
    obtain ⟨hcls, hconsistent, hadded⟩ := ih
    rw [run_append_one]
    refine ⟨(perform_cls ..).trans hcls, perform_consistent hconsistent operation, ?_⟩
    intro member r hr
    rcases mem_perform hr with hr | hr
    · exact (hadded member r hr).mono fun _ => List.mem_append_left _
    · exact (hcls ▸ hr).mono fun _ => List.mem_append_right _

/-- After any operations the noted members and the stored lists belong together, every check was added
to its member and has a context, and what is refused next changes nothing. -/
theorem run_consistent (c : Class) (operations : List Operation) :
    let checks := run operations { cls := c }
    checks.cls = c ∧ checks.Consistent ∧
      (∀ member, ∀ r ∈ checks.registered member, Adds operations c member r) ∧
      ∀ (operation : Operation) (e : ConfigError), (operation.perform checks).1 = .error e →
        (operation.perform checks).2 = checks := by
  intro checks
  obtain ⟨hcls, hconsistent, hadded⟩ := run_kept c operations
  exact ⟨hcls, hconsistent, hadded, fun operation e => perform_refused⟩

end Operation

end ObjectConstraints
