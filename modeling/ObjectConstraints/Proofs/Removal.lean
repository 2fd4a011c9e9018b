import ObjectConstraints.Proofs.Deriving

/-!
# Removing checks

Checks that are registered one by one get tickets, and a ticket is given out once. So removing some of the
checks that a member was given by their tickets leaves the others in their order behind those of before, and removing all
of them leaves everything as it was, the noted fields in their order included
(`ClassChecks.Arises.remove_added`). Checks that are equal to those that are removed stay.
-/

namespace ObjectConstraints

-- ---------------------------------------------------------------------------
-- Tables
-- ---------------------------------------------------------------------------

namespace Table

variable {κ α : Type} [DecidableEq κ] {table : Table κ α} {key : κ}

theorem insert_insert (table : Table κ α) (key : κ) (first second : α) :
    (table.insert key first).insert key second = table.insert key second := by
  obtain ⟨entries⟩ := table
  refine congrArg Table.mk ?_
  change insertEntry key second (insertEntry key first entries) = insertEntry key second entries
  induction entries with
  | nil => simp [insertEntry]
  | cons entry rest ih =>
    by_cases h : entry.1 = key
    · simp [insertEntry, h]
    · simp [insertEntry, h, ih]

theorem insert_of_get? {value : α} (h : table.get? key = some value) : table.insert key value = table := by
  obtain ⟨entries⟩ := table
  refine congrArg Table.mk ?_
  change getEntry key entries = some value at h
  induction entries with
  | nil => cases h
  | cons entry rest ih =>
    obtain ⟨other, found⟩ := entry
    by_cases hkey : other = key
    · simp_all [getEntry, insertEntry]
    · simp_all [getEntry, insertEntry]

theorem erase_of_get? (h : table.get? key = none) : table.erase key = table := by
  obtain ⟨entries⟩ := table
  refine congrArg Table.mk ?_
  change getEntry key entries = none at h
  change entries.filter (fun entry => ¬ entry.1 = key) = entries
  induction entries with
  | nil => rfl
  | cons entry rest ih =>
    obtain ⟨other, found⟩ := entry
    by_cases hkey : other = key
    · simp [getEntry, hkey] at h
    · have hrest := ih (by simpa [getEntry, hkey] using h)
      simpa [hkey] using hrest

theorem erase_insert_of_get? {value : α} (h : table.get? key = none) :
    (table.insert key value).erase key = table := by
  obtain ⟨entries⟩ := table
  refine congrArg Table.mk ?_
  change getEntry key entries = none at h
  change (insertEntry key value entries).filter (fun entry => ¬ entry.1 = key) = entries
  induction entries with
  | nil => simp [insertEntry]
  | cons entry rest ih =>
    obtain ⟨other, found⟩ := entry
    by_cases hkey : other = key <;> simp_all [getEntry, insertEntry]

end Table

namespace ClassChecks

variable {s t : ClassChecks} {next : Nat} {given : List Check} {added stamped : List Registered}

-- ---------------------------------------------------------------------------
-- Tickets
-- ---------------------------------------------------------------------------

theorem numbered_tickets (first : Nat) (checks : List Check) :
    (Registered.numbered first checks).filterMap (·.ticket) = List.range' first checks.length := by
  induction checks generalizing first with
  | nil => rfl
  | cons check rest ih => simp [Registered.numbered, ih, List.range'_succ]

theorem numbered_ticket {r : Registered} (h : r ∈ Registered.numbered first checks) :
    ∃ ticket, r.ticket = some ticket ∧ first ≤ ticket ∧ ticket < first + checks.length := by
  induction checks generalizing first with
  | nil => cases h
  | cons check rest ih =>
    rcases List.mem_cons.mp h with rfl | h
    · exact ⟨first, rfl, Nat.le_refl _, by simp⟩
    · obtain ⟨ticket, hticket, hlow, hhigh⟩ := ih h
      exact ⟨ticket, hticket, by omega, by rw [List.length_cons]; omega⟩

/-- Checks that are registered are stamped and put behind those of their member. -/
theorem add_stamped (h : s.add member isInvariant added = .ok (stamped, t)) :
    ∃ context, s.cls.place member = .ok context ∧ stamped = added.map (·.stamp context) := by
  obtain ⟨context, hplace, hinvariant, -⟩ := add_ok h
  refine ⟨context, hplace, ?_⟩
  simp only [add, hplace, hinvariant] at h
  cases added <;> cases h <;> rfl

/-- The tickets of checks that are registered are those that come next. -/
theorem add_tickets
    (h : s.add member isInvariant (Registered.numbered first checks) = .ok (stamped, t)) :
    stamped.filterMap (·.ticket) = List.range' first checks.length := by
  obtain ⟨context, -, rfl⟩ := add_stamped h
  rw [List.filterMap_map, ← numbered_tickets]
  rfl

theorem registered_add (h : s.add member isInvariant added = .ok (stamped, t)) (other : Member) :
    t.registered other =
      if member = other then s.registered member ++ stamped else s.registered other := by
  obtain ⟨context, hplace, rfl⟩ := add_stamped h
  obtain ⟨context', hplace', -, ht⟩ := add_ok h
  obtain rfl : context' = context := Except.ok.inj (hplace'.symm.trans hplace)
  rcases ht with ⟨rfl, rfl⟩ | ⟨-, rfl⟩
  · split
    · next heq => simp [heq]
    · rfl
  · rw [registered_rememberMember, registered_insert]

-- ---------------------------------------------------------------------------
-- Members without checks and with checks
-- ---------------------------------------------------------------------------

theorem remember_noted {name : String} {names : List String} (h : name ∈ names) :
    remember name names = names :=
  if_pos (by simpa using h)

theorem forget_remember {name : String} {names : List String} (h : name ∉ names) :
    forget name (remember name names) = names := by
  have hself : ∀ other ∈ names, (other != name) = true := fun _ hother =>
    bne_iff_ne.mpr fun heq => h (heq ▸ hother)
  rw [remember, if_neg (by simpa using h), forget, List.filter_append,
    List.filter_eq_self.mpr hself]
  simp

theorem forget_absent {name : String} {names : List String} (h : name ∉ names) :
    forget name names = names :=
  List.filter_eq_self.mpr fun _ hother => bne_iff_ne.mpr fun heq => h (heq ▸ hother)

theorem rememberMember_lists (s : ClassChecks) (lists : Table Member (List Registered))
    (isInvariant : Bool) (member : Member) :
    rememberMember { s with lists } isInvariant member = { s.rememberMember isInvariant member with lists } := by
  cases member with
  | field name =>
    simp only [rememberMember]
    split <;> rfl
  | result method arity =>
    simp only [rememberMember]
    split
    · rfl
    · split <;> rfl
  | _ => rfl

namespace Consistent

theorem get?_lists (h : s.Consistent) (member : Member) :
    s.lists.get? member = if s.registered member = [] then none else some (s.registered member) := by
  unfold ClassChecks.registered
  cases hget : s.lists.get? member with
  | none => rfl
  | some list =>
    have hlist : list ≠ [] := h.stored _ (Table.mem_of_get? hget)
    simp [hlist]

/-- Fields without checks are not noted, and neither are getters. -/
theorem unnoted (h : s.Consistent) (hnone : s.registered member = []) :
    (∀ name, member = .field name → name ∉ s.constrainedFields ∧ name ∉ s.constrainedStatics) ∧
      ∀ name, member = .result name 0 → name ∉ s.invariants ∧ name ∉ s.staticInvariants := by
  refine ⟨?_, ?_⟩
  · rintro name rfl
    exact ⟨fun hname => ((h.fields false name).mp hname).2 hnone,
      fun hname => ((h.fields true name).mp hname).2 hnone⟩
  · rintro name rfl
    exact ⟨fun hname => (h.getters false name hname).2 hnone,
      fun hname => (h.getters true name hname).2 hnone⟩

/-- Clearing a member that had no checks before leaves nothing of those it got. -/
theorem clear_remember (h : s.Consistent) (hnone : s.registered member = [])
    (hinvariant : s.checkInvariant isInvariant member = .ok ()) (list : List Registered) :
    (rememberMember { s with lists := s.lists.insert member list } isInvariant member).clear member =
      s := by
  have hget : s.lists.get? member = none := by rw [h.get?_lists, if_pos hnone]
  have herase : (s.lists.insert member list).erase member = s.lists := Table.erase_insert_of_get? hget
  obtain ⟨hfields, hgetters⟩ := h.unnoted hnone
  rw [rememberMember_lists]
  simp only [ClassChecks.clear, herase]
  rcases member with name | ⟨method, _ | arity⟩ | _ | _ | _
  · obtain ⟨hfield, hstatic⟩ := hfields name rfl
    cases hdeclared : ((s.cls.field? name).map (·.isStatic)).getD false <;>
      simp [rememberMember, forgetMember, hdeclared, forget_remember, forget_absent, hfield, hstatic]
  · obtain ⟨hgetter, hstatic⟩ := hgetters method rfl
    cases isInvariant <;> cases hdeclared : ((s.cls.method? method 0).map (·.isStatic)).getD false <;>
      simp [rememberMember, forgetMember, hdeclared, forget_remember, forget_absent, hgetter, hstatic]
  · cases isInvariant with
    | false => rfl
    | true => cases hinvariant
  all_goals rfl

/-- Clearing a member without checks changes nothing. -/
theorem clear_absent (h : s.Consistent) (hnone : s.registered member = []) : s.clear member = s := by
  have hget : s.lists.get? member = none := by rw [h.get?_lists, if_pos hnone]
  obtain ⟨hfields, hgetters⟩ := h.unnoted hnone
  simp only [ClassChecks.clear, Table.erase_of_get? hget]
  rcases member with name | ⟨method, _ | arity⟩ | _ | _ | _
  · obtain ⟨hfield, hstatic⟩ := hfields name rfl
    simp [forgetMember, forget_absent, hfield, hstatic]
  · obtain ⟨hgetter, hstatic⟩ := hgetters method rfl
    simp [forgetMember, forget_absent, hgetter, hstatic]
  all_goals rfl

/-- Putting the old list of a member back in its place leaves what has been noted since then. -/
theorem insert_remember (h : s.Consistent) (hsome : s.registered member ≠ []) (list : List Registered)
    (isInvariant : Bool) :
    ({ rememberMember { s with lists := s.lists.insert member list } isInvariant member with
      lists := (s.lists.insert member list).insert member (s.registered member) } : ClassChecks) =
        s.rememberMember isInvariant member := by
  have hget : s.lists.get? member = some (s.registered member) := by rw [h.get?_lists, if_neg hsome]
  have hlists := (rememberMember_cls s isInvariant member).2.2
  rw [rememberMember_lists, Table.insert_insert, Table.insert_of_get? hget]
  generalize s.rememberMember isInvariant member = t at hlists
  cases t
  cases hlists
  rfl

/-- A member with checks has been noted, except for getters that are not invariants. -/
theorem rememberMember_noted (h : s.Consistent) (hsome : s.registered member ≠ []) :
    s.rememberMember false member = s := by
  cases member with
  | field name =>
    obtain ⟨context, hplace⟩ := h.placed _ hsome
    have hnoted := (h.fields _ name).mpr ⟨Class.declaresField_of_place hplace, hsome⟩
    unfold notedFields at hnoted
    simp only [rememberMember]
    split at hnoted
    · next hstatic => rw [if_pos hstatic, remember_noted hnoted]
    · next hstatic => rw [if_neg hstatic, remember_noted hnoted]
  | _ => rfl

theorem remove_none (h : s.Consistent) (member : Member) : s.remove member (.tickets []) = s := by
  have hkept : (Handles.tickets []).kept (s.registered member) = s.registered member :=
    List.filter_eq_self.mpr fun r _ => by cases r.ticket <;> rfl
  simp only [ClassChecks.remove, hkept, List.isEmpty_iff]
  split
  · next hnone => exact h.clear_absent hnone
  · next hsome => rw [Table.insert_of_get? (by rw [h.get?_lists, if_neg hsome])]

end Consistent

-- ---------------------------------------------------------------------------
-- Taking back
-- ---------------------------------------------------------------------------

/-- Checks as they should be, whose tickets are below the one that comes next. -/
structure Ticketed (checks : ClassChecks) (next : Nat) : Prop where
  consistent : checks.Consistent
  tickets : ∀ member, ∀ r ∈ checks.registered member, ∀ ticket, r.ticket = some ticket → ticket < next

namespace Ticketed

variable (h : s.Ticketed next)
  (hadd : s.add member isInvariant (Registered.numbered next given) = .ok (added, t))
include h

/-- Removing by tickets that come later keeps everything. -/
theorem kept {tickets : List Nat} (htickets : ∀ ticket ∈ tickets, next ≤ ticket) (member : Member) :
    (s.registered member).filter (fun r => !(r.ticket.any tickets.contains)) = s.registered member := by
  refine List.filter_eq_self.mpr fun r hr => ?_
  cases hticket : r.ticket with
  | none => rfl
  | some ticket =>
    have hlt := h.tickets member r hr ticket hticket
    have hnot : ticket ∉ tickets := fun hmem => absurd (htickets ticket hmem) (Nat.not_le.mpr hlt)
    simpa using hnot

include hadd

theorem registered_remove {tickets : List Nat} (htickets : tickets ⊆ added.filterMap (·.ticket))
    (other : Member) :
    (t.remove member tickets).registered other =
      if member = other then
        s.registered member ++ added.filter fun r => !(r.ticket.any tickets.contains)
      else s.registered other := by
  have hlater : ∀ ticket ∈ tickets, next ≤ ticket := by
    intro ticket hticket
    have hmem := htickets hticket
    rw [add_tickets hadd] at hmem
    exact (List.mem_range'_1.mp hmem).1
  rw [ClassChecks.registered_remove]
  split
  · rw [registered_add hadd, if_pos rfl, Handles.kept_tickets, List.filter_append, h.kept hlater]
  · next hne => rw [registered_add hadd, if_neg hne]

/-- Registering checks of a member and removing all of them again leaves what was there before, but a
getter that had other checks is noted from then on if they were registered as invariants. -/
theorem remove_all (hgiven : given ≠ []) {tickets : List Nat}
    (htickets : tickets ⊆ added.filterMap (·.ticket)) (hall : added.filterMap (·.ticket) ⊆ tickets) :
    t.remove member tickets =
      if s.registered member = [] then s else s.rememberMember isInvariant member := by
  have hremoved : added.filter (fun r => !(r.ticket.any tickets.contains)) = [] := by
    refine List.filter_eq_nil_iff.mpr fun r hr => ?_
    obtain ⟨context, -, rfl⟩ := add_stamped hadd
    obtain ⟨source, hsource, rfl⟩ := List.mem_map.mp hr
    obtain ⟨ticket, hticket, -, -⟩ := numbered_ticket hsource
    have hticket : (source.stamp context).ticket = some ticket := hticket
    have hmem := hall (List.mem_filterMap.mpr ⟨_, hr, hticket⟩)
    simpa [hticket] using hmem
  have hkept := h.registered_remove hadd htickets member
  rw [if_pos rfl, hremoved, List.append_nil, ClassChecks.registered_remove, if_pos rfl] at hkept
  obtain ⟨context, -, hinvariant, ⟨hnone, -⟩ | ⟨-, rfl⟩⟩ := add_ok hadd
  · cases given with
    | nil => exact absurd rfl hgiven
    | cons first rest => cases hnone
  · simp only [remove, hkept, List.isEmpty_iff]
    split
    · next hnone => exact h.consistent.clear_remember hnone hinvariant _
    · next hsome =>
      rw [(rememberMember_cls ..).2.2]
      exact h.consistent.insert_remember hsome _ isInvariant

end Ticketed

-- ---------------------------------------------------------------------------
-- How checks come about
-- ---------------------------------------------------------------------------

/-- How the checks of a class come about, with the ticket of the check that is registered next: they are
compiled, and then members are given checks and lose them, while tickets are given out for other classes. -/
inductive Arises (c : Class) : ClassChecks → Nat → Prop
  | compiled {configurers : List Configurer} {s : ClassChecks} (h : compile c configurers = .ok s)
    (next : Nat) : Arises c s next
  | added {s t : ClassChecks} {next : Nat} {member : Member} {isInvariant : Bool} {given : List Check}
    {added : List Registered} (h : Arises c s next)
    (hadd : s.add member isInvariant (Registered.numbered next given) = .ok (added, t)) :
    Arises c t (next + given.length)
  | removed {s : ClassChecks} {next : Nat} (h : Arises c s next) (member : Member) (handles : Handles) :
    Arises c (s.remove member handles) next
  | cleared {s : ClassChecks} {next : Nat} (h : Arises c s next) (member : Member) :
    Arises c (s.clear member) next
  | clearedAll {s : ClassChecks} {next : Nat} (h : Arises c s next) : Arises c s.clearAll next
  | switched {s : ClassChecks} {next : Nat} (h : Arises c s next) (settings : FlagSettings) :
    Arises c (s.setFlags settings) next
  | elsewhere {s : ClassChecks} {next : Nat} (h : Arises c s next) (count : Nat) :
    Arises c s (next + count)

/-- Whether none of the checks of a class carries a ticket. -/
def Untracked (checks : ClassChecks) : Prop :=
  ∀ member, ∀ r ∈ checks.registered member, r.ticket = none

theorem Untracked.applied {made : FlagSettings} (hs : s.Untracked) (h : Applied made entries s t) :
    t.Untracked := by
  intro member r hr
  rw [h.registered] at hr
  rcases Entry.mem_lists hr with hr | ⟨_, -, -, check, -, context, rfl⟩
  · exact hs member r hr
  · rfl

theorem Untracked.grown {wanted : Member → Check → Prop} (hs : s.Untracked) (h : Grown wanted s t) :
    t.Untracked := by
  induction h with
  | done => exact hs
  | add _ added _ ih => exact ih (hs.applied (addUntracked_applied added))

theorem compile_untracked {configurers : List Configurer} (h : compile c configurers = .ok s) :
    s.Untracked := by
  obtain ⟨configured, hconfigured, hderive⟩ := compile_ok.mp h
  obtain ⟨answers, -, happlied, -⟩ := foldlM_configurers hconfigured
  have hempty : Untracked { cls := c } := fun _ _ hr => absurd hr List.not_mem_nil
  exact (hempty.applied happlied).grown (derive_grown hderive)

namespace Arises

theorem ticketed (h : Arises c s next) : s.Ticketed next := by
  induction h with
  | compiled h next =>
    refine ⟨compile_consistent h, fun member r hr ticket hticket => ?_⟩
    rw [compile_untracked h member r hr] at hticket
    cases hticket
  | @added s t next member isInvariant given added _ hadd ih =>
    refine ⟨ih.consistent.add hadd, fun other r hr ticket hticket => ?_⟩
    have hold : ∀ other, r ∈ s.registered other → ticket < next + given.length := fun other hr =>
      Nat.lt_add_right _ (ih.tickets other r hr ticket hticket)
    rw [registered_add hadd] at hr
    split at hr
    · rcases List.mem_append.mp hr with hr | hr
      · exact hold _ hr
      · have hmem := List.mem_filterMap.mpr ⟨r, hr, hticket⟩
        rw [add_tickets hadd] at hmem
        exact (List.mem_range'_1.mp hmem).2
    · exact hold _ hr
  | @removed s next _ member handles ih =>
    refine ⟨ih.consistent.remove member handles, fun other r hr ticket hticket => ?_⟩
    rw [registered_remove] at hr
    split at hr
    · exact ih.tickets _ r ((handles.kept_sublist _).subset hr) ticket hticket
    · exact ih.tickets _ r hr ticket hticket
  | @cleared s next _ member ih =>
    refine ⟨ih.consistent.clear member, fun other r hr ticket hticket => ?_⟩
    rw [registered_clear] at hr
    split at hr
    · cases hr
    · exact ih.tickets _ r hr ticket hticket
  | @clearedAll s => exact ⟨.empty s.cls, fun _ _ hr => absurd hr List.not_mem_nil⟩
  | switched _ settings ih =>
    obtain ⟨hconsistent, htickets⟩ := ih
    exact ⟨Operation.perform_consistent hconsistent (.setFlags settings), htickets⟩
  | elsewhere _ count ih =>
    exact ⟨ih.consistent, fun member r hr ticket hticket =>
      Nat.lt_add_right _ (ih.tickets member r hr ticket hticket)⟩

/-- Removing some of the checks that a member has just been given leaves the others behind those of
before and the lists of all other members as they were. Removing all of them leaves everything as it
was, whatever checks there are that are equal to them. -/
theorem remove_added (h : Arises c s next)
    (hadd : s.add member false (Registered.numbered next given) = .ok (added, t)) {tickets : List Nat}
    (htickets : tickets ⊆ added.filterMap (·.ticket)) :
    added.filterMap (·.ticket) = List.range' next given.length ∧
      (t.remove member tickets).registered member =
        s.registered member ++ added.filter (fun r => !(r.ticket.any tickets.contains)) ∧
      (∀ other, other ≠ member → (t.remove member tickets).registered other = s.registered other) ∧
      (added.filterMap (·.ticket) ⊆ tickets → t.remove member tickets = s) := by
  have hregistered := h.ticketed.registered_remove hadd htickets
  refine ⟨add_tickets hadd, ?_, fun other hother => ?_, fun hall => ?_⟩
  · rw [hregistered, if_pos rfl]
  · rw [hregistered, if_neg hother.symm]
  · have hconsistent := h.ticketed.consistent
    cases given with
    | nil =>
      rw [add_tickets hadd] at htickets
      obtain rfl : tickets = [] := List.subset_nil.mp htickets
      obtain ⟨-, -, -, ⟨-, rfl⟩ | ⟨hsome, -⟩⟩ := add_ok hadd
      · exact hconsistent.remove_none member
      · exact absurd rfl hsome
    | cons first rest =>
      rw [h.ticketed.remove_all hadd (List.cons_ne_nil _ _) htickets hall]
      split
      · rfl
      · next hsome => exact hconsistent.rememberMember_noted hsome

/-- A class with a method that takes one parameter. -/
def drawer : Class where
  id := 0
  name := "Drawer"
  superclass := none
  interfaces := []
  isInterface := false
  fields := []
  methods := [⟨"setLabel", [⟨some "label", .string⟩], none, false, false⟩]
  constructors := []

/-- The checks of the class when its parameter has a check with the ticket 4. -/
def drawerChecks : ClassChecks where
  cls := drawer
  lists := ⟨[(.parameter "setLabel" 1 0, [⟨some 4,
    { kind := .notNull, context := some (.parameter "Drawer" "setLabel" 0 (some "label")) }⟩])]⟩

theorem drawer_arises : Arises drawer drawerChecks 5 := by
  have hcompiled : compile drawer [] = .ok { cls := drawer } := rfl
  have hadd : ClassChecks.add { cls := drawer } (.parameter "setLabel" 1 0) false
    (Registered.numbered 4 [{ kind := .notNull }]) = .ok (_, drawerChecks) := rfl
  exact .added (.compiled hcompiled 4) hadd

/-- Of three checks, two of which are equal to the one that was there, the first and the last are
removed. -/
theorem remove_added_drawer : Arises drawer drawerChecks 5 ∧ ∃ added t,
    drawerChecks.add (.parameter "setLabel" 1 0) false
      (Registered.numbered 5 [{ kind := .notNull }, { kind := .notBlank }, { kind := .notNull }]) =
        .ok (added, t) ∧
    ((t.remove (.parameter "setLabel" 1 0) (.tickets [7, 5])).registered (.parameter "setLabel" 1 0)).map
      (·.ticket) = [some 4, some 6] ∧
    t.remove (.parameter "setLabel" 1 0) (.tickets [7, 5, 6]) = drawerChecks := by
  have hadd : drawerChecks.add (.parameter "setLabel" 1 0) false
    (Registered.numbered 5 [{ kind := .notNull }, { kind := .notBlank }, { kind := .notNull }]) =
      .ok (_, _) := rfl
  refine ⟨drawer_arises, _, _, hadd, ?_, ?_⟩
  · have hsome : [7, 5] ⊆ List.range' 5 3 := by decide
    rw [(drawer_arises.remove_added hadd hsome).2.1]
    rfl
  · have hall : [7, 5, 6] ⊆ List.range' 5 3 := by decide
    have hnone : List.range' 5 3 ⊆ [7, 5, 6] := by decide
    exact (drawer_arises.remove_added hadd hall).2.2.2 hnone

end Arises

end ClassChecks

end ObjectConstraints
