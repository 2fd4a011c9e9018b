import Mathlib.Data.List.Forall2
import Mathlib.Data.List.ReduceOption
import ObjectConstraints.Compilation
import ObjectConstraints.Proofs.Steps

/-!
# What compiling does to the checks of a class

Entries that can be applied are additive: each puts its checks behind those of its member, or in their
place if it overwrites (`ClassChecks.Applied`). What a member is given depends on the entries for it
only, the noted fields on those for fields and the noted getters on those for results. So lists of
entries that say the same of each member make the same checks (`Applied.same`), and so do the checks
that are derived from them (`derive_same`).
-/

namespace ObjectConstraints

-- ---------------------------------------------------------------------------
-- What an entry changes
-- ---------------------------------------------------------------------------

namespace Entry

/-- The checks of an entry as they are registered. -/
def registered (entry : Entry) (c : Class) : List Registered :=
  match c.place entry.member with
  | .ok context => (Registered.untracked entry.checks).map (·.stamp context)
  | .error _ => []

/-- The checks of a member after an entry. -/
def list (entry : Entry) (c : Class) (member : Member) (checks : List Registered) : List Registered :=
  if entry.member = member then
    (if entry.overwrite then [] else checks) ++ entry.registered c
  else checks

theorem mem_list {entry : Entry} {member : Member} {before : List Registered}
    (h : r ∈ entry.list c member before) : r ∈ before ∨
      (entry.member = member ∧ ∃ check ∈ entry.checks, ∃ context, r = ⟨none, check.stamp context⟩) := by
  unfold list at h
  split at h
  · next hmember =>
    refine (List.mem_append.mp h).imp (fun h => ?_) fun h => ⟨hmember, ?_⟩
    · split at h
      · cases h
      · exact h
    · unfold registered at h
      split at h
      · obtain ⟨source, hsource, rfl⟩ := List.mem_map.mp h
        obtain ⟨check, hcheck, rfl⟩ := List.mem_map.mp hsource
        exact ⟨check, hcheck, _, rfl⟩
      · cases h
  · exact .inl h

/-- A check that a member has after entries is one that it had, or one of an entry for it. -/
theorem mem_lists {entries : List Entry} {member : Member} {before : List Registered}
    (h : r ∈ entries.foldl (fun list e => e.list c member list) before) : r ∈ before ∨
      ∃ e ∈ entries, e.member = member ∧ ∃ check ∈ e.checks, ∃ context, r = ⟨none, check.stamp context⟩ := by
  induction entries generalizing before with
  | nil => exact .inl h
  | cons entry rest ih =>
    rcases ih h with h | ⟨e, he, hfrom⟩
    · exact (mem_list h).imp_right fun hfrom => ⟨entry, List.mem_cons_self, hfrom⟩
    · exact .inr ⟨e, List.mem_cons_of_mem _ he, hfrom⟩

/-- The names of instance members and of static members after an entry for one of them. -/
def note (entry : Entry) (name : String) (isStatic : Bool) (names : List String × List String) :
    List String × List String :=
  let names :=
    if entry.overwrite then (ClassChecks.forget name names.1, ClassChecks.forget name names.2)
    else names
  if entry.checks.isEmpty then names
  else if isStatic then (names.1, ClassChecks.remember name names.2)
  else (ClassChecks.remember name names.1, names.2)

/-- The constrained fields after an entry. -/
def noteField (entry : Entry) (c : Class) (names : List String × List String) :
    List String × List String :=
  match entry.member with
  | .field name => entry.note name (((c.field? name).map (·.isStatic)).getD false) names
  | _ => names

/-- The invariants after an entry. Results of methods that take parameters are never noted. -/
def noteGetter (entry : Entry) (c : Class) (names : List String × List String) :
    List String × List String :=
  match entry.member with
  | .result method 0 =>
    let isStatic := ((c.method? method 0).map (·.isStatic)).getD false
    if entry.isInvariant then entry.note method isStatic names
    else if entry.overwrite then
      (ClassChecks.forget method names.1, ClassChecks.forget method names.2)
    else names
  | _ => names

end Entry

namespace ClassChecks

variable {s t u : ClassChecks}

def fieldNames (checks : ClassChecks) : List String × List String :=
  (checks.constrainedFields, checks.constrainedStatics)

def getterNames (checks : ClassChecks) : List String × List String :=
  (checks.invariants, checks.staticInvariants)

/-- What the checks of a class are after settings are made and entries are applied. -/
structure Applied (settings : FlagSettings) (entries : List Entry) (s t : ClassChecks) : Prop where
  cls : t.cls = s.cls
  flags : t.flags = settings.apply s.flags
  registered : ∀ member,
    t.registered member = entries.foldl (fun list e => e.list s.cls member list) (s.registered member)
  fields : t.fieldNames = entries.foldl (fun names e => e.noteField s.cls names) s.fieldNames
  getters : t.getterNames = entries.foldl (fun names e => e.noteGetter s.cls names) s.getterNames

theorem Applied.nil (s : ClassChecks) : Applied {} [] s s :=
  ⟨rfl, rfl, fun _ => rfl, rfl, rfl⟩

theorem Applied.setFlags (settings : FlagSettings) (s : ClassChecks) :
    Applied settings [] s (s.setFlags settings) :=
  ⟨rfl, rfl, fun _ => rfl, rfl, rfl⟩

theorem Applied.append (h : Applied settings first s t) (h' : Applied settings' second t u) :
    Applied (settings.followedBy settings') (first ++ second) s u where
  cls := h'.cls.trans h.cls
  flags := by rw [FlagSettings.apply_followedBy, ← h.flags, h'.flags]
  registered member := by rw [List.foldl_append, ← h.registered, ← h.cls, h'.registered]
  fields := by rw [List.foldl_append, ← h.fields, ← h.cls, h'.fields]
  getters := by rw [List.foldl_append, ← h.getters, ← h.cls, h'.getters]

@[simp] theorem rememberMember_cls (s : ClassChecks) (isInvariant : Bool) (member : Member) :
    (s.rememberMember isInvariant member).cls = s.cls ∧
      (s.rememberMember isInvariant member).flags = s.flags ∧
      (s.rememberMember isInvariant member).lists = s.lists := by
  cases member <;> simp only [rememberMember, and_self]
  · split <;> simp
  · split
    · simp
    · split <;> simp

@[simp] theorem forgetMember_cls (s : ClassChecks) (member : Member) :
    (s.forgetMember member).cls = s.cls ∧ (s.forgetMember member).flags = s.flags ∧
      (s.forgetMember member).lists = s.lists := by
  unfold forgetMember
  split <;> simp

theorem clear_applied (s : ClassChecks) (member : Member) (isInvariant : Bool) :
    Applied {} [⟨member, isInvariant, true, []⟩] s (s.clear member) where
  cls := (forgetMember_cls _ member).1
  flags := (forgetMember_cls _ member).2.1
  registered other := by
    have hnone : Entry.registered ⟨member, isInvariant, true, []⟩ s.cls = [] := by
      unfold Entry.registered
      split <;> rfl
    simp only [List.foldl_cons, List.foldl_nil, Entry.list, hnone, ClassChecks.registered, clear,
      forgetMember_cls]
    split
    · next h => simp [h, Table.get?_erase_self]
    · next h => rw [Table.get?_erase_of_ne _ (Ne.symm h)]
  fields := by
    rcases member with _ | ⟨_, _ | _⟩ | _ | _ | _ <;>
      simp [clear, forgetMember, fieldNames, Entry.noteField, Entry.note]
  getters := by
    rcases member with _ | ⟨_, _ | _⟩ | _ | _ | _ <;>
      simp [clear, forgetMember, getterNames, Entry.noteGetter, Entry.note]

theorem add_ok (h : s.add member isInvariant added = .ok (stamped, t)) :
    ∃ context, s.cls.place member = .ok context ∧ s.checkInvariant isInvariant member = .ok () ∧
      ((added = [] ∧ t = s) ∨ (added ≠ [] ∧
        let lists := s.lists.insert member (s.registered member ++ added.map (·.stamp context))
        t = { s with lists }.rememberMember isInvariant member)) := by
  simp only [add] at h
  cases hplace : s.cls.place member with
  | error e =>
    rw [hplace] at h
    cases h
  | ok context =>
    cases hinvariant : s.checkInvariant isInvariant member with
    | error e =>
      rw [hplace, hinvariant] at h
      cases h
    | ok =>
      rw [hplace, hinvariant] at h
      refine ⟨context, rfl, rfl, ?_⟩
      cases added with
      | nil =>
        cases h
        exact .inl ⟨rfl, rfl⟩
      | cons first rest =>
        cases h
        exact .inr ⟨List.cons_ne_nil _ _, rfl⟩

theorem rememberMember_fieldNames (s : ClassChecks) (isInvariant : Bool) (member : Member)
    (first : Check) (rest : List Check) :
    (s.rememberMember isInvariant member).fieldNames =
      Entry.noteField ⟨member, isInvariant, false, first :: rest⟩ s.cls s.fieldNames := by
  cases member with
  | field name =>
    simp only [Entry.noteField, Entry.note, fieldNames, rememberMember]
    split <;> simp_all
  | result method arity =>
    cases isInvariant
    · rfl
    · simp only [Entry.noteField, fieldNames, rememberMember, Bool.not_true, Bool.false_eq_true,
        if_false]
      split <;> rfl
  | _ => rfl

theorem rememberMember_getterNames (first : Check) (rest : List Check)
    (h : s.checkInvariant isInvariant member = .ok ()) :
    (s.rememberMember isInvariant member).getterNames =
      Entry.noteGetter ⟨member, isInvariant, false, first :: rest⟩ s.cls s.getterNames := by
  rcases member with name | ⟨method, _ | arity⟩ | _ | _ | _
  · simp only [Entry.noteGetter, getterNames, rememberMember]
    split <;> rfl
  · cases isInvariant
    · rfl
    · simp only [Entry.noteGetter, Entry.note, getterNames, rememberMember, Bool.not_true,
        Bool.false_eq_true, if_false]
      split <;> simp_all
  · cases isInvariant
    · rfl
    · cases h
  all_goals rfl

theorem addUntracked_ok (h : s.addUntracked member isInvariant added = .ok t) :
    ∃ stamped, s.add member isInvariant (Registered.untracked added) = .ok (stamped, t) := by
  unfold addUntracked at h
  cases hadd : s.add member isInvariant (Registered.untracked added) with
  | error e =>
    rw [hadd] at h
    cases h
  | ok result =>
    rw [hadd] at h
    cases h
    exact ⟨result.1, rfl⟩

theorem addUntracked_applied (h : s.addUntracked member isInvariant added = .ok t) :
    Applied {} [⟨member, isInvariant, false, added⟩] s t := by
  obtain ⟨stamped, hadd⟩ := addUntracked_ok h
  obtain ⟨context, hplace, hinvariant, ht⟩ := add_ok hadd
  have hregistered : Entry.registered ⟨member, isInvariant, false, added⟩ s.cls =
      (Registered.untracked added).map (·.stamp context) := by
    simp only [Entry.registered, hplace]
  cases added with
  | nil =>
    obtain ⟨-, rfl⟩ := ht.resolve_right fun hsome => hsome.1 rfl
    refine ⟨rfl, rfl, fun other => ?_, ?_, ?_⟩
    · simp [Entry.list, hregistered, Registered.untracked]
    · cases member <;> rfl
    · rcases member with _ | ⟨_, _ | _⟩ | _ | _ | _ <;> cases isInvariant <;> rfl
  | cons first rest =>
    obtain ⟨-, rfl⟩ := ht.resolve_left fun hempty => List.cons_ne_nil _ _ hempty.1
    refine ⟨(rememberMember_cls ..).1, (rememberMember_cls ..).2.1, fun other => ?_,
      rememberMember_fieldNames .., rememberMember_getterNames _ _ hinvariant⟩
    simp only [List.foldl_cons, List.foldl_nil, Entry.list, hregistered, ClassChecks.registered,
      rememberMember_cls]
    split
    · next heq => simp [heq, Table.get?_insert_self]
    · next hne => rw [Table.get?_insert_of_ne _ _ (Ne.symm hne)]

end ClassChecks

-- ---------------------------------------------------------------------------
-- Lists of entries that say the same
-- ---------------------------------------------------------------------------

/-- Lists of entries that say the same of each member of a class. -/
structure Entry.Alike (c : Class) (first second : List Entry) : Prop where
  list : ∀ member checks, first.foldl (fun list e => e.list c member list) checks =
    second.foldl (fun list e => e.list c member list) checks
  fields : ∀ names, first.foldl (fun names e => e.noteField c names) names =
    second.foldl (fun names e => e.noteField c names) names
  getters : ∀ names, first.foldl (fun names e => e.noteGetter c names) names =
    second.foldl (fun names e => e.noteGetter c names) names

/-- The parts of a configuration, which are configured apart from each other. -/
inductive Area where
  | fields
  | methods
  | constructors
  | object
  deriving DecidableEq

def Member.area : Member → Area
  | .field _ => .fields
  | .result _ _ => .methods
  | .parameter _ _ _ => .methods
  | .constructorParameter _ _ => .constructors
  | .object => .object

namespace Entry.Alike

variable {c : Class}

theorem refl (entries : List Entry) : Alike c entries entries :=
  ⟨fun _ _ => rfl, fun _ => rfl, fun _ => rfl⟩

theorem symm (h : Alike c first second) : Alike c second first :=
  ⟨fun member checks => (h.list member checks).symm, fun names => (h.fields names).symm,
    fun names => (h.getters names).symm⟩

theorem trans (h : Alike c first second) (h' : Alike c second third) : Alike c first third :=
  ⟨fun member checks => (h.list member checks).trans (h'.list member checks),
    fun names => (h.fields names).trans (h'.fields names),
    fun names => (h.getters names).trans (h'.getters names)⟩

theorem append_left (front : List Entry) (h : Alike c first second) :
    Alike c (front ++ first) (front ++ second) where
  list member checks := by rw [List.foldl_append, List.foldl_append, h.list]
  fields names := by rw [List.foldl_append, List.foldl_append, h.fields]
  getters names := by rw [List.foldl_append, List.foldl_append, h.getters]

theorem remember_remember (name : String) (names : List String) :
    ClassChecks.remember name (ClassChecks.remember name names) = ClassChecks.remember name names := by
  unfold ClassChecks.remember
  split
  · rfl
  · rw [if_pos (by simp)]

theorem note_split (e : Entry) (more : List Check) (name : String) (isStatic : Bool)
    (names : List String × List String) :
    Entry.note { e with checks := e.checks ++ more } name isStatic names =
      Entry.note { e with overwrite := false, checks := more } name isStatic
        (e.note name isStatic names) := by
  cases hchecks : e.checks <;> cases more <;> cases isStatic <;>
    simp [Entry.note, hchecks, remember_remember]

theorem registered_append (e : Entry) (more : List Check) :
    Entry.registered { e with checks := e.checks ++ more } c =
      e.registered c ++ Entry.registered { e with overwrite := false, checks := more } c := by
  simp only [Entry.registered]
  split
  · simp [Registered.untracked]
  · rfl

/-- An entry says the same as its first checks and the others behind them. -/
theorem split (e : Entry) (more : List Check) :
    Alike c [{ e with checks := e.checks ++ more }]
      [e, { e with overwrite := false, checks := more }] where
  list member checks := by
    simp only [List.foldl_cons, List.foldl_nil, Entry.list, registered_append]
    split
    · simp
    · rfl
  fields names := by
    cases hmember : e.member with
    | field name =>
      simp only [List.foldl_cons, List.foldl_nil, Entry.noteField, hmember]
      exact note_split ..
    | _ => simp [Entry.noteField, hmember]
  getters names := by
    rcases hmember : e.member with _ | ⟨method, _ | arity⟩ | _ | _ | _
    case result.zero =>
      simp only [List.foldl_cons, List.foldl_nil, Entry.noteGetter, hmember]
      split
      · exact note_split ..
      · simp
    all_goals simp [Entry.noteGetter, hmember]

theorem foldl_filter_of_frame {α : Type} {f : α → Entry → α} {p : Entry → Bool}
    (h : ∀ a e, p e = false → f a e = a) (entries : List Entry) (a : α) :
    (entries.filter p).foldl f a = entries.foldl f a := by
  rw [List.foldl_filter]
  congr
  funext a e
  split
  · rfl
  · next hp => exact (h a e (by simpa using hp)).symm

/-- What is said of the members of one area does not depend on entries of other areas. -/
theorem of_filter
    (h : ∀ area, first.filter (·.member.area = area) = second.filter (·.member.area = area)) :
    Alike c first second where
  list member checks := by
    have hframe : ∀ (list : List Registered) (e : Entry),
        (e.member.area = member.area : Bool) = false → e.list c member list = list := by
      intro list e harea
      have hne : e.member ≠ member := fun heq => by simp [heq] at harea
      rw [Entry.list, if_neg hne]
    rw [← foldl_filter_of_frame hframe, h, foldl_filter_of_frame hframe]
  fields names := by
    have hframe : ∀ (names : List String × List String) (e : Entry),
        (e.member.area = .fields : Bool) = false → e.noteField c names = names := by
      intro names e harea
      cases hmember : e.member <;> simp_all [Entry.noteField, Member.area]
    rw [← foldl_filter_of_frame hframe, h, foldl_filter_of_frame hframe]
  getters names := by
    have hframe : ∀ (names : List String × List String) (e : Entry),
        (e.member.area = .methods : Bool) = false → e.noteGetter c names = names := by
      intro names e harea
      cases hmember : e.member <;> simp_all [Entry.noteGetter, Member.area]
    rw [← foldl_filter_of_frame hframe, h, foldl_filter_of_frame hframe]

end Entry.Alike

-- ---------------------------------------------------------------------------
-- Configurations
-- ---------------------------------------------------------------------------

namespace ClassConfig

/-- The entries for one area. -/
def areaEntries (config : ClassConfig) : Area → List Entry
  | .fields => config.fields.map config.fieldEntry
  | .methods => config.methods.flatMap config.methodEntries
  | .constructors => config.constructors.flatMap config.constructorEntries
  | .object => config.object.toList.map config.objectEntry

theorem entries_eq (config : ClassConfig) : config.entries = config.areaEntries .fields ++
    config.areaEntries .methods ++ config.areaEntries .constructors ++ config.areaEntries .object := rfl

theorem parameterEntries_area {config : ClassConfig} {member : Nat → Member} {area : Area} {e : Entry}
    (he : e ∈ config.parameterEntries member outer parameters)
    (h : ∀ index, (member index).area = area) : e.member.area = area := by
  obtain ⟨⟨part, index⟩, -, he⟩ := List.mem_filterMap.mp he
  simp only [Option.ite_none_left_eq_some] at he
  obtain ⟨-, he⟩ := he
  cases he
  exact h index

theorem areaEntries_area (config : ClassConfig) (area : Area) :
    ∀ e ∈ config.areaEntries area, e.member.area = area := by
  intro e he
  cases area with
  | fields =>
    obtain ⟨field, -, rfl⟩ := List.mem_map.mp he
    rfl
  | methods =>
    obtain ⟨m, -, he⟩ := List.mem_flatMap.mp he
    rcases List.mem_append.mp he with he | he
    · obtain ⟨part, -, rfl⟩ := List.mem_map.mp he
      rfl
    · exact parameterEntries_area he fun _ => rfl
  | constructors =>
    obtain ⟨m, -, he⟩ := List.mem_flatMap.mp he
    exact parameterEntries_area he fun _ => rfl
  | object =>
    obtain ⟨part, -, rfl⟩ := List.mem_map.mp he
    rfl

theorem filter_areaEntries (config : ClassConfig) (area other : Area) :
    (config.areaEntries other).filter (·.member.area = area) =
      if other = area then config.areaEntries other else [] := by
  split
  · next h =>
    refine List.filter_eq_self.mpr fun e he => ?_
    simpa [h] using areaEntries_area config other e he
  · next h =>
    refine List.filter_eq_nil_iff.mpr fun e he => ?_
    simpa [areaEntries_area config other e he] using h

theorem filter_entries (config : ClassConfig) (area : Area) :
    config.entries.filter (·.member.area = area) = config.areaEntries area := by
  rw [entries_eq]
  simp only [List.filter_append, filter_areaEntries]
  cases area <;> simp

end ClassConfig

namespace ClassChecks

theorem bind_ok {ε α β : Type} {x : Except ε α} {f : α → Except ε β} {b : β} :
    x >>= f = .ok b ↔ ∃ a, x = .ok a ∧ f a = .ok b := by
  cases x <;> simp [bind, Except.bind]

theorem pure_ok {ε α : Type} {a b : α} : (pure a : Except ε α) = .ok b ↔ a = b := by
  simp [pure, Except.pure]

theorem mapM_ok {ε α β : Type} {f : α → Except ε β} {l : List α} {r : List β} (h : l.mapM f = .ok r) :
    List.Forall₂ (fun a b => f a = .ok b) l r := by
  induction l generalizing r with
  | nil =>
    cases h
    exact .nil
  | cons a rest ih =>
    simp only [List.mapM_cons, bind_ok, pure_ok] at h
    obtain ⟨b, hb, bs, hbs, rfl⟩ := h
    exact .cons hb (ih hbs)

theorem mem_of_mapM {ε α β : Type} {f : α → Except ε β} {l : List α} {r : List β} {b : β}
    (h : l.mapM f = .ok r) (hb : b ∈ r) : ∃ a ∈ l, f a = .ok b := by
  have hall := mapM_ok h
  clear h
  induction hall with
  | nil => cases hb
  | cons hhead _ ih =>
    rcases List.mem_cons.mp hb with rfl | hb
    · exact ⟨_, List.mem_cons_self, hhead⟩
    · obtain ⟨a, ha, hab⟩ := ih hb
      exact ⟨a, List.mem_cons_of_mem _ ha, hab⟩

variable {s t u : ClassChecks}

theorem Applied.of_alike (h : Applied settings first s t) (halike : Entry.Alike s.cls first second) :
    Applied settings second s t where
  cls := h.cls
  flags := h.flags
  registered member := by rw [h.registered, halike.list]
  fields := by rw [h.fields, halike.fields]
  getters := by rw [h.getters, halike.getters]

theorem applyEntry_applied (h : s.applyEntry entry = .ok t) : Applied {} [entry] s t := by
  obtain ⟨member, isInvariant, overwrite, checks⟩ := entry
  cases overwrite with
  | false => exact addUntracked_applied h
  | true =>
    have hcleared := (clear_applied s member isInvariant).append (addUntracked_applied h)
    exact hcleared.of_alike (Entry.Alike.split ⟨member, isInvariant, true, []⟩ checks).symm

theorem applyEntry_placed (h : s.applyEntry entry = .ok t) :
    ∃ context, s.cls.place entry.member = .ok context := by
  obtain ⟨stamped, hadd⟩ := addUntracked_ok h
  obtain ⟨context, hplace, -⟩ := add_ok hadd
  refine ⟨context, ?_⟩
  rw [← hplace]
  split
  · rw [clear, (forgetMember_cls _ _).1]
  · rfl

theorem foldlM_applied {entries : List Entry} (h : entries.foldlM applyEntry s = .ok t) :
    Applied {} entries s t ∧ ∀ e ∈ entries, ∃ context, s.cls.place e.member = .ok context := by
  induction entries generalizing s with
  | nil =>
    cases h
    exact ⟨.nil _, nofun⟩
  | cons entry rest ih =>
    rw [List.foldlM_cons] at h
    obtain ⟨middle, hentry, hrest⟩ := bind_ok.mp h
    have happlied := applyEntry_applied hentry
    obtain ⟨hrest, hplaced⟩ := ih hrest
    rw [happlied.cls] at hplaced
    exact ⟨happlied.append hrest, List.forall_mem_cons.mpr ⟨applyEntry_placed hentry, hplaced⟩⟩

theorem applyConfig_applied (h : s.applyConfig config = .ok t) :
    Applied config.flags config.entries s t ∧
      ∀ e ∈ config.entries, ∃ context, s.cls.place e.member = .ok context := by
  obtain ⟨happlied, hplaced⟩ := foldlM_applied h
  exact ⟨(Applied.setFlags config.flags s).append happlied, hplaced⟩

-- ---------------------------------------------------------------------------
-- The same checks
-- ---------------------------------------------------------------------------

/-- Whether the checks of a class are the same: the switches, the list of each member and the noted
members, in their order. -/
structure Same (s t : ClassChecks) : Prop where
  cls : s.cls = t.cls
  flags : s.flags = t.flags
  registered : ∀ member, s.registered member = t.registered member
  fields : s.fieldNames = t.fieldNames
  getters : s.getterNames = t.getterNames

variable {s' t' : ClassChecks}

theorem Same.refl (s : ClassChecks) : Same s s := ⟨rfl, rfl, fun _ => rfl, rfl, rfl⟩

theorem Same.of (h : Same s t) (member : Member) : s.of member = t.of member := by
  rw [ClassChecks.of, ClassChecks.of, h.registered]

theorem Applied.same (h : Applied settings entries s t) (h' : Applied settings entries s' t')
    (hs : Same s s') : Same t t' where
  cls := by rw [h.cls, h'.cls, hs.cls]
  flags := by rw [h.flags, h'.flags, hs.flags]
  registered member := by rw [h.registered, h'.registered, hs.registered, hs.cls]
  fields := by rw [h.fields, h'.fields, hs.fields, hs.cls]
  getters := by rw [h.getters, h'.getters, hs.getters, hs.cls]

theorem foldlM_same {α : Type} {f : ClassChecks → α → Except ConfigError ClassChecks} {items : List α}
    (hf : ∀ a s s' t t', Same s s' → f s a = .ok t → f s' a = .ok t' → Same t t') (hs : Same s s')
    (h : items.foldlM f s = .ok t) (h' : items.foldlM f s' = .ok t') : Same t t' := by
  induction items generalizing s s' with
  | nil =>
    cases h
    cases h'
    exact hs
  | cons a rest ih =>
    rw [List.foldlM_cons] at h h'
    obtain ⟨middle, ha, hrest⟩ := bind_ok.mp h
    obtain ⟨middle', ha', hrest'⟩ := bind_ok.mp h'
    exact ih (hf a _ _ _ _ hs ha ha') hrest hrest'

theorem switched_same {α : Type} {f : ClassChecks → α → Except ConfigError ClassChecks}
    {items : List α} {on : Bool}
    (hf : ∀ a s s' t t', Same s s' → f s a = .ok t → f s' a = .ok t' → Same t t') (hs : Same s s')
    (h : (if on then items.foldlM f s else pure s) = .ok t)
    (h' : (if on then items.foldlM f s' else pure s') = .ok t') : Same t t' := by
  cases on with
  | false =>
    cases h
    cases h'
    exact hs
  | true => exact foldlM_same hf hs h h'

theorem addUnless_same (hs : Same s s') (h : addUnless superfluous check s member = .ok t)
    (h' : addUnless superfluous check s' member = .ok t') : Same t t' := by
  unfold addUnless at h h'
  rw [← hs.of member] at h'
  split at h
  · next hany =>
    rw [if_pos hany] at h'
    cases h
    cases h'
    exact hs
  · next hnone =>
    rw [if_neg hnone] at h'
    exact (addUntracked_applied h).same (addUntracked_applied h') hs

theorem addReference_same {target : Member × String} (hs : Same s s')
    (h : s.addReference target = .ok t) (h' : s'.addReference target = .ok t') : Same t t' := by
  unfold addReference at h h'
  rw [← hs.cls] at h'
  exact addUnless_same hs h h'

/-- Checks are derived in three steps, each if its switch is on. -/
theorem derive_ok : s.derive = .ok t ↔ ∃ a b,
    (if s.flags.fieldsToSetters then s.setterTargets.foldlM addReference s else pure s) = .ok a ∧
      (if s.flags.fieldsToConstructors then a.constructorTargets.foldlM addReference a else pure a) =
        .ok b ∧
      (if s.flags.parametersNotNull then
        (parameterMembers b.cls).foldlM (addUnless isNotNull { kind := .notNull }) b
      else pure b) = .ok t := by
  simp only [derive]
  cases s.flags.fieldsToSetters <;> cases s.flags.fieldsToConstructors <;>
    simp [bind_ok, pure_ok]

theorem Same.setterTargets (hs : Same s s') : s.setterTargets = s'.setterTargets := by
  obtain ⟨hfields, hstatics⟩ := Prod.mk.inj hs.fields
  simp only [ClassChecks.setterTargets, hs.cls, hfields, hstatics]

theorem Same.constructorTargets (hs : Same s s') : s.constructorTargets = s'.constructorTargets := by
  obtain ⟨hfields, -⟩ := Prod.mk.inj hs.fields
  simp only [ClassChecks.constructorTargets, hs.cls, hfields]

theorem derive_same (hs : Same s s') (h : s.derive = .ok t) (h' : s'.derive = .ok t') : Same t t' := by
  obtain ⟨a, b, hsetters, hconstructors, hparameters⟩ := derive_ok.mp h
  obtain ⟨a', b', hsetters', hconstructors', hparameters'⟩ := derive_ok.mp h'
  rw [← hs.flags] at hsetters' hconstructors' hparameters'
  have hreference : ∀ (target : Member × String) (s s' t t' : ClassChecks), Same s s' →
      s.addReference target = .ok t → s'.addReference target = .ok t' → Same t t' :=
    fun _ _ _ _ _ => addReference_same
  rw [← hs.setterTargets] at hsetters'
  have ha : Same a a' := switched_same hreference hs hsetters hsetters'
  rw [← ha.constructorTargets] at hconstructors'
  have hb : Same b b' := switched_same hreference ha hconstructors hconstructors'
  rw [← hb.cls] at hparameters'
  have hnotNull : ∀ (member : Member) (s s' t t' : ClassChecks), Same s s' →
      addUnless isNotNull { kind := .notNull } s member = .ok t →
      addUnless isNotNull { kind := .notNull } s' member = .ok t' → Same t t' :=
    fun _ _ _ _ _ => addUnless_same
  exact switched_same hnotNull hb hparameters hparameters'

theorem compile_ok : compile c configurers = .ok checks ↔
    ∃ s, configurers.foldlM applyConfigurer { cls := c } = .ok s ∧ s.derive = .ok checks := by
  simp only [compile, bind_ok, Run.mapError_ok]

theorem applyConfigurer_applied (hconfig : configurer.classConfig s.cls = .ok found)
    (h : s.applyConfigurer configurer = .ok t) :
    Applied (found.elim {} (·.flags)) (found.elim [] (·.entries)) s t ∧
      ∀ e ∈ found.elim [] (·.entries), ∃ context, s.cls.place e.member = .ok context := by
  simp only [applyConfigurer, hconfig] at h
  cases found with
  | none =>
    cases h
    exact ⟨.nil _, nofun⟩
  | some config => exact applyConfig_applied (Run.mapError_ok.mp h)

theorem empty_followedBy (settings : FlagSettings) : FlagSettings.followedBy {} settings = settings := by
  simp [FlagSettings.followedBy]

/-- The settings of configurations, one after the other. -/
def settings (configs : List ClassConfig) : FlagSettings :=
  configs.foldr (fun config later => config.flags.followedBy later) {}

/-- Sources of configuration are applied by asking each of them and applying the entries of all
answers. -/
theorem foldlM_configurers {configurers : List Configurer}
    (h : configurers.foldlM applyConfigurer s = .ok t) :
    ∃ answers, configurers.mapM (·.classConfig s.cls) = .ok answers ∧
      Applied (settings answers.reduceOption) (answers.reduceOption.flatMap (·.entries)) s t ∧
      ∀ e ∈ answers.reduceOption.flatMap (·.entries), ∃ context, s.cls.place e.member = .ok context := by
  induction configurers generalizing s with
  | nil =>
    cases h
    exact ⟨[], rfl, .nil _, by simp⟩
  | cons configurer rest ih =>
    rw [List.foldlM_cons] at h
    obtain ⟨middle, hmiddle, hrest⟩ := bind_ok.mp h
    cases hconfig : configurer.classConfig s.cls with
    | error reasons =>
      simp only [applyConfigurer, hconfig] at hmiddle
      cases hmiddle
    | ok answer =>
      obtain ⟨happlied, hplaced⟩ := applyConfigurer_applied hconfig hmiddle
      obtain ⟨answers, hanswers, hlater, hplaced'⟩ := ih hrest
      rw [happlied.cls] at hanswers hplaced'
      refine ⟨answer :: answers, ?_, ?_, ?_⟩
      · simp only [List.mapM_cons, hconfig, hanswers]
        rfl
      · have happended := happlied.append hlater
        cases answer with
        | none =>
          rw [Option.elim_none, Option.elim_none, empty_followedBy] at happended
          exact happended
        | some config => exact happended
      · cases answer with
        | none => exact hplaced'
        | some config => exact fun e he => (List.mem_append.mp he).elim (hplaced e) (hplaced' e)

end ClassChecks

end ObjectConstraints
