import ObjectConstraints.Proofs.Registries

/-!
# Heaps

What fields hold after any sequence of creations and assignments (`Heap`), in a world in which classes
have distinct names (`Universe`): an object has all instance fields of its class and of those above it
(`Heap.get`), and values hold none but objects that have been made. Methods that do nothing but create
and assign lead from one such store to another (`Heap.invoke`).
-/

namespace ObjectConstraints

-- ---------------------------------------------------------------------------
-- Tables
-- ---------------------------------------------------------------------------

namespace Table

variable {κ α : Type} [DecidableEq κ]

theorem get?_foldl_insert (keys : List κ) (value : α) (table : Table κ α) (key : κ) :
    ((keys.map (·, value)).foldl (fun table entry => table.insert entry.1 entry.2) table).get? key =
      if key ∈ keys then some value else table.get? key := by
  induction keys generalizing table with
  | nil => simp
  | cons first rest ih =>
    rw [List.map_cons, List.foldl_cons, ih]
    by_cases hfirst : key = first
    · simp [hfirst, get?_insert_self]
    · simp [hfirst, get?_insert_of_ne _ _ hfirst]

/-- A table in which all keys have one value. -/
theorem get?_ofList_const (keys : List κ) (value : α) (key : κ) :
    (ofList (keys.map (·, value))).get? key = if key ∈ keys then some value else none :=
  get?_foldl_insert keys value {} key

theorem mem_foldl_insert {entries : List (κ × α)} {table : Table κ α} {entry : κ × α}
    (h : entry ∈ (entries.foldl (fun table entry => table.insert entry.1 entry.2) table).entries) :
    entry ∈ entries ∨ entry ∈ table.entries := by
  induction entries generalizing table with
  | nil => exact .inr h
  | cons first rest ih =>
    rcases ih h with h | h
    · exact .inl (List.mem_cons_of_mem _ h)
    · rcases mem_insert h with rfl | h
      · exact .inl List.mem_cons_self
      · exact .inr h

theorem mem_ofList {entries : List (κ × α)} {entry : κ × α} (h : entry ∈ (ofList entries).entries) :
    entry ∈ entries :=
  (mem_foldl_insert h).resolve_right List.not_mem_nil

theorem contains_insert (table : Table κ α) (key other : κ) (value : α)
    (h : table.contains other = true) : (table.insert key value).contains other = true := by
  unfold contains at h ⊢
  by_cases hkey : other = key
  · rw [hkey, get?_insert_self]
    rfl
  · rwa [get?_insert_of_ne _ _ hkey]

end Table

theorem Value.Over.mono {first second : List Object} {value : Value} (h : value.Over first)
    (hsub : first ⊆ second) : value.Over second := fun o ho => hsub (h o ho)

-- ---------------------------------------------------------------------------
-- Creations and assignments
-- ---------------------------------------------------------------------------

/-- All classes there are, which have distinct names. -/
structure Universe where
  has : Class → Prop
  levels : ∀ c, has c → ∀ d ∈ c.hierarchy, has d
  interfaces : ∀ c, has c → ∀ d ∈ c.allInterfaces, has d
  named : ∀ c d, has c → has d → c.name = d.name → c = d

/-- The stores that any sequence of creations and assignments leads to, with the objects made so far.
What is assigned holds none but objects that have been made. -/
inductive Heap (u : Universe) : List Object → Store → Prop
  | start : Heap u [] {}
  /-- A class is declared with the values of its static fields. -/
  | declare (c : Class) (values : List (String × Value)) : Heap u objects store →
      (∀ entry ∈ values, entry.2.Over objects) →
      Heap u objects { store with statics := store.statics.insert c.id (Class.initialStatics values) }
  | make (c : Class) : Heap u objects store → u.has c →
      Heap u ((c.make store).1 :: objects) (c.make store).2
  | set : Heap u objects store → o ∈ objects → value.Over objects →
      Object.set o field value store = .ok after → Heap u objects after
  | setStatic : Heap u objects store → value.Over objects →
      Class.setStatic c field value store = .ok after → Heap u objects after

/-- What is true of a store with respect to the objects made so far. -/
structure Store.Holds (store : Store) (objects : List Object) : Prop where
  made : ∀ o ∈ objects, o.id < store.made
  complete : ∀ o ∈ objects, ∃ fields, store.objects.get? o.id = some fields ∧
    ∀ field ∈ o.cls.instanceFields, fields.contains field = true
  fields : ∀ id fields, store.objects.get? id = some fields →
    ∀ field value, fields.get? field = some value → value.Over objects
  statics : ∀ id fields, store.statics.get? id = some fields →
    ∀ field value, fields.get? field = some value → value.Over objects

namespace Store.Holds

variable {store after : Store} {objects : List Object}

theorem empty : Store.Holds {} [] where
  made o ho := by cases ho
  complete o ho := by cases ho
  fields id fields h := by simp [Table.get?_empty] at h
  statics id fields h := by simp [Table.get?_empty] at h

theorem declare (h : store.Holds objects) (c : Class) {values : List (String × Value)}
    (hvalues : ∀ entry ∈ values, entry.2.Over objects) :
    Holds { store with statics := store.statics.insert c.id (Class.initialStatics values) } objects where
  made := h.made
  complete := h.complete
  fields := h.fields
  statics id fields hget field value hvalue := by
    by_cases hid : id = c.id
    · rw [hid, Table.get?_insert_self] at hget
      cases hget
      exact hvalues _ (Table.mem_ofList (Table.mem_of_get? hvalue))
    · rw [Table.get?_insert_of_ne _ _ hid] at hget
      exact h.statics id fields hget field value hvalue

theorem make (h : store.Holds objects) (c : Class) :
    Holds (c.make store).2 ((c.make store).1 :: objects) where
  made o ho := by
    rcases List.mem_cons.mp ho with rfl | ho
    · exact Nat.lt_succ_self _
    · exact Nat.lt_succ_of_lt (h.made o ho)
  complete o ho := by
    rcases List.mem_cons.mp ho with rfl | ho
    · refine ⟨_, Table.get?_insert_self .., fun field hfield => ?_⟩
      have hget := Table.get?_ofList_const c.instanceFields Value.null field
      have hmade : field ∈ c.instanceFields := hfield
      rw [if_pos hmade] at hget
      exact Option.isSome_iff_exists.mpr ⟨_, hget⟩
    · obtain ⟨fields, hget, hcomplete⟩ := h.complete o ho
      refine ⟨fields, ?_, hcomplete⟩
      exact (Table.get?_insert_of_ne _ _ (Nat.ne_of_lt (h.made o ho))).trans hget
  fields id fields hget field value hvalue := by
    by_cases hid : id = store.made
    · obtain rfl : Table.ofList (c.instanceFields.map (·, Value.null)) = fields := by
        rw [hid] at hget
        exact Option.some.inj ((Table.get?_insert_self ..).symm.trans hget)
      rw [Table.get?_ofList_const] at hvalue
      split at hvalue
      · cases hvalue
        exact Value.over_null
      · cases hvalue
    · have hold := (Table.get?_insert_of_ne _ _ hid).symm.trans hget
      exact (h.fields id fields hold field value hvalue).mono (List.subset_cons_self ..)
  statics id fields hget field value hvalue :=
    (h.statics id fields hget field value hvalue).mono (List.subset_cons_self ..)

theorem set (h : store.Holds objects) {o : Object} (hvalue : value.Over objects)
    (hset : o.set field value store = .ok after) : after.Holds objects := by
  unfold Object.set at hset
  split at hset
  · next stored hstored =>
    split at hset
    · cases hset
      refine ⟨h.made, fun other hother => ?_, fun id fields hget name found hfound => ?_, h.statics⟩
      · obtain ⟨fields, hget, hcomplete⟩ := h.complete other hother
        by_cases hid : other.id = o.id
        · rw [hid, hstored] at hget
          cases hget
          refine ⟨stored.insert field value, ?_, fun name hname => ?_⟩
          · rw [hid]
            exact Table.get?_insert_self ..
          · exact Table.contains_insert _ _ _ _ (hcomplete name hname)
        · exact ⟨fields, (Table.get?_insert_of_ne _ _ hid).trans hget, hcomplete⟩
      · by_cases hid : id = o.id
        · rw [hid, Table.get?_insert_self] at hget
          cases hget
          by_cases hname : name = field
          · rw [hname, Table.get?_insert_self] at hfound
            cases hfound
            exact hvalue
          · rw [Table.get?_insert_of_ne _ _ hname] at hfound
            exact h.fields _ _ hstored name found hfound
        · rw [Table.get?_insert_of_ne _ _ hid] at hget
          exact h.fields id fields hget name found hfound
    · cases hset
  · cases hset

theorem setStatic (h : store.Holds objects) (hvalue : value.Over objects)
    (hset : Class.setStatic c field value store = .ok after) : after.Holds objects := by
  unfold Class.setStatic at hset
  split at hset
  · cases hset
  · cases hset
    refine ⟨h.made, h.complete, h.fields, fun id fields hget name found hfound => ?_⟩
    by_cases hid : id = c.id
    · rw [hid, Table.get?_insert_self] at hget
      cases hget
      by_cases hname : name = field
      · rw [hname, Table.get?_insert_self] at hfound
        cases hfound
        exact hvalue
      · rw [Table.get?_insert_of_ne _ _ hname] at hfound
        -- Before the first assignment a class may have no static values at all.
        cases hstored : store.statics.get? c.id with
        | none => simp [hstored, Table.get?_empty] at hfound
        | some stored =>
          rw [hstored] at hfound
          exact h.statics _ _ hstored name found hfound
    · rw [Table.get?_insert_of_ne _ _ hid] at hget
      exact h.statics id fields hget name found hfound

end Store.Holds

namespace Heap

variable {u : Universe} {objects : List Object} {store : Store}

theorem holds (h : Heap u objects store) : store.Holds objects := by
  induction h with
  | start => exact .empty
  | declare c values _ hvalues ih => exact ih.declare c hvalues
  | make c _ _ ih => exact ih.make c
  | set _ _ hvalue hset ih => exact ih.set hvalue hset
  | setStatic _ hvalue hset ih => exact ih.setStatic hvalue hset

theorem classes (h : Heap u objects store) : ∀ o ∈ objects, u.has o.cls := by
  induction h with
  | start => exact fun _ ho => absurd ho List.not_mem_nil
  | make c _ hc ih =>
    intro o ho
    rcases List.mem_cons.mp ho with rfl | ho
    · exact hc
    · exact ih o ho
  | declare _ _ _ _ ih => exact ih
  | set _ _ _ _ ih => exact ih
  | setStatic _ _ _ ih => exact ih

theorem closed (h : Heap u objects store) : store.ClosedOver objects := by
  intro o _ field value hget
  unfold Object.get at hget
  split at hget
  · next found hfound =>
    cases hget
    obtain ⟨fields, hfields, hvalue⟩ := Option.bind_eq_some_iff.mp hfound
    exact h.holds.fields _ _ hfields field _ hvalue
  · cases hget

/-- An object that has been made has the instance fields of all levels of its class. -/
theorem get (h : Heap u objects store) (ho : o ∈ objects) (hfield : field ∈ o.cls.instanceFields) :
    ∃ value, o.get field store = .ok value ∧ value.Over objects := by
  obtain ⟨fields, hfields, hcomplete⟩ := h.holds.complete o ho
  obtain ⟨value, hvalue⟩ := Option.isSome_iff_exists.mp (hcomplete field hfield)
  have hget : o.get field store = .ok value := by
    simp [Object.get, hfields, hvalue]
  exact ⟨value, hget, h.closed o ho field value hget⟩

theorem getStatic (h : Heap u objects store) {c : Class} (hfield : c.DeclaresField true field) :
    ∃ value, c.getStatic field store = .ok value ∧ value.Over objects := by
  obtain ⟨f, hf, hstatic⟩ := hfield
  have hfound : c.staticField? field = some f := by simp [Class.staticField?, hf, hstatic]
  refine ⟨_, by simp only [Class.getStatic, hfound]; rfl, ?_⟩
  cases hvalue : (store.statics.get? c.id).bind (·.get? field) with
  | none => exact Value.over_null
  | some value =>
    obtain ⟨fields, hfields, hvalue⟩ := Option.bind_eq_some_iff.mp hvalue
    exact h.holds.statics _ _ hfields field value hvalue

end Heap

/-- Instances have the instance fields that any level of their class declares. -/
theorem Class.mem_instanceFields {c d : Class} (hd : d ∈ c.hierarchy) (hfield : d.DeclaresField false field) :
    field ∈ c.instanceFields := by
  obtain ⟨f, hf, hinstance⟩ := hfield
  have hname : f.name = field := by simpa using List.find?_some hf
  refine List.mem_flatMap.mpr ⟨d, hd, List.mem_map.mpr ⟨f, List.mem_filter.mpr ⟨?_, ?_⟩, hname⟩⟩
  · exact List.mem_of_find?_eq_some hf
  · simp [hinstance]

-- ---------------------------------------------------------------------------
-- Stages
-- ---------------------------------------------------------------------------

/-- The objects that have been made at some time. -/
structure Stage (u : Universe) where
  objects : List Object
  classes : ∀ o ∈ objects, u.has o.cls

namespace Stage

variable {u : Universe} {stage later : Stage u} {env : Environment}

/-- The objects of a stage, all classes, and the values that hold no other objects. -/
def realm (stage : Stage u) : Realm where
  object o := o ∈ stage.objects
  cls := u.has
  value v := v.Over stage.objects
  value_object _ := Value.over_object
  object_cls := stage.classes
  levels := u.levels
  interfaces := u.interfaces

theorem site_mono {site : Site} (h : stage.realm.Site env site) (hsub : stage.objects ⊆ later.objects) :
    later.realm.Site env site :=
  ⟨Value.Over.mono h.value hsub, h.scope⟩

end Stage

-- ---------------------------------------------------------------------------
-- Methods
-- ---------------------------------------------------------------------------

/-- Whether a method is invoked on an object that has been made, or on a class. -/
def Receiver.Within (stage : Stage u) : Receiver → Prop
  | .object o => o ∈ stage.objects
  | .cls c => u.has c

/-- Whether methods do nothing but create and assign, and answer with what there is by then. They may
refer to objects that had been made at some stage. -/
def Implementation.Legal (stage : Stage u) (implementation : Implementation) : Prop :=
  ∀ (now : Stage u) store declaring m receiver args, stage.objects ⊆ now.objects →
    Heap u now.objects store → u.has declaring → m ∈ declaring.methods → receiver.Within now →
    (∀ arg ∈ args, arg.Over now.objects) →
    ∃ later : Stage u, now.objects ⊆ later.objects ∧
      Heap u later.objects (implementation declaring m receiver args store).2 ∧
      ∀ value, (implementation declaring m receiver args store).1 = .ok value → value.Over later.objects

/-- Whether the body of a method of some class lacks a field. -/
def Implementation.Lacks (u : Universe) (implementation : Implementation) (className field : String) : Prop :=
  ∃ (now : Stage u) (store : Store) (declaring : Class) (m : Method) (receiver : Receiver)
    (args : List Value), Heap u now.objects store ∧ u.has declaring ∧ m ∈ declaring.methods ∧
    receiver.Within now ∧ (∀ arg ∈ args, arg.Over now.objects) ∧
    (implementation declaring m receiver args store).1 = .error (.noSuchField className field)

/-- How an access to a member that runs methods ends: with what there is by then, or with an error; the
errors for lack of a field are those of bodies. -/
structure Accessed (stage : Stage u) (implementation : Implementation)
    (r : Except AccessError Value × Store) : Prop where
  ends : ∃ later : Stage u, stage.objects ⊆ later.objects ∧ Heap u later.objects r.2 ∧
    ∀ value, r.1 = .ok value → value.Over later.objects
  lacks : ∀ className field, r.1 = .error (.noSuchField className field) →
    implementation.Lacks u className field

theorem Implementation.Legal.mono {u : Universe} {stage later : Stage u} {implementation : Implementation}
    (h : implementation.Legal stage) (hsub : stage.objects ⊆ later.objects) :
    implementation.Legal later :=
  fun now store declaring m receiver args hnow =>
    h now store declaring m receiver args (List.Subset.trans hsub hnow)

section

variable {u : Universe} {stage : Stage u} {implementation : Implementation} {store : Store}
  {method : String} {args : List Value}

theorem Accessed.refused (h : Heap u stage.objects store) (e : AccessError)
    (he : ∀ className field, e ≠ .noSuchField className field) :
    Accessed stage implementation (.error e, store) where
  ends := ⟨stage, List.Subset.refl _, h, fun _ hvalue => by cases hvalue⟩
  lacks className field hlacks := absurd (Except.error.inj hlacks) (he className field)

variable (h : Heap u stage.objects store) (legal : implementation.Legal stage)
  (hargs : ∀ arg ∈ args, arg.Over stage.objects)
include h legal hargs

theorem Class.run_accessed {declaring : Class} (hdeclaring : u.has declaring) (hm : m ∈ declaring.methods)
    (hreceiver : receiver.Within stage) :
    Accessed stage implementation (Class.run implementation declaring m receiver args store) := by
  unfold Class.run
  split
  · exact .refused h _ (by simp)
  · refine ⟨legal stage store declaring m receiver args (List.Subset.refl _) h hdeclaring hm hreceiver
      hargs, ?_⟩
    exact fun className field hlacks => ⟨stage, store, declaring, m, receiver, args, h, hdeclaring, hm,
      hreceiver, hargs, hlacks⟩

theorem Heap.invoke (ho : o ∈ stage.objects) :
    Accessed stage implementation (o.invoke implementation method args store) := by
  unfold Object.invoke
  split
  · exact .refused h _ (by simp)
  · next declaring m hfound =>
    have hcls := stage.classes o ho
    obtain ⟨level, hlevel, hpair⟩ := List.exists_of_findSome?_eq_some hfound
    obtain ⟨found, hmethod, hpair⟩ := Option.map_eq_some_iff.mp hpair
    cases hpair
    refine Class.run_accessed h legal hargs (u.levels _ hcls _ hlevel)
      (List.mem_of_find?_eq_some hmethod) ?_
    split
    · exact hcls
    · exact ho

theorem Heap.invokeStatic {c : Class} (hc : u.has c) :
    Accessed stage implementation (c.invokeStatic implementation method args store) := by
  unfold Class.invokeStatic
  split
  · exact .refused h _ (by simp)
  · next m hfound =>
    obtain ⟨hmethod, -⟩ := Option.filter_eq_some_iff.mp hfound
    exact Class.run_accessed h legal hargs hc (List.mem_of_find?_eq_some hmethod) hc

end

end ObjectConstraints
