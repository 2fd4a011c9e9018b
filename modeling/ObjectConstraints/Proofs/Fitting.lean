import ObjectConstraints.Proofs.Building

/-!
# Configurations that fit a class

Compiling succeeds exactly if every source of configuration answers and every configuration fits the
class (`ClassChecks.compile_ok_iff_fits`): what it says something of is declared and can have the checks.
The checks that the switches ask for are never refused, as their members are found among those that the
class declares.
-/

namespace ObjectConstraints

-- ---------------------------------------------------------------------------
-- Fitting
-- ---------------------------------------------------------------------------

/-- Whether a parameter section says anything. Others only fill up the list. -/
def Section.Says (part : Section) : Prop := part.checks ≠ [] ∨ part.overwrite ≠ none

/-- Whether what is said of a method can be said of the one that its name and number of parameters stand
for: the first that is declared with them. -/
structure MethodConfig.Fits (c : Class) (m : MethodConfig) : Prop where
  result : m.result ≠ none → ∃ declared, c.method? m.name m.arity = some declared ∧
    declared.isVoid = false ∧ (m.isInvariant = true → m.arity = 0)
  parameters : ∀ index part, m.parameters[index]? = some part → part.Says →
    ∃ declared, c.method? m.name m.arity = some declared ∧ index < declared.arity

structure ConstructorConfig.Fits (c : Class) (config : ConstructorConfig) : Prop where
  parameters : ∀ index part, config.parameters[index]? = some part → part.Says →
    ∃ declared, c.constructor? config.index = some declared ∧ index < declared.length

structure ClassConfig.Fits (c : Class) (config : ClassConfig) : Prop where
  fields : ∀ field ∈ config.fields, (c.field? field.name).isSome
  methods : ∀ m ∈ config.methods, m.Fits c
  constructors : ∀ m ∈ config.constructors, m.Fits c

-- ---------------------------------------------------------------------------
-- Members that can have checks
-- ---------------------------------------------------------------------------

/-- Whether checks can be registered for a member of a class. -/
def Class.Has (c : Class) (member : Member) : Prop := ∃ context, c.place member = .ok context

namespace Class

variable {c : Class} {method : String} {arity index constructor : Nat}

theorem has_field {name : String} : c.Has (.field name) ↔ (c.field? name).isSome := by
  simp only [Has, place]
  cases c.field? name <;> simp

theorem has_result : c.Has (.result method arity) ↔
    ∃ declared, c.method? method arity = some declared ∧ declared.isVoid = false := by
  simp only [Has, place]
  cases c.method? method arity with
  | none => simp
  | some declared => cases hvoid : declared.isVoid <;> simp [hvoid]

theorem has_parameter : c.Has (.parameter method arity index) ↔
    ∃ declared, c.method? method arity = some declared ∧ index < declared.arity := by
  simp only [Has, place]
  cases c.method? method arity with
  | none => simp
  | some declared =>
    simp only [Option.some.injEq, exists_eq_left', Method.arity]
    cases hp : declared.parameters[index]? with
    | none => simpa using hp
    | some p => simpa using (List.getElem?_eq_some_iff.mp hp).1

theorem has_constructorParameter : c.Has (.constructorParameter constructor index) ↔
    ∃ declared, c.constructor? constructor = some declared ∧ index < declared.length := by
  simp only [Has, place]
  cases c.constructor? constructor with
  | none => simp
  | some declared =>
    simp only [Option.some.injEq, exists_eq_left']
    cases hp : declared[index]? with
    | none => simpa using hp
    | some p => simpa using (List.getElem?_eq_some_iff.mp hp).1

theorem has_object : c.Has .object := ⟨_, rfl⟩

end Class

-- ---------------------------------------------------------------------------
-- Entries
-- ---------------------------------------------------------------------------

namespace Entry

/-- Whether an entry can be applied: its member can have checks, and if they are for an invariant, it
takes no parameters. -/
structure Fits (c : Class) (entry : Entry) : Prop where
  member : c.Has entry.member
  getter : entry.isInvariant = true → ∀ method arity, entry.member = .result method arity → arity = 0

end Entry

namespace ClassConfig

variable {c : Class}

theorem parameterEntries_fit (config : ClassConfig) {member : Nat → Member} (outer : Option Bool)
    (parameters : List Section) :
    (∀ entry ∈ config.parameterEntries member outer parameters, entry.Fits c) ↔
      ∀ index part, parameters[index]? = some part → part.Says → c.Has (member index) := by
  simp only [parameterEntries, List.mem_filterMap, Prod.exists, List.mem_zipIdx_iff_getElem?,
    Option.ite_none_left_eq_some, Option.some.injEq, Bool.and_eq_true, List.isEmpty_iff,
    Option.isNone_iff_eq_none, not_and_or]
  constructor
  · intro h index part hpart hsays
    exact (h _ ⟨part, index, hpart, hsays, rfl⟩).member
  · rintro h _ ⟨part, index, hpart, hsays, rfl⟩
    exact ⟨h index part hpart hsays, nofun⟩

theorem methodEntries_fit (config : ClassConfig) (m : MethodConfig) :
    (∀ entry ∈ config.methodEntries m, entry.Fits c) ↔ m.Fits c := by
  rw [methodEntries, List.forall_mem_append, parameterEntries_fit]
  simp only [Class.has_parameter]
  constructor
  · rintro ⟨hresult, hparameters⟩
    refine ⟨fun hsome => ?_, hparameters⟩
    obtain ⟨part, hpart⟩ := Option.ne_none_iff_exists'.mp hsome
    obtain ⟨hmember, hgetter⟩ := hresult _ (List.mem_map.mpr ⟨part, by simp [hpart], rfl⟩)
    obtain ⟨declared, hdeclared, hvoid⟩ := Class.has_result.mp hmember
    exact ⟨declared, hdeclared, hvoid, fun hinvariant => hgetter hinvariant _ _ rfl⟩
  · rintro ⟨hresult, hparameters⟩
    refine ⟨fun entry hentry => ?_, hparameters⟩
    obtain ⟨part, hpart, rfl⟩ := List.mem_map.mp hentry
    have hsome : m.result ≠ none := Option.ne_none_iff_exists'.mpr ⟨part, Option.mem_toList.mp hpart⟩
    obtain ⟨declared, hdeclared, hvoid, harity⟩ := hresult hsome
    refine ⟨Class.has_result.mpr ⟨declared, hdeclared, hvoid⟩, fun hinvariant method arity hmember => ?_⟩
    cases hmember
    exact harity hinvariant

theorem constructorEntries_fit (config : ClassConfig) (m : ConstructorConfig) :
    (∀ entry ∈ config.constructorEntries m, entry.Fits c) ↔ m.Fits c := by
  rw [constructorEntries, parameterEntries_fit]
  simp only [Class.has_constructorParameter]
  exact ⟨fun h => ⟨h⟩, fun h => h.parameters⟩

/-- A configuration fits a class if all its entries do. -/
theorem entries_fit (config : ClassConfig) :
    (∀ entry ∈ config.entries, entry.Fits c) ↔ config.Fits c := by
  have hfield (field : FieldConfig) :
      (config.fieldEntry field).Fits c ↔ (c.field? field.name).isSome :=
    ⟨fun h => Class.has_field.mp h.member, fun h => ⟨Class.has_field.mpr h, nofun⟩⟩
  have hobject : ∀ part ∈ config.object.toList, (config.objectEntry part).Fits c := fun _ _ =>
    ⟨Class.has_object, nofun⟩
  simp only [entries, List.forall_mem_append, List.forall_mem_map, List.forall_mem_flatMap, hfield,
    methodEntries_fit, constructorEntries_fit]
  constructor
  · rintro ⟨⟨⟨hfields, hmethods⟩, hconstructors⟩, -⟩
    exact ⟨hfields, hmethods, hconstructors⟩
  · rintro ⟨hfields, hmethods, hconstructors⟩
    exact ⟨⟨⟨hfields, hmethods⟩, hconstructors⟩, hobject⟩

end ClassConfig

namespace ClassChecks

variable {c : Class} {s : ClassChecks}

-- ---------------------------------------------------------------------------
-- Folds that may fail
-- ---------------------------------------------------------------------------

section

variable {ε σ α : Type} {I : σ → Prop} {f : σ → α → Except ε σ} {items : List α} {s : σ}

/-- A fold succeeds if every step does that starts from a state of a kind. -/
theorem foldlM_succeeds (hstep : ∀ a ∈ items, ∀ s, I s → ∃ t, f s a = .ok t ∧ I t) (hs : I s) :
    ∃ t, items.foldlM f s = .ok t ∧ I t := by
  induction items generalizing s with
  | nil => exact ⟨s, rfl, hs⟩
  | cons a rest ih =>
    obtain ⟨hfirst, hothers⟩ := List.forall_mem_cons.mp hstep
    obtain ⟨middle, ha, hmiddle⟩ := hfirst s hs
    obtain ⟨t, hrest, ht⟩ := ih hothers hmiddle
    exact ⟨t, by rw [List.foldlM_cons]; exact bind_ok.mpr ⟨middle, ha, hrest⟩, ht⟩

/-- Where success of a step does not depend on what the others did, all of them have to succeed. -/
theorem foldlM_succeeds_iff {P : α → Prop} (hstep : ∀ a s, I s → ((∃ t, f s a = .ok t) ↔ P a))
    (hkeep : ∀ a s t, I s → f s a = .ok t → I t) (hs : I s) :
    (∃ t, items.foldlM f s = .ok t) ↔ ∀ a ∈ items, P a := by
  constructor
  · rintro ⟨t, h⟩
    induction items generalizing s with
    | nil => exact nofun
    | cons a rest ih =>
      rw [List.foldlM_cons] at h
      obtain ⟨middle, ha, hrest⟩ := bind_ok.mp h
      exact List.forall_mem_cons.mpr ⟨(hstep a s hs).mp ⟨middle, ha⟩, ih (hkeep a s middle hs ha) hrest⟩
  · intro hall
    have hsteps : ∀ a ∈ items, ∀ s, I s → ∃ t, f s a = .ok t ∧ I t := by
      intro a ha s hs
      obtain ⟨t, ht⟩ := (hstep a s hs).mpr (hall a ha)
      exact ⟨t, ht, hkeep a s t hs ht⟩
    obtain ⟨t, ht, -⟩ := foldlM_succeeds hsteps hs
    exact ⟨t, ht⟩

end

-- ---------------------------------------------------------------------------
-- Configured checks
-- ---------------------------------------------------------------------------

theorem checkInvariant_ok_iff : s.checkInvariant isInvariant member = .ok () ↔
    (isInvariant = true → ∀ method arity, member = .result method arity → arity = 0) := by
  rcases member with _ | ⟨_, _ | _⟩ | _ | _ | _ <;> cases isInvariant <;> simp [checkInvariant]

theorem applyEntry_succeeds (entry : Entry) : (∃ t, s.applyEntry entry = .ok t) ↔ entry.Fits s.cls := by
  constructor
  · rintro ⟨t, h⟩
    obtain ⟨stamped, hadd⟩ := addUntracked_ok h
    obtain ⟨-, -, hinvariant, -⟩ := add_ok hadd
    exact ⟨applyEntry_placed h, checkInvariant_ok_iff.mp hinvariant⟩
  · rintro ⟨⟨context, hplace⟩, hgetter⟩
    exact applyEntry_isOk hplace fun _ => checkInvariant_ok_iff.mpr hgetter

theorem applyConfig_succeeds (config : ClassConfig) :
    (∃ t, s.applyConfig config = .ok t) ↔ config.Fits s.cls := by
  rw [← ClassConfig.entries_fit]
  refine foldlM_succeeds_iff (I := fun t => t.cls = s.cls) (fun entry t hcls => ?_)
    (fun entry t u hcls h => ?_) rfl
  · rw [applyEntry_succeeds, hcls]
  · exact (applyEntry_applied h).cls.trans hcls

theorem applyConfigurer_succeeds (configurer : Configurer) :
    (∃ t, s.applyConfigurer configurer = .ok t) ↔ ∃ answer, configurer.classConfig s.cls = .ok answer ∧
      ∀ config, answer = some config → config.Fits s.cls := by
  simp only [applyConfigurer]
  rcases configurer.classConfig s.cls with reasons | _ | config
  · simp
  · simp
  · simp [Run.mapError_ok, applyConfig_succeeds]

theorem applyConfigurer_cls {configurer : Configurer} (h : s.applyConfigurer configurer = .ok t) :
    t.cls = s.cls := by
  obtain ⟨answer, hanswer, -⟩ := (applyConfigurer_succeeds configurer).mp ⟨t, h⟩
  exact (applyConfigurer_applied hanswer h).1.cls

-- ---------------------------------------------------------------------------
-- Derived checks
-- ---------------------------------------------------------------------------

theorem addUnless_succeeds {superfluous : Check → Bool} {check : Check} (h : s.cls.Has member) :
    ∃ t, addUnless superfluous check s member = .ok t ∧ t.cls = s.cls := by
  unfold addUnless
  split
  · exact ⟨s, rfl, rfl⟩
  · obtain ⟨context, hplace⟩ := h
    have hfits : (⟨member, false, false, [check]⟩ : Entry).Fits s.cls := ⟨⟨context, hplace⟩, nofun⟩
    obtain ⟨t, ht⟩ := (applyEntry_succeeds _).mpr hfits
    exact ⟨t, ht, (applyEntry_applied ht).cls⟩

/-- A setter is looked up as a method with one parameter. -/
theorem setterTargets_has {target : Member × String} (h : target ∈ s.setterTargets) :
    s.cls.Has target.1 := by
  obtain ⟨field, -, h⟩ := List.mem_filterMap.mp h
  obtain ⟨declared, hdeclared, rfl⟩ := Option.map_eq_some_iff.mp h
  have harity : declared.arity = 1 := Class.method?_arity hdeclared
  exact Class.has_parameter.mpr ⟨declared, hdeclared, harity ▸ Nat.one_pos⟩

theorem constructorTargets_has {target : Member × String} (h : target ∈ s.constructorTargets) :
    s.cls.Has target.1 := by
  obtain ⟨⟨parameters, constructor⟩, hconstructor, h⟩ := List.mem_flatMap.mp h
  obtain ⟨⟨p, index⟩, hp, h⟩ := List.mem_filterMap.mp h
  obtain ⟨name, -, rfl⟩ := Option.map_eq_some_iff.mp h
  refine Class.has_constructorParameter.mpr ⟨parameters, ?_, ?_⟩
  · exact List.mem_zipIdx_iff_getElem?.mp hconstructor
  · exact (List.getElem?_eq_some_iff.mp (List.mem_zipIdx_iff_getElem?.mp hp)).1

/-- Of several methods with one name and one number of parameters the first is found, which has as many
parameters as any of them. -/
theorem parameterMembers_has (h : member ∈ parameterMembers c) : c.Has member := by
  rcases List.mem_append.mp h with h | h
  · obtain ⟨m, hm, h⟩ := List.mem_flatMap.mp h
    obtain ⟨index, hindex, rfl⟩ := List.mem_map.mp h
    have hfound : (c.method? m.name m.arity).isSome :=
      List.find?_isSome.mpr ⟨m, hm, by simp⟩
    obtain ⟨declared, hdeclared⟩ := Option.isSome_iff_exists.mp hfound
    have harity : declared.arity = m.arity := Class.method?_arity hdeclared
    exact Class.has_parameter.mpr ⟨declared, hdeclared, harity ▸ List.mem_range.mp hindex⟩
  · obtain ⟨⟨parameters, constructor⟩, hconstructor, h⟩ := List.mem_flatMap.mp h
    obtain ⟨index, hindex, rfl⟩ := List.mem_map.mp h
    exact Class.has_constructorParameter.mpr
      ⟨parameters, List.mem_zipIdx_iff_getElem?.mp hconstructor, List.mem_range.mp hindex⟩

theorem switched_succeeds {α : Type} {f : ClassChecks → α → Except ConfigError ClassChecks}
    {items : List α} (on : Bool)
    (hstep : ∀ a ∈ items, ∀ t : ClassChecks, t.cls = s.cls → ∃ u, f t a = .ok u ∧ u.cls = t.cls) :
    ∃ t, (if on then items.foldlM f s else pure s) = .ok t := by
  cases on with
  | false => exact ⟨s, rfl⟩
  | true =>
    have hsteps : ∀ a ∈ items, ∀ t : ClassChecks, t.cls = s.cls → ∃ u, f t a = .ok u ∧ u.cls = s.cls := by
      intro a ha t hcls
      obtain ⟨u, hu, hkept⟩ := hstep a ha t hcls
      exact ⟨u, hu, hkept.trans hcls⟩
    obtain ⟨t, ht, -⟩ := foldlM_succeeds hsteps rfl
    exact ⟨t, ht⟩

theorem references_succeed {targets : List (Member × String)} (on : Bool)
    (htargets : ∀ target ∈ targets, s.cls.Has target.1) :
    ∃ t, (if on then targets.foldlM addReference s else pure s) = .ok t :=
  switched_succeeds on fun target htarget _ hcls => addUnless_succeeds (hcls ▸ htargets target htarget)

theorem derive_succeeds (s : ClassChecks) : ∃ t, s.derive = .ok t := by
  obtain ⟨a, ha⟩ := references_succeed s.flags.fieldsToSetters fun _ => setterTargets_has
  obtain ⟨b, hb⟩ := references_succeed s.flags.fieldsToConstructors fun _ => a.constructorTargets_has
  have hmembers : ∀ member ∈ parameterMembers b.cls, ∀ t : ClassChecks, t.cls = b.cls →
      ∃ u, addUnless isNotNull { kind := .notNull } t member = .ok u ∧ u.cls = t.cls := by
    intro member hmember t hcls
    exact addUnless_succeeds (hcls ▸ parameterMembers_has hmember)
  obtain ⟨t, ht⟩ := switched_succeeds s.flags.parametersNotNull hmembers
  exact ⟨t, derive_ok.mpr ⟨a, b, ha, hb, ht⟩⟩

/-- Compiling succeeds exactly if every source answers and every configuration fits the class, however
sections repeat and overwrite each other. What is derived is never refused, whatever the switches and
the declared members are. -/
theorem compile_ok_iff_fits (c : Class) (configurers : List Configurer) :
    ((∃ checks, compile c configurers = .ok checks) ↔
      ∀ configurer ∈ configurers, ∃ answer, configurer.classConfig c = .ok answer ∧
        ∀ config, answer = some config → config.Fits c) ∧
    ∀ s : ClassChecks, ∃ t, s.derive = .ok t := by
  refine ⟨?_, derive_succeeds⟩
  have hderived : (∃ checks, compile c configurers = .ok checks) ↔
      ∃ s, configurers.foldlM applyConfigurer { cls := c } = .ok s := by
    simp only [compile_ok]
    constructor
    · rintro ⟨checks, s, hs, -⟩
      exact ⟨s, hs⟩
    · rintro ⟨s, hs⟩
      obtain ⟨checks, hchecks⟩ := s.derive_succeeds
      exact ⟨checks, s, hs, hchecks⟩
  rw [hderived]
  refine foldlM_succeeds_iff (I := fun s : ClassChecks => s.cls = c) (fun configurer s hcls => ?_)
    (fun configurer s t hcls h => (applyConfigurer_cls h).trans hcls) rfl
  rw [applyConfigurer_succeeds, hcls]

end ClassChecks

end ObjectConstraints
