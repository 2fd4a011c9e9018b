import ObjectConstraints.Proofs.Registering

/-!
# Derived checks

The checks that the switches of a class ask for are added one by one, behind those that their members
have (`ClassChecks.derive_grown`). They are for parameters only, so everything else stays as it was
(`derive_frame`).
-/

namespace ObjectConstraints

/-- Whether a member is a parameter of a method or of a constructor. -/
def Member.IsParameter : Member → Prop
  | .parameter _ _ _ => True
  | .constructorParameter _ _ => True
  | _ => False

theorem Member.IsParameter.area {member : Member} (h : member.IsParameter) :
    member.area ≠ .fields := by
  cases member with
  | field => cases h
  | _ => simp [Member.area]

namespace ClassChecks

/-- The fields with checks, the static ones last. -/
def constrained (checks : ClassChecks) : List String :=
  checks.constrainedFields ++ checks.constrainedStatics

-- ---------------------------------------------------------------------------
-- Adding checks one by one
-- ---------------------------------------------------------------------------

/-- Checks after some of those that are wanted are added, one by one. -/
inductive Grown (wanted : Member → Check → Prop) : ClassChecks → ClassChecks → Prop
  | done (s : ClassChecks) : Grown wanted s s
  | add {s t u : ClassChecks} {member : Member} {check : Check} (want : wanted member check)
    (added : s.addUntracked member false [check] = .ok t) (rest : Grown wanted t u) :
    Grown wanted s u

/-- Everything but the lists of some members is as it was. -/
structure Frame (touched : Member → Prop) (s t : ClassChecks) : Prop where
  cls : t.cls = s.cls
  flags : t.flags = s.flags
  fields : t.fieldNames = s.fieldNames
  getters : t.getterNames = s.getterNames
  registered : ∀ member, ¬ touched member → t.registered member = s.registered member

variable {s t u : ClassChecks} {wanted : Member → Check → Prop}

namespace Frame

variable {touched : Member → Prop}

theorem of (h : Frame touched s t) {member : Member} (hother : ¬ touched member) :
    t.of member = s.of member := by
  rw [ClassChecks.of, ClassChecks.of, h.registered member hother]

theorem constrained (h : Frame touched s t) : t.constrained = s.constrained := by
  obtain ⟨hfields, hstatics⟩ := Prod.mk.inj h.fields
  rw [ClassChecks.constrained, ClassChecks.constrained, hfields, hstatics]

theorem setterTargets (h : Frame touched s t) : t.setterTargets = s.setterTargets := by
  obtain ⟨hfields, hstatics⟩ := Prod.mk.inj h.fields
  simp only [ClassChecks.setterTargets, h.cls, hfields, hstatics]

theorem constructorTargets (h : Frame touched s t) : t.constructorTargets = s.constructorTargets := by
  obtain ⟨hfields, -⟩ := Prod.mk.inj h.fields
  simp only [ClassChecks.constructorTargets, h.cls, hfields]

end Frame

namespace Grown

theorem trans (h : Grown wanted s t) (h' : Grown wanted t u) : Grown wanted s u := by
  induction h with
  | done => exact h'
  | add want added _ ih => exact .add want added (ih h')

theorem cls (h : Grown wanted s t) : t.cls = s.cls := by
  induction h with
  | done => rfl
  | add _ added _ ih => exact ih.trans (addUntracked_applied added).cls

theorem frame {touched : Member → Prop} (h : Grown wanted s t)
    (hwanted : ∀ member check, wanted member check → touched member ∧ member.area ≠ .fields) :
    Frame touched s t := by
  induction h with
  | done => exact ⟨rfl, rfl, rfl, rfl, fun _ _ => rfl⟩
  | @add s middle _ member check want added _ ih =>
    obtain ⟨htouched, harea⟩ := hwanted _ _ want
    have happlied := addUntracked_applied added
    -- Only a check of a field notes a field, and only an invariant notes a getter.
    have hfields : middle.fieldNames = s.fieldNames := by
      rw [happlied.fields]
      cases member <;> first | exact absurd rfl harea | rfl
    have hgetters : middle.getterNames = s.getterNames := by
      rw [happlied.getters]
      rcases member with _ | ⟨_, _ | _⟩ | _ | _ | _ <;> rfl
    refine ⟨ih.cls.trans happlied.cls, ih.flags.trans happlied.flags, ih.fields.trans hfields,
      ih.getters.trans hgetters, fun other hother => ?_⟩
    have hne : member ≠ other := fun heq => hother (heq ▸ htouched)
    rw [ih.registered other hother, happlied.registered]
    simp only [List.foldl_cons, List.foldl_nil, Entry.list, if_neg hne]

/-- The added checks stand behind those that a member had. -/
theorem of_member (h : Grown wanted s t) (member : Member) :
    ∃ derived, t.of member = s.of member ++ derived ∧ ∀ check ∈ derived, ∃ plain context,
      wanted member plain ∧ s.cls.place member = .ok context ∧ check = plain.stamp context := by
  induction h with
  | done => exact ⟨[], (List.append_nil _).symm, by simp⟩
  | @add s middle _ target check want added _ ih =>
    obtain ⟨derived, hof, hderived⟩ := ih
    have happlied := addUntracked_applied added
    rw [happlied.cls] at hderived
    by_cases htarget : target = member
    · obtain rfl := htarget
      have hentry : s.applyEntry ⟨target, false, false, [check]⟩ = .ok middle := added
      obtain ⟨context, hplace⟩ := applyEntry_placed hentry
      refine ⟨check.stamp context :: derived, ?_, List.forall_mem_cons.mpr ⟨?_, hderived⟩⟩
      · rw [hof, ClassChecks.of, ClassChecks.of, happlied.registered]
        simp [Entry.list, Entry.registered, hplace, Registered.untracked, Registered.stamp]
      · exact ⟨check, context, want, hplace, rfl⟩
    · refine ⟨derived, ?_, hderived⟩
      rw [hof, ClassChecks.of, ClassChecks.of, happlied.registered]
      simp only [List.foldl_cons, List.foldl_nil, Entry.list, if_neg htarget]

theorem consistent (h : Grown wanted s t) (hs : s.Consistent) : t.Consistent := by
  induction h with
  | done => exact hs
  | add _ added _ ih =>
    obtain ⟨stamped, hadd⟩ := addUntracked_ok added
    exact ih (hs.add hadd)

theorem of_addUnless (h : addUnless superfluous check s member = .ok t) (hwanted : wanted member check) :
    Grown wanted s t := by
  unfold addUnless at h
  split at h
  · cases h
    exact .done _
  · exact .add hwanted h (.done _)

theorem of_foldlM {α : Type} {f : ClassChecks → α → Except ConfigError ClassChecks} {items : List α}
    (hf : ∀ a ∈ items, ∀ s' t, s'.cls = s.cls → f s' a = .ok t → Grown wanted s' t)
    (h : items.foldlM f s = .ok t) : Grown wanted s t := by
  induction items generalizing s with
  | nil =>
    cases h
    exact .done _
  | cons a rest ih =>
    rw [List.foldlM_cons] at h
    obtain ⟨middle, ha, hrest⟩ := bind_ok.mp h
    have hfirst : Grown wanted s middle := hf a List.mem_cons_self s middle rfl ha
    refine hfirst.trans (ih (fun b hb s' t hcls => ?_) hrest)
    exact hf b (List.mem_cons_of_mem _ hb) s' t (hcls.trans hfirst.cls)

theorem of_switched {α : Type} {f : ClassChecks → α → Except ConfigError ClassChecks}
    {items : List α} {on : Bool}
    (hf : on = true → ∀ a ∈ items, ∀ s' t, s'.cls = s.cls → f s' a = .ok t → Grown wanted s' t)
    (h : (if on then items.foldlM f s else pure s) = .ok t) : Grown wanted s t := by
  cases on with
  | false =>
    cases h
    exact .done _
  | true => exact of_foldlM (hf rfl) h

end Grown

-- ---------------------------------------------------------------------------
-- What is derived
-- ---------------------------------------------------------------------------

theorem setterTargets_member {target : Member × String} (h : target ∈ s.setterTargets) :
    target.1 = .parameter (setterName target.2) 1 0 ∧ target.2 ∈ s.constrained := by
  obtain ⟨field, hfield, h⟩ := List.mem_filterMap.mp h
  obtain ⟨-, -, rfl⟩ := Option.map_eq_some_iff.mp h
  exact ⟨rfl, hfield⟩

theorem constructorTargets_member {target : Member × String} (h : target ∈ s.constructorTargets) :
    ∃ constructor index, target.1 = .constructorParameter constructor index := by
  obtain ⟨_, -, h⟩ := List.mem_flatMap.mp h
  obtain ⟨_, -, h⟩ := List.mem_filterMap.mp h
  obtain ⟨_, -, rfl⟩ := Option.map_eq_some_iff.mp h
  exact ⟨_, _, rfl⟩

theorem parameterMembers_parameter (h : member ∈ parameterMembers c) : member.IsParameter := by
  rcases List.mem_append.mp h with h | h
  all_goals
    obtain ⟨_, -, h⟩ := List.mem_flatMap.mp h
    obtain ⟨_, -, rfl⟩ := List.mem_map.mp h
    trivial

/-- The checks that the switches ask for: setters and constructor parameters refer to fields with
checks, and no parameter is null. -/
inductive Derivable (s : ClassChecks) : Member → Check → Prop
  | setter {member : Member} {field : String} (on : s.flags.fieldsToSetters = true)
    (target : (member, field) ∈ s.setterTargets) :
    Derivable s member { kind := .assertFieldConstraints (some field) (some s.cls.name) }
  | constructor {member : Member} {field : String} (on : s.flags.fieldsToConstructors = true)
    (target : (member, field) ∈ s.constructorTargets) :
    Derivable s member { kind := .assertFieldConstraints (some field) (some s.cls.name) }
  | notNull {member : Member} (on : s.flags.parametersNotNull = true)
    (target : member ∈ parameterMembers s.cls) : Derivable s member { kind := .notNull }

theorem Derivable.parameter (h : Derivable s member check) : member.IsParameter := by
  cases h with
  | setter _ target =>
    have hmember : member = _ := (setterTargets_member target).1
    rw [hmember]
    trivial
  | constructor _ target =>
    obtain ⟨constructor, index, hmember⟩ := constructorTargets_member target
    have hmember : member = _ := hmember
    rw [hmember]
    trivial
  | notNull _ target => exact parameterMembers_parameter target

theorem Frame.derivable {touched : Member → Prop} (h : Frame touched s t)
    (hderivable : Derivable s member check) : Derivable t member check := by
  cases hderivable with
  | setter on target =>
    rw [← h.cls]
    exact .setter (h.flags ▸ on) (h.setterTargets ▸ target)
  | constructor on target =>
    rw [← h.cls]
    exact .constructor (h.flags ▸ on) (h.constructorTargets ▸ target)
  | notNull on target => exact .notNull (h.flags ▸ on) (h.cls ▸ target)

theorem Grown.parameters (h : Grown (Derivable s) t u) : Frame Member.IsParameter t u :=
  h.frame fun _ _ hderivable => ⟨hderivable.parameter, hderivable.parameter.area⟩

theorem derive_grown (h : s.derive = .ok t) : Grown (Derivable s) s t := by
  obtain ⟨a, b, hsetters, hconstructors, hparameters⟩ := derive_ok.mp h
  have hfirst : Grown (Derivable s) s a := .of_switched (fun on target htarget s' t hcls h =>
    .of_addUnless h (hcls ▸ .setter on htarget)) hsetters
  have hsecond : Grown (Derivable s) a b := by
    refine .of_switched (fun on target htarget s' t hcls h => .of_addUnless h ?_) hconstructors
    rw [hfirst.parameters.constructorTargets] at htarget
    rw [hcls, hfirst.cls]
    exact .constructor on htarget
  have hthird : Grown (Derivable s) b t := by
    refine .of_switched (fun on member hmember s' t hcls h => .of_addUnless h ?_) hparameters
    rw [hsecond.cls, hfirst.cls] at hmember
    exact .notNull on hmember
  exact (hfirst.trans hsecond).trans hthird

theorem derive_frame (h : s.derive = .ok t) : Frame Member.IsParameter s t :=
  (derive_grown h).parameters

-- ---------------------------------------------------------------------------
-- Compiled checks
-- ---------------------------------------------------------------------------

theorem foldlM_keeps {ε σ α : Type} {P : σ → Prop} {f : σ → α → Except ε σ} {items : List α} {s t : σ}
    (hf : ∀ s a t, P s → f s a = .ok t → P t) (hs : P s) (h : items.foldlM f s = .ok t) : P t := by
  induction items generalizing s with
  | nil =>
    cases h
    exact hs
  | cons a rest ih =>
    rw [List.foldlM_cons] at h
    obtain ⟨middle, ha, hrest⟩ := bind_ok.mp h
    exact ih (hf s a middle hs ha) hrest

theorem Consistent.applyEntry (hs : s.Consistent) (h : s.applyEntry entry = .ok t) :
    t.Consistent := by
  obtain ⟨stamped, hadd⟩ := addUntracked_ok h
  refine Consistent.add ?_ hadd
  split
  · exact hs.clear entry.member
  · exact hs

theorem Consistent.applyConfigurer (hs : s.Consistent) (h : s.applyConfigurer configurer = .ok t) :
    t.Consistent := by
  cases hconfig : configurer.classConfig s.cls with
  | error reasons =>
    simp only [ClassChecks.applyConfigurer, hconfig] at h
    cases h
  | ok answer =>
    simp only [ClassChecks.applyConfigurer, hconfig] at h
    cases answer with
    | none =>
      cases h
      exact hs
    | some config =>
      have hflags : (s.setFlags config.flags).Consistent :=
        ⟨hs.fields, hs.getters, hs.apart, hs.stored, hs.placed⟩
      exact foldlM_keeps (fun _ _ _ => Consistent.applyEntry) hflags (Run.mapError_ok.mp h)

theorem compile_consistent {configurers : List Configurer}
    (h : compile c configurers = .ok checks) : checks.Consistent := by
  obtain ⟨s, hconfigured, hderive⟩ := compile_ok.mp h
  exact (derive_grown hderive).consistent
    (foldlM_keeps (fun _ _ _ => Consistent.applyConfigurer) (.empty c) hconfigured)

/-- The noted fields are those with checks. -/
theorem Consistent.mem_constrained {field : String} (h : s.Consistent) :
    field ∈ s.constrained ↔ s.of (.field field) ≠ [] := by
  have hof : s.of (.field field) ≠ [] ↔ s.registered (.field field) ≠ [] := List.map_eq_nil_iff.not
  rw [hof, constrained, List.mem_append]
  constructor
  · rintro (hfield | hfield)
    · exact ((h.fields false field).mp hfield).2
    · exact ((h.fields true field).mp hfield).2
  · intro hlist
    obtain ⟨context, hplace⟩ := h.placed _ hlist
    have hnoted := (h.fields _ field).mpr ⟨Class.declaresField_of_place hplace, hlist⟩
    unfold notedFields at hnoted
    split at hnoted
    · exact .inr hnoted
    · exact .inl hnoted

end ClassChecks

end ObjectConstraints
