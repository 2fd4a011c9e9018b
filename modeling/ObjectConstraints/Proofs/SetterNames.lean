import ObjectConstraints.Proofs.Setters

/-!
# Names of setters

The name of a setter is made from that of a field when a class is compiled, and taken apart again where
a reference at its parameter does not say which field it is for. What names stand for a property is said
once (`propertyName_eq_some`), so that taking apart undoes making (`propertyName_setterName`). So the
field that is inferred is the one whose checks the setter gets (`setter_infers_field`).
-/

namespace ObjectConstraints

open ClassChecks (setterParameter)

-- ---------------------------------------------------------------------------
-- Properties of accessors
-- ---------------------------------------------------------------------------

/-- What the names of accessors start with. -/
def accessorMarks : List String := ["get", "set", "is"]

theorem dropMark_split {name rest : List Char} {marks : List (List Char)}
    (h : dropMark name marks = some rest) : ∃ mark ∈ marks, name = mark ++ rest := by
  induction marks with
  | nil => cases h
  | cons mark others ih =>
    simp only [dropMark] at h
    split at h
    · next hprefix =>
      cases h
      obtain ⟨back, rfl⟩ := List.isPrefixOf_iff_prefix.mp hprefix
      exact ⟨mark, List.mem_cons_self, by rw [List.drop_left]⟩
    · obtain ⟨found, hfound, hname⟩ := ih h
      exact ⟨found, List.mem_cons_of_mem _ hfound, hname⟩

/-- No name starts with two of the marks, so it does not matter which is tried first. -/
theorem dropMark_accessor {name rest : List Char} :
    dropMark name ["get".toList, "set".toList, "is".toList] = some rest ↔
      ∃ mark ∈ accessorMarks, name = mark.toList ++ rest := by
  constructor
  · intro h
    obtain ⟨chars, hmem, hname⟩ := dropMark_split h
    have hmap : chars ∈ accessorMarks.map String.toList := hmem
    obtain ⟨mark, hmark, rfl⟩ := List.mem_map.mp hmap
    exact ⟨mark, hmark, hname⟩
  · rintro ⟨mark, hmark, rfl⟩
    simp only [accessorMarks, List.mem_cons, List.not_mem_nil, or_false] at hmark
    rcases hmark with rfl | rfl | rfl <;> simp [dropMark, List.isPrefixOf]

/-- Only names that go on with an uppercase character behind a mark stand for a property, which starts
with that character in lowercase. -/
theorem propertyName_eq_some {accessor property : String} :
    propertyName accessor = some property ↔ ∃ mark ∈ accessorMarks, ∃ first rest,
      accessor.toList = mark.toList ++ first :: rest ∧ Unicode.isUppercase first = true ∧
        property = String.ofList (Unicode.lowerChar first ++ rest) := by
  unfold propertyName
  constructor
  · intro h
    split at h
    · next first rest hdrop =>
      split at h
      · next hupper =>
        obtain ⟨mark, hmark, haccessor⟩ := dropMark_accessor.mp hdrop
        exact ⟨mark, hmark, first, rest, haccessor, hupper, (Option.some.inj h).symm⟩
      · cases h
    · cases h
  · rintro ⟨mark, hmark, first, rest, haccessor, hupper, rfl⟩
    rw [dropMark_accessor.mpr ⟨mark, hmark, haccessor⟩]
    simp only [hupper, if_true]

example : propertyName "island" = none ∧ propertyName "isLand" = some "land" := by decide

-- ---------------------------------------------------------------------------
-- Properties of setters
-- ---------------------------------------------------------------------------

/-- Whether a name starts with a lowercase letter of ASCII. -/
def startsLower (name : String) : Bool :=
  name.toList.head?.any fun c => 'a' ≤ c && c ≤ 'z'

theorem upperChar_lower {c : Char} (h : 'a' ≤ c ∧ c ≤ 'z') : ∃ upper, Unicode.upperChar c = [upper] ∧
    Unicode.isUppercase upper = true ∧ Unicode.lowerChar upper = [c] := by
  have hletters : ∀ n < 26, Unicode.upperChar (Char.ofNat (97 + n)) = [Char.ofNat (65 + n)] ∧
      Unicode.isUppercase (Char.ofNat (65 + n)) = true ∧
      Unicode.lowerChar (Char.ofNat (65 + n)) = [Char.ofNat (97 + n)] := by decide
  have hfirst : 97 ≤ c.toNat := UInt32.le_iff_toNat_le.mp h.1
  have hlast : c.toNat ≤ 122 := UInt32.le_iff_toNat_le.mp h.2
  have hc : Char.ofNat (97 + (c.toNat - 97)) = c := by
    rw [Nat.add_sub_cancel' hfirst, Char.ofNat_toNat]
  exact ⟨_, hc ▸ hletters (c.toNat - 97) (by omega)⟩

theorem propertyName_setterName {field : String} (h : startsLower field = true) :
    propertyName (setterName field) = some field := by
  obtain ⟨first, hhead, hlower⟩ := (Option.any_eq_true _ _).mp h
  obtain ⟨rest, hfield⟩ := List.head?_eq_some_iff.mp hhead
  obtain ⟨upper, hupper, hcase, hback⟩ := upperChar_lower (by simpa using hlower)
  refine propertyName_eq_some.mpr ⟨"set", by decide, upper, rest, ?_, hcase, ?_⟩
  · simp [setterName, hfield, hupper]
  · rw [hback, List.singleton_append, ← hfield, String.ofList_toList]

theorem setterName_injective {f g : String} (hf : startsLower f = true) (hg : startsLower g = true)
    (h : setterName f = setterName g) : f = g := by
  have hsame := congrArg propertyName h
  rw [propertyName_setterName hf, propertyName_setterName hg] at hsame
  exact Option.some.inj hsame

namespace Context

/-- The parameter of the setter of a field, where it has no name, is taken for the field. -/
theorem inferredField_setter {context : Context} {className field : String} {index : Nat}
    (h : startsLower field = true)
    (hroot : context.root = .parameter className (setterName field) index none) :
    context.inferredField = some field := by
  simp [inferredField, hroot, propertyName_setterName h]

end Context

-- ---------------------------------------------------------------------------
-- Derived references
-- ---------------------------------------------------------------------------

namespace ClassChecks

variable {s t compiled : ClassChecks} {c : Class} {configurers : List Configurer} {member : Member}
  {field : String} {m : Method} {p : Parameter}

/-- Checks that a member has are kept when others are added. -/
theorem Grown.mem {wanted : Member → Check → Prop} (h : Grown wanted s t) {check : Check}
    (hcheck : check ∈ s.of member) : check ∈ t.of member := by
  obtain ⟨derived, hof, -⟩ := h.of_member member
  rw [hof]
  exact List.mem_append_left _ hcheck

theorem addReference_refersTo (h : s.addReference (member, field) = .ok t) :
    ∃ check ∈ t.of member, refersTo field check = true := by
  unfold addReference addUnless at h
  split at h
  · next hany =>
    cases h
    exact List.any_eq_true.mp hany
  · have hentry : s.applyEntry ⟨member, false, false, [_]⟩ = .ok t := h
    obtain ⟨context, hplace⟩ := applyEntry_placed hentry
    have hof : t.of member = s.of member ++ [reference s.cls field context] := by
      rw [ClassChecks.of, ClassChecks.of, (addUntracked_applied h).registered]
      simp [Entry.list, Entry.registered, hplace, Registered.untracked, Registered.stamp, Check.stamp,
        reference]
    exact ⟨_, hof ▸ List.mem_append_right _ (List.mem_singleton_self _), by simp [refersTo, reference]⟩

theorem foldlM_refersTo {targets : List (Member × String)} (h : targets.foldlM addReference s = .ok t)
    (htarget : (member, field) ∈ targets) : ∃ check ∈ t.of member, refersTo field check = true := by
  induction targets generalizing s with
  | nil => cases htarget
  | cons target rest ih =>
    rw [List.foldlM_cons] at h
    obtain ⟨middle, hfirst, hrest⟩ := bind_ok.mp h
    rcases List.mem_cons.mp htarget with rfl | htarget
    · obtain ⟨check, hcheck, hrefers⟩ := addReference_refersTo hfirst
      have hgrown : Grown (fun _ _ => True) middle t :=
        .of_foldlM (fun _ _ _ _ _ h => .of_addUnless h trivial) hrest
      exact ⟨check, hgrown.mem hcheck, hrefers⟩
    · exact ih hrest htarget

/-- Every field with checks that has a setter is referred to at the parameter of it. -/
theorem derive_refersTo (h : s.derive = .ok t) (hon : s.flags.fieldsToSetters = true)
    (hfield : field ∈ s.constrained) (hsetter : s.cls.method? (setterName field) 1 = some m) :
    ∃ check ∈ t.of (setterParameter field), refersTo field check = true := by
  obtain ⟨a, b, hsetters, hconstructors, hparameters⟩ := derive_ok.mp h
  rw [hon, if_pos rfl] at hsetters
  have htarget : (setterParameter field, field) ∈ s.setterTargets := by
    refine List.mem_filterMap.mpr ⟨field, hfield, ?_⟩
    simp only [hsetter, Option.map_some, setterParameter]
  obtain ⟨check, hcheck, hrefers⟩ := foldlM_refersTo hsetters htarget
  have hsecond : Grown (fun _ _ => True) a b :=
    .of_switched (fun _ _ _ _ _ _ h => .of_addUnless h trivial) hconstructors
  have hthird : Grown (fun _ _ => True) b t :=
    .of_switched (fun _ _ _ _ _ _ h => .of_addUnless h trivial) hparameters
  exact ⟨check, (hsecond.trans hthird).mem hcheck, hrefers⟩

/-- What is derived for the parameter of a setter: references to fields with that setter, and a check
of null. -/
theorem Derivable.of_setter {check : Check} (h : Derivable s (setterParameter field) check) :
    check = { kind := .notNull } ∨ ∃ other ∈ s.constrained, setterName other = setterName field ∧
      check = { kind := .assertFieldConstraints (some other) (some s.cls.name) } := by
  generalize hmember : setterParameter field = member at h
  cases h with
  | @setter other _ target =>
    obtain ⟨hsetter, hother⟩ := setterTargets_member target
    exact .inr ⟨other, hother, (Member.parameter.inj (hmember.trans hsetter)).1.symm, rfl⟩
  | constructor _ target =>
    obtain ⟨constructor, index, hconstructor⟩ := constructorTargets_member target
    cases hmember.trans hconstructor
  | notNull => exact .inl rfl

/-- What compiling derives for the parameter of the setter of a field, behind what the sources say. -/
theorem compile_setter (h : compile c configurers = .ok compiled)
    (hon : compiled.flags.fieldsToSetters = true) (hfield : field ∈ compiled.constrained)
    (hsetter : c.method? (setterName field) 1 = some m) (hparameters : m.parameters = [p]) :
    (∃ check ∈ compiled.of (setterParameter field), refersTo field check = true) ∧
      ∃ configured derived, configurers.foldlM applyConfigurer { cls := c } = .ok configured ∧
        compiled.of (setterParameter field) = configured.of (setterParameter field) ++ derived ∧
        ∀ check ∈ derived, isNotNull check = true ∨ ∃ other ∈ compiled.constrained,
          setterName other = setterName field ∧
            check = reference c other (Enforcing.root c field p) := by
  obtain ⟨s, hconfigured, hderive⟩ := compile_ok.mp h
  obtain ⟨settings, entries, happlied, -⟩ := configured_applied hconfigured
  have hcls : s.cls = c := happlied.cls
  have hframe := derive_frame hderive
  rw [hframe.flags] at hon
  rw [hframe.constrained] at hfield ⊢
  have hplace : c.place (setterParameter field) = .ok (Enforcing.root c field p) := by
    simp [Class.place, setterParameter, hsetter, hparameters, Enforcing.root]
  obtain rfl := hcls
  obtain ⟨derived, hof, hderived⟩ := (derive_grown hderive).of_member (setterParameter field)
  refine ⟨derive_refersTo hderive hon hfield hsetter, s, derived, hconfigured, hof, ?_⟩
  intro check hcheck
  obtain ⟨plain, context, hwanted, hcontext, rfl⟩ := hderived check hcheck
  obtain rfl : Enforcing.root s.cls field p = context := Except.ok.inj (hplace.symm.trans hcontext)
  rcases hwanted.of_setter with rfl | ⟨other, hother, hname, rfl⟩
  · exact .inl rfl
  · exact .inr ⟨other, hother, hname, rfl⟩

end ClassChecks

-- ---------------------------------------------------------------------------
-- Inferring references
-- ---------------------------------------------------------------------------

section

open Traversal

variable {env : Environment} {site : Site} {c d : Class} {field : String}

/-- Without a name of a field, the checks that are referred to are those of the inferred one. -/
theorem referencedChecks_inferred (h : site.context.inferredField = some field)
    (declaringClass : Option String) :
    referencedChecks env site none declaringClass =
      referencedChecks env site (some field) declaringClass := by
  simp only [referencedChecks, h, Option.none_or, Option.some_or]

/-- The class that declares a field first is the first one of its name to declare it. -/
theorem Scope.declared?_first (h : d.declaring? field = some c) (inferred : Option String)
    {declaringClass : Option String} (hname : ∀ name ∈ declaringClass, name = c.name) :
    Scope.declared? ⟨some d, inferred⟩ (some field) declaringClass = some (c, field) := by
  obtain ⟨hfield, front, back, hsplit, hfront⟩ := List.find?_eq_some_iff_append.mp h
  have hlevel : (d.hierarchy.filter fun level => declaringClass.all (level.name == ·)).find?
      (fun level => (level.field? field).isSome) = some c := by
    rw [List.find?_filter, List.find?_eq_some_iff_append]
    refine ⟨?_, front, back, hsplit, fun level hmem => ?_⟩
    · cases declaringClass with
      | none => simpa using hfield
      | some name => simpa [hname name rfl] using hfield
    · simpa using Or.inr (by simpa using hfront level hmem)
  simp only [Scope.declared?, Option.some_or, Option.bind_some, hlevel, Option.map_some]

end

/-- A class is compiled such that setters enforce the checks of their fields, and the setter of a field
takes an argument without a name. -/
structure Inferring (c : Class) (configurers : List Configurer) (compiled : ClassChecks)
    (field : String) (m : Method) (p : Parameter) : Prop where
  compile : ClassChecks.compile c configurers = .ok compiled
  fieldsToSetters : compiled.flags.fieldsToSetters = true
  constrained : field ∈ compiled.constrained
  lowercase : startsLower field = true
  setter : c.method? (setterName field) 1 = some m
  parameters : m.parameters = [p]
  unnamed : p.name = none

namespace Inferring

variable {c d : Class} {configurers : List Configurer} {compiled : ClassChecks} {field : String}
  {m : Method} {p : Parameter} {env : Environment} {site : Site}

theorem inferredField (h : Inferring c configurers compiled field m p)
    (hroot : site.context.root = Enforcing.root c field p) :
    site.context.inferredField = some field := by
  rw [Enforcing.root, h.unnamed] at hroot
  exact Context.inferredField_setter h.lowercase hroot

/-- Something is derived unless the sources say it, and it refers to no other field whose name starts with
a lowercase letter of ASCII. -/
theorem derived (h : Inferring c configurers compiled field m p) :
    (∃ check ∈ compiled.of (setterParameter field), ClassChecks.refersTo field check = true) ∧
      ∃ configured derived,
        configurers.foldlM ClassChecks.applyConfigurer { cls := c } = .ok configured ∧
        compiled.of (setterParameter field) = configured.of (setterParameter field) ++ derived ∧
        ∀ check ∈ derived, ClassChecks.isNotNull check = true ∨
          ∃ other ∈ compiled.constrained, (startsLower other = true → other = field) ∧
            check = ClassChecks.reference c other (Enforcing.root c field p) := by
  obtain ⟨hrefers, configured, derived, hconfigured, hof, hderived⟩ :=
    ClassChecks.compile_setter h.compile h.fieldsToSetters h.constrained h.setter h.parameters
  refine ⟨hrefers, configured, derived, hconfigured, hof, fun check hcheck => ?_⟩
  refine (hderived check hcheck).imp_right fun ⟨other, hother, hname, hreference⟩ => ?_
  exact ⟨other, hother, fun hlower => setterName_injective hlower h.lowercase hname, hreference⟩

/-- A reference without a name and one with the name of the field find the checks of the field in the
class that was compiled, with or without the name of that class. -/
theorem referenced (h : Inferring c configurers compiled field m p)
    (hroot : site.context.root = Enforcing.root c field p)
    (hscope : (site.owner.map (·.cls)).or env.scope = some d) (hdeclaring : d.declaring? field = some c)
    {named declaringClass : Option String} (hnamed : ∀ name ∈ named, name = field)
    (hclass : ∀ name ∈ declaringClass, name = c.name) :
    Traversal.referencedChecks env site named declaringClass = do
      return (← Run.checksOf env c).of (.field field) := by
  have hinferred := h.inferredField hroot
  have hsome : Traversal.referencedChecks env site named declaringClass =
      Traversal.referencedChecks env site (some field) declaringClass := by
    cases named with
    | none => exact referencedChecks_inferred hinferred declaringClass
    | some name => rw [hnamed name rfl]
  rw [hsome, referencedChecks_some]
  rw [Site.scope, hscope]
  exact Scope.declared?_first hdeclaring _ hclass

end Inferring

/-- The field that is inferred for the parameter of a setter, where it has no name, and at any position
in what it is given, is the field that the setter is named for, if its name starts with a lowercase
letter of ASCII. So such fields have different setters; what is derived for the parameter refers to the
inferred field, and to no other of such fields; and a reference without a name, at the parameter or a
position in it, comes to the derived one: both find the checks of the field of that name, and those of
the class that was compiled if that is the first to declare it. Conversely, a name stands for a property
iff an uppercase character follows a mark, and then for what follows the mark, with that character in
lowercase. -/
theorem setter_infers_field :
    (∀ field, startsLower field = true → ∀ (context : Context) className index,
        context.root = .parameter className (setterName field) index none →
          context.inferredField = some field) ∧
      (∀ f g, startsLower f = true → startsLower g = true → setterName f = setterName g → f = g) ∧
      (∀ c configurers compiled field m p, Inferring c configurers compiled field m p →
        (∃ check ∈ compiled.of (setterParameter field), ClassChecks.refersTo field check = true) ∧
        (∃ configured derived,
          configurers.foldlM ClassChecks.applyConfigurer { cls := c } = .ok configured ∧
          compiled.of (setterParameter field) = configured.of (setterParameter field) ++ derived ∧
          ∀ check ∈ derived, ClassChecks.isNotNull check = true ∨
            ∃ other ∈ compiled.constrained, (startsLower other = true → other = field) ∧
              check = ClassChecks.reference c other (Enforcing.root c field p)) ∧
        ∀ env (site : Site), site.context.root = Enforcing.root c field p →
          (∀ declaringClass, Traversal.referencedChecks env site none declaringClass =
            Traversal.referencedChecks env site (some field) declaringClass) ∧
          ∀ d, (site.owner.map (·.cls)).or env.scope = some d → d.declaring? field = some c →
            ∀ named declaringClass, (∀ name ∈ named, name = field) →
              (∀ name ∈ declaringClass, name = c.name) →
                Traversal.referencedChecks env site named declaringClass = do
                  return (← Run.checksOf env c).of (.field field)) ∧
      ∀ accessor property, propertyName accessor = some property ↔ ∃ mark ∈ ["get", "set", "is"],
        ∃ first rest, accessor.toList = mark.toList ++ first :: rest ∧
          Unicode.isUppercase first = true ∧
          property = String.ofList (Unicode.lowerChar first ++ rest) := by
  refine ⟨fun _ h _ _ _ => Context.inferredField_setter h, fun _ _ => setterName_injective, ?_,
    fun _ _ => propertyName_eq_some⟩
  intro c configurers compiled field m p h
  obtain ⟨hrefers, hderived⟩ := h.derived
  refine ⟨hrefers, hderived, fun env site hroot => ?_⟩
  refine ⟨referencedChecks_inferred (h.inferredField hroot), ?_⟩
  exact fun d hscope hdeclaring _ _ => h.referenced hroot hscope hdeclaring

/-- A class with a field whose name starts like an accessor, and its setter. -/
def lagoon : Class where
  id := 0
  name := "Lagoon"
  superclass := none
  interfaces := []
  isInterface := false
  fields := [⟨"island", .string, false⟩]
  methods := [⟨"setIsland", [⟨none, .string⟩], none, false, false⟩]
  constructors := []

/-- A source of configuration that has setters enforce the check of the field. -/
def lagoonSource : Configurer :=
  (({} : ConfigTable).addClass {
    className := "Lagoon"
    flags := { fieldsToSetters := some true }
    fields := [{ name := "island", checks := [{ kind := .notNull }] }] }).configurer

theorem lagoon_inferring : ∃ compiled, Inferring lagoon [lagoonSource] compiled "island"
    ⟨"setIsland", [⟨none, .string⟩], none, false, false⟩ ⟨none, .string⟩ :=
  ⟨_, rfl, rfl, List.mem_singleton_self _, by decide, rfl, rfl, rfl⟩

theorem setter_infers_field_island :
    let place : Context := .element (.parameter "Lagoon" (setterName "island") 0 none) 2
    startsLower "island" = true ∧ place.root = .parameter "Lagoon" "setIsland" 0 none ∧
      place.inferredField = some "island" ∧
      ∃ m compiled p, Inferring lagoon [lagoonSource] compiled "island" m p ∧
        (∃ check ∈ compiled.of (setterParameter "island"),
          ClassChecks.refersTo "island" check = true) ∧
        ∀ env (site : Site), site.context = place →
          Traversal.referencedChecks env site none none =
            Traversal.referencedChecks env site (some "island") none := by
  intro place
  have hlower : startsLower "island" = true := by decide
  obtain ⟨hinferred, -, hcompiled, -⟩ := setter_infers_field
  obtain ⟨compiled, h⟩ := lagoon_inferring
  obtain ⟨hrefers, -, hreferenced⟩ := hcompiled _ _ _ _ _ _ h
  refine ⟨hlower, rfl, hinferred "island" hlower place "Lagoon" 0 rfl, _, compiled, _, h, hrefers, ?_⟩
  intro env site hplace
  exact (hreferenced env site (by rw [hplace]; rfl)).1 none

end ObjectConstraints
