import ObjectConstraints.Proofs.Deriving
import ObjectConstraints.Proofs.KnownClasses
import ObjectConstraints.Proofs.Rebasing

/-!
# Setters

The parameter of a setter that has no checks of its own is given a reference to its field, which is
found in the class that declares both (`Enforcing.of_setter`). So validating the argument of the
setter comes to the same as validating the value for the field (`setter_validated`): the checks of
the field at another member, also those it gets later.
-/

namespace ObjectConstraints

open Traversal

namespace ClassChecks

variable {s t u : ClassChecks}

-- ---------------------------------------------------------------------------
-- What configurations say of a member
-- ---------------------------------------------------------------------------

/-- What several sources of configuration say comes to one list of entries. -/
theorem configured_applied {configurers : List Configurer}
    (h : configurers.foldlM applyConfigurer s = .ok t) :
    ∃ settings entries, Applied settings entries s t ∧
      ∀ e ∈ entries, (∃ context, s.cls.place e.member = .ok context) ∧
        ∃ configurer ∈ configurers, ∃ config,
          configurer.classConfig s.cls = .ok (some config) ∧ e ∈ config.entries := by
  obtain ⟨answers, hanswers, happlied, hplaced⟩ := foldlM_configurers h
  refine ⟨_, _, happlied, fun e he => ⟨hplaced e he, ?_⟩⟩
  obtain ⟨config, hconfig, hentry⟩ := List.mem_flatMap.mp he
  rw [List.reduceOption_mem_iff] at hconfig
  obtain ⟨configurer, hconfigurer, hanswer⟩ := mem_of_mapM hanswers hconfig
  exact ⟨configurer, hconfigurer, config, hanswer, hentry⟩

theorem compile_cls {configurers : List Configurer} (h : compile c configurers = .ok checks) :
    checks.cls = c := by
  obtain ⟨s, hconfigured, hderive⟩ := compile_ok.mp h
  obtain ⟨settings, entries, happlied, -⟩ := configured_applied hconfigured
  exact (derive_frame hderive).cls.trans happlied.cls

theorem list_of_empty {entries : List Entry} {c : Class} {member : Member}
    (h : ∀ e ∈ entries, e.member = member → e.checks = []) :
    entries.foldl (fun list e => e.list c member list) [] = [] := by
  refine List.eq_nil_iff_forall_not_mem.mpr fun r hr => ?_
  obtain ⟨e, he, hmember, check, hcheck, -⟩ := (Entry.mem_lists hr).resolve_left List.not_mem_nil
  rw [h e he hmember] at hcheck
  cases hcheck

theorem of_silent {configurers : List Configurer} {member : Member}
    (h : configurers.foldlM applyConfigurer { cls := c } = .ok s)
    (hsilent : ∀ configurer ∈ configurers, ∀ config,
      configurer.classConfig c = .ok (some config) →
        ∀ e ∈ config.entries, e.member = member → e.checks = []) : s.of member = [] := by
  obtain ⟨settings, entries, happlied, hsaid⟩ := configured_applied h
  rw [ClassChecks.of, happlied.registered]
  refine List.map_eq_nil_iff.mpr (list_of_empty fun e he hmember => ?_)
  obtain ⟨-, configurer, hconfigurer, config, hconfig, hentry⟩ := hsaid e he
  exact hsilent configurer hconfigurer config hconfig e hentry hmember

theorem mem_noteField {entry : Entry} {name : String} {names : List String × List String}
    (h : name ∈ (entry.noteField c names).1 ++ (entry.noteField c names).2) :
    name ∈ names.1 ++ names.2 ∨ entry.member = .field name := by
  cases hmember : entry.member with
  | field other =>
    simp only [Entry.noteField, hmember] at h
    rcases (mem_note ..).mp h with h | ⟨rfl, -⟩
    · split at h
      · exact .inl h.2
      · exact .inl h
    · exact .inr rfl
  | _ =>
    simp only [Entry.noteField, hmember] at h
    exact .inl h

theorem mem_noteFields {entries : List Entry} {name : String} {names : List String × List String}
    (h : name ∈ (entries.foldl (fun names e => e.noteField c names) names).1 ++
      (entries.foldl (fun names e => e.noteField c names) names).2) :
    name ∈ names.1 ++ names.2 ∨ ∃ e ∈ entries, e.member = .field name := by
  induction entries generalizing names with
  | nil => exact .inl h
  | cons e rest ih =>
    rcases ih h with h | ⟨other, hother, hmember⟩
    · rcases mem_noteField h with h | hmember
      · exact .inl h
      · exact .inr ⟨e, List.mem_cons_self, hmember⟩
    · exact .inr ⟨other, List.mem_cons_of_mem _ hother, hmember⟩

-- ---------------------------------------------------------------------------
-- Derived references
-- ---------------------------------------------------------------------------

/-- The check that makes a member of a class satisfy those of a field of it. -/
def reference (c : Class) (field : String) (context : Context) : Check where
  kind := .assertFieldConstraints (some field) (some c.name)
  context := some context

theorem addReference_of (h : s.addReference (member, field) = .ok t)
    (hplace : s.cls.place member = .ok context)
    (hs : s.of member = [] ∨ s.of member = [reference s.cls field context]) :
    t.of member = [reference s.cls field context] := by
  unfold addReference addUnless at h
  rcases hs with hnone | hsome
  · rw [hnone] at h
    have happlied := addUntracked_applied h
    have hregistered : s.registered member = [] := List.map_eq_nil_iff.mp hnone
    simp [ClassChecks.of, happlied.registered, hregistered, Entry.list, Entry.registered, hplace,
      Registered.untracked, Registered.stamp, Check.stamp, reference]
  · rw [hsome, if_pos (by simp [refersTo, reference])] at h
    cases h
    exact hsome

/-- Of a list of targets that has a member for one field only, the member gets one reference. -/
theorem foldlM_addReference {targets : List (Member × String)}
    (h : targets.foldlM addReference s = .ok t) (hplace : s.cls.place member = .ok context)
    (harea : ∀ target ∈ targets, target.1.area ≠ .fields)
    (halone : ∀ target ∈ targets, target.1 = member → target.2 = field)
    (hs : s.of member = [] ∧ (member, field) ∈ targets ∨
      s.of member = [reference s.cls field context]) :
    t.of member = [reference s.cls field context] := by
  induction targets generalizing s with
  | nil =>
    cases h
    exact hs.resolve_left fun hnone => by cases hnone.2
  | cons target rest ih =>
    rw [List.foldlM_cons] at h
    obtain ⟨middle, htarget, hrest⟩ := bind_ok.mp h
    have hgrown : Grown (fun member _ => member = target.1) s middle := .of_addUnless htarget rfl
    have hframe : Frame (· = target.1) s middle :=
      hgrown.frame fun member _ hmember => ⟨hmember, hmember ▸ harea target List.mem_cons_self⟩
    have hlater := fun hmiddle => ih hrest (hframe.cls ▸ hplace)
      (fun other hother => harea other (List.mem_cons_of_mem _ hother))
      (fun other hother => halone other (List.mem_cons_of_mem _ hother)) hmiddle
    rw [hframe.cls] at hlater
    by_cases hmember : target.1 = member
    · obtain rfl := hmember
      obtain rfl := halone target List.mem_cons_self rfl
      exact hlater (.inr (addReference_of htarget hplace (hs.imp_left (·.1))))
    · have hsame : middle.of member = s.of member := hframe.of (Ne.symm hmember)
      rw [hsame] at hlater
      refine hlater (hs.imp_left fun hnone => ⟨hnone.1, ?_⟩)
      exact (List.mem_cons.mp hnone.2).resolve_left fun heq => hmember (heq ▸ rfl)

theorem constrained_declared {configurers : List Configurer}
    (h : configurers.foldlM applyConfigurer { cls := c } = .ok s) (hfield : field ∈ s.constrained) :
    (c.field? field).isSome := by
  obtain ⟨settings, entries, happlied, hsaid⟩ := configured_applied h
  obtain ⟨hfields, hstatics⟩ := Prod.mk.inj happlied.fields
  rw [constrained, hfields, hstatics] at hfield
  rcases mem_noteFields hfield with hnone | ⟨e, he, hmember⟩
  · cases hnone
  · obtain ⟨⟨context, hplace⟩, -⟩ := hsaid e he
    rw [hmember] at hplace
    simp only [Class.place] at hplace
    split at hplace
    · cases hplace
    · next hsome => exact Option.isSome_of_eq_some hsome

/-- The parameter of the setter of a field. -/
def setterParameter (field : String) : Member := .parameter (setterName field) 1 0

/-- A setter that is for one field only and has no checks gets a reference to the field. -/
theorem derive_setter (h : s.derive = .ok t) (hon : s.flags.fieldsToSetters = true)
    (hoff : s.flags.parametersNotNull = false) (hfield : field ∈ s.constrained)
    (hsetter : s.cls.method? (setterName field) 1 = some m)
    (hplace : s.cls.place (setterParameter field) = .ok context)
    (halone : ∀ other ∈ s.constrained, setterName other = setterName field → other = field)
    (hempty : s.of (setterParameter field) = []) :
    t.of (setterParameter field) = [reference s.cls field context] := by
  obtain ⟨a, b, hsetters, hconstructors, hparameters⟩ := derive_ok.mp h
  rw [hon, if_pos rfl] at hsetters
  rw [hoff] at hparameters
  cases hparameters
  have htarget : (setterParameter field, field) ∈ s.setterTargets := by
    refine List.mem_filterMap.mpr ⟨field, hfield, ?_⟩
    simp only [hsetter, Option.map_some, setterParameter]
  have hreference : a.of (setterParameter field) = [reference s.cls field context] := by
    refine foldlM_addReference hsetters hplace (fun target htarget => ?_)
      (fun target htarget hmember => ?_) (.inl ⟨hempty, htarget⟩)
    · rw [(setterTargets_member htarget).1]
      simp [Member.area]
    · obtain ⟨hsame, hmem⟩ := setterTargets_member htarget
      rw [hsame] at hmember
      exact halone target.2 hmem (Member.parameter.inj hmember).1
  have hgrown : Grown (fun member _ => member.area = .constructors) a t := by
    refine .of_switched (fun _ target htarget s t _ h => .of_addUnless h ?_) hconstructors
    obtain ⟨constructor, index, hmember⟩ := constructorTargets_member htarget
    simp [hmember, Member.area]
  have hconstructed : Frame (·.area = .constructors) a t :=
    hgrown.frame fun member _ harea => ⟨harea, by simp [harea]⟩
  rw [hconstructed.of (by simp [Member.area, setterParameter]), hreference]

end ClassChecks

-- ---------------------------------------------------------------------------
-- Setters that enforce checks
-- ---------------------------------------------------------------------------

open ClassChecks (setterParameter)

/-- A class is compiled such that setters enforce the checks of their fields, and the setter of a field
is declared for that field only and is given no checks by the sources. -/
structure Enforcing (c : Class) (configurers : List Configurer) (compiled : ClassChecks)
    (field : String) (m : Method) (p : Parameter) : Prop where
  compile : ClassChecks.compile c configurers = .ok compiled
  fieldsToSetters : compiled.flags.fieldsToSetters = true
  parametersNotNull : compiled.flags.parametersNotNull = false
  constrained : field ∈ compiled.constrained
  setter : c.method? (setterName field) 1 = some m
  parameters : m.parameters = [p]
  kind : p.kind = fieldKind c field
  alone : ∀ other ∈ compiled.constrained, setterName other = setterName field → other = field
  unconfigured : ∀ s, configurers.foldlM ClassChecks.applyConfigurer { cls := c } = .ok s →
    s.of (setterParameter field) = []

namespace Enforcing

/-- Where the argument of the setter of a field stands. -/
def root (c : Class) (field : String) (p : Parameter) : Context :=
  .parameter c.name (setterName field) 0 p.name

variable {c : Class} {configurers : List Configurer} {compiled : ClassChecks} {field : String}
  {m : Method} {p : Parameter}

/-- The class declares the field, and all the setter is given is a reference to it. -/
theorem of_setter (h : Enforcing c configurers compiled field m p) :
    (c.field? field).isSome ∧
      compiled.of (setterParameter field) = [ClassChecks.reference c field (root c field p)] := by
  obtain ⟨s, hconfigured, hderive⟩ := ClassChecks.compile_ok.mp h.compile
  obtain ⟨settings, entries, happlied, -⟩ := ClassChecks.configured_applied hconfigured
  have hcls : s.cls = c := happlied.cls
  have hframe := ClassChecks.derive_frame hderive
  have hsame : compiled.constrained = s.constrained := hframe.constrained
  have hfield := hsame ▸ h.constrained
  have hempty := h.unconfigured s hconfigured
  have hplace : c.place (setterParameter field) = .ok (root c field p) := by
    simp [Class.place, setterParameter, h.setter, h.parameters, root]
  obtain rfl := hcls
  exact ⟨ClassChecks.constrained_declared hconfigured hfield,
    ClassChecks.derive_setter hderive (hframe.flags ▸ h.fieldsToSetters)
      (hframe.flags ▸ h.parametersNotNull) hfield h.setter hplace (hsame ▸ h.alone) hempty⟩

end Enforcing

-- ---------------------------------------------------------------------------
-- The argument of a setter
-- ---------------------------------------------------------------------------

theorem ValidationError.Requoted.rootCause {root : Context} (h : ValidationError.Requoted root e e') :
    ValidationError.Requoted root e.rootCause e'.rootCause := by
  cases h with
  | same e => exact .same e.rootCause
  | quoted field context => exact .quoted field context

/-- Answers for a value at two members: the same violations, which name the other member in the second
one, or failures of one cause, and the same state of the validator and the store. -/
inductive Agreeing (root : Context) : Validator.Outcome → Validator.Outcome → Prop
  | ok (violations after) :
      Agreeing root (.ok violations, after) (.ok (violations.map (·.rebase root)), after)
  | failed (after) : ValidationError.Requoted root e.rootCause e'.rootCause →
      Agreeing root (.error (.failed e), after) (.error (.failed e'), after)
  | tooDeep (after) : Agreeing root (.error .tooDeep, after) (.error .tooDeep, after)

theorem Moved.conclude {root : Context} (h : Moved root x y) (v : Validator)
    (target target' : String) :
    Agreeing root (v.conclude target x) (v.conclude target' y) := by
  cases h with
  | ok violations s => exact .ok violations _
  | failed s he =>
    refine .failed _ ?_
    rw [ValidationError.rootCause_wrap, ValidationError.rootCause_wrap]
    exact he.rootCause
  | tooDeep s => exact .tooDeep _

theorem Scope.declared?_own (hfield : (c.field? field).isSome) (inferred : Option String) :
    Scope.declared? ⟨some c, inferred⟩ (some field) (some c.name) = some (c, field) := by
  simp [declared?, Class.hierarchy_eq c, hfield]

/-- A derived reference does nothing but apply the checks of its field. -/
theorem applyAll_derived {env : Environment} {site : Site} {context : Context} (nested : Nested)
    (howner : site.owner.map (·.cls) = some c) (hfield : (c.field? field).isSome)
    (hactive : env.profiles.isAnyEnabled [] env.requested = true)
    (hchecks : s.compiled.get? c.name = some (some checks)) :
    (applyAll env nested [ClassChecks.reference c field context] site).exec s =
      (nested.apply (checks.of (.field field)) site).exec s := by
  have hdeclared : (site.scope env).declared? (some field) (some c.name) = some (c, field) := by
    simp only [Site.scope, howner]
    exact Scope.declared?_own hfield _
  have hresolved : s.compiled.resolve c env.configurers = (.ok checks, s.compiled) :=
    CompiledChecks.resolve_of_get? hchecks
  rw [applyAll, Run.gather_singleton, applyCheck_plain env nested site rfl rfl rfl rfl hactive]
  simp only [evaluate, ClassChecks.reference, referencedChecks_some hdeclared, bind_assoc, pure_bind]
  rw [Run.exec_bind_of_ok]
  exact Run.exec_checksOf_ok.mpr ⟨by rw [hresolved], by rw [hresolved]⟩

theorem memberSteps_one {env : Environment} (c : Class) (member : Member) (site : Site)
    (nested : Nested) (h : (s.compiled.resolve c env.configurers).1 = .ok checks) :
    (memberSteps c [(member, site)] env nested).exec s =
      (applyAll env nested (checks.of member) site).exec
        { s with compiled := (s.compiled.resolve c env.configurers).2 } := by
  rw [memberSteps, Run.exec_bind_of_ok _ (Run.exec_checksOf_ok.mpr ⟨h, rfl⟩), Run.gather_singleton]

/-- A member that has a derived reference only is validated like the field, but for what is said of
where the value stands. -/
theorem memberSteps_moved {v : Validator} {env : Environment} {site : Site} {context root : Context}
    {member : Member} (he : env.configurers = v.configurers) (hs : Stems v s)
    (hchecks : (s.compiled.resolve c env.configurers).1 = .ok checks)
    (hmember : checks.of member = [ClassChecks.reference c field context])
    (hfield : (c.field? field).isSome) (hignores : v.IgnoresContext c (checks.of (.field field)))
    (hactive : env.profiles.isAnyEnabled [] env.requested = true)
    (howner : site.owner.map (·.cls) = some c) (depth : Nat) :
    Moved root ((memberSteps c [(.field field, site)] env (Nested.ofDepth env depth)).exec s)
      ((memberSteps c [(member, site.rebase root)] env (Nested.ofDepth env (depth + 1))).exec s) := by
  have howner' : (site.rebase root).owner.map (·.cls) = some c := howner
  -- The second run looks the checks of the class up once more, through the reference.
  rw [memberSteps_one c (.field field) site _ hchecks, memberSteps_one c member _ _ hchecks, hmember,
    applyAll_derived _ howner' hfield hactive (CompiledChecks.get?_resolve_self hchecks)]
  have hlooked := hs.checksOf c
  rw [← he] at hlooked
  exact (applyAll_moves he (ofDepth_moves he depth) hignores site howner _ hlooked).2

section

variable (v : Validator) (world : World) (depth : Nat) (store : Store) (value : Value) {o : Object}

theorem validateField_eq (h : o.cls.declaring? field = some c) :
    v.validateField world depth o field value store =
      let env := v.environment world none none
      v.conclude (Context.field c.name field).text
        ((memberSteps c [(.field field, ⟨some o, value, fieldKind c field, .field c.name field⟩)] env
          (Nested.ofDepth env depth)).exec (v.start (some o) store)) := by
  simp only [Validator.validateField, h, applyMember_eq]
  rfl

theorem validateArguments_one (h : o.cls.findMethod? method 1 = some (c, m))
    (hparameters : m.parameters = [p]) :
    v.validateArguments world depth o method [value] store =
      let env := v.environment world none none
      let site : Site := ⟨some o, value, p.kind, .parameter c.name method 0 p.name⟩
      v.conclude (c.name ++ "." ++ method)
        ((memberSteps c [(.parameter method 1 0, site)] env (Nested.ofDepth env depth)).exec
          (v.start (some o) store)) := by
  simp only [Validator.validateArguments, List.length_singleton, h, applyParameters_eq, hparameters]
  rfl

end

/-- What validating a value for a field finds, validating it as the argument of the setter finds too,
one level deeper because of the reference. Checks that the field got after it was compiled count. -/
theorem setter_validated {v : Validator} {o : Object}
    (h : Enforcing o.cls configurers compiled field m p)
    (hchecks : (v.checksOf o.cls).1 = .ok checks)
    (hkept : checks.of (setterParameter field) = compiled.of (setterParameter field))
    (hignores : v.IgnoresContext o.cls (checks.of (.field field)))
    (hactive : v.profiles.isEnabled defaultProfile = true) :
    (∃ reference, checks.of (setterParameter field) = [reference] ∧
      ∀ inferred, reference.leadsTo? ⟨some o.cls, inferred⟩ = some (.field o.cls.name field)) ∧
    ∀ world depth value store, Agreeing (Enforcing.root o.cls field p)
      (v.validateField world depth o field value store)
      (v.validateArguments world (depth + 1) o (setterName field) [value] store) := by
  obtain ⟨hfield, hreference⟩ := h.of_setter
  rw [hreference] at hkept
  constructor
  · refine ⟨_, hkept, fun inferred => ?_⟩
    simp only [Check.leadsTo?, ClassChecks.reference, Scope.declared?_own hfield, Option.map_some]
  · intro world depth value store
    have hdeclaring : o.cls.declaring? field = some o.cls := by
      simp [Class.declaring?, Class.hierarchy_eq o.cls, hfield]
    have hmethod : o.cls.findMethod? (setterName field) 1 = some (o.cls, m) := by
      simp [Class.findMethod?, Class.hierarchy_eq o.cls, h.setter]
    rw [validateField_eq v world depth store value hdeclaring,
      validateArguments_one v world (depth + 1) store value hmethod h.parameters, h.kind]
    have hresolved : ((v.start (some o) store).compiled.resolve o.cls v.configurers).1 = .ok checks :=
      hchecks
    have hdefault : v.profiles.isAnyEnabled [] none = true := by
      simpa [Profiles.isAnyEnabled, Profiles.ofCheck] using hactive
    refine Moved.conclude ?_ v _ _
    exact memberSteps_moved rfl (.start v (some o) store) hresolved hkept hfield hignores hdefault rfl
      depth

/-- A class with a field and its setter. -/
def player : Class where
  id := 0
  name := "Player"
  superclass := none
  interfaces := []
  isInterface := false
  fields := [⟨"team", .string, false⟩]
  methods := [⟨"setTeam", [⟨some "name", .string⟩], none, false, false⟩]
  constructors := []

/-- A source of configuration that has setters enforce the check of the field. -/
def playerSource : Configurer :=
  (({} : ConfigTable).addClass {
    className := "Player"
    flags := { fieldsToSetters := some true }
    fields := [{ name := "team", checks := [{ kind := .notNull }] }] }).configurer

theorem player_enforcing : ∃ compiled, Enforcing player [playerSource] compiled "team"
    ⟨"setTeam", [⟨some "name", .string⟩], none, false, false⟩ ⟨some "name", .string⟩ := by
  refine ⟨_, rfl, rfl, rfl, List.mem_singleton_self _, rfl, rfl, rfl, ?_, ?_⟩
  · exact fun other hother _ => List.mem_singleton.mp hother
  · intro s hs
    refine ClassChecks.of_silent hs fun configurer hconfigurer config hconfig e he hmember => ?_
    obtain rfl := List.mem_singleton.mp hconfigurer
    cases hconfig
    obtain rfl := List.mem_singleton.mp he
    cases hmember

/-- A validator in which the field got another check later. -/
def playerValidator : Validator :=
  (({ configurers := [playerSource] } : Validator).addChecks player (.field "team") false
    [{ kind := .maxLength 3 }]).2

theorem player_checks : ∃ checks, (playerValidator.checksOf player).1 = .ok checks ∧
    checks.of (setterParameter "team") = [ClassChecks.reference player "team"
      (Enforcing.root player "team" ⟨some "name", .string⟩)] ∧
    (checks.of (.field "team")).map (·.kind) = [.notNull, .maxLength 3] :=
  ⟨_, rfl, rfl, rfl⟩

theorem player_answer :
    (playerValidator.validateArguments stillWorld 2 ⟨0, player⟩ (setterName "team")
      [.string "abcd"] {}).1.map (·.map fun violation => (violation.check.name, violation.context)) =
      .ok [("MaxLength", .parameter "Player" "setTeam" 0 (some "name"))] := rfl

theorem setter_validated_player :
    let v := playerValidator
    let o : Object := ⟨0, player⟩
    let p : Parameter := ⟨some "name", .string⟩
    let answer := v.validateArguments stillWorld 2 o (setterName "team") [.string "abcd"] {}
    ∃ m compiled checks, Enforcing player [playerSource] compiled "team" m p ∧
      (v.checksOf player).1 = .ok checks ∧
      checks.of (setterParameter "team") = compiled.of (setterParameter "team") ∧
      v.IgnoresContext player (checks.of (.field "team")) ∧
      v.profiles.isEnabled defaultProfile = true ∧
      answer.1.map (·.map fun violation => (violation.check.name, violation.context)) =
        .ok [("MaxLength", .parameter "Player" "setTeam" 0 (some "name"))] ∧
      Agreeing (Enforcing.root player "team" p)
        (v.validateField stillWorld 1 o "team" (.string "abcd") {}) answer := by
  intro v o p answer
  obtain ⟨compiled, h⟩ := player_enforcing
  obtain ⟨checks, hchecks, hreference, hkinds⟩ := player_checks
  have hkept : checks.of (setterParameter "team") = compiled.of (setterParameter "team") :=
    hreference.trans h.of_setter.2.symm
  have hignores : v.IgnoresContext player (checks.of (.field "team")) :=
    Validator.ignoresContext_of_kinds hkinds (by simp)
  have hagreeing := (@setter_validated _ compiled "team" _ p checks v o h hchecks hkept hignores rfl).2
  exact ⟨_, compiled, checks, h, hchecks, hkept, hignores, rfl, player_answer,
    hagreeing stillWorld 1 (.string "abcd") {}⟩

end ObjectConstraints
