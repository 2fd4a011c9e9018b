import ObjectConstraints.Proofs.Fitting
import ObjectConstraints.Proofs.Setters

/-!
# Null arguments

What the switch against null parameters amounts to. A parameter that has no check for null gets one, and
that one reports every null that is given for the parameter. Where checks for null are configured none is
added, and null is reported unless each of those that are there passes over it when the call comes to it
(`Validator.Strict.null_reported`): because its condition does not hold then, because it looks at
something inside of the argument, or because it looks at what a container holds.
-/

namespace ObjectConstraints

open Traversal

-- ---------------------------------------------------------------------------
-- One check of null
-- ---------------------------------------------------------------------------

/-- Whether a check that is applied with a store is not evaluated on null where a kind is declared: its
condition does not hold, its target path leads away from null, or null stands for a container that the
check does not look at. -/
inductive Check.PassesOver (check : Check) (languages : Languages) (owner : Option Object)
    (declared : Kind) (store : Store) : Prop
  | inactive (condition : check.isActive languages owner .null store = .ok false)
  | elsewhere (path : String) (target : check.target = some path)
    (away : TargetPath.segments path ≠ [])
  | contents (target : check.target = none) (container : declared.container?.isSome)
    (targets : check.targets.container = false)

/-- Whether a report tells that null was given at a place. -/
def TellsNull (owner : Option Object) (context : Context) (report : List Violation) : Prop :=
  ∃ violation ∈ report, violation.check.kind = .notNull ∧ violation.object = owner ∧
    violation.value = .null ∧ violation.context = context

theorem Profiles.isAnyEnabled_of_all {profiles : Profiles} (h : ∀ profile, profiles.isEnabled profile = true)
    (named : List String) : profiles.isAnyEnabled named none = true := by
  cases named with
  | nil => simp [isAnyEnabled, ofCheck, h]
  | cons first rest => simp [isAnyEnabled, ofCheck, h]

section

variable {env : Environment} {check : Check} {site : Site}

theorem positions_null (owner : Option Object) (declared : Kind) (context : Context) (targets : Targets) :
    (⟨owner, .null, declared, context⟩ : Site).positions targets =
      if declared.container?.isSome && !targets.container then [] else [⟨owner, .null, declared, context⟩] := by
  cases hdeclared : declared.container? <;> cases htargets : targets.container <;>
    simp [Site.positions, Site.reached, Site.own, Site.isContainer, hdeclared, htargets, Value.container?,
      Value.isNull]

/-- A check of null looks at null, whatever is declared there, or it passes over it. -/
theorem outlook_null (hnull : site.value = .null)
    (hactive : env.profiles.isAnyEnabled check.profiles env.requested = true)
    (h : outlook env store check site = .ok sites) :
    check.PassesOver env.languages site.owner site.declared store ∨
      ∃ declared, sites = [{ site with declared }] := by
  obtain ⟨owner, value, declared, context⟩ := site
  obtain rfl : value = .null := hnull
  simp only [outlook, hactive, Bool.not_true, Bool.false_eq_true, if_false] at h
  cases hcondition : check.isActive env.languages owner .null store with
  | error e =>
    rw [hcondition] at h
    cases h
  | ok active =>
    rw [hcondition] at h
    cases active with
    | false => exact .inl (.inactive hcondition)
    | true =>
      cases htarget : check.target with
      | none =>
        simp only [htarget] at h
        have hsites : (⟨owner, .null, declared, context⟩ : Site).positions check.targets = sites :=
          Except.ok.inj h
        rw [positions_null] at hsites
        split at hsites
        · next hcontainer =>
          obtain ⟨hdeclared, htargets⟩ := Bool.and_eq_true_iff.mp hcontainer
          exact .inl (.contents htarget hdeclared (by simpa using htargets))
        · exact .inr ⟨declared, hsites.symm⟩
      | some path =>
        cases hsegments : TargetPath.segments path with
        | nil =>
          simp only [htarget, TargetPath.navigate, hsegments] at h
          have hsites : (⟨owner, .null, .any, context⟩ : Site).positions check.targets = sites :=
            Except.ok.inj h
          rw [positions_null] at hsites
          exact .inr ⟨.any, hsites.symm⟩
        | cons first rest => exact .inl (.elsewhere path htarget (by simp [hsegments]))

/-- A check of null that does not pass over null reports it. -/
theorem applyCheck_null {nested : Nested} (hkind : check.kind = .notNull) (hnull : site.value = .null)
    (hactive : env.profiles.isAnyEnabled check.profiles env.requested = true)
    (h : (applyCheck env nested site check).exec s = (.ok report, s')) :
    check.PassesOver env.languages site.owner site.declared s.store ∨
      TellsNull site.owner site.context report := by
  rw [applyCheck_eq, Run.exec_bind_of_ok _ (Run.exec_get s)] at h
  obtain ⟨sites, _, hlifted, hgather⟩ := Run.exec_bind_ok.mp h
  obtain ⟨hsites, rfl⟩ := Run.exec_lift_ok.mp hlifted
  refine (outlook_null hnull hactive hsites).imp_right ?_
  rintro ⟨declared, rfl⟩
  have hplain : check.isComposite = false := by
    simp [Check.isComposite, hkind, CheckKind.isComposite]
  have hunmet : check.isSatisfied env.languages env.now site.owner site.value site.context s.store =
      .ok false := by rw [Check.isSatisfied, hkind, hnull]; rfl
  rw [Run.gather_singleton, evaluate_eq_test env nested hplain, exec_test] at hgather
  simp only [hunmet] at hgather
  cases hgather
  exact ⟨_, List.mem_singleton_self _, hkind, rfl, hnull, rfl⟩

end

-- ---------------------------------------------------------------------------
-- What is applied
-- ---------------------------------------------------------------------------

/-- What is done for the members of a class in front of a place, and then for the member there with the
first of its checks. -/
def stepsBefore (c : Class) (members : List (Member × Site)) (place : Nat) (checks : List Check)
    (env : Environment) (nested : Nested) : Run (List Violation) := do
  let front ← memberSteps c (members.take place) env nested
  let back ← members[place]?.elim (pure []) fun (_, site) => applyAll env nested checks site
  pure (front ++ back)

/-- Each check of each member is applied, in the state that what is in front of it leaves behind. -/
theorem memberSteps_applies {env : Environment} {nested : Nested} {members : List (Member × Site)}
    (h : (memberSteps c members env nested).exec s = (.ok report, s'))
    (hchecks : (s.compiled.resolve c env.configurers).1 = .ok checks)
    (hmember : members[place]? = some (member, site)) (hsplit : checks.of member = front ++ check :: back) :
    ∃ own s₂, (applyCheck env nested site check).exec
        ((stepsBefore c members place front env nested).exec s).2 = (.ok own, s₂) ∧ own ⊆ report := by
  have hlooked := Run.exec_checksOf_ok.mpr ⟨hchecks, rfl⟩
  obtain ⟨hplace, hat⟩ := List.getElem?_eq_some_iff.mp hmember
  rw [memberSteps, Run.exec_bind_of_ok _ hlooked] at h
  rw [← List.take_append_drop place members, List.drop_eq_getElem_cons hplace, hat] at h
  obtain ⟨before, s₁, found, s₂, after, hbefore, hfound, -, rfl⟩ := Run.exec_gather_middle h
  dsimp only at hfound
  rw [applyAll, hsplit] at hfound
  obtain ⟨earlier, t, own, t', later, hearlier, hown, -, rfl⟩ := Run.exec_gather_middle hfound
  have hreached : ((stepsBefore c members place front env nested).exec s).2 = t := by
    have hmembers : (memberSteps c (members.take place) env nested).exec s = (.ok before, s₁) := by
      rw [memberSteps, Run.exec_bind_of_ok _ hlooked]
      exact hbefore
    rw [stepsBefore, Run.exec_bind_of_ok _ hmembers, hmember, Option.elim_some]
    exact congrArg Prod.snd (Run.exec_bind_of_ok _ hearlier)
  exact ⟨own, t', hreached ▸ hown, fun w hw => by simp [hw]⟩

theorem argumentSites_at {member : Nat → Member} {site : Nat → Parameter → Value → Site}
    {parameters : List Parameter} {args : List Value} (hp : parameters[index]? = some p)
    (harg : args[index]? = some arg) :
    (argumentSites member site parameters args)[index]? = some (member index, site index p arg) := by
  have hzip : (parameters.zip args)[index]? = some (p, arg) := List.getElem?_zip_eq_some.mpr ⟨hp, harg⟩
  simp [argumentSites, hzip]

-- ---------------------------------------------------------------------------
-- What is configured and derived
-- ---------------------------------------------------------------------------

/-- Whether a source of configuration has a check for a member of a class. -/
def Configurer.Gives (configurer : Configurer) (c : Class) (member : Member) (check : Check) : Prop :=
  ∃ config, configurer.classConfig c = .ok (some config) ∧
    ∃ entry ∈ config.entries, entry.member = member ∧ check ∈ entry.checks

namespace ClassChecks

variable {c : Class} {s t : ClassChecks} {member : Member}

/-- The parameters that can have checks are those of the declared methods and constructors. -/
theorem mem_parameterMembers (hparameter : member.IsParameter) (h : c.Has member) :
    member ∈ parameterMembers c := by
  cases member with
  | parameter method arity index =>
    obtain ⟨declared, hdeclared, hindex⟩ := Class.has_parameter.mp h
    have hfound := List.find?_some hdeclared
    simp only [Bool.and_eq_true, beq_iff_eq] at hfound
    obtain ⟨rfl, rfl⟩ := hfound
    refine List.mem_append_left _ (List.mem_flatMap.mpr ⟨declared, List.mem_of_find?_eq_some hdeclared, ?_⟩)
    exact List.mem_map_of_mem (List.mem_range.mpr hindex)
  | constructorParameter constructor index =>
    obtain ⟨declared, hdeclared, hindex⟩ := Class.has_constructorParameter.mp h
    refine List.mem_append_right _ (List.mem_flatMap.mpr ⟨(declared, constructor), ?_, ?_⟩)
    · exact List.mem_zipIdx_iff_getElem?.mpr hdeclared
    · exact List.mem_map_of_mem (List.mem_range.mpr hindex)
  | _ => cases hparameter

theorem addUnless_any {superfluous : Check → Bool} {check : Check}
    (hcheck : ∀ context, superfluous (check.stamp context) = true)
    (h : addUnless superfluous check s member = .ok t) : (t.of member).any superfluous = true := by
  unfold addUnless at h
  split at h
  · next hany =>
    cases h
    exact hany
  · have hentry : s.applyEntry ⟨member, false, false, [check]⟩ = .ok t := h
    obtain ⟨context, hplace⟩ := applyEntry_placed hentry
    rw [ClassChecks.of, (applyEntry_applied hentry).registered]
    simp [Entry.list, Entry.registered, hplace, Registered.untracked, Registered.stamp, hcheck]

theorem foldlM_addUnless_any {superfluous : Check → Bool} {check : Check} {members : List Member}
    (hcheck : ∀ context, superfluous (check.stamp context) = true)
    (h : members.foldlM (addUnless superfluous check) s = .ok t) (hmember : member ∈ members) :
    (t.of member).any superfluous = true := by
  induction members generalizing s with
  | nil => cases hmember
  | cons first rest ih =>
    rw [List.foldlM_cons] at h
    obtain ⟨middle, hfirst, hrest⟩ := bind_ok.mp h
    rcases List.mem_cons.mp hmember with rfl | hmember
    · have hgrown : Grown (fun _ _ => True) middle t :=
        .of_foldlM (fun _ _ _ _ _ h => .of_addUnless h trivial) hrest
      obtain ⟨derived, hof, -⟩ := hgrown.of_member member
      rw [hof, List.any_append, addUnless_any hcheck hfirst, Bool.true_or]
    · exact ih hrest hmember

/-- With the switch on, every parameter has a check of null. -/
theorem derive_notNull (h : s.derive = .ok t) (hon : t.flags.parametersNotNull = true)
    (hmember : member ∈ parameterMembers t.cls) : (t.of member).any isNotNull = true := by
  have hframe := derive_frame h
  obtain ⟨a, b, hsetters, hconstructors, hparameters⟩ := derive_ok.mp h
  rw [← hframe.flags, if_pos hon] at hparameters
  have hgrown : Grown (fun _ _ => True) b t :=
    .of_foldlM (fun _ _ _ _ _ h => .of_addUnless h trivial) hparameters
  exact foldlM_addUnless_any (fun _ => rfl) hparameters (hgrown.cls ▸ hmember)

theorem isNotNull_iff {check : Check} : isNotNull check = true ↔ check.kind = .notNull := by
  unfold isNotNull
  split
  · next hkind => simp [hkind]
  · next hkind => simpa using hkind

/-- A check of null that passes over null is not one of those that are derived. -/
theorem compile_passesOver {configurers : List Configurer} (h : compile c configurers = .ok t)
    (hcheck : check ∈ t.of member) (hkind : check.kind = .notNull)
    (hpasses : check.PassesOver languages owner declared store) :
    ∃ configurer ∈ configurers, ∃ given, configurer.Gives c member given ∧ given.kind = .notNull := by
  obtain ⟨s, hconfigured, hderive⟩ := compile_ok.mp h
  obtain ⟨derived, hof, hderived⟩ := (derive_grown hderive).of_member member
  rw [hof] at hcheck
  rcases List.mem_append.mp hcheck with hcheck | hcheck
  · obtain ⟨settings, entries, happlied, hsaid⟩ := configured_applied hconfigured
    obtain ⟨r, hr, rfl⟩ := List.mem_map.mp hcheck
    rw [happlied.registered] at hr
    obtain ⟨e, he, hmember, given, hgiven, context, rfl⟩ :=
      (Entry.mem_lists hr).resolve_left List.not_mem_nil
    obtain ⟨-, configurer, hconfigurer, config, hconfig, hentry⟩ := hsaid e he
    exact ⟨configurer, hconfigurer, given, ⟨config, hconfig, e, hentry, hmember, hgiven⟩, hkind⟩
  · obtain ⟨plain, context, hwanted, -, rfl⟩ := hderived check hcheck
    cases hwanted with
    | setter => cases hkind
    | constructor => cases hkind
    | notNull =>
      cases hpasses with
      | inactive hcondition => cases hcondition
      | elsewhere path htarget => cases htarget
      | contents _ _ htargets => cases htargets

end ClassChecks

-- ---------------------------------------------------------------------------
-- Calls
-- ---------------------------------------------------------------------------

/-- A class whose parameters may not be null, as it has been compiled, with all profiles enabled. -/
structure Validator.Strict (v : Validator) (c : Class) (compiled : ClassChecks) : Prop where
  compiles : ClassChecks.compile c v.configurers = .ok compiled
  checks : (v.checksOf c).1 = .ok compiled
  notNull : compiled.flags.parametersNotNull = true
  enabled : ∀ profile, v.profiles.isEnabled profile = true

/-- Whether checks of null are configured for a parameter and each of the checks of null that it has passes
over null, with the store that there is when the call comes to it. That depends on the checks of the
parameter in front of it. -/
structure Validator.Lenient (v : Validator) (c : Class) (compiled : ClassChecks) (member : Member)
    (owner : Option Object) (declared : Kind) (storeBehind : List Check → Store) : Prop where
  configured : ∃ configurer ∈ v.configurers, ∃ check, configurer.Gives c member check ∧
    check.kind = .notNull
  passing : ∀ front check back, compiled.of member = front ++ check :: back → check.kind = .notNull →
    check.PassesOver v.languages owner declared (storeBehind front)

/-- The store of a call that validates arguments, behind the first checks of the argument at a place. -/
def Validator.storeBehind (v : Validator) (env : Environment) (depth : Nat) (owner : Option Object)
    (store : Store) (c : Class) (arguments : List (Member × Site)) (place : Nat) (checks : List Check) :
    Store :=
  ((stepsBefore c arguments place checks env (Nested.ofDepth env depth)).exec (v.start owner store)).2.store

/-- The arguments of a method, each with the parameter it is for. -/
def Method.argumentSites (m : Method) (c : Class) (o : Object) (method : String) (args : List Value) :
    List (Member × Site) :=
  ObjectConstraints.argumentSites (.parameter method args.length)
    (fun index p arg => ⟨some o, arg, p.kind, .parameter c.name method index p.name⟩) m.parameters args

/-- The arguments of a constructor, each with the parameter it is for. -/
def Class.argumentSites (c : Class) (constructor : Nat) (parameters : List Parameter) (args : List Value) :
    List (Member × Site) :=
  ObjectConstraints.argumentSites (.constructorParameter constructor)
    (fun index p arg => ⟨none, arg, p.kind, .constructorParameter c.name index p.name⟩) parameters args

namespace Validator.Strict

variable {v : Validator} {c : Class} {compiled : ClassChecks}

theorem steps_null (h : v.Strict c compiled) {depth : Nat} {members : List (Member × Site)}
    {env : Environment} (henv : env = v.environment world none scope)
    (hrun : (memberSteps c members env (Nested.ofDepth env depth)).exec (v.start owner store) =
      (.ok report, s'))
    (hmember : members[place]? = some (member, site)) (hnull : site.value = .null)
    (hparameter : member.IsParameter) (hhas : c.Has member) :
    TellsNull site.owner site.context report ∨ v.Lenient c compiled member site.owner site.declared
      (v.storeBehind env depth owner store c members place) := by
  subst henv
  obtain ⟨s, -, hderive⟩ := ClassChecks.compile_ok.mp h.compiles
  have hcls : compiled.cls = c := ClassChecks.compile_cls h.compiles
  have hany : (compiled.of member).any ClassChecks.isNotNull = true :=
    ClassChecks.derive_notNull hderive h.notNull (hcls ▸ ClassChecks.mem_parameterMembers hparameter hhas)
  by_cases hall : ∀ front check back, compiled.of member = front ++ check :: back → check.kind = .notNull →
    check.PassesOver v.languages site.owner site.declared (v.storeBehind
      (v.environment world none scope) depth owner store c members place front)
  · obtain ⟨check, hcheck, hnotNull⟩ := List.any_eq_true.mp hany
    have hkind := ClassChecks.isNotNull_iff.mp hnotNull
    obtain ⟨front, back, hsplit⟩ := List.append_of_mem hcheck
    have hpasses := hall front check back hsplit hkind
    exact .inr ⟨ClassChecks.compile_passesOver h.compiles hcheck hkind hpasses, hall⟩
  · push Not at hall
    obtain ⟨front, check, back, hsplit, hkind, hlooks⟩ := hall
    obtain ⟨own, s₂, happlied, hown⟩ := memberSteps_applies hrun h.checks hmember hsplit
    have hactive := Profiles.isAnyEnabled_of_all h.enabled check.profiles
    have hreported := applyCheck_null hkind hnull hactive happlied
    obtain ⟨violation, hviolation, htells⟩ := hreported.resolve_left hlooks
    exact .inl ⟨violation, hown hviolation, htells⟩

theorem perform_ok {target : String} {run : Run (List Violation)}
    (h : (v.perform owner target run store).1 = .ok report) :
    ∃ s', run.exec (v.start owner store) = (.ok report, s') := by
  have hresult : (run.exec (v.start owner store)).1.mapError (Stop.wrap target) = .ok report := h
  exact ⟨_, Prod.ext (Run.mapError_ok.mp hresult) rfl⟩

/-- Null that is given for a parameter is reported, unless checks of null are configured for the
parameter and each of those that it has passes over null when the call comes to it. -/
theorem null_reported (h : v.Strict c compiled) :
    (∀ world depth o method m args index p store report,
      o.cls.findMethod? method args.length = some (c, m) → m.parameters[index]? = some p →
      args[index]? = some .null →
      (v.validateArguments world depth o method args store).1 = .ok report →
      TellsNull (some o) (.parameter c.name method index p.name) report ∨
        v.Lenient c compiled (.parameter method args.length index) (some o) p.kind
          (v.storeBehind (v.environment world none none) depth (some o) store c
            (m.argumentSites c o method args) index)) ∧
    ∀ world depth constructor parameters args index p store report,
      c.constructor? constructor = some parameters → parameters[index]? = some p →
      args[index]? = some .null →
      (v.validateConstruction world depth c constructor args store).1 = .ok report →
      TellsNull none (.constructorParameter c.name index p.name) report ∨
        v.Lenient c compiled (.constructorParameter constructor index) none p.kind
          (v.storeBehind (v.environment world none (some c)) depth none store c
            (c.argumentSites constructor parameters args) index) := by
  constructor
  · intro world depth o method m args index p store report hmethod hp harg hrun
    simp only [Validator.validateArguments, hmethod, applyParameters_eq] at hrun
    obtain ⟨s', hsteps⟩ := perform_ok hrun
    have hhas : c.Has (.parameter method args.length index) := by
      obtain ⟨level, -, hlevel⟩ := List.exists_of_findSome?_eq_some hmethod
      obtain ⟨declared, hdeclared, hpair⟩ := Option.map_eq_some_iff.mp hlevel
      cases hpair
      exact Class.has_parameter.mpr ⟨m, hdeclared, (List.getElem?_eq_some_iff.mp hp).1⟩
    exact h.steps_null rfl hsteps (argumentSites_at hp harg) rfl trivial hhas
  · intro world depth constructor parameters args index p store report hconstructor hp harg hrun
    simp only [Validator.validateConstruction, hconstructor, applyParameters_eq] at hrun
    split at hrun
    · cases hrun
    · obtain ⟨s', hsteps⟩ := perform_ok hrun
      have hhas : c.Has (.constructorParameter constructor index) :=
        Class.has_constructorParameter.mpr ⟨parameters, hconstructor, (List.getElem?_eq_some_iff.mp hp).1⟩
      exact h.steps_null rfl hsteps (argumentSites_at hp harg) rfl trivial hhas

/-- A class with methods and constructors that take one parameter each. -/
def door : Class where
  id := 0
  name := "Door"
  superclass := none
  interfaces := []
  isInterface := false
  fields := []
  methods := [
    ⟨"open", [⟨some "key", .any⟩], none, false, false⟩,
    ⟨"close", [⟨some "key", .any⟩], none, false, false⟩,
    ⟨"lock", [⟨some "key", .any⟩], none, false, false⟩]
  constructors := [[⟨some "key", .collection⟩], [⟨some "key", .any⟩]]

/-- A check of null that counts while nothing has been made. -/
def unmadeCheck : Check := { kind := .notNull, condition := some ⟨"store", "unmade"⟩ }

/-- A source of configuration that turns the switch on and has a check of null for the owner of the key,
one that depends on the store, and one for what a collection of keys holds. -/
def doorSource : Configurer :=
  (({} : ConfigTable).addClass {
    className := "Door"
    flags := { parametersNotNull := some true }
    methods := [
      { name := "open"
        arity := 1
        parameters := [{ checks := [{ kind := .notNull, target := some "owner" }] }] },
      { name := "lock", arity := 1, parameters := [{ checks := [unmadeCheck] }] }]
    constructors := [{
      index := 0
      parameters := [{ checks := [{ kind := .notNull, explicitTargets := some .onlyValues }] }] }] }).configurer

def doorValidator : Validator where
  configurers := [doorSource]
  languages := ⟨[("store", fun _ _ _ store => .ok (store.made == 0))]⟩

theorem door_strict : ∃ compiled, doorValidator.Strict door compiled ∧
    compiled.of (.parameter "lock" 1 0) = [unmadeCheck.stamp (.parameter "Door" "lock" 0 (some "key"))] :=
  ⟨_, ⟨rfl, rfl, rfl, fun _ => rfl⟩, rfl⟩

theorem door_reports :
    (doorValidator.validateArguments stillWorld 0 ⟨0, door⟩ "close" [.null] {}).1.toOption.map
        List.length = some 1 ∧
      (doorValidator.validateArguments stillWorld 0 ⟨0, door⟩ "lock" [.null] {}).1.toOption.map
        List.length = some 1 ∧
      (doorValidator.validateConstruction stillWorld 0 door 1 [.null] {}).1.toOption.map
        List.length = some 1 := by
  decide +kernel

/-- What is configured for one method and constructor does not keep null from being reported by others,
and a condition does not where it holds. -/
theorem null_reported_door : ∃ compiled, doorValidator.Strict door compiled ∧
    (∃ report, (doorValidator.validateArguments stillWorld 0 ⟨0, door⟩ "close" [.null] {}).1 = .ok report ∧
      TellsNull (some ⟨0, door⟩) (.parameter "Door" "close" 0 (some "key")) report) ∧
    (∃ report, (doorValidator.validateArguments stillWorld 0 ⟨0, door⟩ "lock" [.null] {}).1 = .ok report ∧
      TellsNull (some ⟨0, door⟩) (.parameter "Door" "lock" 0 (some "key")) report) ∧
    ∃ report, (doorValidator.validateConstruction stillWorld 0 door 1 [.null] {}).1 = .ok report ∧
      TellsNull none (.constructorParameter "Door" 0 (some "key")) report := by
  obtain ⟨compiled, h, hlock⟩ := door_strict
  have hconfigured {member : Member} {owner : Option Object} {declared : Kind}
      {stores : List Check → Store} (hlenient : doorValidator.Lenient door compiled member owner declared stores) :
      member ∈ [.parameter "open" 1 0, .parameter "lock" 1 0, .constructorParameter 0 0] := by
    obtain ⟨⟨configurer, hconfigurer, check, ⟨config, hconfig, entry, hentry, rfl, -⟩, -⟩, -⟩ := hlenient
    obtain rfl := List.mem_singleton.mp hconfigurer
    cases hconfig
    exact List.mem_map_of_mem (f := Entry.member) hentry
  obtain ⟨hmethods, hconstructors⟩ := h.null_reported
  obtain ⟨closed, hclosed, -⟩ := Run.toOption_map_eq_some.mp door_reports.1
  obtain ⟨locked, hlocked, -⟩ := Run.toOption_map_eq_some.mp door_reports.2.1
  obtain ⟨constructed, hconstructed, -⟩ := Run.toOption_map_eq_some.mp door_reports.2.2
  refine ⟨compiled, h, ⟨closed, hclosed, ?_⟩, ⟨locked, hlocked, ?_⟩, constructed, hconstructed, ?_⟩
  · have htells := hmethods stillWorld 0 ⟨0, door⟩ "close" _ [.null] 0 _ {} _ rfl rfl rfl hclosed
    exact htells.resolve_right fun hlenient => absurd (hconfigured hlenient) (by decide)
  · have htells := hmethods stillWorld 0 ⟨0, door⟩ "lock" _ [.null] 0 _ {} _ rfl rfl rfl hlocked
    refine htells.resolve_right fun hlenient => ?_
    cases hlenient.passing [] _ [] hlock rfl with
    | inactive hcondition => cases hcondition
    | elsewhere _ htarget => cases htarget
    | contents _ hcontainer => cases hcontainer
  · have htells := hconstructors stillWorld 0 1 _ [.null] 0 _ {} _ rfl rfl rfl hconstructed
    exact htells.resolve_right fun hlenient => absurd (hconfigured hlenient) (by decide)

/-- Null is not reported where the only check of null looks at something inside of the argument, has a
condition that does not hold, or looks at what a container holds. -/
theorem null_unreported_door : ∃ compiled, doorValidator.Strict door compiled ∧
    (∃ report, (doorValidator.validateArguments stillWorld 0 ⟨0, door⟩ "open" [.null] {}).1 = .ok report ∧
      ¬ TellsNull (some ⟨0, door⟩) (.parameter "Door" "open" 0 (some "key")) report) ∧
    (∃ report,
      (doorValidator.validateArguments stillWorld 0 ⟨0, door⟩ "lock" [.null] { made := 1 }).1 = .ok report ∧
      ¬ TellsNull (some ⟨0, door⟩) (.parameter "Door" "lock" 0 (some "key")) report) ∧
    ∃ report, (doorValidator.validateConstruction stillWorld 0 door 0 [.null] {}).1 = .ok report ∧
      ¬ TellsNull none (.constructorParameter "Door" 0 (some "key")) report := by
  obtain ⟨compiled, h, -⟩ := door_strict
  have hnone {owner : Option Object} {context : Context} : ¬ TellsNull owner context [] := by
    rintro ⟨_, hviolation, -⟩
    cases hviolation
  exact ⟨compiled, h, ⟨[], rfl, hnone⟩, ⟨[], rfl, hnone⟩, [], rfl, hnone⟩

end Validator.Strict

end ObjectConstraints
