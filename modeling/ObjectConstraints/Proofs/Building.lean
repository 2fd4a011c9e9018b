import ObjectConstraints.Proofs.BuilderCalls

/-!
# Building a configuration and registering checks

Compiling what a builder has built registers the checks of its calls by kind of member, and each member
at once. They come out as if each call had registered its own checks (`ClassChecks.compile_built`): both
ways put the same checks behind each other for every member, and note the same members
(`ClassChecks.Given`).
-/

namespace ObjectConstraints

theorem Class.declaresGetter_unique {c : Class} {name : String}
    (h : c.DeclaresGetter first name) (h' : c.DeclaresGetter second name) : first = second := by
  obtain ⟨m, hm, -, rfl⟩ := h
  obtain ⟨m', hm', -, rfl⟩ := h'
  rw [hm] at hm'
  cases hm'
  rfl

-- ---------------------------------------------------------------------------
-- What is registered
-- ---------------------------------------------------------------------------

/-- The checks of a class after calls have registered theirs one by one, with consecutive tickets. -/
def BuilderCall.register : Nat → List BuilderCall → ClassChecks → Except ConfigError ClassChecks
  | _, [], checks => .ok checks
  | ticket, call :: rest, checks => do
    let (_, checks) ← checks.add call.member call.isInvariant (Registered.numbered ticket call.checks)
    register (ticket + call.checks.length) rest checks

namespace ClassChecks

variable {s t u : ClassChecks} {calls : List BuilderCall}

/-- The checks of a class with those of calls behind them. -/
structure Given (calls : List BuilderCall) (s t : ClassChecks) : Prop where
  cls : t.cls = s.cls
  flags : t.flags = s.flags
  of : ∀ member context, s.cls.place member = .ok context →
    t.of member = s.of member ++ (BuilderCall.given member calls).map (·.stamp context)
  getters : ∀ getter, getter ∈ t.getterNames.1 ++ t.getterNames.2 ↔
    getter ∈ s.getterNames.1 ++ s.getterNames.2 ∨
      ∃ call ∈ calls, call.member = .result getter 0 ∧ call.isInvariant = true

theorem Given.nil (s : ClassChecks) : Given [] s s := ⟨rfl, rfl, by simp [BuilderCall.given], by simp⟩

theorem Given.append {first second : List BuilderCall} (h : Given first s t) (h' : Given second t u) :
    Given (first ++ second) s u where
  cls := h'.cls.trans h.cls
  flags := h'.flags.trans h.flags
  of member context hplace := by
    rw [h'.of member context (h.cls ▸ hplace), h.of member context hplace]
    simp [BuilderCall.given]
  getters getter := by
    rw [h'.getters, h.getters]
    simp only [List.mem_append, or_and_right, exists_or, or_assoc]

theorem mem_getterNames {getter : String} :
    getter ∈ s.getterNames.1 ++ s.getterNames.2 ↔ ∃ isStatic, getter ∈ s.notedGetters isStatic := by
  rw [List.mem_append, Bool.exists_bool]
  rfl

theorem add_cls (h : s.add member isInvariant added = .ok (stamped, t)) : t.cls = s.cls := by
  obtain ⟨context, -, -, ⟨-, rfl⟩ | ⟨-, rfl⟩⟩ := add_ok h
  · rfl
  · exact (rememberMember_cls ..).1

theorem stamp_numbered (context : Context) (ticket : Nat) (checks : List Check) :
    ((Registered.numbered ticket checks).map (·.stamp context)).map (·.check) =
      checks.map (·.stamp context) := by
  induction checks generalizing ticket with
  | nil => rfl
  | cons check rest ih =>
    simp only [Registered.numbered, List.map_cons, ih]
    rfl

theorem checkInvariant_call (s : ClassChecks) (call : BuilderCall) :
    s.checkInvariant call.isInvariant call.member = .ok () := by
  rcases call with _ | _ | ⟨_, _ | _⟩ | _ | _ | _ <;> rfl

theorem add_isOk (hplace : s.cls.place member = .ok context)
    (hinvariant : s.checkInvariant isInvariant member = .ok ()) (added : List Registered) :
    ∃ result, s.add member isInvariant added = .ok result := by
  simp only [add, hplace, hinvariant]
  cases added with
  | nil => exact ⟨_, rfl⟩
  | cons first rest => exact ⟨_, rfl⟩

theorem add_given {call : BuilderCall} (hchecks : call.checks ≠ []) {ticket : Nat}
    (h : s.add call.member call.isInvariant (Registered.numbered ticket call.checks) = .ok (stamped, t)) :
    Given [call] s t := by
  have hadded : Registered.numbered ticket call.checks ≠ [] := by
    cases hsome : call.checks with
    | nil => exact absurd hsome hchecks
    | cons check rest => exact List.cons_ne_nil _ _
  obtain ⟨context, hplace, -, ⟨hnone, -⟩ | ⟨-, rfl⟩⟩ := add_ok h
  · exact absurd hnone hadded
  refine ⟨(rememberMember_cls ..).1, (rememberMember_cls ..).2.1, fun member other hother => ?_,
    fun getter => ?_⟩
  · rw [ClassChecks.of, registered_rememberMember, registered_insert]
    by_cases hmember : call.member = member
    · obtain rfl := hmember
      rw [hplace] at hother
      cases hother
      have hstamped := stamp_numbered context ticket call.checks
      simp [BuilderCall.given, ClassChecks.of, hstamped]
    · simp [BuilderCall.given, ClassChecks.of, hmember]
  · simp only [mem_getterNames, mem_notedGetters_remember]
    constructor
    · rintro ⟨isStatic, hold | ⟨hinvariant, arity, hmember, -⟩⟩
      · exact .inl ⟨isStatic, hold⟩
      · obtain ⟨name, hname⟩ := call.arity_of_isInvariant hinvariant
        rw [hmember] at hname
        cases hname
        exact .inr ⟨call, List.mem_singleton_self call, hmember, hinvariant⟩
    · rintro (⟨isStatic, hold⟩ | ⟨other, hother, hmember, hinvariant⟩)
      · exact ⟨isStatic, .inl hold⟩
      · obtain rfl := List.mem_singleton.mp hother
        exact ⟨_, .inr ⟨hinvariant, 0, hmember, rfl⟩⟩

/-- Calls that are not refused put their checks behind those there are. -/
theorem register_given {ticket : Nat} (hcalls : ∀ call ∈ calls, call.checks ≠ [])
    (h : BuilderCall.register ticket calls s = .ok t) :
    Given calls s t ∧ (s.Consistent → t.Consistent) := by
  induction calls generalizing ticket s with
  | nil =>
    cases h
    exact ⟨.nil _, id⟩
  | cons call rest ih =>
    obtain ⟨⟨stamped, middle⟩, hadd, hrest⟩ := bind_ok.mp h
    obtain ⟨hchecks, hothers⟩ := List.forall_mem_cons.mp hcalls
    obtain ⟨hgiven, hkept⟩ := ih hothers hrest
    exact ⟨(add_given hchecks hadd).append hgiven, fun hs => hkept (hs.add hadd)⟩

theorem register_isOk {ticket : Nat} :
    (∃ t, BuilderCall.register ticket calls s = .ok t) ↔
      ∀ call ∈ calls, ∃ context, s.cls.place call.member = .ok context := by
  induction calls generalizing ticket s with
  | nil => exact ⟨nofun, fun _ => ⟨_, rfl⟩⟩
  | cons call rest ih =>
    rw [List.forall_mem_cons]
    constructor
    · rintro ⟨t, h⟩
      obtain ⟨⟨stamped, middle⟩, hadd, hrest⟩ := bind_ok.mp h
      obtain ⟨context, hplace, -⟩ := add_ok hadd
      have hcls : middle.cls = s.cls := add_cls hadd
      exact ⟨⟨context, hplace⟩, hcls ▸ ih.mp ⟨t, hrest⟩⟩
    · rintro ⟨⟨context, hplace⟩, hothers⟩
      obtain ⟨⟨stamped, middle⟩, hadd⟩ :=
        add_isOk hplace (checkInvariant_call _ call) (Registered.numbered ticket call.checks)
      have hcls : middle.cls = s.cls := add_cls hadd
      obtain ⟨t, hrest⟩ := ih.mpr (hcls ▸ hothers)
      exact ⟨t, bind_ok.mpr ⟨_, hadd, hrest⟩⟩

-- ---------------------------------------------------------------------------
-- What is compiled
-- ---------------------------------------------------------------------------

theorem applyEntry_isOk {entry : Entry} (hplace : s.cls.place entry.member = .ok context)
    (hinvariant : ∀ s : ClassChecks, s.checkInvariant entry.isInvariant entry.member = .ok ()) :
    ∃ t, s.applyEntry entry = .ok t := by
  have hcls : (if entry.overwrite then s.clear entry.member else s).cls = s.cls := by
    split
    · exact (forgetMember_cls ..).1
    · rfl
  obtain ⟨result, hadd⟩ := add_isOk (hcls ▸ hplace) (hinvariant _) (Registered.untracked entry.checks)
  exact ⟨result.2, by rw [applyEntry, addUntracked, hadd]; rfl⟩

theorem foldlM_applyEntry_isOk {entries : List Entry}
    (h : ∀ e ∈ entries, (∃ context, s.cls.place e.member = .ok context) ∧
      ∀ s : ClassChecks, s.checkInvariant e.isInvariant e.member = .ok ()) :
    ∃ t, entries.foldlM applyEntry s = .ok t := by
  induction entries generalizing s with
  | nil => exact ⟨_, rfl⟩
  | cons entry rest ih =>
    obtain ⟨⟨⟨context, hplace⟩, hinvariant⟩, hrest⟩ := List.forall_mem_cons.mp h
    obtain ⟨middle, hentry⟩ := applyEntry_isOk hplace hinvariant
    obtain ⟨t, ht⟩ := ih ((applyEntry_applied hentry).cls ▸ hrest)
    exact ⟨t, by rw [List.foldlM_cons]; exact bind_ok.mpr ⟨middle, hentry, ht⟩⟩

theorem derive_off (h : s.flags = {}) : s.derive = .ok s :=
  derive_ok.mpr ⟨s, s, by rw [h]; rfl, by rw [h]; rfl, by rw [h]; rfl⟩

/-- A source that knows a configuration of a class without switches. -/
theorem compile_single {config : ClassConfig} (hname : config.className = c.name)
    (hflags : config.flags = {}) :
    compile c [(({} : ConfigTable).addClass config).configurer] = .ok t ↔
      config.entries.foldlM applyEntry { cls := c } = .ok t := by
  have hanswer : (({} : ConfigTable).addClass config).configurer.classConfig c = .ok (some config) :=
    congrArg Except.ok (hname ▸ Table.get?_insert_self ..)
  have happly : applyConfigurer { cls := c } (({} : ConfigTable).addClass config).configurer =
      (config.entries.foldlM applyEntry { cls := c }).mapError .configuration := by
    simp only [applyConfigurer, hanswer, applyConfig, hflags]
    rfl
  rw [compile_ok]
  simp only [List.foldlM_cons, List.foldlM_nil, bind_pure, happly, Run.mapError_ok]
  constructor
  · rintro ⟨s, happlied, hderive⟩
    have hoff : s.flags = {} := (foldlM_applied happlied).1.flags
    rw [derive_off hoff] at hderive
    cases hderive
    exact happlied
  · intro happlied
    exact ⟨t, happlied, derive_off (foldlM_applied happlied).1.flags⟩

theorem counting_built (className : String) (hcalls : ∀ call ∈ calls, call.checks ≠ []) (member : Member) :
    counting [BuilderCall.built className calls] member = BuilderCall.mentions member calls := by
  rw [counting, List.flatMap_singleton, (BuilderCall.mentions_built className hcalls).2]
  refine fromLast_of_none (List.any_eq_false.mpr fun mention hmention => ?_)
  simp [(BuilderCall.mem_mentions hmention).1]

/-- Entries of what is built come from calls, and mark the results of getters only. -/
theorem entries_built (className : String) (hcalls : ∀ call ∈ calls, call.checks ≠ []) :
    (∀ e ∈ (BuilderCall.built className calls).entries, (∃ call ∈ calls, call.member = e.member) ∧
      ∀ s : ClassChecks, s.checkInvariant e.isInvariant e.member = .ok ()) ∧
    ∀ call ∈ calls, ∃ e ∈ (BuilderCall.built className calls).entries, e.member = call.member := by
  have hentries (member : Member) : (BuilderCall.built className calls).entries.filter (·.member = member) =
      (BuilderCall.mentions member calls).map (·.entry member) := by
    rw [ClassConfig.filter_entries_member, (BuilderCall.mentions_built className hcalls).2]
  constructor
  · intro e he
    have hown : e ∈ (BuilderCall.mentions e.member calls).map (·.entry e.member) := by
      rw [← hentries]
      exact List.mem_filter.mpr ⟨he, decide_eq_true rfl⟩
    obtain ⟨mention, hmention, hentry⟩ := List.mem_map.mp hown
    obtain ⟨-, -, hcall, hinvariant⟩ := BuilderCall.mem_mentions hmention
    refine ⟨hcall, fun s => ?_⟩
    have hsame : e.isInvariant = mention.isInvariant := hentry ▸ rfl
    cases hmarked : mention.isInvariant with
    | true =>
      obtain ⟨call, -, hmember, hcall⟩ := hinvariant.mp hmarked
      rw [hsame, hmarked, ← hcall, ← hmember]
      exact checkInvariant_call s call
    | false =>
      rw [hsame, hmarked]
      rcases e.member with _ | ⟨_, _ | _⟩ | _ | _ | _ <;> rfl
  · intro call hcall
    obtain ⟨mention, hmention⟩ := List.exists_mem_of_ne_nil _ (BuilderCall.mentions_ne_nil hcall)
    have hown : mention.entry call.member ∈
        (BuilderCall.built className calls).entries.filter (·.member = call.member) := by
      rw [hentries]
      exact List.mem_map_of_mem hmention
    exact ⟨_, (List.mem_filter.mp hown).1, rfl⟩

theorem built_isOk (hcalls : ∀ call ∈ calls, call.checks ≠ []) :
    (∃ t, (BuilderCall.built c.name calls).entries.foldlM applyEntry { cls := c } = .ok t) ↔
      ∀ call ∈ calls, ∃ context, c.place call.member = .ok context := by
  obtain ⟨hentries, hcovered⟩ := entries_built c.name hcalls
  constructor
  · rintro ⟨t, h⟩ call hcall
    obtain ⟨e, he, hmember⟩ := hcovered call hcall
    exact hmember ▸ (foldlM_applied h).2 e he
  · intro hplaced
    refine foldlM_applyEntry_isOk fun e he => ?_
    obtain ⟨⟨call, hcall, hmember⟩, hinvariant⟩ := hentries e he
    exact ⟨hmember ▸ hplaced call hcall, hinvariant⟩

theorem built_given (hcalls : ∀ call ∈ calls, call.checks ≠ [])
    (h : (BuilderCall.built c.name calls).entries.foldlM applyEntry { cls := c } = .ok t) :
    Given calls { cls := c } t := by
  have happlied : Applied {} ([BuilderCall.built c.name calls].flatMap (·.entries)) { cls := c } t := by
    rw [List.flatMap_singleton]
    exact (foldlM_applied h).1
  refine ⟨happlied.cls, happlied.flags, fun member context hplace => ?_, fun getter => ?_⟩
  · rw [configured_of happlied hplace, counting_built c.name hcalls, BuilderCall.flatMap_mentions]
    rfl
  · rw [configured_getters happlied, counting_built c.name hcalls]
    constructor
    · rintro ⟨mention, hmention, hinvariant, -⟩
      obtain ⟨-, -, -, hmarked⟩ := BuilderCall.mem_mentions hmention
      exact .inr (hmarked.mp hinvariant)
    · rintro (hnone | ⟨call, hcall, hmember, hinvariant⟩)
      · cases hnone
      · obtain ⟨mention, hmention⟩ :=
          List.exists_mem_of_ne_nil _ (hmember ▸ BuilderCall.mentions_ne_nil hcall)
        obtain ⟨-, hgiven, -, hmarked⟩ := BuilderCall.mem_mentions hmention
        refine ⟨mention, hmention, hmarked.mpr ⟨call, hcall, hmember, hinvariant⟩, fun hnone => ?_⟩
        rw [hgiven, BuilderCall.given, List.flatMap_eq_nil_iff] at hnone
        exact hcalls call hcall (hnone call (List.mem_filter.mpr ⟨hcall, by simpa using hmember⟩))

section

variable (h : Given calls s t) (h' : Given calls s u) (ht : t.Consistent) (hu : u.Consistent)
include h h' ht hu

theorem Given.of_eq (member : Member) : t.of member = u.of member := by
  cases hplace : s.cls.place member with
  | ok context => rw [h.of member context hplace, h'.of member context hplace]
  | error e =>
    have hnone (v : ClassChecks) (hv : v.Consistent) (hcls : v.cls = s.cls) : v.of member = [] := by
      by_contra hsome
      obtain ⟨context, hcontext⟩ := hv.placed member fun hempty =>
        hsome (by rw [ClassChecks.of, hempty, List.map_nil])
      rw [hcls, hplace] at hcontext
      cases hcontext
    rw [hnone t ht h.cls, hnone u hu h'.cls]

theorem Given.mem_notedFields {isStatic : Bool} {name : String} :
    name ∈ t.notedFields isStatic ↔ name ∈ u.notedFields isStatic := by
  have hlist : t.registered (.field name) ≠ [] ↔ u.registered (.field name) ≠ [] := by
    have hof : t.of (.field name) ≠ [] ↔ u.of (.field name) ≠ [] := by rw [h.of_eq h' ht hu]
    simpa [ClassChecks.of] using hof
  rw [ht.fields, hu.fields, hlist, h.cls, h'.cls]

/-- Getters are noted in the same list, since a class declares a getter as static or not. -/
theorem Given.notedGetters_subset {isStatic : Bool} {name : String} (hname : name ∈ t.notedGetters isStatic) :
    name ∈ u.notedGetters isStatic := by
  have hboth : name ∈ u.getterNames.1 ++ u.getterNames.2 :=
    (h'.getters name).mpr ((h.getters name).mp (mem_getterNames.mpr ⟨isStatic, hname⟩))
  obtain ⟨other, hother⟩ := mem_getterNames.mp hboth
  have hdeclared := (ht.getters isStatic name hname).1
  have hdeclared' := (hu.getters other name hother).1
  rw [h.cls] at hdeclared
  rw [h'.cls] at hdeclared'
  exact Class.declaresGetter_unique hdeclared hdeclared' ▸ hother

theorem Given.mem_notedGetters {isStatic : Bool} {name : String} :
    name ∈ t.notedGetters isStatic ↔ name ∈ u.notedGetters isStatic :=
  ⟨h.notedGetters_subset h' ht hu, h'.notedGetters_subset h hu ht⟩

end

/-- Compiling a class from what a sequence of calls has built succeeds if the calls succeed in
registering their checks one by one, and comes to the same: the same checks in the same order for each
member, with the same contexts, and the same noted fields and getters. -/
theorem compile_built (c : Class) (calls : List BuilderCall) (ticket : Nat)
    (hcalls : ∀ call ∈ calls, call.checks ≠ []) :
    let source := (({} : ConfigTable).addClass (BuilderCall.built c.name calls)).configurer
    ((∃ compiled, compile c [source] = .ok compiled) ↔
      ∃ direct, BuilderCall.register ticket calls { cls := c } = .ok direct) ∧
    ∀ compiled direct, compile c [source] = .ok compiled →
      BuilderCall.register ticket calls { cls := c } = .ok direct →
        compiled.cls = direct.cls ∧ compiled.flags = direct.flags ∧
        (∀ member, compiled.of member = direct.of member) ∧
        ∀ isStatic name, (name ∈ compiled.notedFields isStatic ↔ name ∈ direct.notedFields isStatic) ∧
          (name ∈ compiled.notedGetters isStatic ↔ name ∈ direct.notedGetters isStatic) := by
  intro source
  have hsingle (t : ClassChecks) : compile c [source] = .ok t ↔
      (BuilderCall.built c.name calls).entries.foldlM applyEntry { cls := c } = .ok t :=
    compile_single (BuilderCall.built_frame c.name calls).1 (BuilderCall.built_frame c.name calls).2
  refine ⟨?_, fun compiled direct hcompiled hdirect => ?_⟩
  · simp only [hsingle, built_isOk hcalls, register_isOk]
  · have hbuilt := built_given hcalls ((hsingle compiled).mp hcompiled)
    obtain ⟨hregistered, hkept⟩ := register_given hcalls hdirect
    have hleft := compile_consistent hcompiled
    have hright := hkept (.empty c)
    exact ⟨hbuilt.cls.trans hregistered.cls.symm, hbuilt.flags.trans hregistered.flags.symm,
      hbuilt.of_eq hregistered hleft hright, fun isStatic name =>
        ⟨hbuilt.mem_notedFields hregistered hleft hright,
          hbuilt.mem_notedGetters hregistered hleft hright⟩⟩

/-- Calls for squads: checks of the captain in two calls with an invariant in between, whose getter has
been given a check before. -/
def squadCalls : List BuilderCall :=
  [.field "captain" [{ kind := .notNull }], .result "isReady" 0 [{ kind := .notNull }],
    .invariant "isReady" [{ kind := .assertTrue }], .parameter "setCaptain" 1 0 [{ kind := .notBlank }],
    .field "captain" [{ kind := .maxLength 3 }]]

theorem compile_built_squad :
    (∀ call ∈ squadCalls, call.checks ≠ []) ∧
      ∃ compiled direct,
        compile squad [(({} : ConfigTable).addClass (BuilderCall.built "Squad" squadCalls)).configurer] =
          .ok compiled ∧
        BuilderCall.register 0 squadCalls { cls := squad } = .ok direct ∧
        compiled.of (.field "captain") = direct.of (.field "captain") ∧
        (direct.of (.field "captain")).map (·.kind) = [.notNull, .maxLength 3] ∧
        "isReady" ∈ compiled.notedGetters false := by
  have hcalls : ∀ call ∈ squadCalls, call.checks ≠ [] := by
    simp [squadCalls, BuilderCall.checks]
  obtain ⟨-, hsame⟩ := compile_built squad squadCalls 0 hcalls
  obtain ⟨-, -, hof, hnoted⟩ := hsame _ _ rfl rfl
  exact ⟨hcalls, _, _, rfl, rfl, hof _, rfl, (hnoted false "isReady").2.mpr (by decide)⟩

end ClassChecks

end ObjectConstraints
