import ObjectConstraints.Proofs.Deriving

/-!
# What overwriting means

The checks that the sources of configuration give a member are those of its sections, in order, from
the last section that overwrites on. Switches are as they were set last, and a getter is an invariant
if a section says so that has not been overwritten (`compile_explicit`).
-/

namespace ObjectConstraints

-- ---------------------------------------------------------------------------
-- From the last one on
-- ---------------------------------------------------------------------------

/-- The elements of a list from the last one on that satisfies a condition; all if none does. -/
def fromLast {α : Type} (p : α → Bool) : List α → List α
  | [] => []
  | a :: rest => if rest.any p then fromLast p rest else a :: rest

section

variable {α β : Type} {p : α → Bool}

theorem fromLast_of_none {l : List α} (h : l.any p = false) : fromLast p l = l := by
  cases l with
  | nil => rfl
  | cons a rest =>
    rw [List.any_cons, Bool.or_eq_false_iff] at h
    rw [fromLast, if_neg (by simp [h.2])]

theorem fromLast_split {a : α} {front back : List α} (ha : p a = true) (hback : back.any p = false) :
    fromLast p (front ++ a :: back) = a :: back := by
  induction front with
  | nil => rw [List.nil_append, fromLast, if_neg (by simp [hback])]
  | cons b rest ih => rw [List.cons_append, fromLast, if_pos (by simp [ha]), ih]

theorem fromLast_map (f : β → α) (l : List β) :
    fromLast p (l.map f) = (fromLast (fun b => p (f b)) l).map f := by
  induction l with
  | nil => rfl
  | cons b rest ih =>
    have hany : (rest.map f).any p = rest.any fun b => p (f b) := List.any_map
    rw [List.map_cons, fromLast, fromLast, hany, ih]
    split <;> rfl

/-- What is gathered when some elements drop all there was before. -/
theorem foldl_fromLast (g : α → List β) (l : List α) (before : List β) :
    l.foldl (fun gathered a => (if p a then [] else gathered) ++ g a) before =
      (if l.any p then [] else before) ++ (fromLast p l).flatMap g := by
  induction l generalizing before with
  | nil => simp [fromLast]
  | cons a rest ih =>
    rw [List.foldl_cons, ih, List.any_cons]
    cases hrest : rest.any p with
    | true => simp [fromLast, hrest]
    | false =>
      rw [fromLast_of_none hrest]
      simp [fromLast, hrest]

end

-- ---------------------------------------------------------------------------
-- What sections say of a member
-- ---------------------------------------------------------------------------

/-- What a section says of a member: its checks, whether they are for an invariant, and what the
section, the method or constructor around it and the class say about overwriting. -/
structure Mention where
  checks : List Check
  isInvariant : Bool := false
  own : Option Bool
  outer : Option Bool := none
  ofClass : Option Bool

namespace Mention

/-- The innermost that says anything decides. -/
def overwrites (mention : Mention) : Bool :=
  ((mention.own.or mention.outer).or mention.ofClass).getD false

def entry (member : Member) (mention : Mention) : Entry where
  member := member
  isInvariant := mention.isInvariant
  overwrite := mention.overwrites
  checks := mention.checks

end Mention

namespace ClassConfig

variable (config : ClassConfig)

/-- What a parameter section says. One without checks that leaves open whether it overwrites says
nothing. -/
def parameterMention? (outer : Option Bool) (part : Section) : Option Mention :=
  if part.checks.isEmpty && part.overwrite.isNone then none
  else some { checks := part.checks, own := part.overwrite, outer, ofClass := config.overwrite }

/-- What a configuration says of a member, in the order of its sections. -/
def mentions : Member → List Mention
  | .field name => (config.fields.filter (·.name = name)).map fun field =>
    { checks := field.checks, own := field.overwrite, ofClass := config.overwrite }
  | .result method arity =>
    (config.methods.filter fun m => m.name = method ∧ m.arity = arity).flatMap fun m =>
      m.result.toList.map fun part =>
        { checks := part.checks
          isInvariant := m.isInvariant
          own := part.overwrite
          outer := m.overwrite
          ofClass := config.overwrite }
  | .parameter method arity index =>
    (config.methods.filter fun m => m.name = method ∧ m.arity = arity).flatMap fun m =>
      (m.parameters[index]?.bind (config.parameterMention? m.overwrite)).toList
  | .constructorParameter constructor index =>
    (config.constructors.filter (·.index = constructor)).flatMap fun c =>
      (c.parameters[index]?.bind (config.parameterMention? c.overwrite)).toList
  | .object => config.object.toList.map fun part =>
    { checks := part.checks, own := part.overwrite, ofClass := config.overwrite }

theorem filter_flatMap_of {α β : Type} {p : β → Bool} {q : α → Bool} {f g : α → List β} (l : List α)
    (hin : ∀ a, q a = true → (f a).filter p = g a) (hout : ∀ a, q a = false → (f a).filter p = []) :
    (l.flatMap f).filter p = (l.filter q).flatMap g := by
  induction l with
  | nil => rfl
  | cons a rest ih =>
    rw [List.flatMap_cons, List.filter_append, ih, List.filter_cons]
    split
    · next hq => rw [hin a hq, List.flatMap_cons]
    · next hq => rw [hout a (by simpa using hq), List.nil_append]

theorem filterMap_zipIdx_at {α β : Type} (f : α → Option β) (l : List α) (offset index : Nat) :
    (l.zipIdx offset).filterMap (fun a => if a.2 = index + offset then f a.1 else none) =
      (l[index]?.bind f).toList := by
  induction l generalizing offset index with
  | nil => rfl
  | cons a rest ih =>
    rw [List.zipIdx_cons]
    cases index with
    | zero =>
      have hrest : (rest.zipIdx (offset + 1)).filterMap
          (fun a => if a.2 = 0 + offset then f a.1 else none) = [] := by
        refine List.filterMap_eq_nil_iff.mpr fun b hb => if_neg ?_
        have := List.le_snd_of_mem_zipIdx hb
        omega
      rw [List.filterMap_cons, hrest]
      cases h : f a <;> simp [h]
    | succ index =>
      have hne : ¬ offset = index + 1 + offset := by omega
      have hshift : index + 1 + offset = index + (offset + 1) := by omega
      rw [List.filterMap_cons, if_neg hne, List.getElem?_cons_succ, ← ih (offset + 1), hshift]

theorem parameterEntries_eq (member : Nat → Member) (outer : Option Bool) (parameters : List Section) :
    config.parameterEntries member outer parameters = parameters.zipIdx.filterMap fun part =>
      (config.parameterMention? outer part.1).map (·.entry (member part.2)) := by
  refine List.filterMap_congr fun (part, index) _ => ?_
  simp only [parameterMention?]
  cases part.checks.isEmpty && part.overwrite.isNone <;> rfl

theorem filter_parameterEntries {member : Nat → Member} (hmember : ∀ i j, member i = member j → i = j)
    (outer : Option Bool) (parameters : List Section) (index : Nat) :
    (config.parameterEntries member outer parameters).filter (·.member = member index) =
      (parameters[index]?.bind (config.parameterMention? outer)).toList.map
        (·.entry (member index)) := by
  have hpart : ∀ part : Section × Nat,
      ((config.parameterMention? outer part.1).map (·.entry (member part.2))).filter
          (·.member = member index) =
        if part.2 = index + 0 then
          (config.parameterMention? outer part.1).map (·.entry (member index))
        else none := by
    intro part
    cases config.parameterMention? outer part.1 with
    | none => simp
    | some mention =>
      have hiff : member part.2 = member index ↔ part.2 = index := ⟨hmember _ _, congrArg member⟩
      by_cases h : part.2 = index <;> simp [Mention.entry, Option.filter, hiff, h]
  rw [parameterEntries_eq, List.filter_filterMap]
  simp only [hpart]
  rw [filterMap_zipIdx_at (fun part => (config.parameterMention? outer part).map (·.entry (member index)))]
  cases parameters[index]? with
  | none => rfl
  | some part => cases h : config.parameterMention? outer part <;> simp [h]

theorem parameterEntries_other {member : Nat → Member} {other : Member} (hother : ∀ i, member i ≠ other)
    (outer : Option Bool) (parameters : List Section) :
    (config.parameterEntries member outer parameters).filter (·.member = other) = [] := by
  refine List.filter_eq_nil_iff.mpr fun e he => ?_
  rw [parameterEntries_eq] at he
  obtain ⟨part, -, he⟩ := List.mem_filterMap.mp he
  obtain ⟨mention, -, rfl⟩ := Option.map_eq_some_iff.mp he
  exact decide_eq_true_iff.not.mpr (hother part.2)

theorem filter_entries_member (member : Member) :
    config.entries.filter (·.member = member) = (config.mentions member).map (·.entry member) := by
  -- Members of one kind have all their entries in one area.
  have harea : config.entries.filter (·.member = member) =
      (config.areaEntries member.area).filter (·.member = member) := by
    rw [← filter_entries, List.filter_filter]
    refine List.filter_congr fun e _ => ?_
    by_cases h : e.member = member <;> simp [h]
  rw [harea]
  cases member with
  | field name =>
    have hname : (config.fields.map config.fieldEntry).filter (·.member = .field name) =
        (config.fields.filter (·.name = name)).map config.fieldEntry := by
      rw [List.filter_map]
      exact congrArg _ (List.filter_congr fun field _ => by simp [fieldEntry])
    rw [Member.area, areaEntries, hname, mentions, List.map_map]
    refine List.map_congr_left fun field hfield => ?_
    obtain rfl : field.name = name := by simpa using (List.mem_filter.mp hfield).2
    simp [fieldEntry, Mention.entry, Mention.overwrites, overwrites]
  | result method arity =>
    rw [mentions, List.map_flatMap]
    refine filter_flatMap_of config.methods (fun m hm => ?_) (fun m hm => ?_)
    · obtain ⟨rfl, rfl⟩ : m.name = method ∧ m.arity = arity := by simpa using hm
      rw [methodEntries, List.filter_append, parameterEntries_other config (fun i h => by cases h)]
      cases m.result <;> simp [Mention.entry, Mention.overwrites, overwrites]
    · rw [methodEntries, List.filter_append, parameterEntries_other config (fun i h => by cases h)]
      cases m.result <;> simp_all
  | parameter method arity index =>
    rw [mentions, List.map_flatMap]
    refine filter_flatMap_of config.methods (fun m hm => ?_) (fun m hm => ?_)
    · obtain ⟨rfl, rfl⟩ : m.name = method ∧ m.arity = arity := by simpa using hm
      rw [methodEntries, List.filter_append,
        filter_parameterEntries config (fun i j h => by simpa using h)]
      cases m.result <;> simp
    · rw [methodEntries, List.filter_append, parameterEntries_other config (fun i h => by simp_all)]
      cases m.result <;> simp
  | constructorParameter constructor index =>
    rw [mentions, List.map_flatMap]
    refine filter_flatMap_of config.constructors (fun c hc => ?_) (fun c hc => ?_)
    · obtain rfl : c.index = constructor := by simpa using hc
      exact filter_parameterEntries config (fun i j h => by simpa using h) c.overwrite c.parameters index
    · exact parameterEntries_other config (fun i h => by simp_all) c.overwrite c.parameters
  | object =>
    rw [Member.area, areaEntries, mentions]
    cases config.object <;> simp [objectEntry, Mention.entry, Mention.overwrites, overwrites]

end ClassConfig

-- ---------------------------------------------------------------------------
-- What entries come to
-- ---------------------------------------------------------------------------

namespace Entry

variable {c : Class}

theorem foldl_list (entries : List Entry) (member : Member) :
    entries.foldl (fun list e => e.list c member list) [] =
      (fromLast (·.overwrite) (entries.filter (·.member = member))).flatMap (·.registered c) := by
  have hframe : ∀ (list : List Registered) (e : Entry),
      (e.member = member : Bool) = false → e.list c member list = list := by
    intro list e hother
    rw [Entry.list, if_neg (by simpa using hother)]
  have hown : ∀ list, ∀ e ∈ entries.filter (·.member = member),
      e.list c member list = (if e.overwrite then [] else list) ++ e.registered c := by
    intro list e he
    rw [Entry.list, if_pos (by simpa using (List.mem_filter.mp he).2)]
  rw [← Alike.foldl_filter_of_frame hframe, List.foldl_ext _ _ _ hown, foldl_fromLast]
  split <;> rfl

/-- An entry for the result of a getter drops it from the invariants if it overwrites, and puts it
there if it is for an invariant and has checks. -/
theorem mem_noteGetter {entry : Entry} {getter : String} {names : List String × List String} :
    getter ∈ (entry.noteGetter c names).1 ++ (entry.noteGetter c names).2 ↔
      if entry.member = .result getter 0 then
        (entry.overwrite = false ∧ getter ∈ names.1 ++ names.2) ∨
          (entry.isInvariant = true ∧ entry.checks ≠ [])
      else getter ∈ names.1 ++ names.2 := by
  rcases hmember : entry.member with _ | ⟨method, _ | arity⟩ | _ | _ | _
  case result.zero =>
    simp only [noteGetter, hmember, Member.result.injEq, and_true]
    cases hinvariant : entry.isInvariant with
    | true =>
      rw [if_pos rfl, ClassChecks.mem_note]
      by_cases hname : method = getter <;> simp [hname]
    | false =>
      by_cases hname : method = getter
      · cases entry.overwrite <;> simp [hname, ClassChecks.mem_forget]
      · cases entry.overwrite <;> simp [hname, ClassChecks.mem_forget, Ne.symm hname]
  all_goals simp [noteGetter, hmember]

theorem mem_noteGetters (entries : List Entry) (getter : String) (names : List String × List String) :
    let own := entries.filter (·.member = .result getter 0)
    let noted := entries.foldl (fun names e => e.noteGetter c names) names
    getter ∈ noted.1 ++ noted.2 ↔
      (own.any (·.overwrite) = false ∧ getter ∈ names.1 ++ names.2) ∨
        ∃ e ∈ fromLast (·.overwrite) own, e.isInvariant = true ∧ e.checks ≠ [] := by
  induction entries generalizing names with
  | nil => simp [fromLast]
  | cons e rest ih =>
    simp only [List.foldl_cons, ih, mem_noteGetter]
    by_cases hmember : e.member = .result getter 0
    · rw [if_pos hmember, List.filter_cons_of_pos (by simpa using hmember), List.any_cons, fromLast]
      cases hrest : (rest.filter (·.member = .result getter 0)).any (·.overwrite) with
      | true => simp
      | false =>
        rw [fromLast_of_none hrest]
        simp [or_assoc]
    · rw [if_neg hmember, List.filter_cons_of_neg (by simpa using hmember)]

end Entry

-- ---------------------------------------------------------------------------
-- What configurations come to
-- ---------------------------------------------------------------------------

section

variable (configs : List ClassConfig)

/-- What configurations say of a member, from what overwrites all before it on. -/
def counting (member : Member) : List Mention :=
  fromLast Mention.overwrites (configs.flatMap (·.mentions member))

/-- How a switch was set last. -/
def lastSetting (setting : FlagSettings → Option Bool) : Bool :=
  (configs.filterMap fun config => setting config.flags).getLast?.getD false

theorem filter_entries_configs (member : Member) :
    (configs.flatMap (·.entries)).filter (·.member = member) =
      (configs.flatMap (·.mentions member)).map (·.entry member) := by
  rw [List.filter_flatMap, List.map_flatMap]
  exact List.flatMap_congr fun config _ => config.filter_entries_member member

theorem fromLast_configs (member : Member) :
    fromLast (·.overwrite) ((configs.flatMap (·.entries)).filter (·.member = member)) =
      (counting configs member).map (·.entry member) := by
  rw [filter_entries_configs, fromLast_map]
  rfl

theorem settings_last {setting : FlagSettings → Option Bool} (hempty : setting {} = none)
    (hfollowed : ∀ first second,
      setting (first.followedBy second) = (setting second).or (setting first)) :
    setting (ClassChecks.settings configs) =
      (configs.filterMap fun config => setting config.flags).getLast? := by
  induction configs with
  | nil => exact hempty
  | cons config rest ih =>
    have hcons : setting (ClassChecks.settings (config :: rest)) =
        (setting (ClassChecks.settings rest)).or (setting config.flags) := hfollowed ..
    rw [hcons, ih]
    rw [List.filterMap_cons]
    cases setting config.flags with
    | none => exact Option.or_none
    | some on =>
      rw [List.getLast?_cons]
      cases (rest.filterMap fun config => setting config.flags).getLast? <;> rfl

theorem settings_apply :
    (ClassChecks.settings configs).apply {} = {
      checkInvariants := lastSetting configs (·.checkInvariants)
      fieldsToSetters := lastSetting configs (·.fieldsToSetters)
      fieldsToConstructors := lastSetting configs (·.fieldsToConstructors)
      parametersNotNull := lastSetting configs (·.parametersNotNull)
      inspectInterfaces := lastSetting configs (·.inspectInterfaces) } := by
  have hlast : ∀ {setting : FlagSettings → Option Bool}, setting {} = none →
      (∀ first second, setting (first.followedBy second) = (setting second).or (setting first)) →
      (setting (ClassChecks.settings configs)).getD false = lastSetting configs setting :=
    fun hempty hfollowed => by rw [settings_last configs hempty hfollowed, lastSetting]
  simp only [FlagSettings.apply]
  congr 1 <;> exact hlast rfl fun _ _ => rfl

/-- What checks are that are compiled from configurations: those of a member are the ones that
configurations give it, from what overwrites all before it on, and behind them those that are derived. -/
structure CompiledFrom (checks : ClassChecks) : Prop where
  placed : ∀ member context, checks.cls.place member = .ok context → ∃ derived,
    checks.of member = ((counting configs member).flatMap (·.checks)).map (·.stamp context) ++ derived ∧
      ∀ check ∈ derived, ∃ plain, checks.Derivable member plain ∧ check = plain.stamp context
  unplaced : ∀ member e, checks.cls.place member = .error e →
    checks.of member = [] ∧ ∀ config ∈ configs, config.mentions member = []
  flags : checks.flags = {
    checkInvariants := lastSetting configs (·.checkInvariants)
    fieldsToSetters := lastSetting configs (·.fieldsToSetters)
    fieldsToConstructors := lastSetting configs (·.fieldsToConstructors)
    parametersNotNull := lastSetting configs (·.parametersNotNull)
    inspectInterfaces := lastSetting configs (·.inspectInterfaces) }
  fields : ∀ field, field ∈ checks.constrainedFields ++ checks.constrainedStatics ↔
    checks.of (.field field) ≠ []
  getters : ∀ getter, getter ∈ checks.invariants ++ checks.staticInvariants ↔
    ∃ mention ∈ counting configs (.result getter 0),
      mention.isInvariant = true ∧ mention.checks ≠ []

end

namespace ClassChecks

variable {s t : ClassChecks}

theorem configured_of {configs : List ClassConfig}
    {made : FlagSettings}
    (h : Applied made (configs.flatMap (·.entries)) { cls := c } s)
    (hplace : c.place member = .ok context) :
    s.of member = ((counting configs member).flatMap (·.checks)).map (·.stamp context) := by
  have hregistered : s.registered member =
      ((counting configs member).map (·.entry member)).flatMap (·.registered c) := by
    rw [← fromLast_configs, ← Entry.foldl_list]
    exact h.registered member
  rw [ClassChecks.of, hregistered]
  simp only [List.flatMap_map, List.map_flatMap, Entry.registered, Mention.entry, hplace]
  refine List.flatMap_congr fun mention _ => ?_
  simp [Registered.untracked, Registered.stamp]

theorem configured_getters {configs : List ClassConfig} {made : FlagSettings}
    (h : Applied made (configs.flatMap (·.entries)) { cls := c } s) (getter : String) :
    getter ∈ s.getterNames.1 ++ s.getterNames.2 ↔
      ∃ mention ∈ counting configs (.result getter 0),
        mention.isInvariant = true ∧ mention.checks ≠ [] := by
  rw [h.getters]
  refine (Entry.mem_noteGetters ..).trans ?_
  rw [fromLast_configs]
  simp [getterNames, Mention.entry]

theorem mentions_eq_nil {config : ClassConfig} {member : Member}
    (h : ∀ e ∈ config.entries, e.member ≠ member) : config.mentions member = [] := by
  have hnone : config.entries.filter (·.member = member) = [] :=
    List.filter_eq_nil_iff.mpr fun e he => decide_eq_true_iff.not.mpr (h e he)
  rw [config.filter_entries_member] at hnone
  exact List.map_eq_nil_iff.mp hnone

/-- Compiling the checks of a class asks every source of configuration, in order, and comes to what their
sections say from the last that overwrites on. -/
theorem compile_explicit {c : Class} {configurers : List Configurer} {checks : ClassChecks}
    (h : compile c configurers = .ok checks) :
    checks.cls = c ∧ ∃ answers, configurers.mapM (·.classConfig c) = .ok answers ∧
      CompiledFrom answers.reduceOption checks := by
  obtain ⟨s, hconfigured, hderive⟩ := compile_ok.mp h
  obtain ⟨answers, hanswers, happlied, hplaced⟩ := foldlM_configurers hconfigured
  have hframe := derive_frame hderive
  have hconsistent := compile_consistent h
  have hs : s.cls = c := happlied.cls
  have hcls : checks.cls = c := hframe.cls.trans hs
  refine ⟨hcls, answers, hanswers, fun member context hplace => ?_, fun member e hplace => ⟨?_, ?_⟩,
    ?_, fun field => hconsistent.mem_constrained, fun getter => ?_⟩
  · rw [hcls] at hplace
    obtain ⟨derived, hof, hderived⟩ := (derive_grown hderive).of_member member
    refine ⟨derived, ?_, fun check hcheck => ?_⟩
    · rw [hof, configured_of happlied hplace]
    · obtain ⟨plain, context', hplain, hplace', rfl⟩ := hderived check hcheck
      rw [hs, hplace] at hplace'
      cases hplace'
      exact ⟨plain, hframe.derivable hplain, rfl⟩
  · by_contra hsome
    obtain ⟨context, hplace'⟩ := hconsistent.placed member fun hnone => hsome (by simp [of, hnone])
    rw [hplace] at hplace'
    cases hplace'
  · refine fun config hconfig => mentions_eq_nil fun e he hmember => ?_
    obtain ⟨context, hplace'⟩ := hplaced e (List.mem_flatMap.mpr ⟨config, hconfig, he⟩)
    have hplace' : c.place e.member = .ok context := hplace'
    rw [hmember, ← hcls, hplace] at hplace'
    cases hplace'
  · rw [hframe.flags, happlied.flags]
    exact settings_apply _
  · obtain ⟨hinvariants, hstatics⟩ := Prod.mk.inj hframe.getters
    rw [hinvariants, hstatics]
    exact configured_getters happlied getter

/-- A class with a field, its setter and a getter. -/
def squad : Class where
  id := 0
  name := "Squad"
  superclass := none
  interfaces := []
  isInterface := false
  fields := [⟨"captain", .string, false⟩]
  methods := [⟨"setCaptain", [⟨some "name", .string⟩], none, false, false⟩,
    ⟨"isReady", [], some .bool, false, false⟩]
  constructors := []

/-- Three sources of configuration. The second one overwrites what the first one says of the class. -/
def squadSources : List Configurer :=
  [{ className := "Squad"
     flags := { checkInvariants := some true }
     fields := [{ name := "captain", checks := [{ kind := .notNull }] }]
     methods := [{
      name := "isReady"
      arity := 0
      isInvariant := true
      result := some { checks := [{ kind := .assertTrue }] } }] },
   { className := "Squad"
     overwrite := some true
     fields := [{ name := "captain", checks := [{ kind := .maxLength 3 }] }]
     methods := [{
      name := "isReady"
      arity := 0
      result := some { checks := [{ kind := .notNull }] } }] },
   { className := "Squad"
     flags := { checkInvariants := some false, fieldsToSetters := some true }
     fields := [{ name := "captain", checks := [{ kind := .minLength 1 }] }] }].map
    fun config : ClassConfig => (({} : ConfigTable).addClass config).configurer

theorem compile_explicit_squad : ∃ checks, compile squad squadSources = .ok checks ∧
    (checks.of (.field "captain")).map (·.kind) = [.maxLength 3, .minLength 1] ∧
    checks.flags = { fieldsToSetters := true } ∧ checks.invariants = [] ∧
    ∃ answers, squadSources.mapM (·.classConfig squad) = .ok answers ∧
      CompiledFrom answers.reduceOption checks :=
  ⟨_, rfl, rfl, rfl, rfl, (@compile_explicit squad squadSources _ rfl).2⟩

end ClassChecks

end ObjectConstraints
