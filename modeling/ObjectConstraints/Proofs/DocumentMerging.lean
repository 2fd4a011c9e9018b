import Mathlib.Data.List.Induction
import ObjectConstraints.Document.Catalog
import ObjectConstraints.Proofs.Compiling

/-!
# Merging documents

A catalog that loads several documents merges what they say of a class before it is compiled, where
several sources of configuration are applied one after the other. Merging is like applying the earlier
configuration and then the later one with two changes (`ClassConfig.behind`, `extend_alike`): sections
that leave open whether they overwrite do as the earlier class says, and an object section overwrites
no other one. Where the same sections are in effect all the same, both ways come to the same checks
(`compile_documents`). Otherwise they need not (`compile_documents_overwritten`).
-/

namespace ObjectConstraints

-- ---------------------------------------------------------------------------
-- Entries in effect
-- ---------------------------------------------------------------------------

namespace Entry

/-- The entries in effect: those with checks that no later entry for the same member overwrites. -/
def inEffect : List Entry → List Entry
  | [] => []
  | e :: rest =>
    if e.checks.isEmpty || rest.any (fun later => later.overwrite && later.member = e.member) then
      inEffect rest
    else { e with overwrite := false } :: inEffect rest

theorem mem_inEffect {entries : List Entry} (h : b ∈ inEffect entries) :
    b.overwrite = false ∧ b.checks ≠ [] ∧ ∃ e ∈ entries, b = { e with overwrite := false } := by
  induction entries with
  | nil => cases h
  | cons e rest ih =>
    rw [inEffect] at h
    split at h
    · obtain ⟨hoverwrite, hchecks, e', he', hb⟩ := ih h
      exact ⟨hoverwrite, hchecks, e', List.mem_cons_of_mem _ he', hb⟩
    · next hkept =>
      rcases List.mem_cons.mp h with rfl | h
      · exact ⟨rfl, by simp_all, e, List.mem_cons_self, rfl⟩
      · obtain ⟨hoverwrite, hchecks, e', he', hb⟩ := ih h
        exact ⟨hoverwrite, hchecks, e', List.mem_cons_of_mem _ he', hb⟩

/-- What is in effect after one more entry: the entry, and what it leaves of those before. -/
theorem inEffect_append_singleton (front : List Entry) (e : Entry) :
    inEffect (front ++ [e]) =
      (inEffect front).filter (fun b => !(e.overwrite && b.member = e.member)) ++ inEffect [e] := by
  induction front with
  | nil => rfl
  | cons b rest ih =>
    have hdropped : ∀ l : List Entry, inEffect (b :: l) =
        if b.checks.isEmpty || l.any (fun later => later.overwrite && later.member = b.member) then
          inEffect l
        else { b with overwrite := false } :: inEffect l := fun l => by rw [inEffect]
    rw [List.cons_append, hdropped, hdropped, ih, List.any_append]
    cases hbefore : b.checks.isEmpty ||
        rest.any (fun later => later.overwrite && later.member = b.member) with
    | true => rw [if_pos rfl, if_pos (by rw [← Bool.or_assoc, hbefore, Bool.true_or])]
    | false =>
      have hlast : [e].any (fun later => later.overwrite && later.member = b.member) =
          (e.overwrite && b.member = e.member) := by simp [eq_comm]
      rw [← Bool.or_assoc, hbefore, Bool.false_or, hlast, if_neg Bool.false_ne_true, List.filter_cons]
      cases e.overwrite && decide (b.member = e.member) <;> rfl

/-- An entry that finds no checks of its member leaves the others in effect whether it overwrites or
not. -/
theorem inEffect_overwrite {front : List Entry} {e e' : Entry} (hmember : e.member = e'.member)
    (hinvariant : e.isInvariant = e'.isInvariant) (hchecks : e.checks = e'.checks)
    (hfront : ∀ b ∈ front, b.member = e.member → b.checks = []) :
    inEffect (front ++ [e]) = inEffect (front ++ [e']) := by
  have hkept : ∀ on : Bool, (inEffect front).filter (fun b => !(on && b.member = e.member)) =
      inEffect front := by
    refine fun on => List.filter_eq_self.mpr fun b hb => ?_
    obtain ⟨-, hsome, source, hsource, rfl⟩ := mem_inEffect hb
    have hother : source.member ≠ e.member := fun h => hsome (hfront source hsource h)
    simp [hother]
  rw [inEffect_append_singleton, inEffect_append_singleton, ← hmember, hkept, hkept]
  simp [inEffect, hmember, hinvariant, hchecks]

/-- Where nothing is made yet, entries come to what those in effect come to: what overwrites comes to
what is left of the entries before, and one without checks does nothing else. -/
theorem foldl_inEffect {α : Type} {f : α → Entry → α} {empty : α}
    (hidle : ∀ a e, e.overwrite = false → e.checks = [] → f a e = a)
    (hclears : ∀ (front : List Entry) e, (∀ b ∈ front, b.overwrite = false) → e.overwrite = true →
      f (front.foldl f empty) e =
        f ((front.filter (·.member ≠ e.member)).foldl f empty) { e with overwrite := false })
    (entries : List Entry) : entries.foldl f empty = (inEffect entries).foldl f empty := by
  induction entries using List.reverseRecOn with
  | nil => rfl
  | append_singleton front e ih =>
    have hadds : ∀ a, f a { e with overwrite := false } = (inEffect [e]).foldl f a := by
      intro a
      cases hchecks : e.checks with
      | nil =>
        rw [hidle a _ rfl rfl]
        simp [inEffect, hchecks]
      | cons check checks => simp [inEffect, hchecks]
    rw [inEffect_append_singleton, List.foldl_append, List.foldl_append, List.foldl_cons,
      List.foldl_nil, ih, ← hadds]
    cases hoverwrite : e.overwrite with
    | false =>
      have hsame : { e with overwrite := false } = e := by rw [← hoverwrite]
      simp [hsame]
    | true =>
      rw [hclears _ _ (fun b hb => (mem_inEffect hb).1) hoverwrite]
      simp

variable {c : Class}

/-- Names without one of them. -/
def without (name : String) (names : List String × List String) : List String × List String :=
  (ClassChecks.forget name names.1, ClassChecks.forget name names.2)

theorem forget_remember_of_ne {name other : String} (h : other ≠ name) (names : List String) :
    ClassChecks.forget name (ClassChecks.remember other names) =
      ClassChecks.remember other (ClassChecks.forget name names) := by
  unfold ClassChecks.remember ClassChecks.forget
  by_cases hnoted : other ∈ names <;> simp [hnoted, h]

theorem forget_remember_self (name : String) (names : List String) :
    ClassChecks.forget name (ClassChecks.remember name names) = ClassChecks.forget name names := by
  unfold ClassChecks.remember ClassChecks.forget
  split <;> simp

theorem without_note {e : Entry} (h : e.overwrite = false) (name other : String) (isStatic : Bool)
    (names : List String × List String) :
    without name (e.note other isStatic names) =
      if other = name then without name names else e.note other isStatic (without name names) := by
  by_cases hname : other = name
  · subst hname
    cases hchecks : e.checks <;> cases isStatic <;>
      simp [note, without, h, hchecks, forget_remember_self]
  · cases hchecks : e.checks <;> cases isStatic <;>
      simp [note, without, h, hchecks, hname, forget_remember_of_ne hname]

/-- To forget a name is to be without the entries of its member. -/
theorem without_foldl {f : List String × List String → Entry → List String × List String}
    {member : Member} {front : List Entry}
    (hf : ∀ names, ∀ b ∈ front, without name (f names b) =
      if b.member = member then without name names else f (without name names) b)
    (names : List String × List String) :
    without name (front.foldl f names) =
      (front.filter (·.member ≠ member)).foldl f (without name names) := by
  induction front generalizing names with
  | nil => rfl
  | cons b rest ih =>
    rw [List.foldl_cons, ih (fun names b hb => hf names b (List.mem_cons_of_mem _ hb)),
      hf names b List.mem_cons_self]
    by_cases hmember : b.member = member <;> simp [hmember]

/-- The name under which the entries of a member are noted, where they are noted at all. -/
structure Notes (noted : Member → Option String)
    (f : List String × List String → Entry → List String × List String) : Prop where
  other : ∀ names e, noted e.member = none → f names e = names
  idle : ∀ names e, e.overwrite = false → e.checks = [] → f names e = names
  overwrites : ∀ names e name, noted e.member = some name → e.overwrite = true →
    f names e = f (without name names) { e with overwrite := false }
  forgets : ∀ names e member name, noted member = some name → e.overwrite = false →
    without name (f names e) =
      if e.member = member then without name names else f (without name names) e

theorem Notes.foldl_inEffect {noted : Member → Option String}
    {f : List String × List String → Entry → List String × List String} (h : Notes noted f)
    (entries : List Entry) : entries.foldl f ([], []) = (inEffect entries).foldl f ([], []) := by
  refine Entry.foldl_inEffect h.idle (fun front e hfront hoverwrite => ?_) entries
  cases hnoted : noted e.member with
  | none =>
    have hframe : ∀ names (b : Entry), (b.member ≠ e.member : Bool) = false → f names b = names :=
      fun names b hb => h.other names b (by simp_all)
    rw [h.other _ e hnoted, h.other _ { e with overwrite := false } hnoted,
      Alike.foldl_filter_of_frame hframe]
  | some name =>
    rw [h.overwrites _ e name hnoted hoverwrite,
      without_foldl (fun names b hb => h.forgets names b e.member name hnoted (hfront b hb))]
    rfl

def notedField : Member → Option String
  | .field name => some name
  | _ => none

def notedGetter : Member → Option String
  | .result method 0 => some method
  | _ => none

theorem notes_noteField : Notes notedField fun names e => e.noteField c names where
  other names e hother := by cases hmember : e.member <;> simp_all [notedField, noteField]
  idle names e hoverwrite hchecks := by
    cases hmember : e.member <;> simp [noteField, note, hmember, hoverwrite, hchecks]
  overwrites names e name hnoted hoverwrite := by
    cases hmember : e.member <;> simp_all [notedField, noteField, note, without]
  forgets names e member name hnoted hoverwrite := by
    cases member with
    | field other =>
      cases hnoted
      cases hmember : e.member <;> simp [noteField, hmember, without_note hoverwrite]
    | _ => cases hnoted

theorem notes_noteGetter : Notes notedGetter fun names e => e.noteGetter c names where
  other names e hother := by
    rcases hmember : e.member with _ | ⟨method, _ | arity⟩ | _ | _ | _ <;> simp_all [notedGetter, noteGetter]
  idle names e hoverwrite hchecks := by
    rcases hmember : e.member with _ | ⟨method, _ | arity⟩ | _ | _ | _ <;>
      simp [noteGetter, note, hmember, hoverwrite, hchecks]
  overwrites names e name hnoted hoverwrite := by
    rcases hmember : e.member with _ | ⟨method, _ | arity⟩ | _ | _ | _ <;>
      simp_all [notedGetter, noteGetter, note, without]
  forgets names e member name hnoted hoverwrite := by
    rcases member with _ | ⟨getter, _ | arity⟩ | _ | _ | _
    case result.zero =>
      cases hnoted
      rcases hmember : e.member with _ | ⟨method, _ | arity⟩ | _ | _ | _
      case result.zero =>
        cases hinvariant : e.isInvariant <;>
          simp [noteGetter, hmember, hinvariant, hoverwrite, without_note hoverwrite]
      all_goals simp [noteGetter, hmember]
    all_goals cases hnoted

theorem foldl_list_inEffect (entries : List Entry) (member : Member) :
    entries.foldl (fun list e => e.list c member list) [] =
      (inEffect entries).foldl (fun list e => e.list c member list) [] := by
  refine foldl_inEffect (fun checks e hoverwrite hchecks => ?_) (fun front e _ hoverwrite => ?_) entries
  · have hnone : e.registered c = [] := by
      unfold registered
      rw [hchecks]
      split <;> rfl
    simp [list, hoverwrite, hnone]
  · have hframe : ∀ (checks : List Registered) (b : Entry),
        (b.member = member : Bool) = false → b.list c member checks = checks := by
      intro checks b hother
      rw [list, if_neg (by simpa using hother)]
    by_cases hmember : e.member = member
    · have hnone : (front.filter (·.member ≠ e.member)).foldl (fun list b => b.list c member list) [] =
          [] := by
        rw [← Alike.foldl_filter_of_frame hframe, List.filter_filter]
        simp [hmember]
      rw [hnone]
      simp [list, hmember, hoverwrite, registered]
    · have hsame : (front.filter (·.member ≠ e.member)).foldl (fun list b => b.list c member list) [] =
          front.foldl (fun list b => b.list c member list) [] := by
        refine Alike.foldl_filter_of_frame (fun checks b hb => hframe checks b ?_) front []
        simp_all
      rw [hsame, hframe _ e (by simpa using hmember), hframe _ _ (by simpa using hmember)]

end Entry

-- ---------------------------------------------------------------------------
-- Merged configurations
-- ---------------------------------------------------------------------------

namespace ClassConfig

/-- A configuration as it counts once it is merged into an earlier one. -/
def behind (next earlier : ClassConfig) : ClassConfig :=
  { next with
    overwrite := earlier.overwrite
    object := next.object.map fun more =>
      if earlier.object.isSome then { more with overwrite := some false } else more }

theorem areaEntries_extend {earlier next : ClassConfig} (harea : area ≠ .object) :
    (earlier.extend next).areaEntries area =
      earlier.areaEntries area ++ (next.behind earlier).areaEntries area := by
  cases area with
  | object => exact absurd rfl harea
  | fields => exact List.map_append
  | _ => exact List.flatMap_append

/-- What is left of the entries of a merged configuration: object sections, put into one entry if there
are two. -/
theorem extend_object_alike (c : Class) (earlier next : ClassConfig) :
    Entry.Alike c ((earlier.extend next).areaEntries .object)
      (earlier.areaEntries .object ++ (next.behind earlier).areaEntries .object) := by
  cases hpart : earlier.object <;> cases hmore : next.object <;>
    simp only [areaEntries, extend, behind, hpart, hmore]
  case some.some part more => exact .split (earlier.objectEntry part) more.checks
  all_goals exact .refl _

/-- A merged configuration says the same as the configurations one after the other, the later one
as it counts then. -/
theorem extend_alike (c : Class) (earlier next : ClassConfig) :
    Entry.Alike c (earlier.extend next).entries (earlier.entries ++ (next.behind earlier).entries) := by
  rw [entries_eq (earlier.extend next)]
  refine (Entry.Alike.append_left _ (extend_object_alike c earlier next)).trans
    (.of_filter fun area => ?_)
  rw [List.filter_append _ (next.behind earlier).entries, filter_entries, filter_entries]
  by_cases harea : area = .object
  · subst harea
    simp [filter_areaEntries]
  · rw [← areaEntries_extend harea]
    cases area <;> simp_all [filter_areaEntries]

/-- Whether merging a configuration into an earlier one leaves to both which of their sections are in
effect. -/
def Independent (earlier next : ClassConfig) : Prop :=
  Entry.inEffect (earlier.entries ++ (next.behind earlier).entries) =
    Entry.inEffect (earlier.entries ++ next.entries)

section

variable {earlier next : ClassConfig}

theorem overwrites_of_ne {config : ClassConfig} (h : config.overwrite ≠ some true) (own : Option Bool) :
    config.overwrites own = own.getD false := by
  rcases own with _ | _ <;> rcases hset : config.overwrite with _ | _ | _ <;>
    simp_all [overwrites]

theorem areaEntries_behind (hearlier : earlier.overwrite ≠ some true)
    (hnext : next.overwrite ≠ some true) (area : Area) (harea : area ≠ .object) :
    (next.behind earlier).areaEntries area = next.areaEntries area := by
  have hsame : (next.behind earlier).overwrites = next.overwrites := by
    funext own
    have hbehind : (next.behind earlier).overwrite ≠ some true := hearlier
    rw [overwrites_of_ne hnext, overwrites_of_ne hbehind]
  have hparameters : (next.behind earlier).parameterEntries = next.parameterEntries := by
    funext member outer parameters
    simp only [parameterEntries, hsame]
  cases area with
  | object => exact absurd rfl harea
  | fields => exact List.map_congr_left fun field _ => by simp only [fieldEntry, hsame]
  | methods => exact List.flatMap_congr fun m _ => by simp only [methodEntries, hparameters, hsame]
  | constructors => exact List.flatMap_congr fun k _ => by simp only [constructorEntries, hparameters]

theorem areaEntries_object {config : ClassConfig} (h : config.object = some part) :
    config.areaEntries .object = [config.objectEntry part] := by
  rw [areaEntries, h]
  rfl

/-- Where the earlier class does not overwrite, only object sections stand in the way: a later one that
overwrites checks of an earlier one. -/
theorem independent_of_object (hearlier : earlier.overwrite ≠ some true)
    (hnext : next.overwrite ≠ some true)
    (hobject : ∀ part more, earlier.object = some part → next.object = some more →
      part.checks = [] ∨ more.overwrite ≠ some true) : earlier.Independent next := by
  have hbehind : (next.behind earlier).overwrite ≠ some true := hearlier
  have hfront : ∀ config : ClassConfig, earlier.entries ++ config.entries =
      earlier.entries ++ (config.areaEntries .fields ++ config.areaEntries .methods ++
        config.areaEntries .constructors) ++ config.areaEntries .object :=
    fun config => by rw [entries_eq config, List.append_assoc earlier.entries]
  rw [Independent, hfront, hfront, areaEntries_behind hearlier hnext .fields (by decide),
    areaEntries_behind hearlier hnext .methods (by decide),
    areaEntries_behind hearlier hnext .constructors (by decide)]
  cases hmore : next.object with
  | none => simp [areaEntries, behind, hmore]
  | some more =>
    rw [areaEntries_object hmore, objectEntry, overwrites_of_ne hnext]
    cases hpart : earlier.object with
    | none =>
      have hcounts : (next.behind earlier).object = some more := by simp [behind, hmore, hpart]
      rw [areaEntries_object hcounts, objectEntry, overwrites_of_ne hbehind]
    | some part =>
      have hcounts : (next.behind earlier).object = some { more with overwrite := some false } := by
        simp [behind, hmore, hpart]
      rw [areaEntries_object hcounts, objectEntry, overwrites_of_ne hbehind]
      rcases hobject part more hpart hmore with hnone | hkeeps
      · refine Entry.inEffect_overwrite rfl rfl rfl fun b hb hmember => ?_
        -- Of the entries before, only the earlier object section is about objects.
        have harea : b.member.area = .object := congrArg Member.area hmember
        have hpast := List.mem_filter (p := (·.member.area = .object)).mpr ⟨hb, decide_eq_true harea⟩
        simp only [List.filter_append, filter_entries, filter_areaEntries] at hpast
        replace hpast : b ∈ earlier.areaEntries .object := by simpa using hpast
        rw [areaEntries_object hpart, List.mem_singleton] at hpast
        rw [hpast]
        exact hnone
      · rcases hown : more.overwrite with _ | _ | _ <;> simp_all

end

end ClassConfig

-- ---------------------------------------------------------------------------
-- Compiling merged configurations
-- ---------------------------------------------------------------------------

namespace ClassChecks

theorem Applied.inEffect (h : Applied made entries { cls := c } t) :
    Applied made (Entry.inEffect entries) { cls := c } t where
  cls := h.cls
  flags := h.flags
  registered member := (h.registered member).trans (Entry.foldl_list_inEffect entries member)
  fields := h.fields.trans (Entry.notes_noteField.foldl_inEffect entries)
  getters := h.getters.trans (Entry.notes_noteGetter.foldl_inEffect entries)

/-- One source of configuration comes to the same as two others, if what it says leaves the same in
effect as they do one after the other. -/
theorem compile_merged {whole first second : Configurer} {all earlier next : Option ClassConfig}
    {counted : List Entry} (hwhole : whole.classConfig c = .ok all) (hfirst : first.classConfig c = .ok earlier)
    (hsecond : second.classConfig c = .ok next)
    (hflags : all.elim {} (·.flags) = (earlier.elim {} (·.flags)).followedBy (next.elim {} (·.flags)))
    (halike : Entry.Alike c (all.elim [] (·.entries)) counted)
    (heffect : Entry.inEffect counted =
      Entry.inEffect (earlier.elim [] (·.entries) ++ next.elim [] (·.entries)))
    (h : compile c [whole] = .ok merged) (h' : compile c [first, second] = .ok separate) :
    Same merged separate := by
  obtain ⟨s, hs, hmerged⟩ := compile_ok.mp h
  obtain ⟨s', hs', hseparate⟩ := compile_ok.mp h'
  simp only [List.foldlM_cons, List.foldlM_nil, bind_ok, pure_ok] at hs hs'
  obtain ⟨_, hs, rfl⟩ := hs
  obtain ⟨middle, hmiddle, _, hs', rfl⟩ := hs'
  have hall := ((applyConfigurer_applied hwhole hs).1.of_alike halike).inEffect
  have hearlier := (applyConfigurer_applied hfirst hmiddle).1
  have hnext := (applyConfigurer_applied (by rw [hearlier.cls]; exact hsecond) hs').1
  rw [hflags, heffect] at hall
  exact derive_same (hall.same (hearlier.append hnext).inEffect (.refl _)) hmerged hseparate

end ClassChecks

-- ---------------------------------------------------------------------------
-- Loading
-- ---------------------------------------------------------------------------

theorem Document.classOf_ok (h : classOf predicates declared = .ok config) :
    config.className = declared.className ∧ config.overwrite = declared.overwrite := by
  simp only [classOf, ClassChecks.bind_ok, ClassChecks.pure_ok] at h
  obtain ⟨_, _, _, _, _, _, _, _, rfl⟩ := h
  exact ⟨rfl, rfl⟩

namespace ConfigTable

/-- Whether each configuration stands at the name of its class. -/
def Keyed (table : ConfigTable) : Prop :=
  ∀ name config, table.class? name = some config → config.className = name

theorem keyed_empty : ({} : ConfigTable).Keyed := fun name config h => by cases h

theorem class?_addClass (table : ConfigTable) (config : ClassConfig) (name : String) :
    (table.addClass config).class? name =
      if config.className = name then some config else table.class? name := by
  split
  · next h => exact h ▸ Table.get?_insert_self ..
  · next h => exact Table.get?_insert_of_ne _ _ (Ne.symm h)

end ConfigTable

namespace Catalog

variable {table : ConfigTable}

/-- The configuration of a class after another entry for it. -/
def merged (found : Option ClassConfig) (config : ClassConfig) : ClassConfig :=
  match found with
  | some earlier => if config.overwrite.getD false then config else earlier.extend config
  | none => config

theorem merged_some (h : config.overwrite ≠ some true) :
    merged (some earlier) config = earlier.extend config := by
  rcases hset : config.overwrite with _ | _ | _ <;> simp_all [merged]

theorem addClass_eq (table : ConfigTable) (config : ClassConfig) :
    addClass table config = table.addClass (merged (table.class? config.className) config) := by
  unfold addClass merged
  cases table.class? config.className with
  | none => rfl
  | some earlier =>
    simp only
    split <;> rfl

theorem className_merged (hkeyed : table.Keyed) (config : ClassConfig) :
    (merged (table.class? config.className) config).className = config.className := by
  unfold merged
  split
  · next earlier hearlier =>
    split
    · rfl
    · exact (hkeyed _ _ hearlier : earlier.className = _)
  · rfl

theorem class?_addClass (hkeyed : table.Keyed) (config : ClassConfig) (name : String) :
    (addClass table config).class? name =
      if config.className = name then some (merged (table.class? name) config)
      else table.class? name := by
  rw [addClass_eq, ConfigTable.class?_addClass, className_merged hkeyed]
  split
  · next h => rw [h]
  · rfl

theorem addClass_keyed (hkeyed : table.Keyed) (config : ClassConfig) :
    (addClass table config).Keyed := by
  intro name found hfound
  rw [class?_addClass hkeyed] at hfound
  split at hfound
  · next h =>
    subst h
    cases hfound
    exact className_merged hkeyed config
  · exact hkeyed name found hfound

theorem foldl_addClass_keyed (hkeyed : table.Keyed) (classes : List ClassConfig) :
    (classes.foldl addClass table).Keyed := by
  induction classes generalizing table with
  | nil => exact hkeyed
  | cons config rest ih => exact ih (addClass_keyed hkeyed config)

/-- The configuration of a class comes from the entries for it, one after the other. -/
theorem class?_foldl (hkeyed : table.Keyed) (classes : List ClassConfig) (name : String) :
    (classes.foldl addClass table).class? name =
      (classes.filter (·.className = name)).foldl (fun found config => some (merged found config))
        (table.class? name) := by
  induction classes generalizing table with
  | nil => rfl
  | cons config rest ih =>
    rw [List.foldl_cons, ih (addClass_keyed hkeyed config), class?_addClass hkeyed]
    by_cases h : config.className = name <;> simp [h]

theorem class?_foldl_addSet (sets : List SetConfig) (table : ConfigTable) (name : String) :
    (sets.foldl addSet table).class? name = table.class? name := by
  induction sets generalizing table with
  | nil => rfl
  | cons set rest ih =>
    rw [List.foldl_cons, ih]
    unfold addSet
    split
    · split <;> rfl
    · rfl

/-- What a catalog says of a class after loading a document. -/
theorem load_ok {catalog loaded : Catalog} {document : Document}
    (h : catalog.load document = .ok loaded) :
    loaded.predicates = catalog.predicates ∧ ∃ classes,
      document.classes.mapM (Document.classOf catalog.predicates) = .ok classes ∧
      (catalog.configs.Keyed → loaded.configs.Keyed ∧ ∀ name, loaded.configs.class? name =
        (classes.filter (·.className = name)).foldl (fun found config => some (merged found config))
          (catalog.configs.class? name)) := by
  simp only [load, ClassChecks.bind_ok, ClassChecks.pure_ok] at h
  obtain ⟨classes, hclasses, sets, -, rfl⟩ := h
  refine ⟨rfl, classes, hclasses, fun hkeyed => ⟨fun name config hconfig => ?_, fun name => ?_⟩⟩
  · rw [class?_foldl_addSet] at hconfig
    exact foldl_addClass_keyed hkeyed classes name config hconfig
  · rw [class?_foldl_addSet, class?_foldl hkeyed]

end Catalog

/-- What a document says of a class in its first entry for it. -/
def Document.config? (document : Document) (predicates : Predicates) (className : String) :
    Option ClassConfig :=
  (document.classes.find? (·.className = className)).bind fun declared =>
    (classOf predicates declared).toOption

theorem Document.config?_some {document : Document}
    (h : document.config? predicates className = some config) :
    ∃ declared ∈ document.classes, declared.className = className ∧
      declared.overwrite = config.overwrite := by
  obtain ⟨declared, hfind, hconfig⟩ := Option.bind_eq_some_iff.mp h
  refine ⟨declared, List.mem_of_find?_eq_some hfind, by simpa using List.find?_some hfind, ?_⟩
  cases hread : classOf predicates declared with
  | error e =>
    rw [hread] at hconfig
    cases hconfig
  | ok read =>
    rw [hread] at hconfig
    cases hconfig
    exact (classOf_ok hread).2.symm

/-- A document with one entry for a class at most adds what it says there. -/
theorem Catalog.load_single {catalog loaded : Catalog} {document : Document}
    (h : catalog.load document = .ok loaded) (hkeyed : catalog.configs.Keyed)
    (hsingle : (document.classes.filter (·.className = className)).length ≤ 1) :
    loaded.configs.class? className =
      match document.config? catalog.predicates className with
      | some config => some (merged (catalog.configs.class? className) config)
      | none => catalog.configs.class? className := by
  obtain ⟨-, classes, hclasses, hloaded⟩ := load_ok h
  have hread : List.Forall₂
      (fun declared config => Document.classOf catalog.predicates declared = .ok config)
      (document.classes.filter (·.className = className))
      (classes.filter (·.className = className)) := by
    refine List.rel_filter (fun declared config hconfig => ?_) (ClassChecks.mapM_ok hclasses)
    simp only [(Document.classOf_ok hconfig).1]
  rw [(hloaded hkeyed).2, Document.config?, ← List.head?_filter]
  generalize document.classes.filter (·.className = className) = entries at hread hsingle ⊢
  generalize classes.filter (·.className = className) = configs at hread ⊢
  cases hread with
  | nil => rfl
  | cons hconfig hrest =>
    cases hrest with
    | nil => simp [hconfig, Except.toOption]
    | cons => simp at hsingle

/-- A document that is loaded into a catalog comes to the same checks of a class as in a catalog of its
own that is asked after the first one, if it has one entry for the class at most, which does not
overwrite the class and leaves the same sections in effect when it is merged. -/
theorem compile_documents {predicates : Predicates} {first second : Document} {c : Class}
    {a b both : Catalog} (ha : ({ predicates } : Catalog).load first = .ok a)
    (hb : ({ predicates } : Catalog).load second = .ok b) (hboth : a.load second = .ok both)
    (hsingle : (second.classes.filter (·.className = c.name)).length ≤ 1)
    (hnext : ∀ declared ∈ second.classes, declared.className = c.name → declared.overwrite ≠ some true)
    (hindependent : ∀ earlier next, a.configs.class? c.name = some earlier →
      b.configs.class? c.name = some next → earlier.Independent next)
    (h : ClassChecks.compile c [both.configurer] = .ok merged)
    (h' : ClassChecks.compile c [a.configurer, b.configurer] = .ok separate) :
    merged.Same separate := by
  obtain ⟨hpredicates, _, -, hafter⟩ := Catalog.load_ok ha
  obtain ⟨hkeyed, -⟩ := hafter ConfigTable.keyed_empty
  have hsecond := Catalog.load_single hb ConfigTable.keyed_empty hsingle
  have hwhole := Catalog.load_single hboth hkeyed hsingle
  rw [hpredicates] at hwhole
  cases hconfig : second.config? predicates c.name with
  | none =>
    rw [hconfig] at hsecond hwhole
    refine ClassChecks.compile_merged (congrArg Except.ok hwhole) rfl (congrArg Except.ok hsecond)
      rfl (.refl _) ?_ h h'
    exact congrArg Entry.inEffect (List.append_nil _).symm
  | some next =>
    obtain ⟨declared, hdeclared, hname, hoverwrite⟩ := Document.config?_some hconfig
    have hextends : next.overwrite ≠ some true := hoverwrite ▸ hnext declared hdeclared hname
    rw [hconfig] at hsecond hwhole
    have hanswer : b.configurer.classConfig c = .ok (some next) := congrArg Except.ok hsecond
    cases hearlier : a.configs.class? c.name with
    | none =>
      rw [hearlier] at hwhole
      refine ClassChecks.compile_merged (congrArg Except.ok hwhole) (congrArg Except.ok hearlier)
        hanswer ?_ (.refl _) rfl h h'
      simp [FlagSettings.followedBy, Catalog.merged]
    | some earlier =>
      simp only [hearlier, Catalog.merged_some hextends] at hwhole
      have hall : both.configurer.classConfig c = .ok (some (earlier.extend next)) :=
        congrArg Except.ok hwhole
      have hpart : a.configurer.classConfig c = .ok (some earlier) := congrArg Except.ok hearlier
      exact ClassChecks.compile_merged hall hpart hanswer rfl
        (ClassConfig.extend_alike c earlier next) (hindependent earlier next hearlier hsecond) h h'

def person : Class where
  id := 0
  name := "Person"
  superclass := none
  interfaces := []
  isInterface := false
  fields := [⟨"name", .string, false⟩]
  methods := []
  constructors := []

def personDocument (overwrite : Option Bool) (fields : List FieldDeclaration)
    (object : Option SectionDeclaration) : Document :=
  { classes := [{ className := "Person", overwrite, fields, object }] }

theorem compile_documents_person :
    let first := personDocument (some true) [{ name := "name", checks := [{ kind := .notNull }] }]
      (some {})
    let second := personDocument none
      [{ name := "name", checks := [{ kind := .notBlank }], overwrite := some true }]
      (some { checks := [{ kind := .assertTrue }], overwrite := some true })
    ∃ a b both merged separate, ({} : Catalog).load first = .ok a ∧ ({} : Catalog).load second = .ok b ∧
      a.load second = .ok both ∧ ClassChecks.compile person [both.configurer] = .ok merged ∧
      ClassChecks.compile person [a.configurer, b.configurer] = .ok separate ∧
      merged.Same separate ∧ (merged.of (.field "name")).length = 1 ∧
      (merged.of .object).length = 1 := by
  intro first second
  have ha : ({} : Catalog).load first = .ok _ := rfl
  have hb : ({} : Catalog).load second = .ok _ := rfl
  have hsingle : (second.classes.filter (·.className = person.name)).length ≤ 1 := by decide
  have hnext : ∀ declared ∈ second.classes, declared.className = person.name →
      declared.overwrite ≠ some true := by
    simp [second, personDocument]
  refine ⟨_, _, _, _, _, rfl, rfl, rfl, rfl, rfl, ?_, by decide, by decide⟩
  refine compile_documents ha hb rfl hsingle hnext (fun earlier next hearlier hsecond => ?_) rfl rfl
  cases hearlier
  cases hsecond
  rfl

/-- Whether two documents, the second of which extends the class, leave a member with other checks in
one catalog than in two. -/
def Document.PartWays (first second : Document) (c : Class) (member : Member) : Prop :=
  ∃ a b both merged separate, ({} : Catalog).load first = .ok a ∧ ({} : Catalog).load second = .ok b ∧
    a.load second = .ok both ∧ (second.classes.filter (·.className = c.name)).length = 1 ∧
    (∀ declared ∈ second.classes, declared.overwrite = none) ∧
    ClassChecks.compile c [both.configurer] = .ok merged ∧
    ClassChecks.compile c [a.configurer, b.configurer] = .ok separate ∧
    (merged.of member).length ≠ (separate.of member).length

/-- An object section that overwrites does not do so behind another one, and a class that overwrites
takes its own checks back when a later section is merged into it. -/
theorem compile_documents_overwritten :
    (personDocument none [] (some { checks := [{ kind := .notNull }] })).PartWays
        (personDocument none [] (some { checks := [{ kind := .assertTrue }], overwrite := some true }))
        person .object ∧
      (personDocument (some true) [{ name := "name", checks := [{ kind := .notNull }] }] none).PartWays
        (personDocument none [{ name := "name", checks := [{ kind := .notBlank }] }] none)
        person (.field "name") := by
  refine ⟨⟨_, _, _, _, _, rfl, rfl, rfl, rfl, ?_, rfl, rfl, ?_⟩,
    ⟨_, _, _, _, _, rfl, rfl, rfl, rfl, ?_, rfl, rfl, ?_⟩⟩
  · simp [personDocument]
  · decide
  · simp [personDocument]
  · decide

end ObjectConstraints
