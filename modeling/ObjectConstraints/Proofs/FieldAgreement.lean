import ObjectConstraints.Proofs.Cascade
import ObjectConstraints.Proofs.Placement
import ObjectConstraints.Proofs.Registries

/-!
# Values of fields

A value can be validated for a field, or along with the object that holds it. The first asks the lowest
class that declares the field for its checks, the second every class of the hierarchy. So what is
reported for the value is a part of what is reported for the object at that field, and all of it
unless another class of the hierarchy has checks for a field of that name (`validate_about_field`).
-/

namespace ObjectConstraints

open Traversal

-- ---------------------------------------------------------------------------
-- Levels of a class
-- ---------------------------------------------------------------------------

theorem Class.sizeOf_hierarchy (c : Class) : ∀ d ∈ c.hierarchy, sizeOf d ≤ sizeOf c := by
  fun_induction Class.hierarchy c with
  | case1 => simp
  | case2 _ _ parent _ _ _ _ _ ih =>
    intro d hd
    rcases List.mem_cons.mp hd with rfl | hd
    · exact Nat.le_refl _
    · have hparent := ih d hd
      simp only [Class.mk.sizeOf_spec, Option.some.sizeOf_spec]
      omega

theorem Class.hierarchy_nodup (c : Class) : c.hierarchy.Nodup := by
  fun_induction Class.hierarchy c with
  | case1 => simp
  | case2 _ _ parent _ _ _ _ _ ih =>
    refine List.nodup_cons.mpr ⟨fun hmem => ?_, ih⟩
    have hle := parent.sizeOf_hierarchy _ hmem
    simp only [Class.mk.sizeOf_spec, Option.some.sizeOf_spec] at hle
    omega

/-- A known class without namesakes among the known ones. -/
structure Class.Alone (classes : List Class) (c : Class) : Prop where
  known : c ∈ classes
  named : ∀ d ∈ classes, d.name = c.name → d = c

/-- Whether a validator has checks for a field of instances at a level. -/
def Validator.Constrains (v : Validator) (c : Class) (field : String) : Prop :=
  ∃ checks, (v.checksOf c).1 = .ok checks ∧ field ∈ checks.constrainedFields

-- ---------------------------------------------------------------------------
-- Places of violations
-- ---------------------------------------------------------------------------

/-- Whether the member that a value stands at is a field of that name. -/
def Context.isAt (field : String) (context : Context) : Bool :=
  match context.root with
  | .field _ name => name == field
  | _ => false

theorem Context.isAt_of_root {context other : Context} (h : context.root = other.root)
    (field : String) : context.isAt field = other.isAt field := by
  rw [isAt, isAt, h]

/-- The violations that are about a field, or about something in the container that it holds. -/
def Violation.about (field : String) (violations : List Violation) : List Violation :=
  violations.filter (·.context.isAt field)

namespace Violation

variable {violations : List Violation}

theorem about_append (field : String) (first second : List Violation) :
    Violation.about field (first ++ second) = Violation.about field first ++ Violation.about field second :=
  List.filter_append ..

theorem about_eq_self (h : ∀ w ∈ violations, w.context.isAt field = true) :
    Violation.about field violations = violations := List.filter_eq_self.mpr h

theorem about_eq_nil (h : ∀ w ∈ violations, w.context.isAt field = false) :
    Violation.about field violations = [] :=
  List.filter_eq_nil_iff.mpr fun w hw => Bool.eq_false_iff.mp (h w hw)

end Violation

/-- Whether all that a run reports is about the field, or all about other members. -/
def Places (field : String) (isAt : Bool) (m : Run (List Violation)) : Prop :=
  ∀ s violations s', m.exec s = (.ok violations, s') →
    ∀ w ∈ violations, w.context.isAt field = isAt

-- ---------------------------------------------------------------------------
-- Checks report where they are applied
-- ---------------------------------------------------------------------------

section

variable {env : Environment} {nested : Nested} {field : String}

section

variable (hn : ∀ checks site, Reporting (Violation.StandsAt site.context.root) (nested.apply checks site))
include hn

theorem applyAll_places (checks : List Check) (site : Site) :
    Places field (site.context.isAt field) (applyAll env nested checks site) :=
  (applyAll_stands hn checks site).mono fun _ hw => Context.isAt_of_root hw field

theorem fields_places (o : Object) (c : Class) (checks : ClassChecks) {names : List String}
    (h : ∀ name ∈ names, (name == field) = isAt) :
    Places field isAt (visitFields env nested o c { checks with constrainedFields := names }) :=
  Reporting.gather fun name hname => .after fun value => h name hname ▸
    applyAll_places hn (checks.of (.field name)) ⟨some o, value, fieldKind c name, .field c.name name⟩

theorem invariants_places (o : Object) (checks : ClassChecks) :
    Places field false (visitInvariants env nested o checks) :=
  Reporting.gather fun method _ => .after fun value => applyAll_places hn (checks.of (.result method 0))
    ⟨some o, value, resultKind checks.cls method 0, .result checks.cls.name method⟩

/-- What a level reports at a field, its fields do. -/
theorem level_about {o : Object} {c : Class}
    (hexec : (visitLevel env nested o c).exec s = (.ok violations, s')) :
    ∃ checks t fields t', (Run.checksOf env c).exec s = (.ok checks, t) ∧
      (visitFields env nested o c checks).exec t = (.ok fields, t') ∧
      Violation.about field violations = Violation.about field fields := by
  rw [visitLevel_eq] at hexec
  obtain ⟨checks, t, hchecks, hexec⟩ := Run.exec_bind_ok.mp hexec
  obtain ⟨fields, t', hfields, hexec⟩ := Run.exec_bind_ok.mp hexec
  obtain ⟨invariants, _, hinvariants, hexec⟩ := Run.exec_bind_ok.mp hexec
  obtain ⟨inherited, _, hinherited, hexec⟩ := Run.exec_bind_ok.mp hexec
  obtain ⟨own, _, hown, hexec⟩ := Run.exec_bind_ok.mp hexec
  cases hexec
  have hno : Violation.about field invariants = [] :=
    Violation.about_eq_nil (invariants_places hn o checks _ _ _ hinvariants)
  have hno' : Violation.about field inherited = [] := by
    refine Violation.about_eq_nil (Reporting.gather (fun interface _ => ?_) _ _ _ hinherited)
    exact .after fun found => invariants_places hn o found
  have hno'' : Violation.about field own = [] :=
    Violation.about_eq_nil (applyAll_places hn _ ⟨some o, .object o, .object c.name, .object c.name⟩
      _ _ _ hown)
  refine ⟨checks, t, fields, t', hchecks, hfields, ?_⟩
  simp only [Violation.about_append, hno, hno', hno'', List.append_nil]

end

end

-- ---------------------------------------------------------------------------
-- Checks that lead nowhere
-- ---------------------------------------------------------------------------

/-- A run that only looks at the store, whatever checks lead to. -/
def Reads {α : Type} (m : Nested → Run α) : Prop :=
  ∃ r : Store → Except Stop α, ∀ nested s, (m nested).exec s = (r s.store, s)

namespace Reads

variable {α β : Type}

theorem pure (a : α) : Reads fun _ => (Pure.pure a : Run α) := ⟨fun _ => .ok a, fun _ _ => rfl⟩

theorem lift (r : Store → Except ValidationError α) :
    Reads fun _ => (do Run.lift (r (← get).store) : Run α) :=
  ⟨fun store => (r store).mapError .failed, fun _ s => Run.exec_lift_store r s⟩

theorem bind {m : Nested → Run α} {f : α → Nested → Run β} (hm : Reads m) (hf : ∀ a, Reads (f a)) :
    Reads fun nested => m nested >>= fun a => f a nested := by
  obtain ⟨r, hr⟩ := hm
  choose next hnext using hf
  refine ⟨fun store => (r store).bind fun a => next a store, fun nested s => ?_⟩
  rw [Run.exec_bind, hr]
  dsimp only
  cases r s.store with
  | error e => rfl
  | ok a => exact hnext a nested s

theorem gather {step : Nested → α → Run (List β)} {l : List α}
    (h : ∀ a ∈ l, Reads fun nested => step nested a) : Reads fun nested => Run.gather (step nested) l := by
  induction l with
  | nil => exact .pure []
  | cons a rest ih =>
    refine .bind (h a List.mem_cons_self) fun front => ?_
    exact .bind (ih fun b hb => h b (List.mem_cons_of_mem _ hb)) fun back => .pure (front ++ back)

theorem test (env : Environment) (check : Check) (site : Site) :
    Reads fun _ => Traversal.test env check site :=
  ⟨fun store => ((check.isSatisfied env.languages env.now site.owner site.value site.context
    store).map fun satisfied => if satisfied then [] else [violation env check site []]).mapError
      .failed, fun _ s => exec_test env check site s⟩

end Reads

/-- Checks that are not composite answer the same in every state over a store, and change nothing. -/
theorem applyAll_reads (env : Environment) {checks : List Check}
    (hplain : ∀ check ∈ checks, check.isComposite = false) (site : Site) :
    Reads fun nested => applyAll env nested checks site := by
  refine .gather fun check hcheck => ?_
  have htest (nested : Nested) : evaluate env nested check = test env check :=
    funext fun p => evaluate_eq_test env nested (hplain check hcheck) p
  simp only [applyCheck_eq, htest, ← bind_assoc]
  exact .bind (.lift fun store => outlook env store check site) fun sites =>
    .gather fun p _ => .test env check p

theorem applyAll_unique {env : Environment} {checks : List Check} {site : Site} {nested nested' : Nested}
    (hplain : ∀ check ∈ checks, check.isComposite = false) (hstore : s.store = t.store)
    (h : (applyAll env nested checks site).exec s = (.ok first, s'))
    (h' : (applyAll env nested' checks site).exec t = (.ok second, t')) : first = second := by
  obtain ⟨r, hr⟩ := applyAll_reads env hplain site
  have hfirst : r s.store = .ok first := congrArg Prod.fst ((hr nested s).symm.trans h)
  have hsecond : r t.store = .ok second := congrArg Prod.fst ((hr nested' t).symm.trans h')
  rw [hstore, hsecond] at hfirst
  exact (Except.ok.inj hfirst).symm

-- ---------------------------------------------------------------------------
-- Levels
-- ---------------------------------------------------------------------------

section

variable {v : Validator} {env : Environment} {objects : List Object} {classes : List Class}
  {store : Store} {field : String} {o : Object} (henv : env.configurers = v.configurers)
include henv

theorem Ready.ownChecks (hs : Ready v classes store s) (hc : c.Alone classes)
    (h : (Run.checksOf env c).exec s = (.ok checks, t)) :
    Ready v classes store t ∧ (v.checksOf c).1 = .ok checks := by
  obtain ⟨ht, -⟩ := hs.checksOf henv hc.known h
  obtain ⟨hchecks, -⟩ := Run.exec_checksOf_ok.mp h
  rw [henv] at hchecks
  obtain ⟨d, hd, hname, hfound⟩ := hs.known.checks c hc.known checks hchecks
  exact ⟨ht, hc.named d hd hname ▸ hfound⟩

variable (graph : StillGraph v env.implementation objects classes store) (ho : o ∈ objects)
include graph ho

/-- A field that a level notes once reports there what the checks say of its value. -/
theorem fields_about {c : Class} {checks : ClassChecks} {value : Value} {nested : Nested}
    (hs : Ready v classes store s) (hnodup : checks.constrainedFields.Nodup)
    (hmem : field ∈ checks.constrainedFields)
    (hplain : ∀ check ∈ checks.of (.field field), check.isComposite = false)
    (hget : o.get field store = .ok value)
    (hexec : (visitFields env (Nested.ofDepth env depth) o c checks).exec s = (.ok fields, s'))
    (ht : t.store = store)
    (hreported : (applyAll env nested (checks.of (.field field))
      ⟨some o, value, fieldKind c field, .field c.name field⟩).exec t = (.ok reported, t')) :
    Violation.about field fields = reported := by
  have hplaces := ofDepth_stands env depth
  obtain ⟨front, back, hlist⟩ := List.append_of_mem hmem
  have hother : ∀ name ∈ front ++ back, (name == field) = false := by
    rw [hlist, List.nodup_middle, List.nodup_cons] at hnodup
    exact fun name hname => beq_eq_false_iff_ne.mpr fun heq => hnodup.1 (heq ▸ hname)
  rw [visitFields, hlist] at hexec
  obtain ⟨before, s₁, own, s₂, after, hbefore, hown, hafter, rfl⟩ := Run.exec_gather_middle hexec
  have hnone : Violation.about field before = [] := Violation.about_eq_nil <|
    fields_places hplaces o c checks (fun _ hname => hother _ (List.mem_append_left _ hname)) _ _ _ hbefore
  have hnone' : Violation.about field after = [] := Violation.about_eq_nil <|
    fields_places hplaces o c checks (fun _ hname => hother _ (List.mem_append_right _ hname)) _ _ _ hafter
  -- The fields before this one leave the store as it is, so the value is the one at the start.
  have hs₁ := (visitFields_performs henv (ofDepth_performs henv graph depth) graph ho c
    { checks with constrainedFields := front } s before s₁ hs hbefore).1
  obtain ⟨found, _, hread, hown⟩ := Run.exec_bind_ok.mp hown
  obtain ⟨hfound, rfl⟩ := Run.exec_read_ok.mp hread
  rw [hs₁.store, hget] at hfound
  cases hfound
  have hall : Violation.about field own = own := Violation.about_eq_self fun w hw =>
    (applyAll_places hplaces _ _ _ _ _ hown w hw).trans (beq_self_eq_true field)
  simp only [Violation.about_append, hnone, hnone', hall, List.nil_append, List.append_nil]
  exact applyAll_unique hplain (hs₁.store.trans ht.symm) hown hreported

omit graph ho in
/-- A level without checks for a field reports nothing at it. -/
theorem level_silent (hs : Ready v classes store s) (hc : c.Alone classes) (hno : ¬ v.Constrains c field)
    (hexec : (visitLevel env (Nested.ofDepth env depth) o c).exec s = (.ok violations, s')) :
    Violation.about field violations = [] := by
  have hplaces := ofDepth_stands env depth
  obtain ⟨checks, t, fields, t', hchecks, hfields, habout⟩ := level_about hplaces hexec
  obtain ⟨-, hfound⟩ := hs.ownChecks henv hc hchecks
  rw [habout]
  refine Violation.about_eq_nil (fields_places hplaces o c checks (fun name hname => ?_) _ _ _ hfields)
  exact beq_eq_false_iff_ne.mpr fun heq => hno ⟨checks, hfound, heq ▸ hname⟩

theorem levels_silent {levels : List Class}
    (hlevels : ∀ c ∈ levels, c.Alone classes ∧ ¬ v.Constrains c field)
    (hs : Ready v classes store s)
    (hexec : (Run.gather (visitLevel env (Nested.ofDepth env depth) o) levels).exec s =
      (.ok violations, s')) :
    Violation.about field violations = [] := by
  induction levels generalizing s violations with
  | nil =>
    cases hexec
    rfl
  | cons c rest ih =>
    obtain ⟨first, t, others, hfirst, hothers, rfl⟩ := Run.exec_append_ok hexec
    obtain ⟨hc, hno⟩ := hlevels c List.mem_cons_self
    have ht := (visitLevel_performs henv (ofDepth_performs henv graph depth) graph ho hc.known
      s first t hs hfirst).1
    rw [Violation.about_append, level_silent henv hs hc hno hfirst,
      ih (fun d hd => hlevels d (List.mem_cons_of_mem _ hd)) ht hothers, List.append_nil]

variable {d : Class} {checks : ClassChecks} {value : Value} {nested : Nested} {t t' : RunState}
  {reported : List Violation} (hchecks : (v.checksOf d).1 = .ok checks)
  (hconsistent : checks.Consistent) (hinstance : checks.cls.DeclaresField false field)
  (hplain : ∀ check ∈ checks.of (.field field), check.isComposite = false)
  (hget : o.get field store = .ok value) (ht : t.store = store)
  (hreported : (applyAll env nested (checks.of (.field field))
    ⟨some o, value, fieldKind d field, .field d.name field⟩).exec t = (.ok reported, t'))
include hchecks hconsistent hinstance hplain hget ht hreported

/-- A level reports at a field of instances what its checks say of the value. -/
theorem level_field (hs : Ready v classes store s) (hd : d.Alone classes)
    (hexec : (visitLevel env (Nested.ofDepth env depth) o d).exec s = (.ok violations, s')) :
    Violation.about field violations = reported := by
  by_cases hmem : field ∈ checks.constrainedFields
  · obtain ⟨found, s₁, fields, _, hfound, hfields, habout⟩ :=
      level_about (ofDepth_stands env depth) hexec
    obtain ⟨hs₁, hown⟩ := hs.ownChecks henv hd hfound
    rw [hchecks] at hown
    cases hown
    rw [habout]
    exact fields_about henv graph ho hs₁ (hconsistent.apart false).1 hmem hplain hget hfields ht hreported
  · have hno : ¬ v.Constrains d field := by
      rintro ⟨found, hfound, hmem'⟩
      rw [hchecks] at hfound
      cases hfound
      exact hmem hmem'
    have hempty : checks.registered (.field field) = [] := by
      by_contra hne
      exact hmem ((hconsistent.fields false field).mpr ⟨hinstance, hne⟩)
    rw [level_silent henv hs hd hno hexec]
    simp only [ClassChecks.of, hempty, List.map_nil] at hreported
    cases hreported
    rfl

/-- Among levels, those with checks for the field report at it, each its own part. -/
theorem levels_about {front back : List Class} (hlevels : ∀ c ∈ front ++ d :: back, c.Alone classes)
    (hs : Ready v classes store s)
    (hexec : (Run.gather (visitLevel env (Nested.ofDepth env depth) o) (front ++ d :: back)).exec s =
      (.ok violations, s')) :
    reported <:+: Violation.about field violations ∧
      ((∀ c ∈ front ++ back, ¬ v.Constrains c field) →
        Violation.about field violations = reported) := by
  obtain ⟨below, s₁, own, s₂, above, hbelow, hown, habove, rfl⟩ := Run.exec_gather_middle hexec
  have hfront : ∀ c ∈ front, c.Alone classes := fun c hc => hlevels c (List.mem_append_left _ hc)
  have hback : ∀ c ∈ d :: back, c.Alone classes := fun c hc => hlevels c (List.mem_append_right _ hc)
  have hd : d.Alone classes := hback d List.mem_cons_self
  have hnested := ofDepth_performs henv graph depth
  have hperforms : Performs v env objects classes store
      (Run.gather (visitLevel env (Nested.ofDepth env depth) o) front) (front.map (.level o)) :=
    .gather fun c hc => visitLevel_performs henv hnested graph ho (hfront c hc).known
  have hs₁ := (hperforms s below s₁ hs hbelow).1
  have hs₂ := (visitLevel_performs henv hnested graph ho hd.known s₁ own s₂ hs₁ hown).1
  have habout : Violation.about field own = reported :=
    level_field henv graph ho hchecks hconsistent hinstance hplain hget ht hreported hs₁ hd hown
  rw [Violation.about_append, Violation.about_append, habout]
  refine ⟨⟨_, _, List.append_assoc ..⟩, fun hno => ?_⟩
  have hnone : Violation.about field below = [] := levels_silent henv graph ho
    (fun c hc => ⟨hfront c hc, hno c (List.mem_append_left _ hc)⟩) hs hbelow
  have hnone' : Violation.about field above = [] := levels_silent henv graph ho
    (fun c hc => ⟨hback c (List.mem_cons_of_mem _ hc), hno c (List.mem_append_right _ hc)⟩) hs₂ habove
  rw [hnone, hnone', List.nil_append, List.append_nil]

end

-- ---------------------------------------------------------------------------
-- Validations
-- ---------------------------------------------------------------------------

variable {v : Validator} {world : World} {objects : List Object} {classes : List Class} {store : Store}
  {o : Object} {d : Class} {field : String} {value : Value}

/-- A validation of a value for a field that completes applies the checks of the class that declares
it. -/
theorem validateField_ok (hdeclared : o.cls.declaring? field = some d)
    (hchecks : (v.checksOf d).1 = .ok checks)
    (h : v.validateField world depth o field value store = (.ok violations, after, store')) :
    ∃ t s', t.store = store ∧
      (applyAll (v.environment world none none)
        (Nested.ofDepth (v.environment world none none) depth) (checks.of (.field field))
        ⟨some o, value, fieldKind d field, .field d.name field⟩).exec t = (.ok violations, s') := by
  have hrun : v.validateField world depth o field value store =
      v.conclude (Context.field d.name field).text ((Validator.applyMember depth
        (v.environment world none none) d (.field field)
        ⟨some o, value, fieldKind d field, .field d.name field⟩).exec (v.start (some o) store)) := by
    unfold Validator.validateField
    rw [hdeclared]
    rfl
  rw [hrun] at h
  obtain ⟨hresult, -⟩ := Prod.mk.inj h
  obtain ⟨found, t, hfound, hexec⟩ := Run.exec_bind_ok.mp (Prod.ext (Run.mapError_ok.mp hresult) rfl)
  obtain ⟨hsame, rfl⟩ := Run.exec_checksOf_ok.mp hfound
  have hsame : (v.checksOf d).1 = .ok found := hsame
  rw [hchecks] at hsame
  cases hsame
  exact ⟨_, _, rfl, hexec⟩

/-- What is reported for the value of a field is a part of what a validation of the object reports at
fields of that name. It is all of that, in that order, if no other class of the hierarchy has checks
for such a field. -/
theorem validate_about_field (hv : v.Reachable)
    (graph : StillGraph v world.implementation objects classes store)
    (names : ∀ c ∈ o.cls.hierarchy, ∀ e ∈ classes, e.name = c.name → e = c) (ho : o ∈ objects)
    (hdeclared : o.cls.declaring? field = some d) (hchecks : (v.checksOf d).1 = .ok checks)
    (hinstance : checks.cls.DeclaresField false field)
    (hplain : ∀ check ∈ checks.of (.field field), check.isComposite = false)
    (hget : o.get field store = .ok value)
    (hobject : v.validate world depth none o store = (.ok violations, after, store'))
    (hfield : v.validateField world depth' o field value store = (.ok reported, after', store'')) :
    reported <:+: Violation.about field violations ∧
      ((∀ c ∈ o.cls.hierarchy, v.Constrains c field → c = d) →
        Violation.about field violations = reported) := by
  obtain ⟨t, _, ht, hreported⟩ := validateField_ok hdeclared hchecks hfield
  obtain ⟨s', hvisit, -⟩ := validate_ok hobject
  obtain ⟨front, back, hhierarchy⟩ := List.append_of_mem (declaring_mem hdeclared)
  rw [visit, Run.exec_bind_of_ok _ (Run.exec_enter o _), hhierarchy] at hvisit
  have hlevels : ∀ c ∈ front ++ d :: back, c.Alone classes := by
    rw [← hhierarchy]
    exact fun c hc =>
      ⟨graph.classesOf.levels _ (graph.classesOf.objects o ho) c hc, names c hc⟩
  have hknown := Known.start v classes none store
  have hs : Ready v classes store { v.start none store with
      entered := ((v.start none store).entered.enter o).2 } := ⟨rfl, hknown.checks, hknown.sets⟩
  obtain ⟨hpart, hall⟩ := levels_about rfl graph ho hchecks (hv.consistent hchecks) hinstance hplain hget ht
    hreported hlevels hs hvisit
  refine ⟨hpart, fun honly => hall fun c hc hconstrains => ?_⟩
  -- The class stands once in the hierarchy, so it is not among the other levels.
  have hapart := o.cls.hierarchy_nodup
  rw [hhierarchy, List.nodup_middle, List.nodup_cons] at hapart
  have hlevel : c ∈ o.cls.hierarchy := by
    rw [hhierarchy, List.mem_append, List.mem_cons]
    exact (List.mem_append.mp hc).imp_right .inr
  exact hapart.1 (honly c hlevel hconstrains ▸ hc)

/-- A class whose objects have labels, one that inherits them, and one that declares them again. -/
def entryClass : Class where
  id := 0
  name := "Entry"
  superclass := none
  interfaces := []
  isInterface := false
  fields := [⟨"label", .string, false⟩]
  methods := []
  constructors := []

def taskClass : Class :=
  { entryClass with id := 1, name := "Task", superclass := some entryClass, fields := [] }

def noteClass : Class := { entryClass with id := 2, name := "Note", superclass := some entryClass }

/-- Entries have to have labels. -/
def entryValidator : Validator :=
  Event.run [.addChecks entryClass (.field "label") false [{ kind := .notNull }]] {}

def entryChecks : ClassChecks where
  cls := entryClass
  lists := ⟨[(.field "label",
    [⟨some 0, { kind := .notNull, context := some (.field "Entry" "label") }⟩])]⟩
  constrainedFields := ["label"]

/-- An object without a label. -/
def unlabelled : Store where
  objects := ⟨[(0, ⟨[("label", .null)]⟩)]⟩
  made := 1

theorem entry_reachable : entryValidator.Reachable := ⟨_, {}, rfl, rfl⟩

theorem entry_checks : (entryValidator.checksOf entryClass).1 = .ok entryChecks ∧
    (entryValidator.checksOf taskClass).1 = .ok { cls := taskClass } ∧
    (entryValidator.checksOf noteClass).1 = .ok { cls := noteClass } := ⟨rfl, rfl, rfl⟩

theorem unlabelled_get (h : Object.get ⟨0, c⟩ field unlabelled = .ok value) : value = .null := by
  by_cases hlabel : "label" = field <;>
    simp_all [Object.get, unlabelled, Table.get?, Table.getEntry]

theorem task_still (implementation : Implementation) :
    StillGraph entryValidator implementation [⟨0, taskClass⟩] [taskClass, entryClass] unlabelled := by
  have hcalls (method : String) : ¬ entryValidator.Calls [taskClass, entryClass] method := by
    rintro ⟨c, hc, checks, hchecks, hmethod⟩
    simp only [List.mem_cons, List.not_mem_nil, or_false] at hc
    rcases hc with rfl | rfl
    · rw [entry_checks.2.1] at hchecks
      cases hchecks
      cases hmethod
    · rw [entry_checks.1] at hchecks
      cases hchecks
      cases hmethod
  exact {
    apart := fun o ho p hp _ => by rw [List.mem_singleton.mp ho, List.mem_singleton.mp hp]
    classesOf := {
      objects := fun o ho => by simp [List.mem_singleton.mp ho]
      levels := by simp [taskClass, entryClass, Class.hierarchy]
      interfaces := by simp [taskClass, entryClass, Class.allInterfaces, Class.walkInterfaces] }
    fields := fun o ho field value hget => by
      rw [List.mem_singleton.mp ho] at hget
      rw [unlabelled_get hget]
      exact Value.over_null
    getters := fun _ _ method h => absurd h (hcalls method)
    quiet := fun _ _ method h => absurd h (hcalls method) }

theorem task_reports :
    (entryValidator.validate stillWorld 0 none ⟨0, taskClass⟩ unlabelled).1.isOk = true ∧
      (entryValidator.validateField stillWorld 0 ⟨0, taskClass⟩ "label" .null unlabelled).1.toOption.map
        List.length = some 1 := by
  decide

/-- A field that is constrained in a superclass only. -/
theorem validate_about_field_task :
    let o : Object := ⟨0, taskClass⟩
    StillGraph entryValidator stillWorld.implementation [o] [taskClass, entryClass] unlabelled ∧
      entryValidator.Reachable ∧ o.cls.declaring? "label" = some entryClass ∧
      ∃ violations reported,
        (entryValidator.validate stillWorld 0 none o unlabelled).1 = .ok violations ∧
        (entryValidator.validateField stillWorld 0 o "label" .null unlabelled).1 = .ok reported ∧
        reported.length = 1 ∧ Violation.about "label" violations = reported := by
  intro o
  refine ⟨task_still _, entry_reachable, rfl, ?_⟩
  obtain ⟨hobject, hfield⟩ := task_reports
  cases hviolations : (entryValidator.validate stillWorld 0 none o unlabelled).1 with
  | error e =>
    rw [hviolations] at hobject
    cases hobject
  | ok violations =>
    cases hreported : (entryValidator.validateField stillWorld 0 o "label" .null unlabelled).1 with
    | error e =>
      rw [hreported] at hfield
      cases hfield
    | ok reported =>
      rw [hreported] at hfield
      refine ⟨violations, reported, rfl, rfl, Option.some.inj hfield, ?_⟩
      have hagrees := validate_about_field entry_reachable (task_still stillWorld.implementation)
        (by simp [taskClass, entryClass, Class.hierarchy]) List.mem_cons_self (d := entryClass) rfl
        entry_checks.1
        ⟨_, rfl, rfl⟩ (by decide) rfl (Prod.ext hviolations rfl) (Prod.ext hreported rfl)
      refine hagrees.2 ?_
      rintro c hc ⟨checks, hchecks, hmem⟩
      have hlevels : c = taskClass ∨ c = entryClass := by
        simpa [o, taskClass, entryClass, Class.hierarchy] using hc
      rcases hlevels with rfl | rfl
      · rw [entry_checks.2.1] at hchecks
        cases hchecks
        cases hmem
      · rfl

/-- The lowest class that declares a field may have no checks for it although a class above it does.
Nothing is reported for the value then, though the object breaks the checks that the field has. -/
theorem validate_about_field_redeclared :
    let o : Object := ⟨0, noteClass⟩
    entryValidator.Reachable ∧ noteClass.declaring? "label" = some noteClass ∧
      (∀ c ∈ noteClass.hierarchy, ∀ checks, (entryValidator.checksOf c).1 = .ok checks →
        ∀ check ∈ checks.of (.field "label"), check.isComposite = false) ∧
      o.get "label" unlabelled = .ok .null ∧
      (entryValidator.validateField stillWorld 0 o "label" .null unlabelled).1.toOption.map
        List.length = some 0 ∧
      ((entryValidator.validate stillWorld 0 none o unlabelled).1.toOption.map fun violations =>
        (Violation.about "label" violations).map (·.context)) = some [.field "Entry" "label"] := by
  refine ⟨entry_reachable, rfl, ?_, rfl, by decide, by decide⟩
  intro c hc checks hchecks
  have hlevels : c = noteClass ∨ c = entryClass := by
    simpa [noteClass, entryClass, Class.hierarchy] using hc
  rcases hlevels with rfl | rfl
  · rw [entry_checks.2.2] at hchecks
    cases hchecks
    simp [ClassChecks.of, ClassChecks.registered, Table.get?_empty]
  · rw [entry_checks.1] at hchecks
    cases hchecks
    decide

end ObjectConstraints
