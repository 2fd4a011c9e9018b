import Mathlib.Data.List.Perm.Subperm
import ObjectConstraints.Proofs.Cascade

/-!
# More checks

Checks that are added hide no violation (`validate_monotone`). Where a violation stands in a report may
change, as an added check can cascade into an object earlier than the check that would have reported
it. So the reports are compared by what is evaluated: from lists that are contained in others come
evaluations that are contained in those of the others (`Evaluations.subperm`), and objects are reached
that are reached by the others too.
-/

namespace ObjectConstraints

open Traversal

-- ---------------------------------------------------------------------------
-- Lists contained in others
-- ---------------------------------------------------------------------------

/-- Checks of a class contained in others of it: each list is a sublist, and the members that are
visited are visited with the others too, in whatever order. -/
structure ClassChecks.PartOf (a b : ClassChecks) : Prop where
  cls : a.cls = b.cls
  flags : a.flags = b.flags
  constrainedFields : a.constrainedFields.Subperm b.constrainedFields
  invariants : a.invariants.Subperm b.invariants
  of : ∀ member, (a.of member).Sublist (b.of member)

/-- A validator that differs from another one in that its lists of checks are contained in those of
the other one. The lists of a class are known by its name, so they are compared by name. -/
structure Validator.PartOf (v v' : Validator) (classes : List Class) : Prop where
  languages : v.languages = v'.languages
  messages : v.messages = v'.messages
  profiles : v.profiles = v'.profiles
  checks : ∀ c ∈ classes, ∀ d ∈ classes, c.name = d.name → ∀ a b, (v.checksOf c).1 = .ok a →
    (v'.checksOf d).1 = .ok b → a.PartOf b
  sets : ∀ id a b, v.found id = .ok a → v'.found id = .ok b → a.checks.Sublist b.checks

-- ---------------------------------------------------------------------------
-- The order of tasks
-- ---------------------------------------------------------------------------

section

variable {env : Environment}

theorem Evaluations.split (first : List Task)
    (h : Evaluations env s (first ++ second) evaluations) :
    ∃ front back, Evaluations env s first front ∧ Evaluations env s second back ∧
      evaluations = front ++ back := by
  generalize htasks : first ++ second = tasks at h
  induction h generalizing first with
  | nil =>
    obtain ⟨rfl, rfl⟩ := List.append_eq_nil_iff.mp htasks
    exact ⟨[], [], .nil, .nil, rfl⟩
  | evaluate hcheck h ih =>
    cases first with
    | nil =>
      obtain rfl : second = _ := htasks
      exact ⟨[], _, .nil, .evaluate hcheck h, rfl⟩
    | cons task rest =>
      injection htasks with hhead htail
      subst hhead
      obtain ⟨front, back, hfront, hback, rfl⟩ := ih _ htail
      exact ⟨_ :: front, back, .evaluate hcheck hfront, hback, rfl⟩
  | @expand task parts tasks evaluations hexpands h ih =>
    cases first with
    | nil =>
      obtain rfl : second = _ := htasks
      exact ⟨[], _, .nil, .expand hexpands h, rfl⟩
    | cons head rest =>
      injection htasks with hhead htail
      subst hhead
      obtain ⟨front, back, hfront, hback, rfl⟩ := ih (parts ++ rest)
        (by rw [List.append_assoc]; exact congrArg (parts ++ ·) htail)
      exact ⟨front, back, .expand hexpands hfront, hback, rfl⟩

theorem Evaluations.perm (hperm : tasks.Perm tasks') (h : Evaluations env s tasks evaluations) :
    ∃ evaluations', Evaluations env s tasks' evaluations' ∧ evaluations.Perm evaluations' := by
  induction hperm generalizing evaluations with
  | nil => exact ⟨evaluations, h, .refl _⟩
  | cons task _ ih =>
    obtain ⟨front, back, hfront, hback, rfl⟩ := h.split [task]
    obtain ⟨back', hback', hperm⟩ := ih hback
    exact ⟨front ++ back', hfront.append hback', hperm.append_left front⟩
  | swap second first rest =>
    obtain ⟨front, back, hfront, hback, rfl⟩ := h.split [first, second]
    obtain ⟨a, b, ha, hb, rfl⟩ := hfront.split [first]
    exact ⟨(b ++ a) ++ back, (hb.append ha).append hback, List.perm_append_comm.append_right back⟩
  | trans _ _ ih ih' =>
    obtain ⟨middle, hmiddle, hperm⟩ := ih h
    obtain ⟨last, hlast, hperm'⟩ := ih' hmiddle
    exact ⟨last, hlast, hperm.trans hperm'⟩

end

-- ---------------------------------------------------------------------------
-- Tasks contained in others
-- ---------------------------------------------------------------------------

/-- A task of one run and the task of another one that it corresponds to. -/
inductive Task.PartOf : Task → Task → Prop
  | level (o : Object) (c : Class) : PartOf (.level o c) (.level o c)
  | field (o : Object) (c : Class) {a b : ClassChecks} (name : String) : a.PartOf b →
      PartOf (.field o c a name) (.field o c b name)
  | invariant (o : Object) {a b : ClassChecks} (method : String) : a.PartOf b →
      PartOf (.invariant o a method) (.invariant o b method)
  | interface (o : Object) (c : Class) : PartOf (.interface o c) (.interface o c)
  | apply (check : Check) (site : Site) : PartOf (.apply check site) (.apply check site)
  | evaluate (check : Check) (site : Site) : PartOf (.evaluate check site) (.evaluate check site)

/-- Whether each task corresponds to one of the others, to a different one each. -/
def Covered (tasks tasks' : List Task) : Prop :=
  ∃ matched extra, List.Forall₂ Task.PartOf tasks matched ∧ tasks'.Perm (matched ++ extra)

namespace Covered

theorem nil (tasks : List Task) : Covered [] tasks := ⟨[], tasks, .nil, .refl _⟩

theorem append (h : Covered first first') (h' : Covered second second') :
    Covered (first ++ second) (first' ++ second') := by
  obtain ⟨matched, extra, hmatched, hperm⟩ := h
  obtain ⟨matched', extra', hmatched', hperm'⟩ := h'
  refine ⟨matched ++ matched', extra ++ extra', List.rel_append hmatched hmatched', ?_⟩
  refine (hperm.append hperm').trans ?_
  simp only [List.append_assoc]
  refine .append_left matched ?_
  rw [← List.append_assoc, ← List.append_assoc]
  exact .append_right extra' List.perm_append_comm

theorem map {α : Type} {l l' : List α} {task task' : α → Task} (h : l.Subperm l')
    (htask : ∀ a, (task a).PartOf (task' a)) : Covered (l.map task) (l'.map task') := by
  obtain ⟨middle, hperm, hsub⟩ := h
  obtain ⟨extra, hextra⟩ := hsub.exists_perm_append
  refine ⟨l.map task', extra.map task', ?_, ?_⟩
  · rw [List.forall₂_map_left_iff, List.forall₂_map_right_iff, List.forall₂_same]
    exact fun a _ => htask a
  · rw [← List.map_append]
    exact (hextra.trans (hperm.append_right extra)).map task'

theorem applications (h : checks.Sublist checks') (site : Site) :
    Covered (applications checks site) (applications checks' site) :=
  map h.subperm fun check => .apply check site

theorem uncons (h : Covered (task :: tasks) tasks') :
    ∃ task' rest, task.PartOf task' ∧ tasks'.Perm (task' :: rest) ∧ Covered tasks rest := by
  obtain ⟨matched, extra, hmatched, hperm⟩ := h
  cases hmatched with
  | cons hpart hmatched => exact ⟨_, _, hpart, hperm, _, extra, hmatched, .refl _⟩

theorem level (h : ClassChecks.PartOf checks checks') (o : Object) (c : Class) :
    Covered (levelTasks o c checks) (levelTasks o c checks') := by
  have hinspected : inspected checks c = inspected checks' c := by
    rw [inspected, h.flags]
    rfl
  unfold levelTasks
  rw [hinspected]
  refine .append (.append (.append ?_ ?_) ?_) (.applications (h.of _) _)
  · exact .map h.constrainedFields fun name => .field o c name h
  · exact .map h.invariants fun method => .invariant o method h
  · exact .map (.refl _) fun interface => .interface o interface

end Covered

/-- Tasks about known objects and classes. -/
def Task.Within (v : Validator) (env : Environment) (objects : List Object) (classes : List Class) :
    Task → Prop
  | .level o c => o ∈ objects ∧ c ∈ classes
  | .field o .. => o ∈ objects
  | .invariant o _ method => o ∈ objects ∧ v.Calls classes method
  | .interface o c => o ∈ objects ∧ c ∈ classes
  | .apply _ site => site.Within env objects classes
  | .evaluate _ site => site.Within env objects classes

section

variable {v : Validator} {objects : List Object} {classes : List Class} {store : Store}

/-- The checks that were looked up for a class are those that the validator has for its name. -/
theorem Ready.checks_eq (hs : Ready v classes store s) (hc : c ∈ classes)
    (h : s.compiled.get? c.name = some (some checks)) :
    ∃ d ∈ classes, d.name = c.name ∧ (v.checksOf d).1 = .ok checks :=
  hs.known.checks c hc checks (by rw [CompiledChecks.resolve_of_get? h])

theorem Ready.found_eq (hs : Ready v classes store s) {id : String}
    (h : s.sets.get? id = some resolved) : v.found id = .ok resolved := by
  rw [← hs.known.sets id, ConstraintSets.found_eq, h]

theorem invariantTasks_within {env : Environment} {o : Object} (hs : Ready v classes store s)
    (ho : o ∈ objects) (hc : c ∈ classes) (h : s.compiled.get? c.name = some (some checks)) :
    ∀ t ∈ invariantTasks o checks, t.Within v env objects classes := by
  intro t ht
  obtain ⟨method, hmethod, rfl⟩ := List.mem_map.mp ht
  obtain ⟨d, hd, -, hchecks⟩ := hs.checks_eq hc h
  exact ⟨ho, d, hd, checks, hchecks, hmethod⟩

theorem applications_within {env : Environment} {site : Site} (hsite : site.Within env objects classes)
    (checks : List Check) : ∀ t ∈ applications checks site, t.Within v env objects classes := by
  intro t ht
  obtain ⟨check, -, rfl⟩ := List.mem_map.mp ht
  exact hsite

theorem Expands.within {env : Environment}
    (graph : StillGraph v env.implementation objects classes store)
    (hs : Ready v classes store s) (h : Expands env s task parts)
    (htask : task.Within v env objects classes) : ∀ t ∈ parts, t.Within v env objects classes := by
  cases h with
  | @level o c checks hc =>
    obtain ⟨ho, hclass⟩ := htask
    intro t ht
    simp only [levelTasks, List.mem_append] at ht
    rcases ht with ((ht | ht) | ht) | ht
    · obtain ⟨name, -, rfl⟩ := List.mem_map.mp ht
      exact ho
    · exact invariantTasks_within hs ho hclass hc t ht
    · obtain ⟨interface, hinterface, rfl⟩ := List.mem_map.mp ht
      unfold inspected at hinterface
      split at hinterface
      · exact ⟨ho, graph.classesOf.interfaces c hclass _ hinterface⟩
      · cases hinterface
    · exact applications_within
        (.of_owner graph.classesOf ho (Value.over_object.mpr ho) _ _) _ t ht
  | interface hc => exact invariantTasks_within hs htask.1 htask.2 hc
  | field hget =>
    have hover := graph.fields _ htask _ _ (hs.store ▸ hget)
    exact applications_within (.of_owner graph.classesOf htask hover _ _) _
  | invariant hinvoke =>
    have hover := graph.getters _ htask.1 _ htask.2 _ (hs.store ▸ hinvoke)
    exact applications_within (.of_owner graph.classesOf htask.1 hover _ _) _
  | apply hsites =>
    intro t ht
    obtain ⟨p, hp, rfl⟩ := List.mem_map.mp ht
    have hsite : Site.Within env objects classes _ := htask
    exact hsite.follows (outlook_follows graph.fields hsite.value (hs.store ▸ hsites) p hp)
  | set => exact applications_within htask _
  | reference => exact applications_within htask _

end

-- ---------------------------------------------------------------------------
-- Evaluations contained in others
-- ---------------------------------------------------------------------------

section

variable {v v' : Validator} {objects : List Object} {classes : List Class} {store : Store}
  (hpart : v.PartOf v' classes) (world : World) (requested : Option (List String))
include hpart

theorem outlook_partOf (check : Check) (site : Site) :
    outlook (v'.environment world requested none) store check site =
      outlook (v.environment world requested none) store check site := by
  simp only [outlook, Validator.environment, hpart.profiles, hpart.languages]
  rfl

theorem report_partOf (evaluation : Evaluation) :
    evaluation.report (v'.environment world requested none) store =
      evaluation.report (v.environment world requested none) store := by
  simp only [Evaluation.report, Evaluation.fails, violation, Validator.environment, hpart.languages,
    hpart.messages]
  rfl

variable (hs : Ready v classes store s) (hs' : Ready v' classes store s')
include hs hs'

theorem Ready.partOf (hc : c ∈ classes) (h : s.compiled.get? c.name = some (some a))
    (h' : s'.compiled.get? c.name = some (some b)) : a.PartOf b := by
  obtain ⟨d, hd, hname, ha⟩ := hs.checks_eq hc h
  obtain ⟨d', hd', hname', hb⟩ := hs'.checks_eq hc h'
  exact hpart.checks d hd d' hd' (hname.trans hname'.symm) a b ha hb

/-- Tasks that correspond consist of tasks that correspond. -/
theorem Expands.covered (hclasses : ClassesOf objects classes)
    (htask : task.Within v (v.environment world requested none) objects classes)
    (hsame : task.PartOf task') (h : Expands (v.environment world requested none) s task parts)
    (h' : Expands (v'.environment world requested none) s' task' parts') : Covered parts parts' := by
  cases h with
  | @level o c checks hc =>
    cases hsame
    cases h' with
    | @level _ _ checks' hc' =>
      exact .level (Ready.partOf hpart hs hs' htask.2 hc hc') o c
  | interface hc =>
    cases hsame
    cases h' with
    | interface hc' =>
      have hchecks := Ready.partOf hpart hs hs' htask.2 hc hc'
      exact .map hchecks.invariants fun method => .invariant _ method hchecks
  | field hget =>
    cases hsame with
    | field _ _ name hchecks =>
      cases h' with
      | field hget' =>
        rw [hs.store] at hget
        rw [hs'.store, hget] at hget'
        cases hget'
        exact .applications (hchecks.of _) _
  | invariant hinvoke =>
    cases hsame with
    | invariant _ method hchecks =>
      cases h' with
      | invariant hinvoke' =>
        rw [hs.store] at hinvoke
        have hsame := hs'.store ▸ hinvoke'
        rw [show (v'.environment world requested none).implementation =
          (v.environment world requested none).implementation from rfl, hinvoke] at hsame
        cases hsame
        rw [← hchecks.cls]
        exact .applications (hchecks.of _) _
  | apply hsites =>
    cases hsame
    cases h' with
    | apply hsites' =>
      rw [hs.store] at hsites
      rw [hs'.store, outlook_partOf hpart, hsites] at hsites'
      cases hsites'
      exact .map (.refl _) fun p => .evaluate _ p
  | @set check site id found hkind hset =>
    cases hsame
    cases h' with
    | set hkind' hset' =>
      rw [hkind] at hkind'
      cases hkind'
      exact .applications (hpart.sets id _ _ (hs.found_eq hset) (hs'.found_eq hset')) site
    | reference hkind' => simp [hkind] at hkind'
  | @reference check site field declaringClass declaring name checks hkind hdeclared hc =>
    cases hsame
    cases h' with
    | set hkind' => simp [hkind] at hkind'
    | reference hkind' hdeclared' hc' =>
      rw [hkind] at hkind'
      cases hkind'
      have hscope : site.scope (v'.environment world requested none) =
        site.scope (v.environment world requested none) := rfl
      rw [hscope, hdeclared] at hdeclared'
      cases hdeclared'
      have hsite : site.Within (v.environment world requested none) objects classes := htask
      have hdeclaring := Scope.declared_mem hclasses hsite.scope hdeclared
      exact .applications ((Ready.partOf hpart hs hs' hdeclaring hc hc').of _) site

/-- What corresponding tasks amount to is contained in what the others amount to. -/
theorem Evaluations.subperm (graph : StillGraph v world.implementation objects classes store)
    (h : Evaluations (v.environment world requested none) s tasks evaluations)
    (htasks : ∀ t ∈ tasks, t.Within v (v.environment world requested none) objects classes)
    (hcovered : Covered tasks tasks')
    (h' : Evaluations (v'.environment world requested none) s' tasks' evaluations') :
    evaluations.Subperm evaluations' := by
  induction h generalizing tasks' evaluations' with
  | nil => exact List.nil_subperm
  | @evaluate check site tasks evaluations hcheck h ih =>
    obtain ⟨task', rest, hsame, hperm, hcovered⟩ := hcovered.uncons
    obtain ⟨reordered, hreordered, hperm'⟩ := h'.perm hperm
    cases hsame
    cases hreordered with
    | evaluate _ hrest =>
      have hsub := ih (fun t ht => htasks t (List.mem_cons_of_mem _ ht)) hcovered hrest
      exact ((List.subperm_cons _).mpr hsub).trans hperm'.symm.subperm
    | expand hexpands => simp [hexpands.not_evaluate] at hcheck
  | @expand task parts tasks evaluations hexpands h ih =>
    obtain ⟨task', rest, hsame, hperm, hcovered⟩ := hcovered.uncons
    obtain ⟨reordered, hreordered, hperm'⟩ := h'.perm hperm
    have htask := htasks task List.mem_cons_self
    cases hreordered with
    | evaluate hcheck =>
      cases hsame
      simp [hexpands.not_evaluate] at hcheck
    | expand hexpands' hrest =>
      have hparts := hexpands.covered hpart world requested hs hs' graph.classesOf htask hsame hexpands'
      have hwithin := hexpands.within graph hs htask
      refine (ih (fun t ht => ?_) (hparts.append hcovered) hrest).trans hperm'.symm.subperm
      exact (List.mem_append.mp ht).elim (hwithin t) fun ht => htasks t (List.mem_cons_of_mem _ ht)

end

-- ---------------------------------------------------------------------------
-- Reports
-- ---------------------------------------------------------------------------

/-- What a completed validation of an object has done: the state it ended in, and the objects that it
visited. -/
structure Visits (v : Validator) (env : Environment) (objects : List Object) (classes : List Class)
    (store : Store) (root : Object) (violations : List Violation) (s : RunState)
    (visited : List Visited) : Prop where
  ready : Ready v classes store s
  apart : (visited.map (·.object)).Nodup
  known : ∀ e ∈ visited, e.object ∈ objects
  reached : ∀ p, p ∈ visited.map (·.object) ↔ Reached env s root p
  own : ∀ e ∈ visited, Evaluations env s (ownTasks e.object) e.evaluations
  reported : (tested violations).Perm ((visited.flatMap (·.evaluations)).flatMap (·.report env store))

theorem validate_visits {v : Validator} {world : World} {objects : List Object} {classes : List Class}
    (graph : StillGraph v world.implementation objects classes store) (ho : o ∈ objects)
    (h : v.validate world depth requested o store = (.ok violations, after, store')) :
    ∃ s visited, Visits v (v.environment world requested none) objects classes store o violations s
      visited := by
  obtain ⟨s, hexec, -⟩ := validate_ok h
  obtain ⟨hs, evaluations, entries, hwalk⟩ := visit_performs rfl (ofDepth_performs rfl graph depth)
    graph ho ⟨rfl, .start v classes none store⟩ hexec
  obtain ⟨hapart, hreached, hown⟩ := hwalk.visits_reached graph.apart ho rfl s.entered
  refine ⟨s, ⟨o, evaluations⟩ :: entries, hs, hapart, fun e he => ?_, hreached, hown, hwalk.reported⟩
  rcases List.mem_cons.mp he with rfl | he
  · exact ho
  · exact hwalk.known e he

theorem subperm_flatMap {α β : Type} {l l' : List α} (h : l.Subperm l') (f : α → List β) :
    (l.flatMap f).Subperm (l'.flatMap f) := by
  obtain ⟨middle, hperm, hsub⟩ := h
  obtain ⟨extra, hextra⟩ := hsub.exists_perm_append
  refine List.Subperm.trans ?_ ((hextra.trans (hperm.append_right extra)).flatMap_right f).symm.subperm
  rw [List.flatMap_append]
  exact (List.sublist_append_left ..).subperm

theorem visited_subperm {visited visited' : List Visited} (hapart : (visited.map (·.object)).Nodup)
    (h : ∀ e ∈ visited, ∃ e' ∈ visited', e'.object = e.object ∧ e.evaluations.Subperm e'.evaluations) :
    (visited.flatMap (·.evaluations)).Subperm (visited'.flatMap (·.evaluations)) := by
  induction visited generalizing visited' with
  | nil => exact List.nil_subperm
  | cons e rest ih =>
    obtain ⟨e', he', hobject, hsub⟩ := h e List.mem_cons_self
    obtain ⟨front, back, rfl⟩ := List.append_of_mem he'
    rw [List.map_cons, List.nodup_cons] at hapart
    have hrest : ∀ d ∈ rest, ∃ d' ∈ front ++ back,
        d'.object = d.object ∧ d.evaluations.Subperm d'.evaluations := by
      intro d hd
      obtain ⟨d', hd', hsame, hsub⟩ := h d (List.mem_cons_of_mem _ hd)
      have hne : d' ≠ e' := by
        rintro rfl
        exact hapart.1 (hobject ▸ hsame ▸ List.mem_map_of_mem hd)
      refine ⟨d', ?_, hsame, hsub⟩
      simpa [hne] using hd'
    have hmiddle : (front ++ e' :: back).Perm (e' :: (front ++ back)) := List.perm_middle
    exact (hsub.append (ih hapart.2 hrest)).trans (hmiddle.flatMap_right _).symm.subperm

section

variable {v v' : Validator} {objects : List Object} {classes : List Class} {store : Store}
  {world : World} (hpart : v.PartOf v' classes)
  (graph : StillGraph v world.implementation objects classes store)
  (h : Visits v (v.environment world requested none) objects classes store o violations s visited)
  (h' : Visits v' (v'.environment world requested none) objects classes store o violations' s' visited')
include hpart graph h h'

theorem Visits.subperm (hp : p ∈ objects)
    (hown : Evaluations (v.environment world requested none) s (ownTasks p) evaluations)
    (hown' : Evaluations (v'.environment world requested none) s' (ownTasks p) evaluations') :
    evaluations.Subperm evaluations' := by
  refine Evaluations.subperm hpart world requested h.ready h'.ready graph hown (fun t ht => ?_)
    (.map (.refl _) fun c => .level p c) hown'
  obtain ⟨c, hc, rfl⟩ := List.mem_map.mp ht
  exact ⟨hp, graph.classesOf.levels _ (graph.classesOf.objects p hp) c hc⟩

/-- With more checks all objects are reached that were reached. -/
theorem Visits.reached_partOf (hp : Reached (v.environment world requested none) s o p) :
    p ∈ visited'.map (·.object) := by
  induction hp with
  | root => exact (h'.reached o).mpr .root
  | @cascade p target evaluations evaluation hreached hown hmem htarget ih =>
    obtain ⟨e', he', rfl⟩ := List.mem_map.mp ih
    have hsub := Visits.subperm hpart graph h h' (h'.known e' he') hown (h'.own e' he')
    exact (h'.reached target).mpr
      (.cascade ((h'.reached _).mp ih) (h'.own e' he') (hsub.subset hmem) htarget)

theorem Visits.evaluations_subperm :
    (visited.flatMap (·.evaluations)).Subperm (visited'.flatMap (·.evaluations)) := by
  refine visited_subperm h.apart fun e he => ?_
  have hreached := (h.reached e.object).mp (List.mem_map_of_mem he)
  obtain ⟨e', he', hobject⟩ := List.mem_map.mp (Visits.reached_partOf hpart graph h h' hreached)
  refine ⟨e', he', hobject, Visits.subperm hpart graph h h' (h.known e he) (h.own e he) ?_⟩
  exact hobject ▸ h'.own e' he'

end

/-- A validator with more checks, checks that cascade included, reports on an object all that the one
with fewer of them does, each violation at least as often. Only the place of a violation among nested
ones may be another. -/
theorem validate_monotone {v v' : Validator} {world : World} {objects : List Object}
    {classes : List Class} (hpart : v.PartOf v' classes)
    (graph : StillGraph v world.implementation objects classes store)
    (graph' : StillGraph v' world.implementation objects classes store) (ho : o ∈ objects)
    (h : v.validate world depth requested o store = (.ok violations, after, store₁))
    (h' : v'.validate world depth' requested o store = (.ok violations', after', store₂)) :
    (tested violations).Subperm (tested violations') := by
  obtain ⟨s, visited, hvisits⟩ := validate_visits graph ho h
  obtain ⟨s', visited', hvisits'⟩ := validate_visits graph' ho h'
  have hsub := subperm_flatMap (Visits.evaluations_subperm hpart graph hvisits hvisits')
    (·.report (v.environment world requested none) store)
  have hreported := hvisits'.reported
  simp only [report_partOf hpart] at hreported
  exact hvisits.reported.subperm.trans (hsub.trans hreported.symm.subperm)

/-- Nodes have labels as a set says, and do not cascade. -/
def labelChecks : ClassChecks :=
  { nodeChecks with
    lists := ⟨[(.field "label", [⟨none, { kind := .assertConstraintSet "text" }⟩])]⟩
    constrainedFields := ["label"] }

def labelValidator : Validator :=
  { ringValidator with compiled := ⟨[("Node", some labelChecks)]⟩ }

theorem label_calls (method : String) : ¬ labelValidator.Calls [node] method := by
  rintro ⟨c, hc, checks, hchecks, hmethod⟩
  cases List.mem_singleton.mp hc
  cases hchecks
  cases hmethod

theorem label_still (implementation : Implementation) :
    StillGraph labelValidator implementation ringObjects [node] ring where
  apart := (ring_still implementation).apart
  classesOf := ring_classesOf
  fields := ring_closed
  getters _ _ method hcalls := absurd hcalls (label_calls method)
  quiet _ _ method hcalls := absurd hcalls (label_calls method)

theorem label_partOf : labelValidator.PartOf ringValidator [node] where
  languages := rfl
  messages := rfl
  profiles := rfl
  checks c hc d hd _ a b ha hb := by
    cases List.mem_singleton.mp hc
    cases List.mem_singleton.mp hd
    cases ha
    cases hb
    refine ⟨rfl, rfl, by decide, .refl _, fun member => ?_⟩
    by_cases hlabel : Member.field "label" = member
    · subst hlabel
      exact .refl _
    · have hnone : labelChecks.of member = [] := by
        simp [ClassChecks.of, ClassChecks.registered, labelChecks, Table.get?, Table.getEntry, hlabel]
      exact hnone ▸ List.nil_sublist _
  sets id a b ha hb := by
    have hsame : labelValidator.found id = ringValidator.found id := rfl
    rw [hsame, hb] at ha
    cases ha
    exact .refl _

/-- The label of the other node is missing only if there is a cascade to it. -/
theorem label_reports :
    ((labelValidator.validate stillWorld 2 none ⟨0, node⟩ ring).1.map fun violations =>
      (tested violations).map (·.object.map (·.id))).toOption = some [some 0] := by
  decide

theorem validate_monotone_ring :
    let o : Object := ⟨0, node⟩
    let fewer := labelValidator.validate stillWorld 2 none o ring
    let more := ringValidator.validate stillWorld 2 none o ring
    labelValidator.PartOf ringValidator [node] ∧
      StillGraph labelValidator stillWorld.implementation ringObjects [node] ring ∧
      StillGraph ringValidator stillWorld.implementation ringObjects [node] ring ∧ o ∈ ringObjects ∧
      ∃ violations violations', fewer.1 = .ok violations ∧ more.1 = .ok violations' ∧
        (tested violations).map (·.object.map (·.id)) = [some 0] ∧
        (tested violations').map (·.object.map (·.id)) = [some 1, some 0] ∧
        (tested violations).Subperm (tested violations') := by
  intro o fewer more
  have ho : o ∈ ringObjects := List.mem_cons_self
  have hfewer := label_reports
  have hmore := ring_reports
  refine ⟨label_partOf, label_still _, ring_still _, ho, ?_⟩
  cases hresult : fewer.1 with
  | error e =>
    rw [hresult] at hfewer
    cases hfewer
  | ok violations =>
    cases hresult' : more.1 with
    | error e =>
      rw [hresult'] at hmore
      cases hmore
    | ok violations' =>
      rw [hresult] at hfewer
      rw [hresult'] at hmore
      injection hfewer with hfewer
      injection hmore with hmore
      refine ⟨violations, violations', rfl, rfl, hfewer, hmore, ?_⟩
      exact validate_monotone label_partOf (label_still _) (ring_still _) ho
        (Prod.ext hresult rfl) (Prod.ext hresult' rfl)

end ObjectConstraints
