import ObjectConstraints.Proofs.Evaluations

/-!
# Walks

What a stretch of a run has done when it is over: which evaluations it was to make, which objects it
entered on the way, and that it reports nothing but the failures of these evaluations and those of
the objects entered (`Walk`). Stretches follow one another (`Walk.append`), stand for a task
(`Walk.expand`), and lead into an object (`Walk.cascade`).
-/

namespace ObjectConstraints

open Traversal

/-- The violations of a report, nested ones included, that a check was tested for. -/
def tested (violations : List Violation) : List Violation :=
  (Violation.flattenAll violations).filter (!·.check.isComposite)

/-- An object that has been entered, with its own evaluations. -/
structure Visited where
  object : Object
  evaluations : List Evaluation

/-- The evaluations of a stretch and of the objects entered in it. -/
def allEvaluations (evaluations : List Evaluation) (entries : List Visited) : List Evaluation :=
  evaluations ++ entries.flatMap (·.evaluations)

/-- What is known of a stretch of a run that was to do some tasks, and reported some violations. -/
structure Walk (env : Environment) (objects : List Object) (tasks : List Task) (s : RunState)
    (violations : List Violation) (s' : RunState) (evaluations : List Evaluation)
    (entries : List Visited) : Prop where
  before : s.Before s'
  store : s'.store = s.store
  made : Evaluations env s' tasks evaluations
  own : ∀ e ∈ entries, Evaluations env s' (ownTasks e.object) e.evaluations
  known : ∀ e ∈ entries, e.object ∈ objects
  entered : ∀ o, s'.entered.contains o = true ↔
    s.entered.contains o = true ∨ o.id ∈ entries.map (·.object.id)
  fresh : ∀ e ∈ entries, s.entered.contains e.object = false
  apart : (entries.map (·.object.id)).Nodup
  /-- Whatever is cascaded into has been entered at some time. -/
  targets : ∀ e ∈ allEvaluations evaluations entries, ∀ o, e.CascadesInto o →
    o ∈ objects ∧ s'.entered.contains o = true
  /-- Nothing is entered but what is cascaded into from the stretch or an object entered in it. -/
  reached : ∀ P : Object → Prop, (∀ e ∈ evaluations, ∀ o, e.CascadesInto o → P o) →
    (∀ entry ∈ entries, P entry.object → ∀ e ∈ entry.evaluations, ∀ o, e.CascadesInto o → P o) →
    ∀ entry ∈ entries, P entry.object
  reported : (tested violations).Perm
    ((allEvaluations evaluations entries).flatMap (·.report env s.store))
  /-- A violation that only passes others on is not reported without one. -/
  silent : tested violations = [] → violations = []

theorem tested_append (first second : List Violation) :
    tested (first ++ second) = tested first ++ tested second := by
  simp [tested, Violation.flattenAll_append]

theorem allEvaluations_append (evaluations evaluations' : List Evaluation)
    (entries entries' : List Visited) :
    (allEvaluations (evaluations ++ evaluations') (entries ++ entries')).Perm
      (allEvaluations evaluations entries ++ allEvaluations evaluations' entries') := by
  simp only [allEvaluations, List.flatMap_append, List.append_assoc]
  refine List.Perm.append_left _ ?_
  rw [← List.append_assoc, ← List.append_assoc]
  exact List.Perm.append_right _ List.perm_append_comm

namespace Walk

variable {env : Environment} {objects : List Object}

theorem nil (s : RunState) : Walk env objects [] s [] s [] [] where
  before := .refl s
  store := rfl
  made := .nil
  own e he := by cases he
  known e he := by cases he
  entered o := by simp
  fresh e he := by cases he
  apart := .nil
  targets e he := by cases he
  reached P _ _ e he := by cases he
  reported := .nil
  silent _ := rfl

theorem append (h : Walk env objects first s violations s' evaluations entries)
    (h' : Walk env objects second s' violations' s'' evaluations' entries') :
    Walk env objects (first ++ second) s (violations ++ violations') s''
      (evaluations ++ evaluations') (entries ++ entries') where
  before := h.before.trans h'.before
  store := h'.store.trans h.store
  made := (h.made.later h'.before h'.store).append h'.made
  own e he := by
    rcases List.mem_append.mp he with he | he
    · exact (h.own e he).later h'.before h'.store
    · exact h'.own e he
  known e he := (List.mem_append.mp he).elim (h.known e) (h'.known e)
  entered o := by rw [h'.entered, h.entered, List.map_append, List.mem_append, or_assoc]
  fresh e he := by
    rcases List.mem_append.mp he with he | he
    · exact h.fresh e he
    · cases hs : s.entered.contains e.object with
      | false => rfl
      | true =>
        have hs' := h.before.entered e.object hs
        rw [h'.fresh e he] at hs'
        cases hs'
  apart := by
    rw [List.map_append, List.nodup_append]
    refine ⟨h.apart, h'.apart, ?_⟩
    rintro id hid _ hid' rfl
    obtain ⟨e, he, rfl⟩ := List.mem_map.mp hid'
    have hs' := (h.entered e.object).mpr (.inr hid)
    rw [h'.fresh e he] at hs'
    cases hs'
  targets e he o ho := by
    rcases List.mem_append.mp ((allEvaluations_append ..).mem_iff.mp he) with he | he
    · obtain ⟨hknown, hentered⟩ := h.targets e he o ho
      exact ⟨hknown, h'.before.entered o hentered⟩
    · exact h'.targets e he o ho
  reached P hP hentries entry hentry := by
    rcases List.mem_append.mp hentry with hentry | hentry
    · exact h.reached P (fun e he => hP e (List.mem_append_left _ he))
        (fun f hf => hentries f (List.mem_append_left _ hf)) entry hentry
    · exact h'.reached P (fun e he => hP e (List.mem_append_right _ he))
        (fun f hf => hentries f (List.mem_append_right _ hf)) entry hentry
  reported := by
    rw [tested_append]
    have hsecond := h'.reported
    rw [h.store] at hsecond
    refine (h.reported.append hsecond).trans ?_
    rw [← List.flatMap_append]
    exact ((allEvaluations_append ..).flatMap_right _).symm
  silent hnone := by
    rw [tested_append, List.append_eq_nil_iff] at hnone
    rw [h.silent hnone.1, h'.silent hnone.2]
    rfl

/-- A stretch that does the parts of a task after looking something up does the task. -/
theorem expand (hs : s.Before t) (hstore : t.store = s.store) (hentered : t.entered = s.entered)
    (hexpands : Expands env t task parts) (h : Walk env objects parts t violations s' evaluations entries) :
    Walk env objects [task] s violations s' evaluations entries where
  before := hs.trans h.before
  store := h.store.trans hstore
  made := .single (hexpands.later h.before h.store) h.made
  own := h.own
  known := h.known
  entered := hentered ▸ h.entered
  fresh := hentered ▸ h.fresh
  apart := h.apart
  targets := h.targets
  reached := h.reached
  reported := hstore ▸ h.reported
  silent := h.silent

theorem single (hcheck : check.isReference = false)
    (htargets : ∀ o, (⟨check, site⟩ : Evaluation).CascadesInto o →
      o ∈ objects ∧ s.entered.contains o = true)
    (hreport : tested violations = (⟨check, site⟩ : Evaluation).report env s.store)
    (hsilent : tested violations = [] → violations = []) :
    Walk env objects [.evaluate check site] s violations s [⟨check, site⟩] [] where
  before := .refl s
  store := rfl
  made := .evaluate hcheck .nil
  own e he := by cases he
  known e he := by cases he
  entered o := by simp
  fresh e he := by cases he
  apart := .nil
  targets e he o ho := by
    cases List.mem_singleton.mp he
    exact htargets o ho
  reached P _ _ e he := by cases he
  reported := by simp [allEvaluations, hreport]
  silent := hsilent

theorem report_composite (h : check.isComposite = true) (store : Store) :
    (⟨check, site⟩ : Evaluation).report env store = [] := by
  simp [Evaluation.report, Evaluation.fails, h]

/-- What a check that cascades reports: nothing unless there are violations to pass on. -/
def pass (env : Environment) (check : Check) (site : Site) (causes : List Violation) : List Violation :=
  if causes.isEmpty then [] else [violation env check site causes]

theorem tested_pass (h : check.isComposite = true) (causes : List Violation) :
    tested (pass env check site causes) = tested causes := by
  unfold pass
  cases causes with
  | nil => rfl
  | cons cause rest => simp [tested, Violation.flattenAll, Violation.flatten_eq, violation, h]

theorem cascade (hkind : check.kind = .assertValid) (hsite : site.value = .object o)
    (ho : o ∈ objects) (hfresh : s.entered.contains o = false)
    (h : Walk env objects (ownTasks o) { s with entered := (s.entered.enter o).2 } causes s'
      evaluations entries) :
    Walk env objects [.evaluate check site] s (pass env check site causes) s'
      [⟨check, site⟩] (⟨o, evaluations⟩ :: entries) where
  before := (RunState.Before.enter s o).trans h.before
  store := h.store
  made := .evaluate (by simp [Check.isReference, hkind]) .nil
  own e he := by
    rcases List.mem_cons.mp he with rfl | he
    · exact h.made
    · exact h.own e he
  known e he := by
    rcases List.mem_cons.mp he with rfl | he
    · exact ho
    · exact h.known e he
  entered other := by
    rw [h.entered, Entered.contains_enter]
    simp only [Bool.or_eq_true, beq_iff_eq, List.map_cons, List.mem_cons]
    exact or_assoc.trans or_left_comm
  fresh e he := by
    rcases List.mem_cons.mp he with rfl | he
    · exact hfresh
    · have hentry := h.fresh e he
      rw [Entered.contains_enter] at hentry
      simp_all
  apart := by
    rw [List.map_cons, List.nodup_cons]
    refine ⟨fun hmem => ?_, h.apart⟩
    obtain ⟨e, he, hid⟩ := List.mem_map.mp hmem
    have hentry := h.fresh e he
    rw [Entered.contains_enter] at hentry
    simp_all
  targets e he target htarget := by
    rcases List.mem_cons.mp he with rfl | he
    · have hsame : o = target := by
        have hvalue := hsite.symm.trans htarget.2
        injection hvalue
      subst hsame
      exact ⟨ho, (h.entered o).mpr (.inl (by simp [Entered.contains_enter]))⟩
    · exact h.targets e he target htarget
  reached P hP hentries := by
    have ho : P o := hP _ List.mem_cons_self o ⟨hkind, hsite⟩
    have hothers := h.reached P (hentries _ List.mem_cons_self ho)
      fun f hf => hentries f (List.mem_cons_of_mem _ hf)
    intro entry hentry
    rcases List.mem_cons.mp hentry with rfl | hentry
    · exact ho
    · exact hothers entry hentry
  reported := by
    have hcomposite : check.isComposite = true := by simp [Check.isComposite, hkind, CheckKind.isComposite]
    have hall : allEvaluations [⟨check, site⟩] (⟨o, evaluations⟩ :: entries) =
        ⟨check, site⟩ :: allEvaluations evaluations entries := rfl
    rw [hall, List.flatMap_cons, report_composite hcomposite, List.nil_append, tested_pass hcomposite]
    exact h.reported
  silent hnone := by
    have hcomposite : check.isComposite = true := by simp [Check.isComposite, hkind, CheckKind.isComposite]
    rw [tested_pass hcomposite] at hnone
    rw [h.silent hnone]
    rfl

end Walk

end ObjectConstraints
