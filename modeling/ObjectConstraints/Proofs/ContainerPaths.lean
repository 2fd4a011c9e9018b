import Mathlib.Tactic.Choose
import ObjectConstraints.Proofs.Steps

/-!
# Paths into containers

Where a check looks inside of containers, told by the paths that lead there. A path is followed step
by step, and a check is evaluated at its end if its targets lead along every step and reach what is
found there (`Site.Inspects`). These paths have an order: what a container holds comes before the
container. A check that leads nowhere else is evaluated at exactly these places, once each and in
that order (`dispatch_inspects`).
-/

namespace ObjectConstraints

open Traversal

-- ---------------------------------------------------------------------------
-- Paths
-- ---------------------------------------------------------------------------

/-- A step into a container: to an item of a list or an array, or to a key or a value of a map. -/
inductive Step where
  | item (index : Nat)
  | key (index : Nat)
  | value (index : Nat)
  deriving DecidableEq, Repr

namespace Step

/-- Whether targets lead along a step. -/
def isAllowed (targets : Targets) : Step → Bool
  | .item _ => targets.values
  | .key _ => targets.keys
  | .value _ => targets.values

/-- The order of the steps from one container: that of its items or entries, all keys before all
values. -/
def Before : Step → Step → Prop
  | .item i, .item j => i < j
  | .key i, .key j => i < j
  | .value i, .value j => i < j
  | .key _, .value _ => True
  | _, _ => False

theorem Before.irrefl (step : Step) : ¬ step.Before step := by
  cases step <;> simp [Before]

theorem Before.asymm {step other : Step} (h : step.Before other) : ¬ other.Before step := by
  intro hback
  cases step <;> cases other <;> simp only [Before] at h hback
  all_goals omega

end Step

/-- Steps from a site into nested containers, the outermost first. -/
abbrev Path := List Step

namespace Path

/-- The order of paths from one site: what a container holds, at any depth, comes before the
container. -/
def Before : Path → Path → Prop
  | [], _ => False
  | _ :: _, [] => True
  | step :: path, other :: path' => step.Before other ∨ (step = other ∧ Before path path')

theorem Before.irrefl (path : Path) : ¬ path.Before path := by
  induction path with
  | nil => simp [Before]
  | cons step rest ih => simp [Before, Step.Before.irrefl, ih]

theorem Before.asymm {path other : Path} (h : path.Before other) : ¬ other.Before path := by
  induction path generalizing other with
  | nil => cases h
  | cons step rest ih =>
    cases other with
    | nil => exact id
    | cons step' rest' =>
      rintro (hback | ⟨rfl, hback⟩)
      · rcases h with h | ⟨rfl, -⟩
        · exact h.asymm hback
        · exact Step.Before.irrefl _ hback
      · rcases h with h | ⟨-, h⟩
        · exact Step.Before.irrefl _ h
        · exact ih h hback

end Path

namespace Site

/-- The site that a step leads to. The kind a member is declared with says nothing of what its
containers hold. -/
def step? (site : Site) : Step → Option Site
  | .item index =>
    match site.value with
    | .list items | .array items =>
      items[index]?.map fun item => ⟨site.owner, item, .any, .element site.context index⟩
    | _ => none
  | .key index =>
    match site.value with
    | .map entries =>
      entries[index]?.map fun entry => ⟨site.owner, entry.1, .any, .mapKey site.context index⟩
    | _ => none
  | .value index =>
    match site.value with
    | .map entries =>
      entries[index]?.map fun entry =>
        ⟨site.owner, entry.2, .any, .mapValue site.context entry.1.text⟩
    | _ => none

/-- The site that a path leads to. -/
def follow? (site : Site) : Path → Option Site
  | [] => some site
  | step :: path => (site.step? step).bind (·.follow? path)

/-- Whether a check with these targets is evaluated at the site that a path leads to: every step is
allowed, and what is found there is neither a container nor null in place of one that a member is
declared as, or containers themselves are looked at. -/
structure Inspects (targets : Targets) (site : Site) (path : Path) (found : Site) : Prop where
  leads : site.follow? path = some found
  allowed : ∀ step ∈ path, step.isAllowed targets = true
  reaches : (found.value.container? = none ∧
    ¬ (path = [] ∧ site.value.isNull = true ∧ site.declared.container?.isSome = true)) ∨
      targets.container = true

-- ---------------------------------------------------------------------------
-- What a container holds
-- ---------------------------------------------------------------------------

/-- Contents in order, each with the step that leads to it, if the targets lead there at all. -/
def held {α : Type} (isLed : Bool) (step : Nat → Step) (place : Nat → α → Site) (contents : List α) :
    List (Step × Site) :=
  if isLed then contents.zipIdx.map fun (content, index) => (step index, place index content) else []

/-- What a container holds, as far as the targets lead there, in order. -/
def parts (targets : Targets) (site : Site) : List (Step × Site) :=
  match site.value with
  | .list items | .array items =>
    held targets.values .item
      (fun index item => ⟨site.owner, item, .any, .element site.context index⟩) items
  | .map entries =>
    held targets.keys .key
      (fun index entry => ⟨site.owner, entry.1, .any, .mapKey site.context index⟩) entries ++
    held targets.values .value
      (fun _ entry => ⟨site.owner, entry.2, .any, .mapValue site.context entry.1.text⟩) entries
  | _ => []

variable {targets : Targets} {site : Site}

section

variable {α : Type} {isLed : Bool} {step : Nat → Step} {place : Nat → α → Site} {contents : List α}

theorem mem_held {part : Step × Site} :
    part ∈ held isLed step place contents ↔ isLed = true ∧
      ∃ index content, contents[index]? = some content ∧ part = (step index, place index content) := by
  cases isLed with
  | false => simp [held]
  | true =>
    simp only [held, if_true, List.mem_map, true_and, Prod.exists, List.mk_mem_zipIdx_iff_getElem?]
    constructor
    · rintro ⟨content, index, hget, rfl⟩
      exact ⟨index, content, hget, rfl⟩
    · rintro ⟨index, content, hget, rfl⟩
      exact ⟨content, index, hget, rfl⟩

theorem mem_held_step (hstep : ∀ i j, step i = step j → i = j) {index : Nat} {part : Site} :
    (step index, part) ∈ held isLed step place contents ↔
      contents[index]?.map (place index) = some part ∧ isLed = true := by
  rw [mem_held, Option.map_eq_some_iff]
  constructor
  · rintro ⟨hled, other, content, hget, hpart⟩
    obtain ⟨hsame, rfl⟩ := Prod.mk.inj hpart
    obtain rfl := hstep _ _ hsame
    exact ⟨⟨content, hget, rfl⟩, hled⟩
  · rintro ⟨⟨content, hget, rfl⟩, hled⟩
    exact ⟨hled, index, content, hget, rfl⟩

theorem held_ordered (h : ∀ i j, i < j → (step i).Before (step j)) :
    (held isLed step place contents).Pairwise fun part other => part.1.Before other.1 := by
  cases isLed with
  | false => exact .nil
  | true =>
    have hindices : contents.zipIdx.Pairwise fun entry other => entry.2 < other.2 := by
      have hsorted : (List.range' 0 contents.length).Pairwise (· < ·) := List.pairwise_lt_range'
      rw [← List.zipIdx_map_snd, List.pairwise_map] at hsorted
      exact hsorted
    simp only [held, if_true, List.pairwise_map]
    exact hindices.imp fun hlt => h _ _ hlt

end

theorem reachedItems_eq (owner : Option Object) (context : Context) (first : Nat) (items : List Value) :
    reachedItems targets owner context first items =
      (items.zipIdx first).flatMap fun (item, index) =>
        reached targets owner .any (.element context index) item := by
  induction items generalizing first with
  | nil => simp [reachedItems]
  | cons item rest ih => simp [reachedItems, ih]

theorem reachedKeys_eq (owner : Option Object) (context : Context) (first : Nat)
    (entries : List (Value × Value)) :
    reachedKeys targets owner context first entries =
      (entries.zipIdx first).flatMap fun (entry, index) =>
        reached targets owner .any (.mapKey context index) entry.1 := by
  induction entries generalizing first with
  | nil => simp [reachedKeys]
  | cons entry rest ih => simp [reachedKeys, ih]

theorem reachedValues_eq (owner : Option Object) (context : Context) (first : Nat)
    (entries : List (Value × Value)) :
    reachedValues targets owner context entries =
      (entries.zipIdx first).flatMap fun (entry, _) =>
        reached targets owner .any (.mapValue context entry.1.text) entry.2 := by
  induction entries generalizing first with
  | nil => simp [reachedValues]
  | cons entry rest ih => simp [reachedValues, ih (first + 1)]

/-- The positions of a check: those in what the site holds, and then the site itself. -/
theorem positions_eq (targets : Targets) (site : Site) :
    site.positions targets =
      (site.parts targets).flatMap (fun part => part.2.positions targets) ++ site.own targets := by
  obtain ⟨owner, value, declared, context⟩ := site
  cases value with
  | list items | array items =>
    simp only [positions, reached, parts, held, reachedItems_eq]
    split <;> simp [List.flatMap_map]
  | map entries =>
    simp only [positions, reached, parts, held, reachedKeys_eq, reachedValues_eq _ _ 0]
    split <;> split <;> simp [List.flatMap_map]
  | _ => simp [positions, reached, parts]

theorem mem_parts {step : Step} {part : Site} :
    (step, part) ∈ site.parts targets ↔
      site.step? step = some part ∧ step.isAllowed targets = true := by
  obtain ⟨owner, value, declared, context⟩ := site
  cases value with
  | list items | array items =>
    rw [parts]
    cases step with
    | item index => exact mem_held_step fun _ _ h => Step.item.inj h
    | _ => simp [step?, mem_held]
  | map entries =>
    rw [parts, List.mem_append]
    cases step with
    | item index => simp [step?, mem_held]
    | key index =>
      rw [mem_held_step fun _ _ h => Step.key.inj h, mem_held]
      simp [step?, Step.isAllowed]
    | value index =>
      rw [mem_held, mem_held_step fun _ _ h => Step.value.inj h]
      simp [step?, Step.isAllowed]
  | _ => cases step <;> simp [parts, step?]

theorem parts_ordered (targets : Targets) (site : Site) :
    (site.parts targets).Pairwise fun part other => part.1.Before other.1 := by
  obtain ⟨owner, value, declared, context⟩ := site
  cases value with
  | list items | array items =>
    rw [parts]
    exact held_ordered fun _ _ h => h
  | map entries =>
    rw [parts]
    refine List.pairwise_append.mpr ⟨held_ordered fun _ _ h => h, held_ordered fun _ _ h => h, ?_⟩
    intro key hkey value hvalue
    obtain ⟨-, _, _, -, rfl⟩ := mem_held.mp hkey
    obtain ⟨-, _, _, -, rfl⟩ := mem_held.mp hvalue
    trivial
  | _ => exact .nil

/-- What a container holds is smaller than the container, and is declared as nothing in particular. -/
theorem parts_smaller {part : Step × Site} (h : part ∈ site.parts targets) :
    sizeOf part.2.value < sizeOf site.value ∧ part.2.declared = .any := by
  obtain ⟨owner, value, declared, context⟩ := site
  cases value with
  | list items | array items =>
    rw [parts] at h
    obtain ⟨-, index, item, hget, rfl⟩ := mem_held.mp h
    have hsize := List.sizeOf_lt_of_mem (List.mem_of_getElem? hget)
    refine ⟨?_, rfl⟩
    simp only [Value.list.sizeOf_spec, Value.array.sizeOf_spec]
    omega
  | map entries =>
    rw [parts] at h
    rcases List.mem_append.mp h with h | h
    all_goals
      obtain ⟨-, index, ⟨key, value⟩, hget, rfl⟩ := mem_held.mp h
      have hsize := List.sizeOf_lt_of_mem (List.mem_of_getElem? hget)
      refine ⟨?_, rfl⟩
      simp only [Value.map.sizeOf_spec, Prod.mk.sizeOf_spec] at hsize ⊢
      omega
  | _ => cases h

-- ---------------------------------------------------------------------------
-- Enumerations
-- ---------------------------------------------------------------------------

theorem inspects_nil {found : Site} :
    site.Inspects targets [] found ↔ found ∈ site.own targets := by
  have hown : found ∈ site.own targets ↔
      (site.isContainer = false ∨ targets.container = true) ∧ found = site := by
    unfold own
    split <;> simp_all
  rw [hown]
  have hreaches (v : Value) (k : Kind) : ((⟨site.owner, v, k, site.context⟩ : Site).isContainer = false ↔
      v.container? = none ∧ ¬ (([] : Path) = [] ∧ v.isNull = true ∧ k.container?.isSome = true)) := by
    simp [isContainer]
  constructor
  · rintro ⟨hleads, -, hreached⟩
    cases hleads
    exact ⟨hreached.imp_left (hreaches site.value site.declared).mpr, rfl⟩
  · rintro ⟨hreached, rfl⟩
    exact ⟨rfl, by simp, hreached.imp_left (hreaches found.value found.declared).mp⟩

theorem inspects_cons {step : Step} {path : Path} {found : Site} :
    site.Inspects targets (step :: path) found ↔
      ∃ part, (step, part) ∈ site.parts targets ∧ part.Inspects targets path found := by
  constructor
  · rintro ⟨hleads, hallowed, hreached⟩
    obtain ⟨part, hstep, hleads⟩ := Option.bind_eq_some_iff.mp hleads
    have hmem := mem_parts.mpr ⟨hstep, hallowed step List.mem_cons_self⟩
    refine ⟨part, hmem, hleads, fun other hother => hallowed other (List.mem_cons_of_mem _ hother), ?_⟩
    have hdeclared : part.declared = .any := (parts_smaller hmem).2
    refine hreached.imp_left fun h => ⟨h.1, ?_⟩
    rw [hdeclared]
    simp [Kind.container?]
  · rintro ⟨part, hmem, hleads, hallowed, hreached⟩
    obtain ⟨hstep, hled⟩ := mem_parts.mp hmem
    refine ⟨Option.bind_eq_some_iff.mpr ⟨part, hstep, hleads⟩, ?_, ?_⟩
    · rintro other hother
      rcases List.mem_cons.mp hother with rfl | hother
      · exact hled
      · exact hallowed other hother
    · exact hreached.imp_left fun h => ⟨h.1, by simp⟩

/-- A list of the places where a check with these targets is evaluated, each with the path that leads
there: all of them, in order. -/
structure Enumerates (targets : Targets) (site : Site) (places : List (Path × Site)) : Prop where
  complete : ∀ path found, (path, found) ∈ places ↔ site.Inspects targets path found
  ordered : places.Pairwise fun place other => place.1.Before other.1

theorem Enumerates.nodup {places : List (Path × Site)} (h : site.Enumerates targets places) :
    places.Nodup := by
  refine h.ordered.imp fun hbefore hsame => ?_
  rw [hsame] at hbefore
  exact Path.Before.irrefl _ hbefore

theorem Enumerates.unique {places others : List (Path × Site)} (h : site.Enumerates targets places)
    (h' : site.Enumerates targets others) : places = others := by
  have hsame : places.Perm others := by
    refine (List.perm_ext_iff_of_nodup h.nodup h'.nodup).mpr ?_
    rintro ⟨path, found⟩
    rw [h.complete, h'.complete]
  exact hsame.eq_of_pairwise (fun _ _ _ _ hbefore hback => absurd hback hbefore.asymm)
    h.ordered h'.ordered

section

variable {inner : Step × Site → List (Path × Site)}

/-- What is enumerated in the parts of a site, with the steps that lead there, and the site. -/
def gathered (targets : Targets) (site : Site) (inner : Step × Site → List (Path × Site)) :
    List (Path × Site) :=
  (site.parts targets).flatMap (fun part => (inner part).map fun place => (part.1 :: place.1, place.2)) ++
    (site.own targets).map fun found => ([], found)

theorem Enumerates.gathered (h : ∀ part ∈ site.parts targets, part.2.Enumerates targets (inner part)) :
    site.Enumerates targets (site.gathered targets inner) where
  complete path found := by
    rw [Site.gathered, List.mem_append, List.mem_flatMap]
    cases path with
    | nil =>
      rw [inspects_nil]
      simp
    | cons step path =>
      rw [inspects_cons]
      simp only [List.mem_map, Prod.exists, Prod.mk.injEq, List.cons.injEq, reduceCtorEq, false_and,
        and_false, exists_false, or_false]
      constructor
      · rintro ⟨other, part, hpart, path', found', hfound, ⟨rfl, rfl⟩, rfl⟩
        exact ⟨part, hpart, ((h _ hpart).complete _ _).mp hfound⟩
      · rintro ⟨part, hpart, hinspects⟩
        exact ⟨step, part, hpart, path, found, ((h _ hpart).complete _ _).mpr hinspects, ⟨rfl, rfl⟩, rfl⟩
  ordered := by
    refine List.pairwise_append.mpr ⟨List.pairwise_flatMap.mpr ⟨?_, ?_⟩, ?_, ?_⟩
    · intro part hpart
      refine List.pairwise_map.mpr ((h part hpart).ordered.imp fun hbefore => ?_)
      exact .inr ⟨rfl, hbefore⟩
    · refine (parts_ordered targets site).imp fun {part other} hbefore => ?_
      intro place hplace place' hplace'
      obtain ⟨_, -, rfl⟩ := List.mem_map.mp hplace
      obtain ⟨_, -, rfl⟩ := List.mem_map.mp hplace'
      exact .inl hbefore
    · unfold own
      split <;> simp
    · intro place hplace last hlast
      obtain ⟨part, -, hplace⟩ := List.mem_flatMap.mp hplace
      obtain ⟨_, -, rfl⟩ := List.mem_map.mp hplace
      obtain ⟨_, -, rfl⟩ := List.mem_map.mp hlast
      trivial

theorem gathered_positions
    (h : ∀ part ∈ site.parts targets, (inner part).map (·.2) = part.2.positions targets) :
    (site.gathered targets inner).map (·.2) = site.positions targets := by
  rw [gathered, positions_eq, List.map_append, List.map_flatMap, List.flatMap_def, List.flatMap_def]
  congr 1
  · refine congrArg List.flatten (List.map_congr_left fun part hpart => ?_)
    rw [← h part hpart, List.map_map]
    rfl
  · rw [List.map_map]
    exact List.map_id _

end

/-- The positions of a check, in order, are an enumeration. -/
theorem exists_enumeration (targets : Targets) (site : Site) :
    ∃ places, site.Enumerates targets places ∧ places.map (·.2) = site.positions targets := by
  -- On the size of the value, as the sites inside are not subterms of the site.
  induction hsize : sizeOf site.value using Nat.strongRecOn generalizing site with
  | ind n ih =>
    have hinner : ∀ part : Step × Site, ∃ places, part ∈ site.parts targets →
        part.2.Enumerates targets places ∧ places.map (·.2) = part.2.positions targets := by
      intro part
      by_cases hpart : part ∈ site.parts targets
      · obtain ⟨places, hplaces⟩ := ih _ (hsize ▸ (parts_smaller hpart).1) part.2 rfl
        exact ⟨places, fun _ => hplaces⟩
      · exact ⟨[], fun h => absurd h hpart⟩
    choose inner hinner using hinner
    exact ⟨site.gathered targets inner, .gathered fun part hpart => (hinner part hpart).1,
      gathered_positions fun part hpart => (hinner part hpart).2⟩

end Site

-- ---------------------------------------------------------------------------
-- Tests
-- ---------------------------------------------------------------------------

namespace Traversal

variable {env : Environment} {check : Check} {s : RunState}

/-- Whether the value of a site satisfies a check, in a store. -/
def verdict (env : Environment) (check : Check) (store : Store) (site : Site) :
    Except ValidationError Bool :=
  check.isSatisfied env.languages env.now site.owner site.value site.context store

theorem gather_test_ok {answer : Site → Bool} {sites : List Site}
    (h : ∀ p ∈ sites, verdict env check s.store p = .ok (answer p)) :
    (Run.gather (test env check) sites).exec s =
      (.ok ((sites.filter fun p => !answer p).map fun p => violation env check p []), s) := by
  induction sites with
  | nil => rfl
  | cons p rest ih =>
    have hp : (test env check p).exec s =
        (.ok (if answer p then [] else [violation env check p []]), s) := by
      have hverdict := h p List.mem_cons_self
      unfold verdict at hverdict
      rw [exec_test, hverdict]
      rfl
    have hrest := ih fun q hq => h q (List.mem_cons_of_mem _ hq)
    rw [Run.gather, Run.exec_bind_of_ok _ hp, Run.exec_bind_of_ok _ hrest]
    cases hanswer : answer p <;> simp [hanswer]

theorem gather_test_error {front back : List Site} {p : Site} {e : ValidationError}
    (hfront : ∀ q ∈ front, ∃ answer, verdict env check s.store q = .ok answer)
    (hp : verdict env check s.store p = .error e) :
    (Run.gather (test env check) (front ++ p :: back)).exec s = (.error (.failed e), s) := by
  induction front with
  | nil =>
    unfold verdict at hp
    have hfails : (test env check p).exec s = (.error (.failed e), s) := by
      rw [exec_test, hp]
      rfl
    exact Run.exec_bind_of_error _ hfails
  | cons q rest ih =>
    obtain ⟨answer, hanswer⟩ := hfront q List.mem_cons_self
    unfold verdict at hanswer
    have hq : (test env check q).exec s =
        (.ok (if answer then [] else [violation env check q []]), s) := by
      rw [exec_test, hanswer]
      rfl
    have hrest := ih fun q hq => hfront q (List.mem_cons_of_mem _ hq)
    rw [List.cons_append, Run.gather, Run.exec_bind_of_ok _ hq]
    exact Run.exec_bind_of_error _ hrest

/-- A check that leads nowhere else is evaluated at exactly the places that it inspects, in the order
of their paths: each is reported that does not satisfy the check, and the first error is the answer. -/
theorem dispatch_inspects (env : Environment) (nested : Nested) {check : Check}
    (hleads : check.isComposite = false) (site : Site) :
    ∃ places : List (Path × Site), site.Enumerates check.targets places ∧
      (∀ others, site.Enumerates check.targets others → others = places) ∧
      ∀ s : RunState,
        (∀ answer : Site → Bool,
          (∀ place ∈ places, verdict env check s.store place.2 = .ok (answer place.2)) →
          (dispatch env nested check site).exec s =
            (.ok ((places.filter fun place => !answer place.2).map fun place =>
              violation env check place.2 []), s)) ∧
        (∀ front path found back e, places = front ++ (path, found) :: back →
          (∀ place ∈ front, ∃ answer, verdict env check s.store place.2 = .ok answer) →
          verdict env check s.store found = .error e →
          (dispatch env nested check site).exec s = (.error (.failed e), s)) := by
  obtain ⟨places, henumerates, hpositions⟩ := site.exists_enumeration check.targets
  refine ⟨places, henumerates, fun others h => h.unique henumerates, fun s => ?_⟩
  have hdispatch : dispatch env nested check site = Run.gather (test env check) (places.map (·.2)) := by
    rw [hpositions, dispatch, funext (evaluate_eq_test env nested hleads)]
  rw [hdispatch]
  constructor
  · intro answer hanswer
    have h : ∀ p ∈ places.map (·.2), verdict env check s.store p = .ok (answer p) :=
      List.forall_mem_map.mpr hanswer
    rw [gather_test_ok h, List.filter_map, List.map_map]
    rfl
  · rintro front path found back e rfl hfront hfound
    rw [List.map_append]
    exact gather_test_error (List.forall_mem_map.mpr hfront) hfound

/-- A field that holds a map with a list as a key, a nested map as a value and null in several
places. -/
def nestedSite : Site :=
  ⟨none, .map [(.list [.null, .int 1], .map [(.null, .null)]), (.string "k", .null)], .map,
    .field "Owner" "index"⟩

/-- Looks at keys and at values, but not at containers. -/
def innerNotNull : Check := { kind := .notNull, explicitTargets := some ⟨true, true, false⟩ }

def stillEnvironment : Environment where
  implementation c m _ _ store := (.error (.notInvocable c.name m.name), store)
  now := ⟨0, 0⟩

theorem dispatch_inspects_nested :
    innerNotNull.isComposite = false ∧
      (∃ places, nestedSite.Enumerates innerNotNull.targets places ∧
        [.value 0, .key 0] ∈ places.map (·.1) ∧
        ((dispatch stillEnvironment (.ofDepth stillEnvironment 0) innerNotNull nestedSite).exec
          ⟨{}, {}, {}, {}⟩).1 = .ok ((places.filter fun place => !!place.2.value.isNull).map fun place =>
            violation stillEnvironment innerNotNull place.2 [])) ∧
      ((dispatch stillEnvironment (.ofDepth stillEnvironment 0) innerNotNull nestedSite).exec
        ⟨{}, {}, {}, {}⟩).1.toOption.map (·.map (·.context.text)) =
          some ["Owner.index.keys[0][0]", "Owner.index[[null, 1]].keys[0]",
            "Owner.index[[null, 1]][null]", "Owner.index[k]"] := by
  obtain ⟨places, henumerates, -, hruns⟩ := dispatch_inspects stillEnvironment
    (.ofDepth stillEnvironment 0) (rfl : innerNotNull.isComposite = false) nestedSite
  refine ⟨rfl, ⟨places, henumerates, ?_, ?_⟩, by decide +kernel⟩
  · refine List.mem_map.mpr ⟨⟨[.value 0, .key 0], _⟩, (henumerates.complete _ _).mpr ⟨rfl, ?_, ?_⟩, rfl⟩
    · decide
    · exact .inl ⟨rfl, by simp⟩
  · rw [(hruns ⟨{}, {}, {}, {}⟩).1 (fun place => !place.value.isNull) fun _ _ => rfl]

end Traversal

end ObjectConstraints
