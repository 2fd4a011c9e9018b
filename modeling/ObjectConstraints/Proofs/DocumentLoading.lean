import ObjectConstraints.Proofs.SetGathering

/-!
# Loading documents

A document is loaded as a whole or not at all (`Catalog.load_whole`). It is loaded if each check it declares
can be converted, which is said without converting it (`CheckDeclaration.Convertible`). Otherwise the
document is refused for the first check that cannot, in the order of `Document.placedChecks`, and what the
catalog has stays. The parts of a document are converted one after the other, so it is enough that each of
them is refused for the first of its own checks (`Converts`).
-/

namespace ObjectConstraints

open ClassChecks (bind_ok pure_ok)

-- ---------------------------------------------------------------------------
-- Checks that can be converted
-- ---------------------------------------------------------------------------

/-- Whether a kind can be converted: there are patterns and each can be anchored, a class is not named
without a field, and a predicate is known. -/
def DeclaredKind.Convertible (predicates : Predicates) : DeclaredKind → Prop
  | .pattern first others _ => first.toList ++ others ≠ [] ∧
      ∀ source ∈ first.toList ++ others, (Pattern.ofText? ("^(?:" ++ source ++ ")$")).isSome
  | .assertFieldConstraints field declaringClass => declaringClass.isSome → field.isSome
  | .custom name => (predicates.get? name).isSome
  | _ => True

/-- Whether a check can be converted: its kind can, and its condition can be read. -/
structure CheckDeclaration.Convertible (predicates : Predicates) (declared : CheckDeclaration) : Prop where
  kind : declared.kind.Convertible predicates
  condition : ∀ text, declared.condition = some text → (Condition.ofText? text).isSome

theorem mapM_succeeds {ε α β : Type} {f : α → Except ε β} {l : List α} :
    (∃ bs, l.mapM f = .ok bs) ↔ ∀ a ∈ l, ∃ b, f a = .ok b := by
  induction l with
  | nil => simp [pure, Except.pure]
  | cons a rest ih =>
    rw [List.forall_mem_cons, ← ih]
    simp only [List.mapM_cons, bind_ok, pure_ok]
    constructor
    · rintro ⟨_, b, hb, bs, hbs, rfl⟩
      exact ⟨⟨b, hb⟩, bs, hbs⟩
    · rintro ⟨⟨b, hb⟩, bs, hbs⟩
      exact ⟨_, b, hb, bs, hbs, rfl⟩

theorem mapM_option_succeeds {ε α β : Type} {f : α → Except ε β} {o : Option α} :
    (∃ b, o.mapM f = .ok b) ↔ ∀ a, o = some a → ∃ b, f a = .ok b := by
  cases o with
  | none => exact ⟨fun _ => nofun, fun _ => ⟨none, rfl⟩⟩
  | some a =>
    have hmap : (some a).mapM f = (f a).map some := rfl
    rw [hmap]
    cases hread : f a <;> simp [hread, Except.map]

theorem CheckKind.ofPatterns_succeeds {sources : List String} {matchAll : Bool} :
    (∃ kind, ofPatterns sources matchAll = .ok kind) ↔
      ∀ source ∈ sources, (Pattern.ofText? ("^(?:" ++ source ++ ")$")).isSome := by
  simp only [ofPatterns, bind_ok]
  rw [exists_comm]
  simp only [exists_and_left, Except.ok.injEq, exists_eq', and_true]
  rw [mapM_succeeds]
  refine forall₂_congr fun source _ => ?_
  cases Pattern.ofText? ("^(?:" ++ source ++ ")$") <;> simp

theorem DeclaredKind.resolve_succeeds {predicates : Predicates} {kind : DeclaredKind} :
    (∃ resolved, kind.resolve predicates = .ok resolved) ↔ kind.Convertible predicates := by
  cases kind with
  | pattern first others matchAll =>
    simp only [resolve, Convertible, List.isEmpty_iff]
    split
    · next hnone => simp [hnone]
    · next hsome => simp only [Run.mapError_ok, CheckKind.ofPatterns_succeeds, hsome, ne_eq,
        not_false_eq_true, true_and]
  | assertFieldConstraints field declaringClass =>
    cases field <;> cases declaringClass <;> simp [resolve, Convertible]
  | custom name =>
    simp only [resolve, Convertible]
    cases predicates.get? name <;> simp
  | _ => simp [resolve, Convertible]

theorem CheckDeclaration.resolve_succeeds {predicates : Predicates} {declared : CheckDeclaration} :
    (∃ check, declared.resolve predicates = .ok check) ↔ declared.Convertible predicates := by
  have hcondition : (∃ condition, (declared.condition.mapM fun text =>
      (Condition.ofText text).mapError CheckFault.config) = .ok condition) ↔
      ∀ text, declared.condition = some text → (Condition.ofText? text).isSome := by
    rw [mapM_option_succeeds]
    refine forall₂_congr fun text _ => ?_
    cases hread : Condition.ofText? text <;> simp [Condition.ofText, hread, Except.mapError]
  constructor
  · rintro ⟨check, h⟩
    simp only [resolve, bind_ok] at h
    obtain ⟨kind, hkind, condition, hread, -⟩ := h
    exact ⟨DeclaredKind.resolve_succeeds.mp ⟨kind, hkind⟩, hcondition.mp ⟨condition, hread⟩⟩
  · intro h
    obtain ⟨kind, hkind⟩ := DeclaredKind.resolve_succeeds.mpr h.kind
    obtain ⟨condition, hread⟩ := hcondition.mpr h.condition
    exact ⟨_, by simp only [resolve, bind_ok, pure_ok]; exact ⟨kind, hkind, condition, hread, rfl⟩⟩

-- ---------------------------------------------------------------------------
-- Places of checks
-- ---------------------------------------------------------------------------

/-- Where a document declares a check. -/
inductive CheckPlace where
  | field (className field : String) (index : Nat)
  | result (className method : String) (index : Nat)
  | parameter (className method : String) (position index : Nat)
  | constructorParameter (className : String) (constructor position index : Nat)
  | object (className : String) (index : Nat)
  | set (id : String) (index : Nat)

def CheckPlace.text : CheckPlace → String
  | .field c name i => c ++ "." ++ name ++ "[" ++ toString i ++ "]"
  | .result c method i => c ++ "." ++ method ++ "()" ++ "[" ++ toString i ++ "]"
  | .parameter c method j i =>
    c ++ "." ++ method ++ "()" ++ ".parameters" ++ "[" ++ toString j ++ "]" ++ "[" ++ toString i ++ "]"
  | .constructorParameter c n j i =>
    c ++ "#" ++ toString n ++ ".parameters" ++ "[" ++ toString j ++ "]" ++ "[" ++ toString i ++ "]"
  | .object c i => c ++ "[" ++ toString i ++ "]"
  | .set id i => id ++ "[" ++ toString i ++ "]"

abbrev PlacedChecks := List (CheckPlace × CheckDeclaration)

/-- Checks at the places given by their positions. -/
def placed (place : Nat → CheckPlace) (checks : List CheckDeclaration) : PlacedChecks :=
  checks.zipIdx.map fun (declared, index) => (place index, declared)

/-- The checks of parameters, at the places given by the positions of both. -/
def placedParameters (place : Nat → Nat → CheckPlace) (parameters : List SectionDeclaration) : PlacedChecks :=
  parameters.zipIdx.flatMap fun (part, position) => placed (place position) part.checks

def FieldDeclaration.placedChecks (c : String) (declared : FieldDeclaration) : PlacedChecks :=
  placed (.field c declared.name) declared.checks

/-- The checks of a method, those of its result first. -/
def MethodDeclaration.placedChecks (c : String) (declared : MethodDeclaration) : PlacedChecks :=
  (declared.result.toList.flatMap fun part => placed (.result c declared.name) part.checks) ++
    placedParameters (.parameter c declared.name) declared.parameters

def ConstructorDeclaration.placedChecks (c : String) (declared : ConstructorDeclaration) : PlacedChecks :=
  placedParameters (.constructorParameter c declared.index) declared.parameters

/-- The checks of a class: those of its fields, methods, constructors and objects. -/
def ClassDeclaration.placedChecks (declared : ClassDeclaration) : PlacedChecks :=
  declared.fields.flatMap (·.placedChecks declared.className) ++
    (declared.methods.flatMap (·.placedChecks declared.className) ++
      (declared.constructors.flatMap (·.placedChecks declared.className) ++
        declared.object.toList.flatMap fun part => placed (.object declared.className) part.checks))

def SetDeclaration.placedChecks (declared : SetDeclaration) : PlacedChecks :=
  placed (.set declared.id) declared.checks

/-- All checks of a document, those of its classes first. -/
def Document.placedChecks (document : Document) : PlacedChecks :=
  document.classes.flatMap (·.placedChecks) ++ document.sets.flatMap (·.placedChecks)

-- ---------------------------------------------------------------------------
-- Refusals
-- ---------------------------------------------------------------------------

section

variable {predicates : Predicates}

/-- What a document is refused for because of a check, if the check cannot be converted. -/
def refusal (predicates : Predicates) : CheckPlace × CheckDeclaration → Option DocumentError
  | (place, declared) =>
    match declared.resolve predicates with
    | .ok _ => none
    | .error fault => some (.invalidCheck place.text fault)

/-- Whether a conversion is refused for the first of the given checks that cannot be converted, and goes
through if there is none. -/
def Converts (predicates : Predicates) (x : Except DocumentError α) (checks : PlacedChecks) : Prop :=
  match checks.findSome? (refusal predicates) with
  | some e => x = .error e
  | none => ∃ a, x = .ok a

namespace Converts

theorem pure (a : α) : Converts predicates (.ok a) [] := ⟨a, rfl⟩

theorem bind {α β : Type} {x : Except DocumentError α} {f : α → Except DocumentError β}
    (hx : Converts predicates x first) (hf : ∀ a, Converts predicates (f a) second) :
    Converts predicates (x >>= f) (first ++ second) := by
  unfold Converts at hx ⊢
  rw [List.findSome?_append]
  cases hfirst : first.findSome? (refusal predicates) with
  | some e =>
    rw [hfirst] at hx
    rw [hx]
    rfl
  | none =>
    rw [hfirst] at hx
    obtain ⟨a, rfl⟩ := hx
    exact hf a

theorem map {α β : Type} {x : Except DocumentError α} (hx : Converts predicates x checks) (f : α → β) :
    Converts predicates (x >>= fun a => .ok (f a)) checks := by
  simpa using hx.bind fun a => pure (f a)

theorem mapM {α β : Type} {f : α → Except DocumentError β} {checks : α → PlacedChecks}
    (hf : ∀ a, Converts predicates (f a) (checks a)) (l : List α) :
    Converts predicates (l.mapM f) (l.flatMap checks) := by
  induction l with
  | nil => exact pure []
  | cons a rest ih =>
    rw [List.mapM_cons, List.flatMap_cons]
    exact (hf a).bind fun b => ih.map (b :: ·)

theorem mapOption {α β : Type} {f : α → Except DocumentError β} {checks : α → PlacedChecks}
    (hf : ∀ a, Converts predicates (f a) (checks a)) (o : Option α) :
    Converts predicates (o.mapM f) (o.toList.flatMap checks) := by
  cases o with
  | none => exact pure none
  | some a =>
    rw [Option.toList_some, List.flatMap_singleton]
    exact (hf a).map some

end Converts

-- ---------------------------------------------------------------------------
-- Conversions
-- ---------------------------------------------------------------------------

namespace Document

theorem resolve_converts (place : CheckPlace) (declared : CheckDeclaration) :
    Converts predicates ((declared.resolve predicates).mapError (.invalidCheck place.text))
      [(place, declared)] := by
  unfold Converts
  cases hresolve : declared.resolve predicates <;> simp [refusal, hresolve, Except.mapError]

theorem checksFrom_converts {location : String} {place : Nat → CheckPlace}
    (hplace : ∀ i, (place i).text = indexed location i) (checks : List CheckDeclaration) (index : Nat) :
    Converts predicates (checksFrom predicates location index checks)
      ((checks.zipIdx index).map fun (declared, i) => (place i, declared)) := by
  induction checks generalizing index with
  | nil => exact .pure []
  | cons declared rest ih =>
    rw [List.zipIdx_cons, List.map_cons, checksFrom, ← hplace]
    exact (resolve_converts (place index) declared).bind fun check => (ih (index + 1)).map (check :: ·)

theorem sectionOf_converts {location : String} {place : Nat → CheckPlace}
    (hplace : ∀ i, (place i).text = indexed location i) (part : SectionDeclaration) :
    Converts predicates (sectionOf predicates location part) (placed place part.checks) :=
  (checksFrom_converts hplace part.checks 0).map _

theorem parametersFrom_converts {location : String} {place : Nat → Nat → CheckPlace}
    (hplace : ∀ j i, (place j i).text = indexed (indexed (location ++ ".parameters") j) i)
    (parameters : List SectionDeclaration) (index : Nat) :
    Converts predicates (parametersFrom predicates location index parameters)
      ((parameters.zipIdx index).flatMap fun (part, j) => placed (place j) part.checks) := by
  induction parameters generalizing index with
  | nil => exact .pure []
  | cons part rest ih =>
    rw [List.zipIdx_cons, List.flatMap_cons, parametersFrom]
    exact (sectionOf_converts (hplace index) part).bind fun converted => (ih (index + 1)).map (converted :: ·)

theorem fieldOf_converts (c : String) (declared : FieldDeclaration) :
    Converts predicates (fieldOf predicates c declared) (declared.placedChecks c) :=
  (checksFrom_converts (fun _ => rfl) declared.checks 0).map _

theorem methodOf_converts (c : String) (declared : MethodDeclaration) :
    Converts predicates (methodOf predicates c declared) (declared.placedChecks c) :=
  (Converts.mapOption (fun part => sectionOf_converts (fun _ => rfl) part) declared.result).bind fun _ =>
    (parametersFrom_converts (fun _ _ => rfl) declared.parameters 0).map _

theorem constructorOf_converts (c : String) (declared : ConstructorDeclaration) :
    Converts predicates (constructorOf predicates c declared) (declared.placedChecks c) :=
  (parametersFrom_converts (fun _ _ => rfl) declared.parameters 0).map _

theorem classOf_converts (declared : ClassDeclaration) :
    Converts predicates (classOf predicates declared) declared.placedChecks :=
  (Converts.mapM (fieldOf_converts declared.className) declared.fields).bind fun _ =>
    (Converts.mapM (methodOf_converts declared.className) declared.methods).bind fun _ =>
      (Converts.mapM (constructorOf_converts declared.className) declared.constructors).bind fun _ =>
        (Converts.mapOption (fun part => sectionOf_converts (fun _ => rfl) part) declared.object).map _

theorem setOf_converts (declared : SetDeclaration) :
    Converts predicates (setOf predicates declared) declared.placedChecks :=
  (checksFrom_converts (fun _ => rfl) declared.checks 0).map _

end Document

end

theorem Catalog.load_converts (catalog : Catalog) (document : Document) :
    Converts catalog.predicates (catalog.load document) document.placedChecks :=
  (Converts.mapM Document.classOf_converts document.classes).bind fun _ =>
    (Converts.mapM Document.setOf_converts document.sets).map _

theorem refusal_eq_none {predicates : Predicates} {place : CheckPlace} {declared : CheckDeclaration} :
    refusal predicates (place, declared) = none ↔ declared.Convertible predicates := by
  rw [← CheckDeclaration.resolve_succeeds, refusal]
  cases declared.resolve predicates <;> simp

theorem refusal_eq_some {predicates : Predicates} {place : CheckPlace} {declared : CheckDeclaration} :
    refusal predicates (place, declared) = some e ↔
      ∃ fault, declared.resolve predicates = .error fault ∧ e = .invalidCheck place.text fault := by
  rw [refusal]
  cases declared.resolve predicates <;> simp [eq_comm]

/-- A document is loaded exactly if all of its checks can be converted. Otherwise it is refused for the
first one that cannot, at its place, and the catalog stays as it is. -/
theorem Catalog.load_whole (catalog : Catalog) (document : Document) :
    ((∃ loaded, catalog.load document = .ok loaded) ↔
      ∀ checked ∈ document.placedChecks, checked.2.Convertible catalog.predicates) ∧
    ∀ e, catalog.load document = .error e →
      (∃ before place declared after fault,
        document.placedChecks = before ++ (place, declared) :: after ∧
        (∀ checked ∈ before, checked.2.Convertible catalog.predicates) ∧
        ¬ declared.Convertible catalog.predicates ∧
        declared.resolve catalog.predicates = .error fault ∧
        e = .invalidCheck place.text fault) ∧
      (CatalogStep.load (.ok document)).perform catalog = catalog := by
  have hload := catalog.load_converts document
  unfold Converts at hload
  cases hfirst : document.placedChecks.findSome? (refusal catalog.predicates) with
  | none =>
    rw [hfirst] at hload
    obtain ⟨loaded, hloaded⟩ := hload
    refine ⟨⟨fun _ checked hchecked => ?_, fun _ => ⟨loaded, hloaded⟩⟩, fun e he => ?_⟩
    · exact refusal_eq_none.mp (List.findSome?_eq_none_iff.mp hfirst checked hchecked)
    · cases hloaded.symm.trans he
  | some e =>
    rw [hfirst] at hload
    obtain ⟨before, ⟨place, declared⟩, after, hchecks, hrefused, hbefore⟩ :=
      List.findSome?_eq_some_iff.mp hfirst
    have hnot : ¬ declared.Convertible catalog.predicates := by
      intro hconvertible
      cases hrefused.symm.trans (refusal_eq_none.mpr hconvertible)
    obtain ⟨fault, hfault, rfl⟩ := refusal_eq_some.mp hrefused
    refine ⟨⟨fun ⟨loaded, hloaded⟩ => ?_, fun hall => ?_⟩, fun e he => ?_⟩
    · cases hload.symm.trans hloaded
    · exact absurd (hall (place, declared) (hchecks ▸ by simp)) hnot
    · cases hload.symm.trans he
      refine ⟨⟨before, place, declared, after, fault, hchecks, fun checked hchecked => ?_, hnot, hfault, rfl⟩,
        ?_⟩
      · exact refusal_eq_none.mp (hbefore checked hchecked)
      · simp [CatalogStep.perform, loadRead, hload, Except.toOption]

end ObjectConstraints
