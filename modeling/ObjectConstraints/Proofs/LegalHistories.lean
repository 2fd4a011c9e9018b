import ObjectConstraints.Proofs.Building
import ObjectConstraints.Proofs.LegalRuns
import ObjectConstraints.Proofs.Setters

/-!
# Legal histories

What holds of a validator whatever has happened to it in a world in which classes have distinct names
and methods do nothing but create and assign (`Validator.ReachableIn`). Fields that are constrained can
always be read, so that a validation fails for lack of a field only where the body of a method or a
target path lacks it (`answer_reads`). Static members and instances are apart: violations of a class are
on static members that it declares itself, those of an object never on any (`static_apart`).
-/

namespace ObjectConstraints

open Traversal

variable {u : Universe} {v : Validator}

-- ---------------------------------------------------------------------------
-- Checks of classes with distinct names
-- ---------------------------------------------------------------------------

/-- Whether checks belong together, and are those of the class that has the name. -/
def Universe.Places (u : Universe) (name : String) (checks : ClassChecks) : Prop :=
  checks.Consistent ∧ ∀ c, u.has c → c.name = name → checks.cls = c

theorem lasting_places (u : Universe) : Lasting u.has u.Places where
  compiled c hc configurers checks hcompile := by
    refine ⟨ClassChecks.compile_consistent hcompile, fun other hother hname => ?_⟩
    rw [ClassChecks.compile_cls hcompile, u.named other c hother hc hname]
  performed operation _ checks h := by
    refine ⟨Operation.perform_consistent h.1 operation, fun c hc hname => ?_⟩
    exact (operation.perform_cls checks).trans (h.2 c hc hname)

theorem Validator.sound_of_each (h : v.compiled.Each u.Places) : v.Sound u := by
  intro c hc checks hchecks
  obtain ⟨hconsistent, hcls⟩ := (Event.resolve_each (lasting_places u) h hc).2 checks hchecks
  exact ⟨hcls c hc rfl, hconsistent⟩

theorem Validator.each_of_sound (hconsistent : v.compiled.Sound) (h : v.Sound u) :
    v.compiled.Each u.Places := by
  refine fun name checks hget => ⟨hconsistent name checks hget, ?_⟩
  rintro c hc rfl
  have hchecks : (v.checksOf c).1 = .ok checks := by
    rw [Validator.checksOf, CompiledChecks.resolve_of_get? hget]
  exact (h c hc checks hchecks).1

-- ---------------------------------------------------------------------------
-- Events
-- ---------------------------------------------------------------------------

/-- Whether a call is about objects that have been made and about classes that there are. -/
def Call.At (stage : Stage u) : Call → Prop
  | .validate _ _ request => stage.realm.Admits request
  | .assertValid _ _ o => o ∈ stage.objects
  | .checks c => u.has c
  | .constraintSet _ => True

/-- Whether an event is one of a world: it is about classes that there are, and the store of a call is
one that creations and assignments lead to, as methods do. -/
def Event.In (u : Universe) : Event → Prop
  | .call implementation store asked => ∃ stage : Stage u, Heap u stage.objects store ∧
      implementation.Legal stage ∧ asked.At stage
  | .reconfigure c | .addChecks c _ _ _ | .removeChecks c _ _ | .clearMember c _ | .clearAll c
  | .setFlags c _ => u.has c
  | _ => True

/-- What a validator can become in a world that knew no classes to begin with. -/
def Validator.ReachableIn (u : Universe) (v : Validator) : Prop :=
  ∃ events start, start.compiled = {} ∧ (∀ event ∈ events, event.In u) ∧ Event.run events start = v

namespace Event

theorem answer_places {stage : Stage u} {store : Store} {implementation : Implementation}
    (h : v.compiled.Each u.Places) (heap : Heap u stage.objects store)
    (legal : implementation.Legal stage) {request : Request} (hrequest : stage.realm.Admits request)
    (now : Instant) (depth : Nat) :
    (v.answer ⟨implementation, now⟩ depth store request).2.1.compiled.Each u.Places := by
  have hsound := Validator.sound_of_each h
  have hlegal : (World.mk implementation now).implementation.Legal stage := legal
  have hanswered := (answer_legal hsound heap hlegal .raise depth hrequest).2
  have hconsistent : v.compiled.Sound := fun name checks hget => (h name checks hget).1
  refine Validator.each_of_sound (answer_sound _ depth store request hconsistent) ?_
  intro c hc checks hchecks
  rw [hanswered.checks c hc] at hchecks
  exact hsound c hc checks hchecks

theorem reply_places {stage : Stage u} {store : Store} {implementation : Implementation}
    (h : v.compiled.Each u.Places) (heap : Heap u stage.objects store)
    (legal : implementation.Legal stage) {asked : Call} (hasked : asked.At stage) :
    (v.reply implementation store asked).2.1.compiled.Each u.Places := by
  cases asked with
  | validate now depth request => exact answer_places h heap legal hasked now depth
  | assertValid now depth o =>
    rw [Validator.reply_assertValid]
    have hrequest : stage.realm.Admits (.object none o) := hasked
    exact answer_places h heap legal hrequest now depth
  | checks c => exact (resolve_each (lasting_places u) h hasked).1
  | constraintSet id =>
    obtain ⟨-, hafter | ⟨found, sets, -, hafter⟩⟩ := v.reply_constraintSet implementation store id
    · rw [hafter]
      exact h
    · rw [hafter]
      exact h

theorem In.changes {event : Event} (h : event.In u) : event.Changes u.has := by
  cases event <;> first | exact h | trivial

theorem perform_places {event : Event} (hevent : event.In u) (h : v.compiled.Each u.Places) :
    (event.perform v).compiled.Each u.Places := by
  refine perform_each (lasting_places u) h hevent.changes ?_
  rintro implementation store asked rfl
  obtain ⟨stage, heap, legal, hasked⟩ := hevent
  exact reply_places h heap legal hasked

end Event

/-- Whatever has happened to a validator in a world, its checks for a class are those of members of the
class. -/
theorem Validator.ReachableIn.sound (h : v.ReachableIn u) : v.Sound u := by
  obtain ⟨events, start, hstart, hevents, rfl⟩ := h
  have heach : (Event.run events start).compiled.Each u.Places :=
    Event.run_keeps (P := fun v => v.compiled.Each u.Places)
      (fun event hevent v => Event.perform_places (hevents event hevent))
      (hstart ▸ CompiledChecks.Each.empty)
  exact Validator.sound_of_each heach

/-- What stands for a member of instances stands for no static member. -/
theorem Universe.OnInstance.not_static {root : Context} (h : u.OnInstance root) (hc : u.has c) :
    ¬ c.OnStatic root := by
  intro hstatic
  generalize hsame : root = other at hstatic
  cases h with
  | object hd => cases hstatic <;> cases hsame
  | @field d name hd hinstance =>
    cases hstatic with
    | result => cases hsame
    | field hstatic =>
      simp only [Context.field.injEq] at hsame
      obtain ⟨hname, rfl⟩ := hsame
      obtain rfl := u.named d c hd hc hname
      cases Class.declaresField_unique hinstance hstatic
  | @result d name hd hinstance =>
    cases hstatic with
    | field => cases hsame
    | result hstatic =>
      simp only [Context.result.injEq] at hsame
      obtain ⟨hname, rfl⟩ := hsame
      obtain rfl := u.named d c hd hc hname
      cases Class.declaresGetter_unique hinstance hstatic

-- ---------------------------------------------------------------------------
-- A storeroom
-- ---------------------------------------------------------------------------

/-- Shelves have labels, and there is a limit for all of them. -/
def shelf : Class where
  id := 0
  name := "Shelf"
  superclass := none
  interfaces := []
  isInterface := false
  fields := [⟨"label", .string, false⟩, ⟨"limit", .int, true⟩]
  methods := [⟨"total", [], some .int, true, false⟩]
  constructors := []

/-- Racks declare the label anew, and hand out spare shelves. -/
def rack : Class where
  id := 1
  name := "Rack"
  superclass := some shelf
  interfaces := []
  isInterface := false
  fields := [⟨"label", .string, false⟩]
  methods := [⟨"spare", [], some (.object "Shelf"), false, false⟩]
  constructors := []

def storeroom : Universe where
  has c := c = shelf ∨ c = rack
  levels := by
    rintro c (rfl | rfl) d hd
    · exact .inl (by simpa [Class.hierarchy, shelf] using hd)
    · have hlevels : d = rack ∨ d = shelf := by simpa [Class.hierarchy, rack, shelf] using hd
      exact hlevels.symm
  interfaces := by
    rintro c (rfl | rfl) d hd <;> simp [Class.allInterfaces, Class.walkInterfaces, shelf, rack] at hd
  named := by
    rintro c d (rfl | rfl) (rfl | rfl) hname
    · rfl
    · exact absurd hname (by decide)
    · exact absurd hname (by decide)
    · rfl

/-- Static getters answer null, the others with a new shelf. -/
def stocking : World where
  implementation _ m _ _ store :=
    if m.isStatic then (.ok .null, store)
    else (.ok (.object (shelf.make store).1), (shelf.make store).2)
  now := ⟨0, 0⟩

theorem stocking_legal (stage : Stage storeroom) : stocking.implementation.Legal stage := by
  intro now store declaring m receiver args _ heap _ _ _ _
  cases hstatic : m.isStatic with
  | true =>
    refine ⟨now, List.Subset.refl _, ?_, fun value hvalue => ?_⟩
    · simpa [stocking, hstatic] using heap
    · simp only [stocking, hstatic, if_true, Except.ok.injEq] at hvalue
      exact hvalue ▸ Value.over_null
  | false =>
    have hmade := heap.make shelf (.inl rfl)
    refine ⟨⟨_, hmade.classes⟩, List.subset_cons_self .., ?_, fun value hvalue => ?_⟩
    · simpa [stocking, hstatic] using hmade
    · simp only [stocking, hstatic, Bool.false_eq_true, if_false, Except.ok.injEq] at hvalue
      exact hvalue ▸ Value.over_object.mpr List.mem_cons_self

/-- A validator that has been given checks for members of both classes. -/
def storeroomValidator : Validator :=
  Event.run [.addChecks shelf (.field "label") false [{ kind := .notNull }],
    .addChecks shelf (.field "limit") false [{ kind := .notNull }],
    .addChecks shelf (.result "total" 0) true [{ kind := .notNull }],
    .addChecks rack (.field "label") false [{ kind := .notNull }],
    .addChecks rack (.result "spare" 0) true [{ kind := .assertValid }]] {}

theorem storeroom_reachable : storeroomValidator.ReachableIn storeroom := by
  refine ⟨_, {}, rfl, fun event hevent => ?_, rfl⟩
  simp only [List.mem_cons, List.not_mem_nil, or_false] at hevent
  rcases hevent with rfl | rfl | rfl | rfl | rfl
  · exact .inl rfl
  · exact .inl rfl
  · exact .inl rfl
  · exact .inr rfl
  · exact .inr rfl

theorem rack_heap : Heap storeroom [(rack.make {}).1] (rack.make {}).2 := .make rack .start (.inr rfl)

/-- One rack has been made. -/
def rackStage : Stage storeroom := ⟨[(rack.make {}).1], rack_heap.classes⟩

-- ---------------------------------------------------------------------------
-- Reads
-- ---------------------------------------------------------------------------

variable {stage : Stage u} {world : World} {store : Store}

/-- Constrained fields of objects and of classes can always be read: whatever is done where one cannot
be, a request is answered as it is. So an error for lack of a field comes from the body of a method, or
from the target path of a check that the validator has. -/
theorem answer_reads (h : v.ReachableIn u) (heap : Heap u stage.objects store)
    (legal : world.implementation.Legal stage) {request : Request}
    (hrequest : stage.realm.Admits request) (depth : Nat) (fallback : Fallback) :
    v.answerOr fallback world depth store request = v.answer world depth store request ∧
      ∀ e className field, (v.answer world depth store request).1 = .error (.failed e) →
        e.rootCause = .access (.noSuchField className field) →
          world.implementation.Lacks u className field ∨ v.Strays u className field := by
  obtain ⟨hsame, hanswered⟩ := answer_legal h.sound heap legal fallback depth hrequest
  exact ⟨hsame, fun e className field he hcause => hanswered.explained e he className field hcause⟩

theorem answer_reads_rack :
    storeroomValidator.ReachableIn storeroom ∧ Heap storeroom rackStage.objects (rack.make {}).2 ∧
      stocking.implementation.Legal rackStage ∧
      rackStage.realm.Admits (.object none (rack.make {}).1) ∧
      storeroomValidator.answerOr (fun _ => Run.fail (.undefinedSet "none")) stocking 2
          (rack.make {}).2 (.object none (rack.make {}).1) =
        storeroomValidator.answer stocking 2 (rack.make {}).2 (.object none (rack.make {}).1) ∧
      (storeroomValidator.answer stocking 2 (rack.make {}).2
        (.object none (rack.make {}).1)).1.toOption.map (·.map (·.context.text)) =
          some ["Rack.label", "Rack.spare()", "Shelf.label"] := by
  have hadmits : rackStage.realm.Admits (.object none (rack.make {}).1) := List.mem_cons_self
  exact ⟨storeroom_reachable, rack_heap, stocking_legal rackStage, hadmits,
    (answer_reads storeroom_reachable rack_heap (stocking_legal rackStage) hadmits 2 _).1,
    by decide +kernel⟩

/-- Static members and instances are apart. What is reported for a class is about no object, and is on
static members that the class itself declares. What is reported for an object, nested or not, is on
static members of no class. -/
theorem static_apart (h : v.ReachableIn u) (heap : Heap u stage.objects store)
    (legal : world.implementation.Legal stage) (depth : Nat) :
    (∀ c, u.has c → ∀ violations, (v.validateStatic world depth c store).1 = .ok violations →
      ∀ w ∈ violations, w.object = none ∧ c.OnStatic w.context.root) ∧
    ∀ o ∈ stage.objects, ∀ requested violations,
      (v.validate world depth requested o store).1 = .ok violations →
        ∀ w ∈ Violation.flattenAll violations, ∀ c, u.has c → ¬ c.OnStatic w.context.root := by
  constructor
  · intro c hc violations hviolations
    have hrequest : stage.realm.Admits (.static c) := hc
    have hanswered := (answer_legal h.sound heap legal .raise depth hrequest).2
    exact hanswered.tells violations hviolations
  · intro o ho requested violations hviolations w hw c hc
    have hrequest : stage.realm.Admits (.object requested o) := ho
    have hanswered := (answer_legal h.sound heap legal .raise depth hrequest).2
    obtain ⟨first, hfirst, hw⟩ := Violation.mem_flattenAll.mp hw
    exact ((hanswered.tells violations hviolations first hfirst).2 w hw).not_static hc

theorem static_apart_rack :
    (storeroomValidator.validateStatic stocking 2 shelf (rack.make {}).2).1.toOption.map
        (·.map (·.context.text)) = some ["Shelf.limit", "Shelf.total()"] ∧
      (storeroomValidator.validate stocking 2 none (rack.make {}).1 (rack.make {}).2).1.toOption.map
        (fun violations => (Violation.flattenAll violations).map (·.context.text)) =
          some ["Rack.label", "Rack.spare()", "Shelf.label", "Shelf.label"] ∧
      (∀ violations,
        (storeroomValidator.validateStatic stocking 2 shelf (rack.make {}).2).1 = .ok violations →
          ∀ w ∈ violations, w.object = none ∧ shelf.OnStatic w.context.root) ∧
      ∀ violations,
        (storeroomValidator.validate stocking 2 none (rack.make {}).1 (rack.make {}).2).1 =
            .ok violations →
          ∀ w ∈ Violation.flattenAll violations, ¬ shelf.OnStatic w.context.root := by
  obtain ⟨hstatic, hobject⟩ :=
    static_apart storeroom_reachable (rack_heap : Heap _ rackStage.objects _) (stocking_legal rackStage) 2
  refine ⟨by decide +kernel, by decide +kernel, hstatic shelf (.inl rfl), fun violations hok w hw => ?_⟩
  exact hobject _ List.mem_cons_self none violations hok w hw shelf (.inl rfl)

end ObjectConstraints
