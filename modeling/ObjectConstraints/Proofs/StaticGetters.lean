import ObjectConstraints.Model.Script

/-!
# Static getters

What a static getter computes depends on the class that its body is given: the one it is invoked on, or
that of the object it is invoked on, also where another class of the hierarchy declares it
(`Object.invoke_staticGetter`). The bodies here ask that class for static fields and for the results of
static getters; a class has only those that it declares itself. So a getter that is found further up
gives the same on an object as on its class as far as the object's class has the same answers, and a
getter that reads a field which that class lacks fails on the object (`Object.invoke_inherited_reader`).
-/

namespace ObjectConstraints

/-- What the body of a static getter asks the class it is given for. -/
inductive ClassQuestion where
  | field (name : String)
  | getter (name : String)

/-- The body of a static getter: a result, or a question and what is done with the answer. -/
inductive ClassBody where
  | result (outcome : Except AccessError Value)
  | ask (question : ClassQuestion) (next : Except AccessError Value → ClassBody)

/-- What a class answers, and the store afterwards. -/
def Class.answer (implementation : Implementation) (c : Class) :
    ClassQuestion → Store → Except AccessError Value × Store
  | .field name, store => (c.getStatic name store, store)
  | .getter name, store => c.invokeStatic implementation name [] store

namespace ClassBody

/-- Runs a body with the class that it is given. -/
def run (implementation : Implementation) (c : Class) :
    ClassBody → Store → Except AccessError Value × Store
  | .result outcome, store => (outcome, store)
  | .ask question next, store =>
    let (outcome, after) := c.answer implementation question store
    (next outcome).run implementation c after

/-- The questions that a body asks the class it is given, each with the store at that time. -/
inductive Asks (implementation : Implementation) (c : Class) :
    ClassBody → Store → ClassQuestion → Store → Prop
  | here {question next store} : Asks implementation c (.ask question next) store question store
  | later {question next store outcome after other time} :
      c.answer implementation question store = (outcome, after) →
      Asks implementation c (next outcome) after other time →
      Asks implementation c (.ask question next) store other time

variable {implementation : Implementation} {c d : Class} {body : ClassBody} {store : Store}

/-- Classes that have the same answers to all that is asked are given the same result. -/
theorem run_eq (h : ∀ question time, body.Asks implementation c store question time →
      d.answer implementation question time = c.answer implementation question time) :
    body.run implementation d store = body.run implementation c store := by
  induction body generalizing store with
  | result outcome => rfl
  | ask question next ih =>
    rcases hanswer : c.answer implementation question store with ⟨outcome, after⟩
    have hsame := (h question store .here).trans hanswer
    simp only [run, hanswer, hsame]
    exact ih outcome fun other time hasks => h other time (.later hanswer hasks)

end ClassBody

-- ---------------------------------------------------------------------------
-- Answers
-- ---------------------------------------------------------------------------

namespace Class

variable {c d : Class} {store : Store}

/-- What the store holds of a static field of a class. -/
def staticValue (c : Class) (field : String) (store : Store) : Value :=
  ((store.statics.get? c.id).bind (·.get? field)).getD .null

/-- Two classes answer for a static field alike iff they both declare it and the same value is held for
them, or neither declares it and they have one name. -/
theorem answer_field_eq (implementation : Implementation) (field : String) :
    d.answer implementation (.field field) store = c.answer implementation (.field field) store ↔
      ((d.staticField? field).isSome ∧ (c.staticField? field).isSome ∧
          d.staticValue field store = c.staticValue field store) ∨
        d.staticField? field = none ∧ c.staticField? field = none ∧ d.name = c.name := by
  cases hd : d.staticField? field <;> cases hc : c.staticField? field <;>
    simp [answer, getStatic, staticValue, hd, hc]

end Class

/-- A method is a static getter with a body: it does what the body does with the class that is given.
Getters that the body asks for do what `inner` says. -/
structure StaticGetter (implementation inner : Implementation) (c : Class) (m : Method)
    (body : ClassBody) : Prop where
  isStatic : m.isStatic = true
  implemented : m.isAbstract = false
  computes : ∀ d store, implementation c m (.cls d) [] store = body.run inner d store

namespace StaticGetter

variable {implementation inner : Implementation} {c d : Class} {m m' : Method} {body : ClassBody}
  {name : String}

theorem run (h : StaticGetter implementation inner c m body) (d : Class) (store : Store) :
    Class.run implementation c m (.cls d) [] store = body.run inner d store := by
  rw [Class.run, h.implemented, if_neg Bool.false_ne_true, h.computes]

theorem invokeStatic (h : StaticGetter implementation inner c m body)
    (hdeclared : c.method? name 0 = some m) (store : Store) :
    c.invokeStatic implementation name [] store = body.run inner c store := by
  rw [Class.invokeStatic, List.length_nil, hdeclared, Option.filter_some, if_pos h.isStatic]
  exact h.run c store

theorem invoke {o : Object} (h : StaticGetter implementation inner c m body)
    (hfound : o.cls.findMethod? name 0 = some (c, m)) (store : Store) :
    o.invoke implementation name [] store = body.run inner o.cls store := by
  rw [Object.invoke, List.length_nil, hfound]
  simp only [h.isStatic, if_true]
  exact h.run o.cls store

/-- Two classes that declare a static getter with the same body answer for it alike if they do so for
what the body asks. -/
theorem answer_eq (h : StaticGetter implementation inner c m body)
    (hdeclared : c.method? name 0 = some m) (h' : StaticGetter implementation inner d m' body)
    (hdeclared' : d.method? name 0 = some m') {store : Store}
    (hsame : ∀ question time, body.Asks inner c store question time →
      d.answer inner question time = c.answer inner question time) :
    d.answer implementation (.getter name) store = c.answer implementation (.getter name) store :=
  calc d.invokeStatic implementation name [] store
    _ = body.run inner d store := h'.invokeStatic hdeclared' store
    _ = body.run inner c store := ClassBody.run_eq hsame
    _ = c.invokeStatic implementation name [] store := (h.invokeStatic hdeclared store).symm

end StaticGetter

theorem Class.findMethod_declared {c declaring : Class} {m : Method} {name : String} {arity : Nat}
    (h : c.findMethod? name arity = some (declaring, m)) : declaring.method? name arity = some m := by
  obtain ⟨level, -, hfound⟩ := List.exists_of_findSome?_eq_some h
  obtain ⟨_, hmethod, hpair⟩ := Option.map_eq_some_iff.mp hfound
  cases hpair
  exact hmethod

section

variable {implementation inner : Implementation} {o : Object} {c : Class} {m : Method}
  {body : ClassBody} {name : String}

/-- A static getter that is found in the hierarchy of an object's class gives, invoked on the class that
declares it, what its body does with that class and, invoked on the object, what its body does with the
object's class. Both are the same, also in what they do to the store, as far as the object's class has
the same answers as the declaring class to what the body asks of the latter; so they are for objects of
the declaring class itself. -/
theorem Object.invoke_staticGetter (hfound : o.cls.findMethod? name 0 = some (c, m))
    (h : StaticGetter implementation inner c m body) (store : Store) :
    c.invokeStatic implementation name [] store = body.run inner c store ∧
      o.invoke implementation name [] store = body.run inner o.cls store ∧
      ((∀ question time, body.Asks inner c store question time →
          o.cls.answer inner question time = c.answer inner question time) →
        o.invoke implementation name [] store = c.invokeStatic implementation name [] store) := by
  have hstatic := h.invokeStatic (Class.findMethod_declared hfound) store
  have hinvoke := h.invoke hfound store
  refine ⟨hstatic, hinvoke, fun hsame => ?_⟩
  rw [hstatic, hinvoke]
  exact ClassBody.run_eq hsame

end

/-- A class with a static field and a static getter that reads it. -/
def tariff : Class where
  id := 0
  name := "Tariff"
  superclass := none
  interfaces := []
  isInterface := false
  fields := [⟨"rate", .int, true⟩]
  methods := [⟨"getRate", [], some .int, true, false⟩]
  constructors := []

/-- A subclass with a static field of that name. -/
def cityTariff : Class := { tariff with id := 1, name := "CityTariff", superclass := some tariff, methods := [] }

/-- A subclass that declares nothing. -/
def nightTariff : Class := { cityTariff with id := 2, name := "NightTariff", fields := [] }

def tariffScripts : List ScriptedMethod := [⟨0, "getRate", 0, .read "rate"⟩]

/-- A store with the rates of the class and of the subclass that has its own. -/
def rates (general city : Int) : Store where
  statics := ⟨[(0, ⟨[("rate", .int general)]⟩), (1, ⟨[("rate", .int city)]⟩)]⟩

theorem tariff_getter (depth : Nat) :
    let implementation := ScriptedMethod.implementation tariffScripts
    StaticGetter (implementation (depth + 1)) (implementation depth) tariff
      ⟨"getRate", [], some .int, true, false⟩ (.ask (.field "rate") .result) :=
  ⟨rfl, rfl, fun _ _ => rfl⟩

theorem invoke_staticGetter_rate :
    let implementation := ScriptedMethod.implementation tariffScripts 1
    let o : Object := ⟨0, cityTariff⟩
    cityTariff.findMethod? "getRate" 0 = some (tariff, ⟨"getRate", [], some .int, true, false⟩) ∧
      o.invoke implementation "getRate" [] (rates 7 7) = (.ok (.int 7), rates 7 7) ∧
      o.invoke implementation "getRate" [] (rates 7 7) =
        tariff.invokeStatic implementation "getRate" [] (rates 7 7) := by
  intro implementation o
  have hfound : o.cls.findMethod? "getRate" 0 = some (tariff, _) := rfl
  obtain ⟨-, hinvoke, hsame⟩ := Object.invoke_staticGetter hfound (tariff_getter 0) (rates 7 7)
  refine ⟨hfound, hinvoke, hsame fun question time hasks => ?_⟩
  cases hasks with
  | here => rfl
  | later _ hasks => cases hasks

/-- A getter that an object's class inherits fails for lack of the field that it reads, or answers with
the field of that name which the object's class has. -/
theorem invoke_staticGetter_inherited :
    let implementation := ScriptedMethod.implementation tariffScripts 1
    let inner := ScriptedMethod.implementation tariffScripts 0
    let getRate : Method := ⟨"getRate", [], some .int, true, false⟩
    StaticGetter implementation inner tariff getRate (.ask (.field "rate") .result) ∧
      (tariff.invokeStatic implementation "getRate" [] (rates 7 9)).1 = .ok (.int 7) ∧
      nightTariff.findMethod? "getRate" 0 = some (tariff, getRate) ∧
      ((⟨0, nightTariff⟩ : Object).invoke implementation "getRate" [] (rates 7 9)).1 =
        .error (.noSuchField "NightTariff" "rate") ∧
      cityTariff.findMethod? "getRate" 0 = some (tariff, getRate) ∧
      ((⟨1, cityTariff⟩ : Object).invoke implementation "getRate" [] (rates 7 9)).1 = .ok (.int 9) :=
  ⟨tariff_getter 0, rfl, rfl, rfl, rfl, rfl⟩

/-- A getter that answers with a static field of the class that declares it fails on every object whose
class does not declare such a field itself. -/
theorem Object.invoke_inherited_reader {implementation inner : Implementation} {o : Object}
    {c : Class} {m : Method} {name field : String}
    (hfound : o.cls.findMethod? name 0 = some (c, m))
    (h : StaticGetter implementation inner c m (.ask (.field field) .result))
    (hfield : (c.staticField? field).isSome) (hlacks : o.cls.staticField? field = none)
    (store : Store) :
    c.invokeStatic implementation name [] store = (.ok (c.staticValue field store), store) ∧
      o.invoke implementation name [] store =
        (.error (.noSuchField o.cls.name field), store) := by
  obtain ⟨declared, hdeclared⟩ := Option.isSome_iff_exists.mp hfield
  rw [h.invokeStatic (Class.findMethod_declared hfound), h.invoke hfound]
  simp only [ClassBody.run, Class.answer, Class.getStatic, hdeclared, hlacks, Class.staticValue]
  exact ⟨trivial, trivial⟩

end ObjectConstraints
