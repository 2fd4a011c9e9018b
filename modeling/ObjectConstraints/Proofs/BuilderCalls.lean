import ObjectConstraints.Config.Builder
import ObjectConstraints.Proofs.Overwriting

/-!
# Calls of a builder

A builder gathers the checks it is given by member. However the calls are mixed, what is built mentions a
member once, with the checks of all calls for it in their order, and as an invariant if one of them said
so (`BuilderCall.mentions_built`).
-/

namespace ObjectConstraints

-- ---------------------------------------------------------------------------
-- Changing the first entry
-- ---------------------------------------------------------------------------

section

variable {α : Type} {test : α → Bool} {fresh : α} {change : α → α} {l : List α}

theorem forall_updateFirst {P : α → Prop} (hl : ∀ a ∈ l, P a) (hfresh : P fresh)
    (hchange : ∀ a, P a → P (change a)) : ∀ a ∈ updateFirst test fresh change l, P a := by
  induction l with
  | nil => simpa [updateFirst] using hchange fresh hfresh
  | cons b rest ih =>
    obtain ⟨hb, hrest⟩ := List.forall_mem_cons.mp hl
    rw [updateFirst]
    split
    · exact List.forall_mem_cons.mpr ⟨hchange b hb, hrest⟩
    · exact List.forall_mem_cons.mpr ⟨hb, ih hrest⟩

/-- Entries are told by keys. If there was at most one with the key of the one that is changed, there is
exactly one afterwards, and those with other keys are as they were. -/
theorem filter_updateFirst {κ : Type} [DecidableEq κ] (has : κ → α → Bool) (key : κ)
    (hfresh : has key fresh = true)
    (hown : ∀ a, has key a = true → ∀ other, has other a = decide (key = other))
    (hchange : ∀ other a, has other (change a) = has other a)
    (hunique : (l.filter (has key)).tail = []) (other : κ) :
    (updateFirst (has key) fresh change l).filter (has other) =
      if key = other then [change ((l.filter (has key)).headD fresh)] else l.filter (has other) := by
  induction l with
  | nil =>
    have hother := hown fresh hfresh other
    by_cases h : key = other <;> simp [updateFirst, hchange, hother, h]
  | cons a rest ih =>
    cases ha : has key a with
    | true =>
      have hrest : rest.filter (has key) = [] := by simpa [ha] using hunique
      have hother := hown a ha other
      by_cases h : key = other
      · subst h
        simp [updateFirst, ha, hchange, hrest]
      · simp [updateFirst, ha, hchange, hother, h]
    | false =>
      have hrest := ih (by simpa [ha] using hunique)
      rw [updateFirst, ha, if_neg Bool.false_ne_true, List.filter_cons, hrest]
      by_cases h : key = other
      · subst h
        simp [ha]
      · simp [h, List.filter_cons]

end

-- ---------------------------------------------------------------------------
-- Calls
-- ---------------------------------------------------------------------------

/-- What a builder can be given checks for. -/
inductive BuilderCall where
  | field (name : String) (checks : List Check)
  | invariant (getter : String) (checks : List Check)
  | result (method : String) (arity : Nat) (checks : List Check)
  | parameter (method : String) (arity index : Nat) (checks : List Check)
  | constructorParameter (constructor index : Nat) (checks : List Check)
  | object (checks : List Check)

namespace BuilderCall

def member : BuilderCall → Member
  | .field name _ => .field name
  | .invariant getter _ => .result getter 0
  | .result method arity _ => .result method arity
  | .parameter method arity index _ => .parameter method arity index
  | .constructorParameter constructor index _ => .constructorParameter constructor index
  | .object _ => .object

def isInvariant : BuilderCall → Bool
  | .invariant _ _ => true
  | _ => false

def checks : BuilderCall → List Check
  | .field _ checks | .invariant _ checks | .result _ _ checks | .parameter _ _ _ checks
  | .constructorParameter _ _ checks | .object checks => checks

def build (config : ClassConfig) : BuilderCall → ClassConfig
  | .field name checks => config.addField name checks
  | .invariant getter checks => config.addInvariant getter checks
  | .result method arity checks => config.addResult method arity false checks
  | .parameter method arity index checks => config.addParameter method arity index checks
  | .constructorParameter constructor index checks =>
    config.addConstructorParameter constructor index checks
  | .object checks => config.addObject checks

/-- The configuration of a class that calls build. -/
def built (className : String) (calls : List BuilderCall) : ClassConfig :=
  calls.foldl build { className }

theorem arity_of_isInvariant {call : BuilderCall} (h : call.isInvariant = true) :
    ∃ getter, call.member = .result getter 0 := by
  cases call with
  | invariant getter checks => exact ⟨getter, rfl⟩
  | _ => cases h

end BuilderCall

-- ---------------------------------------------------------------------------
-- What is mentioned
-- ---------------------------------------------------------------------------

/-- A mention that goes on where an earlier one ended, if there is one. -/
def Mention.more (earlier : List Mention) (isInvariant : Bool) (checks : List Check) : Mention :=
  let mention := earlier.headD { checks := [], own := none, ofClass := none }
  { mention with
    checks := mention.checks ++ checks
    isInvariant := mention.isInvariant || isInvariant }

/-- What calls say of a member: all of their checks at once, and that it is an invariant if one of them
says so. -/
def BuilderCall.mentions (member : Member) (calls : List BuilderCall) : List Mention :=
  match calls.filter (·.member = member) with
  | [] => []
  | own => [{
      checks := own.flatMap (·.checks)
      isInvariant := own.any (·.isInvariant)
      own := none
      ofClass := none }]

theorem BuilderCall.mentions_append_singleton (member : Member) (calls : List BuilderCall)
    (call : BuilderCall) : mentions member (calls ++ [call]) =
      if call.member = member then [.more (mentions member calls) call.isInvariant call.checks]
      else mentions member calls := by
  rw [mentions, mentions, List.filter_append]
  by_cases h : call.member = member
  · cases calls.filter (·.member = member) <;> simp [h, Mention.more, Bool.or_assoc]
  · simp [h]

namespace ClassConfig

/-- Whether a configuration says nothing of overwriting beyond its sections, has at most one entry for
each field, method and constructor, and marks no method without a result as an invariant. -/
structure Plain (config : ClassConfig) : Prop where
  overwrite : config.overwrite = none
  methods : ∀ m ∈ config.methods, m.overwrite = none ∧ (m.result = none → m.isInvariant = false)
  constructors : ∀ k ∈ config.constructors, k.overwrite = none
  field : ∀ name, (config.fields.filter (·.name = name)).tail = []
  method : ∀ name arity, (config.methods.filter fun m => m.name = name ∧ m.arity = arity).tail = []
  constructor : ∀ index, (config.constructors.filter (·.index = index)).tail = []

variable {config : ClassConfig} {checks : List Check}

theorem eq_of_tail {α : Type} {l : List α} (h : l.tail = []) : l = [] ∨ ∃ a, l = [a] := by
  cases l with
  | nil => exact .inl rfl
  | cons a rest => exact .inr ⟨a, by rw [show rest = [] from h]⟩

/-- What is said of a parameter after checks are added for one. Sections that only fill up the list say
nothing. -/
theorem mention_appendAt (hclass : config.overwrite = none) (hchecks : checks ≠ []) (index place : Nat)
    (parts : List Section) :
    ((Section.appendAt checks index parts)[place]?.bind (config.parameterMention? none)).toList =
      if index = place then
        [.more (parts[place]?.bind (config.parameterMention? none)).toList false checks]
      else (parts[place]?.bind (config.parameterMention? none)).toList := by
  induction index generalizing place parts with
  | zero =>
    cases place with
    | zero =>
      cases parts with
      | nil => simp [Section.appendAt, parameterMention?, hchecks, hclass, Mention.more]
      | cons first rest =>
        obtain ⟨earlier, overwrite⟩ := first
        cases earlier <;> cases overwrite <;>
          simp [Section.appendAt, Section.append, parameterMention?, hchecks, hclass, Mention.more]
    | succ place => cases parts <;> simp [Section.appendAt]
  | succ index ih =>
    cases place with
    | zero => cases parts <;> simp [Section.appendAt, parameterMention?]
    | succ place => cases parts <;> simp [Section.appendAt, ih]

section

variable (h : config.Plain)
include h

theorem Plain.filter_fields (name other : String) :
    (config.addField name checks).fields.filter (·.name = other) =
      if name = other then
        let field := (config.fields.filter (·.name = name)).headD { name }
        [{ field with checks := field.checks ++ checks }]
      else config.fields.filter (·.name = other) := by
  let has (name : String) (f : FieldConfig) : Bool := f.name = name
  have hown : ∀ f, has name f = true → ∀ key, has key f = decide (name = key) := by
    intro f hf key
    obtain rfl : f.name = name := by simpa [has] using hf
    rfl
  have hfresh : has name { name } = true := by simp [has]
  have hkeeps : ∀ key (f : FieldConfig), has key { f with checks := f.checks ++ checks } = has key f :=
    fun _ _ => rfl
  exact filter_updateFirst has name hfresh hown hkeeps (h.field name) other

theorem Plain.filter_methods (change : MethodConfig → MethodConfig) (name : String) (arity : Nat)
    (hchange : ∀ m, (change m).name = m.name ∧ (change m).arity = m.arity) (other : String) (places : Nat) :
    ((config.updateMethod name arity change).methods.filter fun m => m.name = other ∧ m.arity = places) =
      if name = other ∧ arity = places then
        [change ((config.methods.filter fun m => m.name = name ∧ m.arity = arity).headD { name, arity })]
      else config.methods.filter fun m => m.name = other ∧ m.arity = places := by
  let has (key : String × Nat) (m : MethodConfig) : Bool := m.name = key.1 ∧ m.arity = key.2
  have htest : (fun m : MethodConfig => m.name == name && m.arity == arity) = has (name, arity) := by
    funext m
    exact (Bool.decide_and ..).symm
  have hown : ∀ m, has (name, arity) m = true → ∀ key, has key m = decide ((name, arity) = key) := by
    intro m hm key
    obtain ⟨rfl, rfl⟩ : m.name = name ∧ m.arity = arity := by simpa [has] using hm
    simp [has, Prod.ext_iff]
  have hkeeps : ∀ key m, has key (change m) = has key m := fun key m => by simp [has, hchange]
  have hfresh : has (name, arity) { name, arity } = true := by simp [has]
  have hfilter := filter_updateFirst has (name, arity) hfresh hown hkeeps (h.method name arity)
    (other, places)
  simpa only [updateMethod, htest, Prod.mk.injEq] using hfilter

theorem Plain.filter_constructors (constructor index other : Nat) :
    (config.addConstructorParameter constructor index checks).constructors.filter (·.index = other) =
      if constructor = other then
        let k := (config.constructors.filter (·.index = constructor)).headD { index := constructor }
        [{ k with parameters := Section.appendAt checks index k.parameters }]
      else config.constructors.filter (·.index = other) := by
  let has (index : Nat) (k : ConstructorConfig) : Bool := k.index = index
  have hown : ∀ k, has constructor k = true → ∀ key, has key k = decide (constructor = key) := by
    intro k hk key
    obtain rfl : k.index = constructor := by simpa [has] using hk
    rfl
  have hfresh : has constructor { index := constructor } = true := by simp [has]
  have hkeeps : ∀ key (k : ConstructorConfig),
      has key { k with parameters := Section.appendAt checks index k.parameters } = has key k :=
    fun _ _ => rfl
  exact filter_updateFirst has constructor hfresh hown hkeeps (h.constructor constructor) other

theorem mentions_addField (name : String) (member : Member) :
    (config.addField name checks).mentions member =
      if .field name = member then [.more (config.mentions member) false checks]
      else config.mentions member := by
  cases member with
  | field other =>
    have hclass : (config.addField name checks).overwrite = none := h.overwrite
    simp only [mentions, Member.field.injEq, hclass, h.overwrite]
    rw [h.filter_fields]
    split
    · next heq =>
      subst heq
      obtain hnone | ⟨f, hone⟩ := eq_of_tail (h.field name)
      · rw [hnone]
        simp [Mention.more]
      · rw [hone]
        simp [Mention.more]
    · rfl
  | _ => rfl

theorem mentions_addResult (name : String) (arity : Nat) (isInvariant : Bool) (member : Member) :
    (config.addResult name arity isInvariant checks).mentions member =
      if .result name arity = member then [.more (config.mentions member) isInvariant checks]
      else config.mentions member := by
  have hfilter := h.filter_methods (fun m => { m with
    isInvariant := m.isInvariant || isInvariant
    result := some ((m.result.getD {}).append checks) }) name arity fun _ => ⟨rfl, rfl⟩
  have hclass : (config.addResult name arity isInvariant checks).overwrite = none := h.overwrite
  cases member with
  | result other places =>
    simp only [mentions, Member.result.injEq, hclass, h.overwrite]
    rw [addResult, hfilter]
    split
    · next heq =>
      obtain ⟨rfl, rfl⟩ := heq
      obtain hnone | ⟨m, hone⟩ := eq_of_tail (h.method name arity)
      · rw [hnone]
        simp [Mention.more, Section.append]
      · obtain ⟨houter, hinvariant⟩ := h.methods m (List.mem_of_mem_filter (hone ▸ List.mem_singleton_self m))
        rw [hone]
        cases hresult : m.result with
        | none => simp [hresult, hinvariant hresult, houter, Mention.more, Section.append]
        | some part => simp [hresult, Mention.more, Section.append]
    · rfl
  | parameter other places index =>
    simp only [mentions, reduceCtorEq, ↓reduceIte, addResult, hfilter]
    split
    · next heq =>
      obtain ⟨rfl, rfl⟩ := heq
      obtain hnone | ⟨m, hone⟩ := eq_of_tail (h.method name arity)
      · rw [hnone]
        simp
      · rw [hone]
        rfl
    · rfl
  | _ => rfl

theorem mentions_addParameter (hchecks : checks ≠ []) (name : String) (arity index : Nat)
    (member : Member) : (config.addParameter name arity index checks).mentions member =
      if .parameter name arity index = member then [.more (config.mentions member) false checks]
      else config.mentions member := by
  have hfilter := h.filter_methods
    (fun m => { m with parameters := Section.appendAt checks index m.parameters }) name arity
    fun _ => ⟨rfl, rfl⟩
  have hclass : (config.addParameter name arity index checks).overwrite = none := h.overwrite
  have hsame : (config.addParameter name arity index checks).parameterMention? =
      config.parameterMention? := by
    funext outer part
    simp only [parameterMention?, hclass, h.overwrite]
  cases member with
  | result other places =>
    simp only [mentions, reduceCtorEq, ↓reduceIte, hclass, h.overwrite]
    rw [addParameter, hfilter]
    split
    · next heq =>
      obtain ⟨rfl, rfl⟩ := heq
      obtain hnone | ⟨m, hone⟩ := eq_of_tail (h.method name arity)
      · rw [hnone]
        simp
      · rw [hone]
        rfl
    · rfl
  | parameter other places place =>
    simp only [mentions, Member.parameter.injEq, hsame]
    rw [addParameter, hfilter]
    by_cases hmethod : name = other ∧ arity = places
    · obtain ⟨rfl, rfl⟩ := hmethod
      simp only [and_self, true_and, ↓reduceIte]
      obtain hnone | ⟨m, hone⟩ := eq_of_tail (h.method name arity)
      · rw [hnone]
        simpa using mention_appendAt h.overwrite hchecks index place []
      · obtain ⟨houter, -⟩ := h.methods m (List.mem_of_mem_filter (hone ▸ List.mem_singleton_self m))
        rw [hone]
        simpa [houter] using mention_appendAt h.overwrite hchecks index place m.parameters
    · rw [if_neg hmethod, if_neg fun heq => hmethod ⟨heq.1, heq.2.1⟩]
  | _ => rfl

theorem mentions_addConstructorParameter (hchecks : checks ≠ []) (constructor index : Nat)
    (member : Member) : (config.addConstructorParameter constructor index checks).mentions member =
      if .constructorParameter constructor index = member then
        [.more (config.mentions member) false checks]
      else config.mentions member := by
  have hclass : (config.addConstructorParameter constructor index checks).overwrite = none := h.overwrite
  have hsame : (config.addConstructorParameter constructor index checks).parameterMention? =
      config.parameterMention? := by
    funext outer part
    simp only [parameterMention?, hclass, h.overwrite]
  cases member with
  | constructorParameter other place =>
    simp only [mentions, Member.constructorParameter.injEq, hsame]
    rw [h.filter_constructors]
    by_cases hother : constructor = other
    · subst hother
      simp only [true_and, ↓reduceIte]
      obtain hnone | ⟨k, hone⟩ := eq_of_tail (h.constructor constructor)
      · rw [hnone]
        simpa using mention_appendAt h.overwrite hchecks index place []
      · have houter := h.constructors k (List.mem_of_mem_filter (hone ▸ List.mem_singleton_self k))
        rw [hone]
        simpa [houter] using mention_appendAt h.overwrite hchecks index place k.parameters
    · rw [if_neg hother, if_neg fun heq => hother heq.1]
  | _ => rfl

theorem mentions_addObject (member : Member) : (config.addObject checks).mentions member =
    if .object = member then [.more (config.mentions member) false checks]
    else config.mentions member := by
  cases member with
  | object =>
    cases hobject : config.object with
    | none => simp [mentions, addObject, hobject, Mention.more, Section.append, h.overwrite]
    | some part => simp [mentions, addObject, hobject, Mention.more, Section.append]
  | _ => rfl

-- ---------------------------------------------------------------------------
-- What is built
-- ---------------------------------------------------------------------------

theorem Plain.addField (name : String) : (config.addField name checks).Plain where
  overwrite := h.overwrite
  methods := h.methods
  constructors := h.constructors
  field other := by
    rw [h.filter_fields]
    split
    · rfl
    · exact h.field other
  method := h.method
  constructor := h.constructor

theorem Plain.updateMethod {change : MethodConfig → MethodConfig}
    (hchange : ∀ m, (change m).name = m.name ∧ (change m).arity = m.arity)
    (hflags : ∀ m, (m.overwrite = none ∧ (m.result = none → m.isInvariant = false)) →
      (change m).overwrite = none ∧ ((change m).result = none → (change m).isInvariant = false))
    (name : String) (arity : Nat) : (config.updateMethod name arity change).Plain where
  overwrite := h.overwrite
  methods := forall_updateFirst h.methods ⟨rfl, fun _ => rfl⟩ hflags
  constructors := h.constructors
  field := h.field
  method other places := by
    rw [h.filter_methods change name arity hchange]
    split
    · rfl
    · exact h.method other places
  constructor := h.constructor

theorem Plain.addResult (name : String) (arity : Nat) (isInvariant : Bool) :
    (config.addResult name arity isInvariant checks).Plain := by
  refine h.updateMethod ?_ ?_ name arity
  · exact fun _ => ⟨rfl, rfl⟩
  · exact fun _ hm => ⟨hm.1, by simp⟩

theorem Plain.addConstructorParameter (constructor index : Nat) :
    (config.addConstructorParameter constructor index checks).Plain where
  overwrite := h.overwrite
  methods := h.methods
  constructors := forall_updateFirst h.constructors rfl fun _ hk => hk
  field := h.field
  method := h.method
  constructor other := by
    rw [h.filter_constructors]
    split
    · rfl
    · exact h.constructor other

theorem Plain.build (call : BuilderCall) : (call.build config).Plain := by
  cases call with
  | field name checks => exact h.addField name
  | invariant getter checks => exact h.addResult getter 0 true
  | result method arity checks => exact h.addResult method arity false
  | parameter method arity index checks =>
    refine h.updateMethod ?_ ?_ method arity
    · exact fun _ => ⟨rfl, rfl⟩
    · exact fun _ hm => hm
  | constructorParameter constructor index checks => exact h.addConstructorParameter constructor index
  | object checks => exact ⟨h.overwrite, h.methods, h.constructors, h.field, h.method, h.constructor⟩

theorem mentions_build {call : BuilderCall} (hchecks : call.checks ≠ []) (member : Member) :
    (call.build config).mentions member =
      if call.member = member then [.more (config.mentions member) call.isInvariant call.checks]
      else config.mentions member := by
  cases call with
  | field name checks => exact mentions_addField h name member
  | invariant getter checks => exact mentions_addResult h getter 0 true member
  | result method arity checks => exact mentions_addResult h method arity false member
  | parameter method arity index checks =>
    exact mentions_addParameter h hchecks method arity index member
  | constructorParameter constructor index checks =>
    exact mentions_addConstructorParameter h hchecks constructor index member
  | object checks => exact mentions_addObject h member

end

end ClassConfig

namespace BuilderCall

variable {calls : List BuilderCall} {c : Class} {member : Member}

theorem built_append_singleton (className : String) (calls : List BuilderCall) (call : BuilderCall) :
    built className (calls ++ [call]) = call.build (built className calls) := by
  rw [built, List.foldl_append]
  rfl

theorem built_frame (className : String) (calls : List BuilderCall) :
    (built className calls).className = className ∧ (built className calls).flags = {} := by
  induction calls using List.reverseRecOn with
  | nil => exact ⟨rfl, rfl⟩
  | append_singleton calls call ih =>
    rw [built_append_singleton]
    cases call <;> exact ih

/-- A configuration that is built mentions each member once, with the checks of all calls for it. -/
theorem mentions_built (className : String) (hcalls : ∀ call ∈ calls, call.checks ≠ []) :
    (built className calls).Plain ∧
      ∀ member, (built className calls).mentions member = mentions member calls := by
  induction calls using List.reverseRecOn with
  | nil =>
    refine ⟨⟨rfl, nofun, nofun, fun _ => rfl, fun _ _ => rfl, fun _ => rfl⟩, fun member => ?_⟩
    cases member <;> rfl
  | append_singleton calls call ih =>
    obtain ⟨hplain, hmentions⟩ := ih fun other hother => hcalls other (List.mem_append_left _ hother)
    rw [built_append_singleton]
    refine ⟨hplain.build call, fun member => ?_⟩
    rw [ClassConfig.mentions_build hplain (hcalls call (by simp)), hmentions, mentions_append_singleton]

/-- The checks that calls give to a member. -/
def given (member : Member) (calls : List BuilderCall) : List Check :=
  (calls.filter (·.member = member)).flatMap (·.checks)

theorem flatMap_mentions (member : Member) (calls : List BuilderCall) :
    (mentions member calls).flatMap (·.checks) = given member calls := by
  rw [mentions, given]
  split
  · next h => rw [h]; rfl
  · simp

theorem mem_mentions {mention : Mention} (h : mention ∈ mentions member calls) :
    mention.overwrites = false ∧ mention.checks = given member calls ∧
      (∃ call ∈ calls, call.member = member) ∧
      (mention.isInvariant = true ↔ ∃ call ∈ calls, call.member = member ∧ call.isInvariant = true) := by
  rw [mentions] at h
  split at h
  · cases h
  · next hsome =>
    obtain rfl := List.mem_singleton.mp h
    obtain ⟨call, hcall⟩ := List.exists_mem_of_ne_nil _ hsome
    obtain ⟨hmem, hmember⟩ := List.mem_filter.mp hcall
    refine ⟨rfl, rfl, ⟨call, hmem, by simpa using hmember⟩, ?_⟩
    simp

theorem mentions_ne_nil {call : BuilderCall} (hcall : call ∈ calls) :
    mentions call.member calls ≠ [] := by
  rw [mentions]
  split
  · next hnone =>
    have hmem : call ∈ calls.filter (·.member = call.member) :=
      List.mem_filter.mpr ⟨hcall, decide_eq_true rfl⟩
    rw [hnone] at hmem
    cases hmem
  · exact List.cons_ne_nil _ _

end BuilderCall

end ObjectConstraints
