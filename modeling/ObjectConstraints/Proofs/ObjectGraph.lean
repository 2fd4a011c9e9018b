import ObjectConstraints.Proofs.Steps

/-!
# Object graphs

The objects that values hold. From a value over some objects whose fields hold nothing but values
over them, a check looks at values over these objects only, and always on behalf of the same owner
and member (`outlook_over`).
-/

namespace ObjectConstraints

-- ---------------------------------------------------------------------------
-- Objects in values
-- ---------------------------------------------------------------------------

namespace Value

mutual

/-- The objects that a value holds, those of keys included. -/
def objects : Value → List Object
  | .list items => itemObjects items
  | .array items => itemObjects items
  | .map entries => entryObjects entries
  | .object o => [o]
  | _ => []

def itemObjects : List Value → List Object
  | [] => []
  | item :: rest => objects item ++ itemObjects rest

def entryObjects : List (Value × Value) → List Object
  | [] => []
  | (key, value) :: rest => objects key ++ objects value ++ entryObjects rest

end

/-- Whether a value holds none but the given objects. -/
def Over (known : List Object) (value : Value) : Prop := ∀ o ∈ value.objects, o ∈ known

theorem over_object : (Value.object o).Over known ↔ o ∈ known := by simp [Over, objects]

theorem over_null : Value.null.Over known := by simp [Over, objects]

end Value

/-- Whether the fields of objects hold none but these objects. -/
def Store.ClosedOver (known : List Object) (store : Store) : Prop :=
  ∀ o ∈ known, ∀ field value, o.get field store = .ok value → value.Over known

variable {known : List Object}

theorem lookUp_over (key : String) (h : (Value.map entries).Over known) :
    (TargetPath.lookUp key entries).Over known := by
  induction entries with
  | nil => exact Value.over_null
  | cons entry rest ih =>
    obtain ⟨k, value⟩ := entry
    simp only [Value.Over, Value.objects, Value.entryObjects, List.mem_append] at h ih
    unfold TargetPath.lookUp
    split
    · exact fun o ho => h o (.inl (.inr ho))
    · exact ih fun o ho => h o (.inr ho)

theorem follow_over (hstore : store.ClosedOver known) (hvalue : value.Over known)
    (h : TargetPath.follow path store value segments = .ok (some reached)) : reached.Over known := by
  induction segments generalizing value with
  | nil =>
    simp only [TargetPath.follow, Except.ok.injEq, Option.some.injEq] at h
    exact h ▸ hvalue
  | cons segment rest ih =>
    cases value with
    | object o =>
      simp only [TargetPath.follow] at h
      split at h
      · next next hnext =>
        exact ih (hstore o (Value.over_object.mp hvalue) segment next hnext) h
      · cases h
    | map entries => exact ih (lookUp_over segment hvalue) h
    | _ => simp [TargetPath.follow] at h

-- ---------------------------------------------------------------------------
-- Positions
-- ---------------------------------------------------------------------------

/-- A site that is reached from another one: for the same owner and member, at a value over the known
objects. -/
structure Site.Follows (known : List Object) (site p : Site) : Prop where
  owner : p.owner = site.owner
  root : p.context.root = site.context.root
  value : p.value.Over known

namespace Site

variable {targets : Targets} {owner : Option Object}

theorem own_follows {site p : Site} (h : site.value.Over known) (hp : p ∈ site.own targets) :
    site.Follows known p := by
  unfold own at hp
  split at hp
  · rw [List.mem_singleton.mp hp]
    exact ⟨rfl, rfl, h⟩
  · cases hp

mutual

theorem reached_follows (declared : Kind) (context : Context) :
    (value : Value) → value.Over known → ∀ p ∈ reached targets owner declared context value,
      Follows known ⟨owner, value, declared, context⟩ p
  | .list items, h, p, hp => by
    rcases List.mem_append.mp hp with hp | hp
    · split at hp
      · have hitem := reachedItems_follows context items h 0 p hp
        exact ⟨hitem.owner, hitem.root, hitem.value⟩
      · cases hp
    · exact own_follows h hp
  | .array items, h, p, hp => by
    rcases List.mem_append.mp hp with hp | hp
    · split at hp
      · have hitem := reachedItems_follows context items h 0 p hp
        exact ⟨hitem.owner, hitem.root, hitem.value⟩
      · cases hp
    · exact own_follows h hp
  | .map entries, h, p, hp => by
    rcases List.mem_append.mp hp with hp | hp
    · rcases List.mem_append.mp hp with hp | hp
      · split at hp
        · have hkey := reachedKeys_follows context entries h 0 p hp
          exact ⟨hkey.owner, hkey.root, hkey.value⟩
        · cases hp
      · split at hp
        · have hvalue := reachedValues_follows context entries h p hp
          exact ⟨hvalue.owner, hvalue.root, hvalue.value⟩
        · cases hp
    · exact own_follows h hp
  | .null, h, _, hp => own_follows h hp
  | .bool _, h, _, hp => own_follows h hp
  | .int _, h, _, hp => own_follows h hp
  | .float _, h, _, hp => own_follows h hp
  | .string _, h, _, hp => own_follows h hp
  | .instant _, h, _, hp => own_follows h hp
  | .object _, h, _, hp => own_follows h hp

theorem reachedItems_follows (context : Context) :
    (items : List Value) → (Value.list items).Over known → (index : Nat) →
      ∀ p ∈ reachedItems targets owner context index items,
        Follows known ⟨owner, .list items, .any, context⟩ p
  | [], _, _, _, hp => by cases hp
  | item :: rest, h, index, p, hp => by
    simp only [Value.Over, Value.objects, Value.itemObjects, List.mem_append] at h
    rcases List.mem_append.mp hp with hp | hp
    · have hitem := reached_follows _ _ item (fun o ho => h o (.inl ho)) p hp
      exact ⟨hitem.owner, hitem.root, hitem.value⟩
    · have hrest := reachedItems_follows context rest (fun o ho => h o (.inr ho)) (index + 1) p hp
      exact ⟨hrest.owner, hrest.root, hrest.value⟩

theorem reachedKeys_follows (context : Context) :
    (entries : List (Value × Value)) → (Value.map entries).Over known → (index : Nat) →
      ∀ p ∈ reachedKeys targets owner context index entries,
        Follows known ⟨owner, .map entries, .any, context⟩ p
  | [], _, _, _, hp => by cases hp
  | (key, _) :: rest, h, index, p, hp => by
    simp only [Value.Over, Value.objects, Value.entryObjects, List.mem_append] at h
    rcases List.mem_append.mp hp with hp | hp
    · have hkey := reached_follows _ _ key (fun o ho => h o (.inl (.inl ho))) p hp
      exact ⟨hkey.owner, hkey.root, hkey.value⟩
    · have hrest := reachedKeys_follows context rest (fun o ho => h o (.inr ho)) (index + 1) p hp
      exact ⟨hrest.owner, hrest.root, hrest.value⟩

theorem reachedValues_follows (context : Context) :
    (entries : List (Value × Value)) → (Value.map entries).Over known →
      ∀ p ∈ reachedValues targets owner context entries,
        Follows known ⟨owner, .map entries, .any, context⟩ p
  | [], _, _, hp => by cases hp
  | (_, value) :: rest, h, p, hp => by
    simp only [Value.Over, Value.objects, Value.entryObjects, List.mem_append] at h
    rcases List.mem_append.mp hp with hp | hp
    · have hvalue := reached_follows _ _ value (fun o ho => h o (.inl (.inr ho))) p hp
      exact ⟨hvalue.owner, hvalue.root, hvalue.value⟩
    · have hrest := reachedValues_follows context rest (fun o ho => h o (.inr ho)) p hp
      exact ⟨hrest.owner, hrest.root, hrest.value⟩

end

theorem positions_follow (site : Site) (h : site.value.Over known)
    (hp : p ∈ site.positions targets) : site.Follows known p :=
  reached_follows site.declared site.context site.value h p hp

end Site

/-- A check looks at nothing, at the positions of its site, or at those of the site that its target
path leads to. -/
theorem outlook_ok {env : Environment} {site : Site}
    (h : Traversal.outlook env store check site = .ok sites) :
    sites = [] ∨ sites = site.positions check.targets ∨
      ∃ path value, TargetPath.navigate path store site.value = .ok (some value) ∧
        sites = Site.positions check.targets { site with value, declared := .any } := by
  unfold Traversal.outlook at h
  split at h
  · cases h
    exact .inl rfl
  · rcases hactive : check.isActive env.languages site.owner site.value store with e | _ | _ <;>
      simp only [hactive, bind, Except.bind] at h
    · cases h
    · cases h
      exact .inl rfl
    · cases htarget : check.target with
      | none =>
        simp only [htarget] at h
        cases h
        exact .inr (.inl rfl)
      | some path =>
        rcases hpath : TargetPath.navigate path store site.value with e | _ | value <;>
          simp only [htarget, hpath] at h <;> cases h
        · exact .inl rfl
        · exact .inr (.inr ⟨path, value, hpath, rfl⟩)

theorem outlook_follows {env : Environment} (hstore : store.ClosedOver known) {site : Site}
    (h : site.value.Over known) (hsites : Traversal.outlook env store check site = .ok sites) :
    ∀ p ∈ sites, site.Follows known p := by
  intro p hp
  obtain rfl | rfl | ⟨path, value, hpath, rfl⟩ := outlook_ok hsites
  · cases hp
  · exact Site.positions_follow site h hp
  · have hvalue : value.Over known := follow_over hstore h hpath
    have hfollows := Site.positions_follow { site with value, declared := .any } hvalue hp
    exact ⟨hfollows.owner, hfollows.root, hfollows.value⟩

/-- A check is evaluated for the owner and at the member of the site it is applied to. -/
theorem outlook_place {env : Environment} {site : Site}
    (h : Traversal.outlook env store check site = .ok sites) :
    ∀ p ∈ sites, p.owner = site.owner ∧ p.context.root = site.context.root := by
  intro p hp
  obtain rfl | rfl | ⟨path, value, -, rfl⟩ := outlook_ok h
  · cases hp
  · have hfollows := Site.positions_follow site (fun _ ho => ho) hp
    exact ⟨hfollows.owner, hfollows.root⟩
  · have hfollows := Site.positions_follow { site with value, declared := .any } (fun _ ho => ho) hp
    exact ⟨hfollows.owner, hfollows.root⟩

theorem outlook_owner {env : Environment} {site : Site}
    (h : Traversal.outlook env store check site = .ok sites) :
    ∀ p ∈ sites, p.owner = site.owner := fun p hp => (outlook_place h p hp).1

end ObjectConstraints
