import Mathlib.Data.List.Nodup
import Mathlib.Logic.Relation
import ObjectConstraints.Model.Interfaces

/-!
# The walk through interfaces

The walk keeps pending interfaces on a stack and takes them off one by one. It comes to an end, because
the trees under what is pending get smaller with every round (`InterfaceWalk.ends`), and it meets the
interfaces in the order of the recursive walk that visits what an interface extends before it goes on with
the next one (`walkInterfaces_eq_metAll`): what lies on the stack is what the suspended calls still have to
visit. Nothing that can be reached is left out, since what an interface that was found extends has been
found or is pending (`Closed`).
-/

namespace ObjectConstraints

namespace Class

/-- Whether a class leads to an interface, which it implements or an interface it leads to extends. -/
def Reaches : Class → Class → Prop := Relation.TransGen fun c d => d ∈ c.interfaces

/-- Whether the interfaces that a class leads to are told apart by their numbers. -/
def Identified (c : Class) : Prop := ∀ d e, c.Reaches d → c.Reaches e → d.id = e.id → d = e

/-- Classes that hold what a class implements and what each of them extends hold all it leads to. -/
theorem Reaches.mem {classes : List Class} (h : Reaches c d) (hown : ∀ e ∈ c.interfaces, e ∈ classes)
    (hclosed : ∀ e ∈ classes, ∀ f ∈ e.interfaces, f ∈ classes) : d ∈ classes := by
  induction h with
  | single hd => exact hown _ hd
  | tail _ hd ih => exact hclosed _ ih _ hd

-- ---------------------------------------------------------------------------
-- The recursive walk
-- ---------------------------------------------------------------------------

mutual

/-- The interfaces met by the end of a visit of one of them. One that was met before is skipped; another is
met before those it extends, which are visited in the order declared. -/
def metIn (before : List Class) : Class → List Class
  | ⟨id, name, superclass, interfaces, isInterface, fields, methods, constructors⟩ =>
    if before.any (·.id == id) then before
    else metAll (before ++ [⟨id, name, superclass, interfaces, isInterface, fields, methods, constructors⟩])
      interfaces

/-- The interfaces met by the end of visits of several, one after the other. -/
def metAll (before : List Class) : List Class → List Class
  | [] => before
  | c :: rest => metAll (metIn before c) rest

end

theorem metIn_eq (before : List Class) (c : Class) :
    metIn before c = if before.any (·.id == c.id) then before else metAll (before ++ [c]) c.interfaces := by
  cases c
  rw [metIn]

theorem metAll_append (before first second : List Class) :
    metAll before (first ++ second) = metAll (metAll before first) second := by
  induction first generalizing before with
  | nil => rw [List.nil_append, metAll]
  | cons c rest ih => rw [List.cons_append, metAll, ih, metAll]

/-- What is pending is what the recursive walk still has to visit, in this order. -/
theorem walkInterfaces_eq_metAll (found pending : List Class) :
    walkInterfaces found pending = metAll found pending := by
  fun_induction walkInterfaces found pending with
  | case1 found => rw [metAll]
  | case2 found c pending hfound ih => rw [ih, metAll, metIn_eq, if_pos hfound]
  | case3 found c pending hnew ih => rw [ih, metAll_append, metAll, metIn_eq, if_neg hnew]

-- ---------------------------------------------------------------------------
-- What is found
-- ---------------------------------------------------------------------------

theorem walkInterfaces_nodup {found pending : List Class} (h : (found.map (·.id)).Nodup) :
    ((walkInterfaces found pending).map (·.id)).Nodup := by
  fun_induction walkInterfaces found pending with
  | case1 => exact h
  | case2 found c pending hfound ih => exact ih h
  | case3 found c pending hnew ih =>
    refine ih ?_
    rw [List.map_append, List.map_singleton, List.nodup_append]
    refine ⟨h, List.nodup_singleton _, ?_⟩
    rintro id hid _ hc rfl
    obtain ⟨d, hd, rfl⟩ := List.mem_map.mp hid
    exact hnew (List.any_eq_true.mpr ⟨d, hd, beq_iff_eq.mpr (List.mem_singleton.mp hc)⟩)

/-- However many paths lead to an interface, it is among those of a class once. -/
theorem allInterfaces_nodup (c : Class) : (c.allInterfaces.map (·.id)).Nodup :=
  walkInterfaces_nodup List.nodup_nil

theorem walkInterfaces_sound {found pending : List Class} (h : d ∈ walkInterfaces found pending) :
    d ∈ found ∨ ∃ c ∈ pending, Relation.ReflTransGen (fun c d => d ∈ c.interfaces) c d := by
  fun_induction walkInterfaces found pending with
  | case1 => exact .inl h
  | case2 found c pending hfound ih =>
    rcases ih h with hd | ⟨e, he, hed⟩
    · exact .inl hd
    · exact .inr ⟨e, List.mem_cons_of_mem _ he, hed⟩
  | case3 found c pending hnew ih =>
    rcases ih h with hd | ⟨e, he, hed⟩
    · rcases List.mem_append.mp hd with hd | hd
      · exact .inl hd
      · exact .inr ⟨c, List.mem_cons_self, List.mem_singleton.mp hd ▸ .refl⟩
    · rcases List.mem_append.mp he with he | he
      · exact .inr ⟨c, List.mem_cons_self, .head he hed⟩
      · exact .inr ⟨e, List.mem_cons_of_mem _ he, hed⟩

/-- Whether an interface has been found, by its number. -/
def Found (found : List Class) (c : Class) : Prop := ∃ d ∈ found, d.id = c.id

theorem Found.mono (hsub : found ⊆ found') (h : Found found c) : Found found' c :=
  h.imp fun _ hd => ⟨hsub hd.1, hd.2⟩

/-- The invariant of the walk: what an interface that was found extends has been found or is pending. -/
def Closed (found pending : List Class) : Prop :=
  ∀ c ∈ found, ∀ d ∈ c.interfaces, Found found d ∨ d ∈ pending

/-- A round that skips what was found before keeps the invariant. -/
theorem Closed.skip (h : Closed found (c :: pending)) (hfound : Found found c) : Closed found pending := by
  intro d hd e he
  rcases h d hd e he with hknown | hpending
  · exact .inl hknown
  · rcases List.mem_cons.mp hpending with rfl | hpending
    · exact .inl hfound
    · exact .inr hpending

/-- So does a round that notes a new interface, as those it extends are then pending. -/
theorem Closed.note (h : Closed found (c :: pending)) : Closed (found ++ [c]) (c.interfaces ++ pending) := by
  have hsub : found ⊆ found ++ [c] := List.subset_append_left ..
  intro d hd e he
  rcases List.mem_append.mp hd with hd | hd
  · rcases h d hd e he with hknown | hpending
    · exact .inl (hknown.mono hsub)
    · rcases List.mem_cons.mp hpending with rfl | hpending
      · exact .inl ⟨e, List.mem_append_right _ (List.mem_singleton_self e), rfl⟩
      · exact .inr (List.mem_append_right _ hpending)
  · rw [List.mem_singleton.mp hd] at he
    exact .inr (List.mem_append_left _ he)

/-- Everything pending is found in the end, and so is everything that what is found leads to. -/
theorem walkInterfaces_closed {found pending : List Class} (h : Closed found pending) :
    Closed (walkInterfaces found pending) [] ∧ found ⊆ walkInterfaces found pending ∧
      ∀ c ∈ pending, Found (walkInterfaces found pending) c := by
  fun_induction walkInterfaces found pending with
  | case1 found => exact ⟨h, List.Subset.refl found, by simp⟩
  | case2 found c pending hfound ih =>
    have hc : Found found c := by simpa [Found] using hfound
    obtain ⟨hclosed, hsub, hpending⟩ := ih (h.skip hc)
    exact ⟨hclosed, hsub, List.forall_mem_cons.mpr ⟨hc.mono hsub, hpending⟩⟩
  | case3 found c pending hnew ih =>
    obtain ⟨hclosed, hsub, hpending⟩ := ih h.note
    have hc : c ∈ walkInterfaces (found ++ [c]) (c.interfaces ++ pending) :=
      hsub (List.mem_append_right _ (List.mem_singleton_self c))
    exact ⟨hclosed, (List.append_subset.mp hsub).1, List.forall_mem_cons.mpr
      ⟨⟨c, hc, rfl⟩, fun d hd => hpending d (List.mem_append_right _ hd)⟩⟩

theorem reaches_of_mem_allInterfaces {c : Class} (h : d ∈ c.allInterfaces) : c.Reaches d := by
  rcases walkInterfaces_sound h with hnone | ⟨e, he, hed⟩
  · simp at hnone
  · exact Relation.TransGen.head' he hed

theorem mem_allInterfaces_of_reaches {c : Class} (hid : c.Identified) (h : c.Reaches d) :
    d ∈ c.allInterfaces := by
  have hstart : Closed [] c.interfaces := nofun
  obtain ⟨hclosed, -, hpending⟩ := walkInterfaces_closed hstart
  -- what is found by its number is the interface itself
  have hfound : ∀ e, c.Reaches e → Found c.allInterfaces e → e ∈ c.allInterfaces := by
    rintro e he ⟨f, hf, hsame⟩
    exact hid f e (reaches_of_mem_allInterfaces hf) he hsame ▸ hf
  induction h with
  | single hd => exact hfound _ (.single hd) (hpending _ hd)
  | tail hreach hd ih =>
    rcases hclosed _ ih _ hd with hknown | hnone
    · exact hfound _ (.tail hreach hd) hknown
    · simp at hnone

end Class

-- ---------------------------------------------------------------------------
-- Rounds of the walk
-- ---------------------------------------------------------------------------

open ObjectConstraints.Class

/-- A state of the walk: the interfaces found, and those pending with the next one first. -/
structure InterfaceWalk where
  found : List Class
  pending : List Class

namespace InterfaceWalk

/-- One round of the walk takes the next interface; there is none once nothing is pending. -/
def round : InterfaceWalk → Option InterfaceWalk
  | ⟨_, []⟩ => none
  | ⟨found, c :: pending⟩ =>
    if found.any (·.id == c.id) then some ⟨found, pending⟩
    else some ⟨found ++ [c], c.interfaces ++ pending⟩

/-- The state after so many rounds, if there are as many. -/
def rounds : Nat → InterfaceWalk → Option InterfaceWalk
  | 0, walk => some walk
  | n + 1, walk => walk.round.bind (rounds n)

theorem round_weight_lt {walk after : InterfaceWalk} (h : walk.round = some after) :
    totalWeight after.pending < totalWeight walk.pending := by
  obtain ⟨found, _ | ⟨c, pending⟩⟩ := walk
  · simp [round] at h
  · have hweight := weight_eq c
    simp only [round] at h
    split at h
    all_goals
      cases h
      simp only [totalWeight, totalWeight_append]
      omega

theorem walkInterfaces_round {walk after : InterfaceWalk} (h : walk.round = some after) :
    walkInterfaces walk.found walk.pending = walkInterfaces after.found after.pending := by
  obtain ⟨found, _ | ⟨c, pending⟩⟩ := walk
  · simp [round] at h
  · simp only [round] at h
    rw [walkInterfaces]
    split at h
    all_goals
      cases h
      simp [*]

/-- The walk ends with what it finds, after no more rounds than there are classes in the trees under what
is pending. -/
theorem ends (walk : InterfaceWalk) : ∃ n ≤ totalWeight walk.pending,
    walk.rounds n = some ⟨walkInterfaces walk.found walk.pending, []⟩ := by
  induction hweight : totalWeight walk.pending using Nat.strongRecOn generalizing walk with
  | ind weight ih =>
    cases hround : walk.round with
    | none =>
      obtain ⟨found, _ | ⟨c, pending⟩⟩ := walk
      · exact ⟨0, Nat.zero_le _, by rw [rounds, walkInterfaces]⟩
      · simp only [round] at hround
        split at hround <;> cases hround
    | some after =>
      have hless : totalWeight after.pending < weight := hweight ▸ round_weight_lt hround
      obtain ⟨n, hn, hrounds⟩ := ih _ hless after rfl
      refine ⟨n + 1, by omega, ?_⟩
      rw [rounds, hround, Option.bind_some, hrounds, walkInterfaces_round hround]

end InterfaceWalk

/-- The walk from what a class implements comes to an end, with the interfaces in the order in which the
recursive walk meets them: each that the class leads to, and each once. -/
theorem Class.allInterfaces_walked (c : Class) (hid : c.Identified) :
    (∃ n ≤ totalWeight c.interfaces,
      InterfaceWalk.rounds n ⟨[], c.interfaces⟩ = some ⟨c.allInterfaces, []⟩ ∧
      InterfaceWalk.round ⟨c.allInterfaces, []⟩ = none) ∧
    c.allInterfaces = metAll [] c.interfaces ∧
    (∀ d, d ∈ c.allInterfaces ↔ c.Reaches d) ∧
    c.allInterfaces.Nodup := by
  refine ⟨?_, walkInterfaces_eq_metAll [] c.interfaces, fun d => ?_, ?_⟩
  · obtain ⟨n, hn, hrounds⟩ := InterfaceWalk.ends ⟨[], c.interfaces⟩
    exact ⟨n, hn, hrounds, rfl⟩
  · exact ⟨reaches_of_mem_allInterfaces, mem_allInterfaces_of_reaches hid⟩
  · exact List.Nodup.of_map _ c.allInterfaces_nodup

/-- Two interfaces that extend a third one, and a class that implements the first of them twice. -/
def rankedInterface : Class := ⟨0, "Ranked", none, [], true, [], [], []⟩
def scoredInterface : Class := ⟨1, "Scored", none, [rankedInterface], true, [], [], []⟩
def ratedInterface : Class := ⟨2, "Rated", none, [rankedInterface], true, [], [], []⟩
def filmClass : Class :=
  ⟨3, "Film", none, [scoredInterface, ratedInterface, scoredInterface], false, [], [], []⟩

theorem filmClass_identified : filmClass.Identified := by
  have hreached : ∀ d, filmClass.Reaches d → d ∈ [scoredInterface, rankedInterface, ratedInterface] := by
    intro d h
    refine h.mem (by simp [filmClass]) ?_
    simp [scoredInterface, ratedInterface, rankedInterface]
  intro d e hd he hsame
  exact List.inj_on_of_nodup_map (f := Class.id) (by decide) (hreached d hd) (hreached e he) hsame

theorem Class.allInterfaces_walked_film :
    filmClass.Identified ∧
      filmClass.allInterfaces = [scoredInterface, rankedInterface, ratedInterface] ∧
      ∀ d, d ∈ [scoredInterface, rankedInterface, ratedInterface] ↔ filmClass.Reaches d := by
  obtain ⟨-, horder, hreached, -⟩ := allInterfaces_walked filmClass filmClass_identified
  have hmet : filmClass.allInterfaces = [scoredInterface, rankedInterface, ratedInterface] := horder.trans rfl
  exact ⟨filmClass_identified, hmet, hmet ▸ hreached⟩

end ObjectConstraints
