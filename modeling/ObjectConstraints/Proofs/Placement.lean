import ObjectConstraints.Proofs.ObjectGraph

/-!
# Where violations stand

Whatever checks lead to, what they report stands at the member that they are applied for
(`applyAll_stands`): at its value, or at a position in the container that it holds.
-/

namespace ObjectConstraints

open Traversal

/-- Whether all that a run reports, if it completes, is of a kind. -/
def Reporting (P : Violation → Prop) (m : Run (List Violation)) : Prop :=
  ∀ s violations s', m.exec s = (.ok violations, s') → ∀ w ∈ violations, P w

namespace Reporting

variable {P : Violation → Prop} {m m' : Run (List Violation)}

theorem mono {Q : Violation → Prop} (h : Reporting P m) (hPQ : ∀ w, P w → Q w) : Reporting Q m :=
  fun s violations s' hexec w hw => hPQ w (h s violations s' hexec w hw)

theorem pure_nil : Reporting P (pure []) := by
  intro s violations s' hexec
  cases hexec
  simp

theorem stop (stop : Stop) : Reporting P (throw stop) := by
  intro s violations s' hexec
  cases hexec

theorem bind {α : Type} {m : Run α} {f : α → Run (List Violation)} {R : α → Prop}
    (hm : ∀ s a t, m.exec s = (.ok a, t) → R a) (hf : ∀ a, R a → Reporting P (f a)) :
    Reporting P (m >>= f) := by
  intro s violations s' hexec
  obtain ⟨a, t, hstep, hexec⟩ := Run.exec_bind_ok.mp hexec
  exact hf a (hm s a t hstep) t violations s' hexec

theorem after {α : Type} {m : Run α} {f : α → Run (List Violation)}
    (hf : ∀ a, Reporting P (f a)) : Reporting P (m >>= f) :=
  bind (R := fun _ => True) (fun _ _ _ _ => trivial) fun a _ => hf a

theorem append (h : Reporting P m) (h' : Reporting P m') :
    Reporting P (do
      let front ← m
      let back ← m'
      pure (front ++ back)) := by
  intro s violations s'' hexec w hw
  obtain ⟨front, s', back, hfront, hback, rfl⟩ := Run.exec_append_ok hexec
  exact (List.mem_append.mp hw).elim (h s front s' hfront w) (h' s' back _ hback w)

theorem gather {α : Type} {step : α → Run (List Violation)} {l : List α}
    (h : ∀ a ∈ l, Reporting P (step a)) : Reporting P (Run.gather step l) :=
  Run.gather_induction pure_nil (fun _ _ => append) h

/-- A check that is evaluated at a site reports nothing but its own violation there. -/
theorem single {env : Environment} {check : Check} {site : Site} {causes : List Violation}
    {absent : Bool} (h : P (violation env check site causes)) :
    Reporting P (pure (if absent then [] else [violation env check site causes])) := by
  intro s violations s' hexec w hw
  cases hexec
  cases absent with
  | true => cases hw
  | false =>
    cases List.mem_singleton.mp hw
    exact h

end Reporting

/-- Whether a violation stands at a member, or at a position in the container that the member holds. -/
def Violation.StandsAt (root : Context) (violation : Violation) : Prop := violation.context.root = root

section

variable {env : Environment} {nested : Nested}

section

variable (hn : ∀ checks site, Reporting (Violation.StandsAt site.context.root) (nested.apply checks site))
include hn

theorem evaluate_stands (check : Check) (site : Site) :
    Reporting (Violation.StandsAt site.context.root) (evaluate env nested check site) := by
  unfold evaluate
  split
  · unfold cascade
    split
    · refine .after fun entered => ?_
      cases entered with
      | true => exact .pure_nil
      | false => exact .after fun causes => .single rfl
    · exact .pure_nil
  · exact .after fun found => hn found.checks site
  · exact .after fun checks => hn checks site
  · exact .after fun _ => .after fun satisfied => .single rfl

theorem applyAll_stands (checks : List Check) (site : Site) :
    Reporting (Violation.StandsAt site.context.root) (applyAll env nested checks site) := by
  refine .gather fun check _ => ?_
  rw [applyCheck_eq, ← bind_assoc]
  refine .bind (R := fun sites => ∀ p ∈ sites, p.context.root = site.context.root)
    (fun s sites t h p hp => ?_) fun sites hsites => .gather fun p hp => ?_
  · rw [Run.exec_bind_of_ok _ (Run.exec_get s), Run.exec_lift_ok] at h
    exact (outlook_place h.1 p hp).2
  · exact hsites p hp ▸ evaluate_stands hn check p

end

theorem ofDepth_stands (env : Environment) (depth : Nat) (checks : List Check) (site : Site) :
    Reporting (Violation.StandsAt site.context.root) ((Nested.ofDepth env depth).apply checks site) := by
  induction depth generalizing checks site with
  | zero => exact .stop _
  | succ depth ih => exact applyAll_stands ih checks site

end

end ObjectConstraints
