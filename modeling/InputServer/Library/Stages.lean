import Mathlib

set_option autoImplicit true

/-- A history that ends with the first stages of a plan, in their order, and with nothing after each
of them but what may pass there. -/
inductive Staged {α : Type} (stage passes : Nat → α → Prop) : Nat → List α → Prop where
  | start (past) : Staged stage passes 0 past
  | reach : Staged stage passes k past → stage k a → Staged stage passes (k + 1) (past ++ [a])
  | pass : Staged stage passes (k + 1) past → passes k a →
      Staged stage passes (k + 1) (past ++ [a])

namespace Staged

variable {α : Type} {stage passes : Nat → α → Prop}

/-- The last stage, and what has passed since. -/
theorem split (h : Staged stage passes (k + 1) past) : ∃ older a later,
    past = older ++ a :: later ∧ Staged stage passes k older ∧ stage k a ∧
      ∀ b ∈ later, passes k b := by
  generalize hn : k + 1 = n at h
  induction h with
  | start => exact absurd hn (Nat.succ_ne_zero k)
  | @reach n older a hbefore hstage =>
    cases hn
    exact ⟨older, a, [], rfl, hbefore, hstage, fun b hb => absurd hb List.not_mem_nil⟩
  | @pass n past b hbefore hpass ih =>
    cases hn
    obtain ⟨older, a, later, hpast, holder, hstage, hlater⟩ := ih rfl
    refine ⟨older, a, later ++ [b], ?_, holder, hstage, ?_⟩
    · rw [hpast, List.append_assoc, List.cons_append]
    · intro c hc
      obtain hc | hc := List.mem_append.1 hc
      · exact hlater c hc
      · rw [List.mem_singleton.1 hc]
        exact hpass

end Staged
