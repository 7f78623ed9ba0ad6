import Mathlib

set_option autoImplicit true

/-- The runs of a labelled step relation from `s₀`, with the labels of the steps taken. -/
inductive Run {ι σ : Type} (step : ι → σ → σ → Prop) (s₀ : σ) : List ι → σ → Prop where
  | nil : Run step s₀ [] s₀
  | snoc : Run step s₀ ls s → step l s s' → Run step s₀ (ls ++ [l]) s'

namespace Run

variable {ι σ : Type} {step step' : ι → σ → σ → Prop} {s₀ : σ}

/-- What holds at the start and is kept by every step holds in every state reached. -/
theorem invariant {I : List ι → σ → Prop} (h : Run step s₀ ls s) (h₀ : I [] s₀)
    (hstep : ∀ ls l s s', I ls s → step l s s' → I (ls ++ [l]) s') : I ls s := by
  induction h with
  | nil => exact h₀
  | snoc hrun hs ih => exact hstep _ _ _ _ ih hs

theorem cons (hs : step l s₀ s₁) (h : Run step s₁ ls s) : Run step s₀ (l :: ls) s := by
  induction h with
  | nil => exact .snoc .nil hs
  | snoc hrun hlast ih => exact .snoc ih hlast

theorem mono (h : Run step s₀ ls s) (hstep : ∀ l s s', step l s s' → step' l s s') :
    Run step' s₀ ls s := by
  induction h with
  | nil => exact .nil
  | snoc hrun hs ih => exact .snoc ih (hstep _ _ _ hs)

/-- A run whose labels are all of one kind. -/
theorem of_map {κ : Type} {f : κ → ι} {ks : List κ} (h : Run step s₀ (ks.map f) s) :
    Run (fun k => step (f k)) s₀ ks s := by
  generalize hls : ks.map f = ls at h
  induction h generalizing ks with
  | nil =>
    rw [List.map_eq_nil_iff.1 hls]
    exact .nil
  | snoc hrun hlast ih =>
    obtain ⟨before, last, hks, hbefore, hone⟩ := List.map_eq_append_iff.1 hls
    obtain ⟨k, rfl, hk⟩ := List.map_eq_singleton_iff.1 hone
    rw [hks]
    apply (ih hbefore).snoc
    rw [hk]
    exact hlast

/-- A run whose labels all meet a condition. -/
theorem and_of_mem {C : ι → σ → Prop} (h : Run step s₀ ls s) (hC : ∀ l ∈ ls, ∀ s, C l s) :
    Run (fun l s s' => step l s s' ∧ C l s) s₀ ls s := by
  induction h with
  | nil => exact .nil
  | snoc hrun hlast ih =>
    have hinit := ih fun l hl => hC l (List.mem_append_left _ hl)
    exact hinit.snoc ⟨hlast, hC _ List.mem_concat_self _⟩

/-- A run whose steps all meet a condition. -/
theorem and_iff {I P : σ → Prop} {C : ι → σ → Prop} (h₀ : I s₀) (hP₀ : P s₀)
    (hI : ∀ l s s', I s → step l s s' → I s')
    (hP : ∀ l s s', I s → step l s s' → (P s' ↔ P s ∧ C l s)) :
    P s ∧ Run step s₀ ls s ↔ Run (fun l s s' => step l s s' ∧ C l s) s₀ ls s := by
  have hkept {ls : List ι} {s : σ} (h : Run step s₀ ls s) : I s :=
    h.invariant (I := fun _ s => I s) h₀ fun _ l s s' => hI l s s'
  constructor
  · rintro ⟨hs, h⟩
    induction h with
    | nil => exact .nil
    | snoc hrun hlast ih =>
      obtain ⟨hbefore, hmet⟩ := (hP _ _ _ (hkept hrun) hlast).1 hs
      exact .snoc (ih hbefore) ⟨hlast, hmet⟩
  · intro h
    induction h with
    | nil => exact ⟨hP₀, .nil⟩
    | snoc _ hlast ih =>
      obtain ⟨hbefore, hrun⟩ := ih
      refine ⟨?_, hrun.snoc hlast.1⟩
      exact (hP _ _ _ (hkept hrun) hlast.1).2 ⟨hbefore, hlast.2⟩

/-- The steps of a step function, taken one after the other. -/
theorem foldlM_eq {ε : Type} {f : σ → ι → Except ε σ} (h : Run step s₀ ls s)
    (hstep : ∀ l s s', step l s s' → f s l = .ok s') : ls.foldlM f s₀ = .ok s := by
  induction h with
  | nil => rfl
  | snoc hrun hs ih =>
    have hlast := hstep _ _ _ hs
    rw [List.foldlM_append, ih]
    change ([_].foldlM f _ : Except ε σ) = _
    rw [List.foldlM_cons, hlast]
    rfl

/-- The run of a step function that may fail. -/
theorem of_foldlM {ε : Type} {P : ι → Prop} {f : σ → ι → Except ε σ} (hP : ∀ l ∈ ls, P l)
    (h : ls.foldlM f s₀ = .ok s) : Run (fun l s s' => P l ∧ f s l = .ok s') s₀ ls s := by
  induction ls using List.reverseRecOn generalizing s with
  | nil =>
    cases h
    exact .nil
  | append_singleton ls l ih =>
    rw [List.foldlM_append] at h
    cases hm : ls.foldlM f s₀ with
    | error e =>
      rw [hm] at h
      cases h
    | ok s' =>
      rw [hm] at h
      have hls : ∀ l' ∈ ls, P l' := fun l' hl' => hP l' (List.mem_append_left _ hl')
      refine .snoc (ih hls hm) ⟨hP l List.mem_concat_self, ?_⟩
      have hl : [l].foldlM f s' = .ok s := h
      simpa only [List.foldlM_cons, List.foldlM_nil, bind_pure] using hl

end Run
