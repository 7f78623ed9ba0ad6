import InputServer.Library.Program

set_option autoImplicit true

/-- How two runs of a program are compared: the states that are alike, how each run may go on, and
what tells that a run set the two apart. -/
structure Comparison (σ : Type) where
  Alike : σ → σ → Prop
  Onward : σ → σ → Prop
  Apart : σ → σ → Prop
  alike_refl : ∀ s, Alike s s
  onward_refl : ∀ s, Onward s s
  onward_trans : ∀ s s' s'', Onward s s' → Onward s' s'' → Onward s s''
  apart_before : ∀ s s' s'', Onward s s' → Apart s' s'' → Apart s s''
  apart_after : ∀ s s' s'', Apart s s' → Onward s' s'' → Apart s s''

namespace Program

variable {ε σ α β : Type} {C : Comparison σ}

/-- Two runs from alike states go on alike, with the same result, unless one sets them apart. -/
def Agrees (C : Comparison σ) (m : Program ε σ α) : Prop :=
  ∀ s t a s' b t', C.Alike s t → m s = .ok (a, s') → m t = .ok (b, t') →
    C.Onward s s' ∧ C.Onward t t' ∧ (C.Apart s s' ∨ C.Apart t t' ∨ (a = b ∧ C.Alike s' t'))

theorem Agrees.onward {m : Program ε σ α} (h : Agrees C m) (hrun : m s = .ok (a, s')) :
    C.Onward s s' :=
  (h s s a s' a s' (C.alike_refl s) hrun hrun).1

theorem agrees_pure (a : α) : Agrees C (pure a : Program ε σ α) := by
  intro s t b s' c t' halike hs ht
  cases hs
  cases ht
  exact ⟨C.onward_refl s, C.onward_refl t, .inr (.inr ⟨rfl, halike⟩)⟩

theorem agrees_throw (e : ε) : Agrees C (throw e : Program ε σ α) := by
  intro s t a s' b t' _ hs
  cases hs

theorem agrees_modify {f : σ → σ} (honward : ∀ s, C.Onward s (f s))
    (halike : ∀ s t, C.Alike s t → C.Alike (f s) (f t)) :
    Agrees C (modify f : Program ε σ PUnit) := by
  intro s t a s' b t' h hs ht
  cases hs
  cases ht
  exact ⟨honward s, honward t, .inr (.inr ⟨rfl, halike s t h⟩)⟩

theorem agrees_bind {m : Program ε σ α} {k : α → Program ε σ β} (hm : Agrees C m)
    (hk : ∀ a, Agrees C (k a)) : Agrees C (m >>= k) := by
  intro s t a s'' b t'' halike hs ht
  obtain ⟨c, s', hms, hks⟩ := run_bind hs
  obtain ⟨d, t', hmt, hkt⟩ := run_bind ht
  obtain ⟨hos, hot, hfirst⟩ := hm s t c s' d t' halike hms hmt
  have hos' := (hk c).onward hks
  have hot' := (hk d).onward hkt
  refine ⟨C.onward_trans s s' s'' hos hos', C.onward_trans t t' t'' hot hot', ?_⟩
  obtain hapart | hapart | ⟨hcd, halike'⟩ := hfirst
  · exact .inl (C.apart_after s s' s'' hapart hos')
  · exact .inr (.inl (C.apart_after t t' t'' hapart hot'))
  · rw [← hcd] at hkt
    obtain ⟨_, _, hsecond⟩ := hk c s' t' a s'' b t'' halike' hks hkt
    obtain hapart | hapart | hsame := hsecond
    · exact .inl (C.apart_before s s' s'' hos hapart)
    · exact .inr (.inl (C.apart_before t t' t'' hot hapart))
    · exact .inr (.inr hsame)

/-- What is read of the state may only be what alike states have in common. -/
theorem agrees_get {k : σ → Program ε σ β} (hsame : ∀ s t, C.Alike s t → k t = k s)
    (hk : ∀ s, Agrees C (k s)) : Agrees C (get >>= k : Program ε σ β) := by
  intro s t a s' b t' halike hs ht
  rw [bind_ok (get_apply s)] at hs
  rw [bind_ok (get_apply t), hsame s t halike] at ht
  exact hk s s t a s' b t' halike hs ht

theorem agrees_ite {p : Prop} [Decidable p] {m m' : Program ε σ α} (ht : p → Agrees C m)
    (hf : ¬p → Agrees C m') : Agrees C (if p then m else m') := by
  by_cases hp : p
  · rw [if_pos hp]
    exact ht hp
  · rw [if_neg hp]
    exact hf hp

end Program
