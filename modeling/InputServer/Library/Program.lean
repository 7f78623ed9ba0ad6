import Mathlib

set_option autoImplicit true

/-- Computations over a state `σ` that may stop with a fault of type `ε`. -/
abbrev Program (ε σ : Type) := StateT σ (Except ε)

namespace Program

variable {ε σ τ α β : Type}

theorem pure_apply (a : α) (s : σ) : (pure a : Program ε σ α) s = .ok (a, s) := rfl

theorem bind_apply (m : Program ε σ α) (k : α → Program ε σ β) (s : σ) :
    (m >>= k) s = (m s).bind fun r => k r.1 r.2 := rfl

theorem get_apply (s : σ) : (get : Program ε σ σ) s = .ok (s, s) := rfl

theorem set_apply (t s : σ) : (set t : Program ε σ PUnit) s = .ok (⟨⟩, t) := rfl

theorem modify_apply (f : σ → σ) (s : σ) :
    (modify f : Program ε σ PUnit) s = .ok (⟨⟩, f s) := rfl

theorem throw_apply (e : ε) (s : σ) : (throw e : Program ε σ α) s = .error e := rfl

theorem bind_ok {m : Program ε σ α} {k : α → Program ε σ β} {s : σ} (h : m s = .ok (a, s')) :
    (m >>= k) s = k a s' := by
  rw [bind_apply, h]
  rfl

theorem run_bind {m : Program ε σ α} {k : α → Program ε σ β} (h : (m >>= k) s = .ok (b, s'')) :
    ∃ a s', m s = .ok (a, s') ∧ k a s' = .ok (b, s'') := by
  cases hm : m s with
  | error e =>
    rw [bind_apply, hm] at h
    cases h
  | ok r =>
    obtain ⟨a, s'⟩ := r
    rw [bind_ok hm] at h
    exact ⟨a, s', rfl, h⟩

theorem returns_of_map {x : Except ε α} {f : α → β} (h : x.toOption.map f = some b) :
    ∃ a, x = .ok a ∧ f a = b := by
  cases x with
  | error e => cases h
  | ok a => exact ⟨a, rfl, Option.some.inj h⟩

/-- Partial correctness: where `m` returns from `s`, it returns a pair that satisfies `Q`. -/
def wlp (m : Program ε σ α) (Q : α → σ → Prop) (s : σ) : Prop :=
  ∀ a s', m s = .ok (a, s') → Q a s'

/-- Total correctness: `m` returns from `s`, with a pair that satisfies `Q`. -/
def wp (m : Program ε σ α) (Q : α → σ → Prop) (s : σ) : Prop :=
  ∃ a s', m s = .ok (a, s') ∧ Q a s'

theorem wp.wlp {m : Program ε σ α} {Q : α → σ → Prop} {s : σ} (h : wp m Q s) : wlp m Q s := by
  intro a s' hm
  obtain ⟨b, t, hb, hQ⟩ := h
  rw [hb] at hm
  cases hm
  exact hQ

theorem wlp_mono {m : Program ε σ α} {Q Q' : α → σ → Prop} {s : σ} (h : wlp m Q s)
    (hQ : ∀ a s', Q a s' → Q' a s') : wlp m Q' s :=
  fun a s' hm => hQ a s' (h a s' hm)

theorem wp_mono {m : Program ε σ α} {Q Q' : α → σ → Prop} {s : σ} (h : wp m Q s)
    (hQ : ∀ a s', Q a s' → Q' a s') : wp m Q' s := by
  obtain ⟨a, s', hm, h⟩ := h
  exact ⟨a, s', hm, hQ a s' h⟩

theorem wlp.and_returns {m : Program ε σ α} {Q Q' : α → σ → Prop} {s : σ} (h : wlp m Q s)
    (hm : wp m Q' s) : wp m Q s := by
  obtain ⟨a, s', hrun, _⟩ := hm
  exact ⟨a, s', hrun, h a s' hrun⟩

@[simp] theorem wlp_pure (a : α) (Q : α → σ → Prop) (s : σ) :
    wlp (pure a : Program ε σ α) Q s ↔ Q a s := by
  constructor
  · intro h
    exact h a s rfl
  · intro h b s' hb
    cases hb
    exact h

@[simp] theorem wp_pure (a : α) (Q : α → σ → Prop) (s : σ) :
    wp (pure a : Program ε σ α) Q s ↔ Q a s := by
  constructor
  · rintro ⟨b, s', hb, h⟩
    cases hb
    exact h
  · intro h
    exact ⟨a, s, rfl, h⟩

@[simp] theorem wlp_bind (m : Program ε σ α) (k : α → Program ε σ β) (Q : β → σ → Prop) (s : σ) :
    wlp (m >>= k) Q s ↔ wlp m (fun a s' => wlp (k a) Q s') s := by
  constructor
  · intro h a s' hm b t hk
    exact h b t (by rw [bind_ok hm]; exact hk)
  · intro h b t hb
    cases hm : m s with
    | error e =>
      rw [bind_apply, hm] at hb
      cases hb
    | ok r =>
      obtain ⟨a, s'⟩ := r
      rw [bind_ok hm] at hb
      exact h a s' hm b t hb

@[simp] theorem wp_bind (m : Program ε σ α) (k : α → Program ε σ β) (Q : β → σ → Prop) (s : σ) :
    wp (m >>= k) Q s ↔ wp m (fun a s' => wp (k a) Q s') s := by
  constructor
  · rintro ⟨b, t, hb, hQ⟩
    cases hm : m s with
    | error e =>
      rw [bind_apply, hm] at hb
      cases hb
    | ok r =>
      obtain ⟨a, s'⟩ := r
      rw [bind_ok hm] at hb
      exact ⟨a, s', hm, b, t, hb, hQ⟩
  · rintro ⟨a, s', hm, b, t, hk, hQ⟩
    exact ⟨b, t, by rw [bind_ok hm]; exact hk, hQ⟩

@[simp] theorem wlp_get (Q : σ → σ → Prop) (s : σ) :
    wlp (get : Program ε σ σ) Q s ↔ Q s s := wlp_pure s Q s

@[simp] theorem wp_get (Q : σ → σ → Prop) (s : σ) :
    wp (get : Program ε σ σ) Q s ↔ Q s s := wp_pure s Q s

@[simp] theorem wlp_set (t : σ) (Q : PUnit → σ → Prop) (s : σ) :
    wlp (set t : Program ε σ PUnit) Q s ↔ Q ⟨⟩ t := by
  constructor
  · intro h
    exact h ⟨⟩ t rfl
  · intro h b s' hb
    cases hb
    exact h

@[simp] theorem wp_set (t : σ) (Q : PUnit → σ → Prop) (s : σ) :
    wp (set t : Program ε σ PUnit) Q s ↔ Q ⟨⟩ t := by
  constructor
  · rintro ⟨b, s', hb, h⟩
    cases hb
    exact h
  · intro h
    exact ⟨⟨⟩, t, rfl, h⟩

@[simp] theorem wlp_modify (f : σ → σ) (Q : PUnit → σ → Prop) (s : σ) :
    wlp (modify f : Program ε σ PUnit) Q s ↔ Q ⟨⟩ (f s) := by
  constructor
  · intro h
    exact h ⟨⟩ (f s) rfl
  · intro h b s' hb
    cases hb
    exact h

@[simp] theorem wp_modify (f : σ → σ) (Q : PUnit → σ → Prop) (s : σ) :
    wp (modify f : Program ε σ PUnit) Q s ↔ Q ⟨⟩ (f s) := by
  constructor
  · rintro ⟨b, s', hb, h⟩
    cases hb
    exact h
  · intro h
    exact ⟨⟨⟩, f s, rfl, h⟩

@[simp] theorem wlp_throw (e : ε) (Q : α → σ → Prop) (s : σ) :
    wlp (throw e : Program ε σ α) Q s := by
  intro a s' h
  cases h

theorem wlp_ite {p : Prop} [Decidable p] {m m' : Program ε σ α} {Q : α → σ → Prop} {s : σ}
    (ht : p → wlp m Q s) (hf : ¬p → wlp m' Q s) : wlp (if p then m else m') Q s := by
  by_cases hp : p
  · simpa only [if_pos hp] using ht hp
  · simpa only [if_neg hp] using hf hp

theorem wp_ite {p : Prop} [Decidable p] {m m' : Program ε σ α} {Q : α → σ → Prop} {s : σ}
    (ht : p → wp m Q s) (hf : ¬p → wp m' Q s) : wp (if p then m else m') Q s := by
  by_cases hp : p
  · simpa only [if_pos hp] using ht hp
  · simpa only [if_neg hp] using hf hp

/-- `m` run on a component of the state. -/
def zoom (get : τ → σ) (put : σ → τ → τ) (m : Program ε σ α) : Program ε τ α := fun t =>
  match m (get t) with
  | .ok (a, s) => .ok (a, put s t)
  | .error e => .error e

@[simp] theorem wlp_zoom (get : τ → σ) (put : σ → τ → τ) (m : Program ε σ α)
    (Q : α → τ → Prop) (t : τ) :
    wlp (zoom get put m) Q t ↔ wlp m (fun a s => Q a (put s t)) (get t) := by
  constructor
  · intro h a s hm
    apply h a
    rw [zoom, hm]
  · intro h a t' ht
    unfold zoom at ht
    cases hm : m (get t) with
    | error e =>
      rw [hm] at ht
      cases ht
    | ok r =>
      rw [hm] at ht
      cases ht
      exact h _ _ hm

theorem zoom_ok {get : τ → σ} {put : σ → τ → τ} {m : Program ε σ α} {t : τ}
    (h : zoom get put m t = .ok (a, t')) : ∃ s, m (get t) = .ok (a, s) ∧ t' = put s t := by
  unfold zoom at h
  cases hm : m (get t) with
  | error e =>
    rw [hm] at h
    cases h
  | ok r =>
    rw [hm] at h
    cases h
    exact ⟨r.2, rfl, rfl⟩

/-- From `s`, `m` keeps the invariant `I`, moves along `R` and returns what satisfies `P`. -/
def Yields (I : σ → Prop) (R : σ → σ → Prop) (P : α → σ → Prop) (m : Program ε σ α) (s : σ) : Prop :=
  I s → wlp m (fun a s' => I s' ∧ R s s' ∧ P a s') s

/-- From `s`, `m` keeps the invariant `I` and moves along `R`. -/
abbrev Moves (I : σ → Prop) (R : σ → σ → Prop) (m : Program ε σ α) (s : σ) : Prop :=
  Yields I R (fun _ _ => True) m s

variable {I : σ → Prop} {R : σ → σ → Prop} {P : α → σ → Prop} {Q : β → σ → Prop} {s : σ}

theorem yields_pure [IsPreorder σ R] (a : α) (h : I s → P a s) :
    Yields I R P (pure a : Program ε σ α) s := by
  intro hI
  exact (wlp_pure a _ s).mpr ⟨hI, refl s, h hI⟩

theorem moves_pure [IsPreorder σ R] (a : α) : Moves I R (pure a : Program ε σ α) s :=
  yields_pure a fun _ => trivial

theorem yields_throw (e : ε) : Yields I R P (throw e : Program ε σ α) s :=
  fun _ => wlp_throw e _ s

theorem yields_modify {P : PUnit → σ → Prop} {f : σ → σ}
    (h : I s → I (f s) ∧ R s (f s) ∧ P ⟨⟩ (f s)) :
    Yields I R P (modify f : Program ε σ PUnit) s :=
  fun hI => (wlp_modify f _ s).mpr (h hI)

theorem moves_modify {f : σ → σ} (h : I s → I (f s) ∧ R s (f s)) :
    Moves I R (modify f : Program ε σ PUnit) s :=
  yields_modify fun hI => ⟨(h hI).1, (h hI).2, trivial⟩

theorem yields_get {k : σ → Program ε σ β} (hk : I s → Yields I R Q (k s) s) :
    Yields I R Q (get >>= k : Program ε σ β) s := by
  intro hI
  rw [wlp_bind, wlp_get]
  exact hk hI hI

theorem yields_ite {p : Prop} [Decidable p] {m m' : Program ε σ α} (ht : p → Yields I R P m s)
    (hf : ¬p → Yields I R P m' s) : Yields I R P (if p then m else m') s :=
  fun hI => wlp_ite (fun hp => ht hp hI) (fun hp => hf hp hI)

/-- What is known of the result of the first part may be used in the second. -/
theorem yields_bind_of [IsPreorder σ R] {m : Program ε σ α} {k : α → Program ε σ β}
    (hm : Yields I R P m s) (hk : ∀ a s', I s' → R s s' → P a s' → Yields I R Q (k a) s') :
    Yields I R Q (m >>= k) s := by
  intro hI
  rw [wlp_bind]
  refine wlp_mono (hm hI) ?_
  intro a s' h
  refine wlp_mono (hk a s' h.1 h.2.1 h.2.2 h.1) ?_
  intro b s'' h'
  exact ⟨h'.1, IsTrans.trans s s' s'' h.2.1 h'.2.1, h'.2.2⟩

theorem yields_bind [IsPreorder σ R] {m : Program ε σ α} {k : α → Program ε σ β}
    (hm : Moves I R m s) (hk : ∀ a s', I s' → R s s' → Yields I R Q (k a) s') :
    Yields I R Q (m >>= k) s :=
  yields_bind_of hm fun a s' hI hR _ => hk a s' hI hR

theorem Yields.mono {P' : α → σ → Prop} {m : Program ε σ α} (h : Yields I R P m s)
    (hP : ∀ a s', I s' → R s s' → P a s' → P' a s') : Yields I R P' m s := by
  intro hI
  refine wlp_mono (h hI) ?_
  intro a s' h
  exact ⟨h.1, h.2.1, hP a s' h.1 h.2.1 h.2.2⟩

theorem Yields.moves {m : Program ε σ α} (h : Yields I R P m s) : Moves I R m s :=
  h.mono fun _ _ _ _ _ => trivial

/-- What a program is known to return may be added to what it keeps. -/
theorem Yields.of_moves {m : Program ε σ α} (h : Moves I R m s) (hP : wlp m P s) :
    Yields I R P m s := by
  intro hI a s' hrun
  have hmoved := h hI a s' hrun
  exact ⟨hmoved.1, hmoved.2.1, hP a s' hrun⟩

theorem moves_discard [IsPreorder σ R] {m : Program ε σ α} (h : Moves I R m s) :
    Moves I R (discard m) s :=
  yields_bind h fun _ _ _ _ => moves_pure _

/-- The invariant and the relation may be replaced by others that agree from `s` on. -/
theorem Yields.imp {I' : σ → Prop} {R' : σ → σ → Prop} {m : Program ε σ α} (h : Yields I R P m s)
    (hI : I' s → I s) (hR : ∀ s', I' s → I s' → R s s' → I' s' ∧ R' s s') :
    Yields I' R' P m s := by
  intro hs
  refine wlp_mono (h (hI hs)) ?_
  intro a s' h
  have h' := hR s' hs h.1 h.2.1
  exact ⟨h'.1, h'.2, h.2.2⟩

/-- `m` returns wherever the invariant `I` holds, and keeps it. -/
def Total (I : σ → Prop) (m : Program ε σ α) : Prop :=
  ∀ s, I s → wp m (fun _ => I) s

theorem total_pure (a : α) : Total I (pure a : Program ε σ α) :=
  fun s hI => (wp_pure a _ s).mpr hI

theorem total_modify {f : σ → σ} (h : ∀ s, I s → I (f s)) :
    Total I (modify f : Program ε σ PUnit) :=
  fun s hI => (wp_modify f _ s).mpr (h s hI)

theorem total_bind {m : Program ε σ α} {k : α → Program ε σ β} (hm : Total I m)
    (hk : ∀ a, Total I (k a)) : Total I (m >>= k) := by
  intro s hI
  rw [wp_bind]
  exact wp_mono (hm s hI) fun a s' => hk a s'

theorem total_get {k : σ → Program ε σ β} (hk : ∀ s, I s → wp (k s) (fun _ => I) s) :
    Total I (get >>= k : Program ε σ β) := by
  intro s hI
  rw [wp_bind, wp_get]
  exact hk s hI

theorem total_ite {p : Prop} [Decidable p] {m m' : Program ε σ α} (ht : Total I m)
    (hf : Total I m') : Total I (if p then m else m') :=
  fun s hI => wp_ite (fun _ => ht s hI) (fun _ => hf s hI)

theorem total_discard {m : Program ε σ α} (h : Total I m) : Total I (discard m) :=
  total_bind h fun _ => total_pure _

end Program
