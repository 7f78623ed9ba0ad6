import InputServer.Library.Program

set_option autoImplicit true

/-- A program beside a list, which a failure leaves behind too. -/
abbrev Ledger (ε σ κ α : Type) := Program (ε × List κ) (σ × List κ) α

namespace Program

variable {ε σ κ α β : Type}

/-- A program of the state that does not see the list. -/
def beside (m : Program ε σ α) : Ledger ε σ κ α := fun t =>
  match m t.1 with
  | .ok (a, s) => .ok (a, s, t.2)
  | .error e => .error (e, t.2)

/-- An entry at the end of the list. -/
def note (k : κ) : Ledger ε σ κ PUnit :=
  modify fun t => (t.1, t.2 ++ [k])

theorem beside_ok {m : Program ε σ α} {s : σ} {ks : List κ} (h : m s = .ok (a, s')) :
    beside m (s, ks) = .ok (a, s', ks) := by
  unfold beside
  rw [h]

theorem of_beside_ok {m : Program ε σ α} {s : σ} {ks : List κ} (h : beside m (s, ks) = .ok (a, t)) :
    m s = .ok (a, t.1) ∧ t.2 = ks := by
  unfold beside at h
  cases hm : m s with
  | error e =>
    rw [hm] at h
    cases h
  | ok r =>
    rw [hm] at h
    cases h
    exact ⟨rfl, rfl⟩

theorem discard_ok {m : Program ε σ α} {s : σ} (h : m s = .ok (a, s')) :
    (discard m : Program ε σ PUnit) s = .ok (⟨⟩, s') := by
  change (m >>= fun _ => (pure ⟨⟩ : Program ε σ PUnit)) s = _
  rw [bind_ok h]
  rfl

/-- Without its list, `m'` is `m`. -/
def Annotates (m' : Ledger ε σ κ α) (m : Program ε σ α) : Prop :=
  ∀ s ks, ((m' (s, ks)).map fun r => (r.1, r.2.1)).mapError Prod.fst = m s

theorem annotates_beside (m : Program ε σ α) : Annotates (beside m : Ledger ε σ κ α) m := by
  intro s ks
  unfold beside
  cases m s with
  | error e => rfl
  | ok r => rfl

theorem annotates_pure (a : α) : Annotates (pure a : Ledger ε σ κ α) (pure a) :=
  fun _ _ => rfl

theorem annotates_bind {m' : Ledger ε σ κ α} {m : Program ε σ α} {k' : α → Ledger ε σ κ β}
    {k : α → Program ε σ β} (hm : Annotates m' m) (hk : ∀ a, Annotates (k' a) (k a)) :
    Annotates (m' >>= k') (m >>= k) := by
  intro s ks
  rw [bind_apply, bind_apply, ← hm s ks]
  cases m' (s, ks) with
  | error e => rfl
  | ok r =>
    obtain ⟨a, s', ks'⟩ := r
    exact hk a s' ks'

theorem annotates_note {m' : Ledger ε σ κ α} {m : Program ε σ α} (k : κ)
    (hm : Annotates m' m) : Annotates (note k >>= fun _ => m') m :=
  fun s ks => hm s (ks ++ [k])

theorem annotates_ite {p : Prop} [Decidable p] {m' n' : Ledger ε σ κ α} {m n : Program ε σ α}
    (ht : Annotates m' m) (hf : Annotates n' n) :
    Annotates (if p then m' else n') (if p then m else n) := by
  by_cases hp : p
  · rw [if_pos hp, if_pos hp]
    exact ht
  · rw [if_neg hp, if_neg hp]
    exact hf

/-- However `m` ends: a failure leaves a list that satisfies `E`, a return satisfies `Q`. -/
def ends (m : Ledger ε σ κ α) (E : List κ → Prop) (Q : α → σ → List κ → Prop) (s : σ)
    (ks : List κ) : Prop :=
  match m (s, ks) with
  | .ok (a, s', ks') => Q a s' ks'
  | .error (_, ks') => E ks'

section
variable {E : List κ → Prop} {s : σ} {ks : List κ}

theorem ends_pure {Q : α → σ → List κ → Prop} (a : α) (h : Q a s ks) :
    ends (pure a : Ledger ε σ κ α) E Q s ks := h

theorem ends_get {Q : σ → σ → List κ → Prop} (h : Q s s ks) :
    ends (beside get : Ledger ε σ κ σ) E Q s ks := h

theorem ends_note {Q : PUnit → σ → List κ → Prop} (k : κ) (h : Q ⟨⟩ s (ks ++ [k])) :
    ends (note k : Ledger ε σ κ PUnit) E Q s ks := h

/-- What does not see the list fails with the list as it is. -/
theorem ends_beside {Q : α → σ → List κ → Prop} {m : Program ε σ α} (hE : E ks)
    (hm : wlp m (fun a s' => Q a s' ks) s) : ends (beside m) E Q s ks := by
  unfold ends beside
  cases hrun : m s with
  | error e => exact hE
  | ok r => exact hm r.1 r.2 hrun

theorem ends_bind {Q : β → σ → List κ → Prop} {m : Ledger ε σ κ α} {k : α → Ledger ε σ κ β}
    (h : ends m E (fun a s' ks' => ends (k a) E Q s' ks') s ks) :
    ends (m >>= k) E Q s ks := by
  unfold ends at h ⊢
  rw [bind_apply]
  cases hrun : m (s, ks) with
  | error e =>
    rw [hrun] at h
    exact h
  | ok r =>
    rw [hrun] at h
    exact h

theorem ends_mono {Q Q' : α → σ → List κ → Prop} {m : Ledger ε σ κ α} (h : ends m E Q s ks)
    (hQ : ∀ a s' ks', Q a s' ks' → Q' a s' ks') : ends m E Q' s ks := by
  unfold ends at h ⊢
  cases hrun : m (s, ks) with
  | error e =>
    rw [hrun] at h
    exact h
  | ok r =>
    rw [hrun] at h
    exact hQ _ _ _ h

theorem ends_ite {Q : α → σ → List κ → Prop} {p : Prop} [Decidable p] {m m' : Ledger ε σ κ α}
    (ht : p → ends m E Q s ks) (hf : ¬p → ends m' E Q s ks) :
    ends (if p then m else m') E Q s ks := by
  by_cases hp : p
  · rw [if_pos hp]
    exact ht hp
  · rw [if_neg hp]
    exact hf hp

end

end Program
