import Mathlib

set_option autoImplicit true

/-- A loop whose round either leaves it with a result or hands a state to the next round; `none`
when it has not ended within the given number of rounds. -/
def Loop {σ ρ : Type} (round : σ → ρ ⊕ σ) : Nat → σ → Option ρ
  | 0, _ => none
  | n + 1, s =>
    match round s with
    | .inl r => some r
    | .inr s' => Loop round n s'

namespace Loop

variable {σ ρ : Type} {round : σ → ρ ⊕ σ} {s s' : σ} {r r' : ρ} {n m : Nat}

/-- The round of `while (test) body`. -/
def whileRound (test : σ → Bool) (body : σ → σ) (s : σ) : σ ⊕ σ :=
  if test s then .inr (body s) else .inl s

theorem leave (h : round s = .inl r) (n : Nat) : Loop round (n + 1) s = some r := by
  rw [Loop, h]

theorem again (h : round s = .inr s') (n : Nat) : Loop round (n + 1) s = Loop round n s' := by
  rw [Loop, h]

/-- More rounds than enough change nothing. -/
theorem mono (h : Loop round n s = some r) (hnm : n ≤ m) : Loop round m s = some r := by
  induction n generalizing s m with
  | zero => cases h
  | succ n ih =>
    obtain ⟨m, rfl⟩ : ∃ k, m = k + 1 := ⟨m - 1, by omega⟩
    cases hround : round s with
    | inl r' =>
      rw [leave hround] at h
      rw [leave hround, h]
    | inr s' =>
      rw [again hround] at h
      rw [again hround]
      exact ih h (Nat.le_of_succ_le_succ hnm)

theorem unique (h : Loop round n s = some r) (h' : Loop round m s = some r') : r = r' := by
  obtain hle | hle := Nat.le_total n m
  · have hm := mono h hle
    rw [h'] at hm
    exact (Option.some.inj hm).symm
  · have hn := mono h' hle
    rw [h] at hn
    exact Option.some.inj hn

/-- A loop ends, with what its invariant promises, when every round that does not leave it brings a
measure down. -/
theorem total {I : σ → Prop} {Q : ρ → Prop} (measure : σ → Nat)
    (hround : ∀ s, I s → match round s with
      | .inl r => Q r
      | .inr s' => I s' ∧ measure s' < measure s)
    (hn : measure s < n) (hs : I s) : ∃ r, Loop round n s = some r ∧ Q r := by
  induction n generalizing s with
  | zero => exact absurd hn (Nat.not_lt_zero _)
  | succ n ih =>
    have h := hround s hs
    cases hr : round s with
    | inl r =>
      rw [hr] at h
      exact ⟨r, leave hr n, h⟩
    | inr s' =>
      rw [hr] at h
      rw [again hr]
      exact ih (Nat.lt_of_lt_of_le h.2 (Nat.le_of_lt_succ hn)) h.1

/-- What the rounds keep holds of the result of a loop that ends. -/
theorem result {I : σ → Prop} {Q : ρ → Prop} (hround : ∀ s, I s → match round s with
      | .inl r => Q r
      | .inr s' => I s')
    (h : Loop round n s = some r) (hs : I s) : Q r := by
  induction n generalizing s with
  | zero => cases h
  | succ n ih =>
    have hone := hround s hs
    cases hr : round s with
    | inl r' =>
      rw [hr] at hone
      rw [leave hr] at h
      cases h
      exact hone
    | inr s' =>
      rw [hr] at hone
      rw [again hr] at h
      exact ih h hone

/-- A loop that stays among states whose rounds do not leave it never ends. -/
theorem diverges {I : σ → Prop} (hround : ∀ s, I s → ∃ s', round s = .inr s' ∧ I s')
    (hs : I s) (n : Nat) : Loop round n s = none := by
  induction n generalizing s with
  | zero => rfl
  | succ n ih =>
    obtain ⟨s', hr, hs'⟩ := hround s hs
    rw [again hr]
    exact ih hs'

end Loop
