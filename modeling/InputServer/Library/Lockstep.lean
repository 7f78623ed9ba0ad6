import InputServer.Library.Program

set_option autoImplicit true

namespace Program

variable {ε σ α β : Type} {R : σ → σ → Prop}

/-- Two runs end alike: with one result and related states, or with one error. -/
inductive EndsAlike (R : σ → σ → Prop) : Except ε (α × σ) → Except ε (α × σ) → Prop where
  | ok (a : α) (h : R s t) : EndsAlike R (.ok (a, s)) (.ok (a, t))
  | error (e : ε) : EndsAlike R (.error e) (.error e)

/-- From related states, two runs of `m` end alike. -/
def Lockstep (R : σ → σ → Prop) (m : Program ε σ α) : Prop :=
  ∀ s t, R s t → EndsAlike R (m s) (m t)

theorem lockstep_pure (a : α) : Lockstep R (pure a : Program ε σ α) :=
  fun _ _ h => .ok a h

theorem lockstep_throw (e : ε) : Lockstep R (throw e : Program ε σ α) :=
  fun _ _ _ => .error e

theorem lockstep_modify {f : σ → σ} (h : ∀ s t, R s t → R (f s) (f t)) :
    Lockstep R (modify f : Program ε σ PUnit) :=
  fun s t hst => .ok _ (h s t hst)

theorem lockstep_bind {m : Program ε σ α} {k : α → Program ε σ β} (hm : Lockstep R m)
    (hk : ∀ a, Lockstep R (k a)) : Lockstep R (m >>= k) := by
  intro s t hst
  rw [bind_apply, bind_apply]
  generalize hms : m s = x
  generalize hmt : m t = y
  have hends := hm s t hst
  rw [hms, hmt] at hends
  cases hends with
  | ok a h => exact hk a _ _ h
  | error e => exact .error e

/-- What is read of the state may only be what related states have in common. -/
theorem lockstep_get {k : σ → Program ε σ β} (hsame : ∀ s t, R s t → k t = k s)
    (hk : ∀ s, Lockstep R (k s)) : Lockstep R (get >>= k : Program ε σ β) := by
  intro s t hst
  rw [bind_ok (get_apply s), bind_ok (get_apply t), hsame s t hst]
  exact hk s s t hst

theorem lockstep_ite {p : Prop} [Decidable p] {m m' : Program ε σ α} (ht : Lockstep R m)
    (hf : Lockstep R m') : Lockstep R (if p then m else m') := by
  by_cases hp : p
  · rw [if_pos hp]
    exact ht
  · rw [if_neg hp]
    exact hf

theorem lockstep_discard {m : Program ε σ α} (h : Lockstep R m) : Lockstep R (discard m) :=
  lockstep_bind h fun _ => lockstep_pure _

end Program
