import InputServer.Library.Program

set_option autoImplicit true

/-- A fault of a program's own code, at a site of it, or one of the code it calls. -/
inductive Blame (κ ε : Type) where
  | own (site : κ)
  | callee (e : ε)

namespace Program

variable {κ ε σ α β : Type}

/-- A call: what goes wrong in it is the callee's. -/
def call (m : Program ε σ α) : Program (Blame κ ε) σ α := fun s =>
  match m s with
  | .ok r => .ok r
  | .error e => .error (.callee e)

/-- A value that the program's own code needs at `site`. -/
def present (site : κ) : Option α → Program (Blame κ ε) σ α
  | none => throw (.own site)
  | some a => pure a

/-- The program without the sites: a fault of its own is `e`. -/
def unblamed (e : ε) (m : Program (Blame κ ε) σ α) : Program ε σ α := fun s =>
  match m s with
  | .ok r => .ok r
  | .error (.own _) => .error e
  | .error (.callee f) => .error f

section
variable (e : ε)

@[simp] theorem unblamed_pure (a : α) :
    unblamed e (pure a : Program (Blame κ ε) σ α) = pure a := rfl

@[simp] theorem unblamed_get :
    unblamed e (get : Program (Blame κ ε) σ σ) = get := rfl

@[simp] theorem unblamed_modify (f : σ → σ) :
    unblamed e (modify f : Program (Blame κ ε) σ PUnit) = modify f := rfl

@[simp] theorem unblamed_call (m : Program ε σ α) :
    unblamed e (call m : Program (Blame κ ε) σ α) = m := by
  funext s
  simp only [unblamed, call]
  cases m s with
  | ok r => rfl
  | error f => rfl

@[simp] theorem unblamed_bind (m : Program (Blame κ ε) σ α)
    (k : α → Program (Blame κ ε) σ β) :
    unblamed e (m >>= k) = unblamed e m >>= fun a => unblamed e (k a) := by
  funext s
  rw [bind_apply]
  simp only [unblamed, bind_apply]
  cases m s with
  | ok r => rfl
  | error b =>
    cases b with
    | own site => rfl
    | callee f => rfl

@[simp] theorem unblamed_ite {p : Prop} [Decidable p] (m m' : Program (Blame κ ε) σ α) :
    unblamed e (if p then m else m') = if p then unblamed e m else unblamed e m' := by
  split
  · rfl
  · rfl

end

/-- From `s`, no fault is `m`'s own, and what `m` returns satisfies `Q`. -/
def Blameless (m : Program (Blame κ ε) σ α) (Q : α → σ → Prop) (s : σ) : Prop :=
  (∀ site, m s ≠ .error (.own site)) ∧ wlp m Q s

section
variable {s : σ} {Q : α → σ → Prop}

theorem Blameless.mono {Q' : α → σ → Prop} {m : Program (Blame κ ε) σ α}
    (h : Blameless m Q s) (hQ : ∀ a s', Q a s' → Q' a s') : Blameless m Q' s :=
  ⟨h.1, wlp_mono h.2 hQ⟩

theorem blameless_pure {a : α} (h : Q a s) :
    Blameless (pure a : Program (Blame κ ε) σ α) Q s :=
  ⟨fun _ => nofun, (wlp_pure a Q s).mpr h⟩

theorem blameless_modify {Q : PUnit → σ → Prop} {f : σ → σ} (h : Q ⟨⟩ (f s)) :
    Blameless (modify f : Program (Blame κ ε) σ PUnit) Q s :=
  ⟨fun _ => nofun, (wlp_modify f Q s).mpr h⟩

theorem blameless_call {m : Program ε σ α} (h : wlp m Q s) :
    Blameless (call m : Program (Blame κ ε) σ α) Q s := by
  constructor
  · intro site
    unfold call
    cases m s with
    | ok r => exact nofun
    | error e => exact nofun
  · intro a s' hrun
    apply h a s'
    unfold call at hrun
    cases hm : m s with
    | ok r =>
      rw [hm] at hrun
      exact congrArg Except.ok (Except.ok.inj hrun)
    | error e =>
      rw [hm] at hrun
      cases hrun

theorem blameless_present {p : Option α} {site : κ} (hp : p ≠ none)
    (h : ∀ a, p = some a → Q a s) :
    Blameless (present site p : Program (Blame κ ε) σ α) Q s := by
  cases p with
  | none => exact absurd rfl hp
  | some a => exact blameless_pure (h a rfl)

theorem blameless_bind {m : Program (Blame κ ε) σ α} {k : α → Program (Blame κ ε) σ β}
    {Q' : β → σ → Prop} (hm : Blameless m Q s)
    (hk : ∀ a s', Q a s' → Blameless (k a) Q' s') : Blameless (m >>= k) Q' s := by
  constructor
  · intro site hrun
    rw [bind_apply] at hrun
    cases hms : m s with
    | error b =>
      rw [hms] at hrun
      exact hm.1 site (hms.trans (congrArg Except.error (Except.error.inj hrun)))
    | ok r =>
      rw [hms] at hrun
      exact (hk r.1 r.2 (hm.2 r.1 r.2 hms)).1 site hrun
  · rw [wlp_bind]
    exact wlp_mono hm.2 fun a s' h => (hk a s' h).2

theorem blameless_get {k : σ → Program (Blame κ ε) σ β} {Q : β → σ → Prop}
    (h : Blameless (k s) Q s) : Blameless (get >>= k) Q s := h

theorem blameless_ite {p : Prop} [Decidable p] {m m' : Program (Blame κ ε) σ α}
    (ht : p → Blameless m Q s) (hf : ¬p → Blameless m' Q s) :
    Blameless (if p then m else m') Q s := by
  split
  · rename_i hp
    exact ht hp
  · rename_i hp
    exact hf hp

end

end Program
