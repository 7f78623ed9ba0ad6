import InputServer.Library.Program

set_option autoImplicit true

namespace Program

variable {ε σ ω α β : Type} {out : σ → List ω}

/-- Where `m` returns from `s`, it appended some `new` to the output, and `Q` holds of its result,
the state and `new`. -/
def writes (out : σ → List ω) (m : Program ε σ α) (Q : α → σ → List ω → Prop) (s : σ) : Prop :=
  wlp m (fun a s' => ∃ new, out s' = out s ++ new ∧ Q a s' new) s

theorem writes_pure {Q : α → σ → List ω → Prop} (a : α) (h : Q a s []) :
    writes out (pure a : Program ε σ α) Q s := by
  rw [writes, wlp_pure]
  exact ⟨[], (List.append_nil (out s)).symm, h⟩

theorem writes_throw {Q : α → σ → List ω → Prop} (e : ε) :
    writes out (throw e : Program ε σ α) Q s :=
  wlp_throw e _ s

theorem writes_bind {m : Program ε σ α} {k : α → Program ε σ β} {Q : β → σ → List ω → Prop}
    (h : writes out m (fun a s' new => writes out (k a) (fun b s'' more => Q b s'' (new ++ more)) s')
      s) : writes out (m >>= k) Q s := by
  rw [writes, wlp_bind]
  refine wlp_mono h ?_
  rintro a s' ⟨new, hnew, hk⟩
  refine wlp_mono hk ?_
  rintro b s'' ⟨more, hmore, hQ⟩
  exact ⟨new ++ more, by rw [hmore, hnew, List.append_assoc], hQ⟩

theorem writes_get {k : σ → Program ε σ β} {Q : β → σ → List ω → Prop}
    (h : writes out (k s) Q s) : writes out (get >>= k) Q s := by
  rw [writes, wlp_bind, wlp_get]
  exact h

theorem writes_modify {f : σ → σ} {Q : PUnit → σ → List ω → Prop} (hf : out (f s) = out s ++ new)
    (h : Q ⟨⟩ (f s) new) : writes out (modify f : Program ε σ PUnit) Q s := by
  rw [writes, wlp_modify]
  exact ⟨new, hf, h⟩

theorem writes_set {t : σ} {Q : PUnit → σ → List ω → Prop} (ht : out t = out s ++ new)
    (h : Q ⟨⟩ t new) : writes out (set t : Program ε σ PUnit) Q s := by
  rw [writes, wlp_set]
  exact ⟨new, ht, h⟩

theorem writes_ite {p : Prop} [Decidable p] {m m' : Program ε σ α} {Q : α → σ → List ω → Prop}
    (ht : p → writes out m Q s) (hf : ¬p → writes out m' Q s) :
    writes out (if p then m else m') Q s :=
  wlp_ite ht hf

theorem writes_mono {m : Program ε σ α} {Q Q' : α → σ → List ω → Prop} (h : writes out m Q s)
    (hQ : ∀ a s' new, Q a s' new → Q' a s' new) : writes out m Q' s := by
  refine wlp_mono h ?_
  rintro a s' ⟨new, hnew, h⟩
  exact ⟨new, hnew, hQ a s' new h⟩

/-- The rule for sequences through what is known of the first part. -/
theorem writes_seq {m : Program ε σ α} {k : α → Program ε σ β} {P : α → σ → List ω → Prop}
    {Q : β → σ → List ω → Prop} (hm : writes out m P s)
    (hk : ∀ a s' new, P a s' new → writes out (k a) (fun b s'' more => Q b s'' (new ++ more)) s') :
    writes out (m >>= k) Q s :=
  writes_bind (writes_mono hm hk)

theorem writes_discard {m : Program ε σ α} {Q : PUnit → σ → List ω → Prop}
    (h : writes out m (fun _ s' new => Q ⟨⟩ s' new) s) : writes out (discard m) Q s := by
  change writes out (m >>= fun _ => pure ⟨⟩) Q s
  apply writes_seq h
  intro _ s' new hQ
  exact writes_pure _ (by rw [List.append_nil]; exact hQ)

end Program
