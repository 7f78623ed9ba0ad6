import InputServer.Inject
import InputServer.Library.Comparison

namespace InputServer
open Program
set_option autoImplicit true

variable {F : Type} {S : Nat → Prop}

/-- The state with other keys held. -/
def World.holding (w : World F) (ks : Nat → Bool) : World F :=
  { w with keyStatus := ks }

@[simp] theorem holding_keyStatus (w : World F) (ks : Nat → Bool) :
    (w.holding ks).keyStatus = ks := rfl

/-- Runs from states that differ at most in which keys of `S` are held; a run sets them apart when
it forgets such a key that is held. -/
def heldKeys (F : Type) (S : Nat → Prop) : Comparison (World F) where
  Alike w w' := ∃ ks, w' = w.holding ks ∧ ∀ c, ¬S c → ks c = w.keyStatus c
  Onward w w' := (∃ new, w'.log = w.log ++ new) ∧
    ∀ c, w'.keyStatus c = true → w.keyStatus c = true
  Apart w w' := ∃ c, S c ∧ w.keyStatus c = true ∧ w'.keyStatus c = false
  alike_refl w := ⟨w.keyStatus, rfl, fun _ _ => rfl⟩
  onward_refl w := ⟨⟨[], (List.append_nil _).symm⟩, fun _ => id⟩
  onward_trans w w' w'' h h' := by
    obtain ⟨⟨new, hnew⟩, hkeys⟩ := h
    obtain ⟨⟨new', hnew'⟩, hkeys'⟩ := h'
    refine ⟨⟨new ++ new', ?_⟩, fun c hc => hkeys c (hkeys' c hc)⟩
    rw [hnew', hnew, List.append_assoc]
  apart_before w w' w'' h h' := by
    obtain ⟨c, hc, hheld, hfreed⟩ := h'
    exact ⟨c, hc, h.2 c hheld, hfreed⟩
  apart_after w w' w'' h h' := by
    obtain ⟨c, hc, hheld, hfreed⟩ := h
    refine ⟨c, hc, hheld, ?_⟩
    rw [Bool.eq_false_iff]
    intro hstill
    have hheld' := h'.2 c hstill
    rw [hfreed] at hheld'
    cases hheld'

/-- A program that does not tell which keys of `S` are held, unless it forgets one of them. -/
abbrev Blind (S : Nat → Prop) (m : WorldM F α) : Prop :=
  Program.Agrees (heldKeys F S) m

theorem blind_get {k : World F → WorldM F α} (hsame : ∀ w ks, k (w.holding ks) = k w)
    (hk : ∀ w, Blind S (k w)) : Blind S (get >>= k) := by
  apply agrees_get _ hk
  rintro w _ ⟨ks, rfl, _⟩
  exact hsame w ks

theorem blind_modify {f : World F → World F}
    (hsame : ∀ w ks, f (w.holding ks) = (f w).holding ks)
    (hlog : ∀ w, ∃ new, (f w).log = w.log ++ new) : Blind S (modify f : WorldM F Unit) := by
  have hkeys (w : World F) : (f w).keyStatus = w.keyStatus := by
    have hheld : (f (w.holding w.keyStatus)).keyStatus = ((f w).holding w.keyStatus).keyStatus := by
      rw [hsame]
    exact hheld
  apply agrees_modify
  · intro w
    refine ⟨hlog w, ?_⟩
    rw [hkeys]
    exact fun _ => id
  · rintro w _ ⟨ks, rfl, hks⟩
    refine ⟨ks, hsame w ks, ?_⟩
    rw [hkeys]
    exact hks

theorem blind_unlogged {f : World F → World F}
    (hsame : ∀ w ks, f (w.holding ks) = (f w).holding ks) (hlog : ∀ w, (f w).log = w.log) :
    Blind S (modify f : WorldM F Unit) := by
  apply blind_modify hsame
  intro w
  exact ⟨[], (hlog w).trans (List.append_nil _).symm⟩

/-- What is written may be made of what was read. -/
theorem blind_get_set {g : World F → World F} {k : World F → WorldM F α}
    (hg : ∀ w ks, g (w.holding ks) = (g w).holding ks) (hlog : ∀ w, (g w).log = w.log)
    (hsame : ∀ w ks, k (w.holding ks) = k w) (hk : ∀ w, Blind S (k w)) :
    Blind S (do
      let w ← get
      set (g w)
      k w) := by
  have hmodify : (do
      let w ← get
      set (g w)
      k w : WorldM F α) = (do
      let w ← get
      modify g
      k w) := rfl
  rw [hmodify]
  apply blind_get
  · intro w ks
    rw [hsame w ks]
  · intro w
    exact agrees_bind (blind_unlogged hg hlog) fun _ => hk w

theorem modifyRouting_blind (f : Routing F → Routing F) : Blind S (modifyRouting f) :=
  blind_unlogged (fun _ _ => rfl) fun _ => rfl

theorem modifyDomain_blind (d : DomPtr) (f : Domain F → Domain F) :
    Blind S (modifyDomain d f) :=
  blind_unlogged (fun _ _ => rfl) fun _ => rfl

theorem modifySwitcher_blind (f : Switcher → Switcher) :
    Blind S (modifySwitcher f : WorldM F Unit) :=
  blind_unlogged (fun _ _ => rfl) fun _ => rfl

theorem happens_blind (h : Happening) : Blind S (happens h : WorldM F Unit) :=
  blind_modify (fun _ _ => rfl) fun _ => ⟨[h], rfl⟩

theorem ask_blind (f : Answers → α) : Blind S (ask f : WorldM F α) := by
  apply blind_get_set
  · exact fun _ _ => rfl
  · exact fun _ => rfl
  · exact fun _ _ => rfl
  · exact fun _ => agrees_pure _

theorem onPlug_blind (m : SockM α) : Blind S (onPlug m : WorldM F α) := by
  rintro w _ a w' b w'' ⟨ks, rfl, hks⟩ hrun hrun'
  obtain ⟨p, hp, rfl⟩ := zoom_ok hrun
  obtain ⟨p', hp', rfl⟩ := zoom_ok hrun'
  change m w.plug = _ at hp'
  rw [hp] at hp'
  cases hp'
  refine ⟨⟨⟨[], (List.append_nil _).symm⟩, fun _ => id⟩,
    ⟨⟨[], (List.append_nil _).symm⟩, fun _ => id⟩, .inr (.inr ⟨rfl, ks, rfl, hks⟩)⟩

theorem dom0InputEvent_blind (d : DomPtr) (source : Source) (e : InputEvent) :
    Blind S (dom0InputEvent d source e : WorldM F Unit) := by
  apply blind_get (fun _ _ => rfl)
  intro w
  cases (w.domains d).client with
  | none => exact agrees_pure _
  | some guest => exact happens_blind _

theorem selectDevslot_blind (d : DomPtr) (slot : Int32) :
    Blind S (selectDevslot d slot : WorldM F Unit) := by
  apply blind_get (fun _ _ => rfl)
  intro w
  apply agrees_ite
  · intro _
    apply agrees_bind (modifyDomain_blind d _)
    intro _
    apply blind_get (fun _ _ => rfl)
    exact fun _ => dom0InputEvent_blind d _ _
  · exact fun _ => agrees_pure _

theorem xenVkbdSendEvent_blind (d : DomPtr) (e : InputEvent) :
    Blind S (xenVkbdSendEvent d e : WorldM F Unit) := by
  apply agrees_bind
  · apply agrees_ite
    · exact fun _ => agrees_pure _
    · exact fun _ => modifyDomain_blind d _
  · exact fun _ => happens_blind _

theorem sendToVkbd_blind (d : DomPtr) (fuel : Nat) (e : InputEvent) :
    Blind S (sendToVkbd d fuel e : WorldM F InputEvent) := by
  induction fuel generalizing e with
  | zero => exact agrees_throw _
  | succ fuel ih =>
    apply blind_get_set
    · exact fun _ _ => rfl
    · exact fun _ => rfl
    · exact fun _ _ => rfl
    intro w
    apply agrees_ite
    · exact fun _ => agrees_pure _
    · intro _
      apply agrees_bind (xenVkbdSendEvent_blind d _)
      intro _
      apply agrees_ite
      · exact fun _ => ih _
      · exact fun _ => agrees_pure _

theorem inputSend_blind (d : Option DomPtr) (slot : Int32) (e : InputEvent) :
    Blind S (inputSend d slot e : WorldM F InputEvent) := by
  apply blind_get (fun _ _ => rfl)
  intro w
  cases d with
  | none => exact agrees_pure _
  | some d =>
    apply agrees_ite
    · intro _
      exact agrees_bind (onPlug_blind _) fun _ => agrees_pure _
    · intro _
      apply agrees_ite
      · exact fun _ => sendToVkbd_blind d 3 e
      · intro _
        apply agrees_bind (selectDevslot_blind d slot)
        intro _
        exact agrees_bind (dom0InputEvent_blind d _ e) fun _ => agrees_pure _

theorem deref_blind (d : Option DomPtr) : Blind S (deref d : WorldM F DomPtr) := by
  cases d with
  | none => exact agrees_throw _
  | some d => exact agrees_pure _

theorem discard_blind {m : WorldM F α} (h : Blind S m) : Blind S (discard m) :=
  agrees_bind h fun _ => agrees_pure _

/-- The release of a key that is held, at the keyboard's domain and at the mouse's. -/
def releaseKey (resetMouseDomain : Bool) (i : Nat) : WorldM F Unit := do
  let w ← get
  let e ← inputSend w.routing.keybDest INPUTSLOT_DEFAULT
    { type := EV_KEY, code := .ofNat i, value := 0 }
  let w ← get
  if resetMouseDomain ∧ w.routing.mouseDest ≠ none ∧
      w.routing.keybDest ≠ w.routing.mouseDest then do
    let _ ← inputSend w.routing.mouseDest INPUTSLOT_DEFAULT e
  else pure ()

/-- The state in which a key is no longer held. -/
def World.forget (w : World F) (i : Nat) : World F :=
  w.holding (Function.update w.keyStatus i false)

@[simp] theorem forget_self (w : World F) (i : Nat) : (w.forget i).keyStatus i = false := by
  rw [World.forget, holding_keyStatus, Function.update_self]

theorem forget_of_ne (w : World F) (h : c ≠ i) : (w.forget i).keyStatus c = w.keyStatus c := by
  rw [World.forget, holding_keyStatus, Function.update_of_ne h]

theorem onward_forget (w : World F) (i : Nat) : (heldKeys F S).Onward w (w.forget i) := by
  refine ⟨⟨[], (List.append_nil _).symm⟩, ?_⟩
  intro c hc
  by_cases hci : c = i
  · rw [hci, forget_self] at hc
    cases hc
  · rw [forget_of_ne w hci] at hc
    exact hc

theorem alike_forget {w : World F} {ks : Nat → Bool} (h : ∀ c, ¬S c → ks c = w.keyStatus c)
    (i : Nat) : (heldKeys F S).Alike (w.forget i) ((w.holding ks).forget i) := by
  refine ⟨((w.holding ks).forget i).keyStatus, rfl, ?_⟩
  intro c hc
  by_cases hci : c = i
  · rw [hci, forget_self, forget_self]
  · rw [forget_of_ne w hci, forget_of_ne _ hci]
    exact h c hc

theorem resetKeys_cons (resetMouseDomain : Bool) (i : Nat) (keys : List Nat) (w : World F) :
    resetKeys resetMouseDomain (i :: keys) w =
      if w.keyStatus i then (do
        releaseKey resetMouseDomain i
        resetKeys resetMouseDomain keys) (w.forget i)
      else resetKeys resetMouseDomain keys w := by
  rw [resetKeys, bind_ok (get_apply w)]
  by_cases hheld : w.keyStatus i = true
  · rw [if_pos hheld, if_pos hheld, bind_ok (set_apply _ w), releaseKey, bind_assoc,
      bind_ok (get_apply _), bind_assoc]
    change (_ >>= _ : WorldM F Unit) (w.forget i) = (_ >>= _ : WorldM F Unit) (w.forget i)
    rw [bind_apply, bind_apply]
    congr 1
    funext r
    rw [bind_assoc, bind_ok (get_apply _), bind_ok (get_apply _)]
    split
    · rw [bind_assoc]
      rfl
    · rfl
  · rw [if_neg hheld, if_neg hheld]

theorem releaseKey_blind (resetMouseDomain : Bool) (i : Nat) :
    Blind S (releaseKey resetMouseDomain i : WorldM F Unit) := by
  apply blind_get (fun _ _ => rfl)
  intro w
  apply agrees_bind (inputSend_blind _ _ _)
  intro e
  apply blind_get (fun _ _ => rfl)
  intro w'
  apply agrees_ite
  · exact fun _ => agrees_bind (inputSend_blind _ _ _) fun _ => agrees_pure _
  · exact fun _ => agrees_pure _

/-- Keys of `S` that are forgotten set the runs apart; the others are held in both. -/
theorem resetKeys_blind (resetMouseDomain : Bool) (keys : List Nat) :
    Blind S (resetKeys resetMouseDomain keys : WorldM F Unit) := by
  induction keys with
  | nil => exact agrees_pure _
  | cons i keys ih =>
    have hbody : Blind S (do
        releaseKey resetMouseDomain i
        resetKeys resetMouseDomain keys : WorldM F Unit) :=
      agrees_bind (releaseKey_blind resetMouseDomain i) fun _ => ih
    have honward (w w' : World F) (hrun : resetKeys resetMouseDomain (i :: keys) w = .ok ((), w')) :
        (heldKeys F S).Onward w w' ∧
          (S i → w.keyStatus i = true → (heldKeys F S).Apart w w') := by
      rw [resetKeys_cons] at hrun
      by_cases hheld : w.keyStatus i = true
      · rw [if_pos hheld] at hrun
        have hafter := hbody.onward hrun
        refine ⟨(heldKeys F S).onward_trans _ _ _ (onward_forget w i) hafter, ?_⟩
        intro hi _
        exact (heldKeys F S).apart_after _ _ _ ⟨i, hi, hheld, forget_self w i⟩ hafter
      · rw [if_neg hheld] at hrun
        exact ⟨ih.onward hrun, fun _ h => absurd h hheld⟩
    rintro w _ ⟨⟩ w' ⟨⟩ w'' ⟨ks, rfl, hks⟩ hrun hrun'
    have hleft := honward w w' hrun
    have hright := honward _ w'' hrun'
    refine ⟨hleft.1, hright.1, ?_⟩
    rw [resetKeys_cons] at hrun hrun'
    rw [holding_keyStatus] at hrun' hright
    have hneither (h : ¬w.keyStatus i = true) (h' : ¬ks i = true) :
        (heldKeys F S).Apart w w' ∨ (heldKeys F S).Apart (w.holding ks) w'' ∨
          () = () ∧ (heldKeys F S).Alike w' w'' := by
      rw [if_neg h] at hrun
      rw [if_neg h'] at hrun'
      exact (ih w _ () w' () w'' ⟨ks, rfl, hks⟩ hrun hrun').2.2
    by_cases hi : S i
    · by_cases hheld : w.keyStatus i = true
      · exact .inl (hleft.2 hi hheld)
      · by_cases hheld' : ks i = true
        · exact .inr (.inl (hright.2 hi hheld'))
        · exact hneither hheld hheld'
    · have hsame := hks i hi
      by_cases hheld : w.keyStatus i = true
      · rw [if_pos hheld] at hrun
        rw [if_pos (hsame.trans hheld)] at hrun'
        obtain hapart | hapart | halike := (hbody _ _ () w' () w'' (alike_forget hks i) hrun hrun').2.2
        · exact .inl ((heldKeys F S).apart_before _ _ _ (onward_forget w i) hapart)
        · exact .inr (.inl ((heldKeys F S).apart_before _ _ _ (onward_forget _ i) hapart))
        · exact .inr (.inr halike)
      · apply hneither hheld
        rw [hsame]
        exact hheld

end InputServer
