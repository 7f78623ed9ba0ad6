import InputServer.RoutedSwitch

namespace InputServer
open Program
set_option autoImplicit true

variable {F : Type} {C : Scope} {w w' : World F} {d : DomPtr}

/-- The display service refuses nothing that it is asked from one state to a later one. -/
def DisplayAgrees (w w' : World F) : Prop :=
  ∀ n, w.asked ≤ n → n < w'.asked → (w.answers n).setVisible = true

/-- The display can follow a switch to `d`. -/
def Shows (w w' : World F) (d : DomPtr) : Prop :=
  (w.domains d).disabledSurface = true ∨ (w.domains d).isPvm = true ∨ DisplayAgrees w w'

/-- The focus and the display stay. -/
structure FocusStays (w w' : World F) : Prop where
  current : w'.switcher.current = w.switcher.current
  surface : w'.switcher.surfaceCurrent = w.switcher.surfaceCurrent

/-- What a switch to `d` ends with. -/
def Ends (w : World F) (d : DomPtr) (switched : Bool) (w' : World F) : Prop :=
  if switched then w'.switcher.current = some d else FocusStays w w' ∧ ¬Shows w w' d

theorem FocusStays.trans {w w' w'' : World F} (h : FocusStays w w') (h' : FocusStays w' w'') :
    FocusStays w w'' :=
  ⟨h'.current.trans h.current, h'.surface.trans h.surface⟩

/-- More asked later leaves fewer ways for the display service to agree. -/
theorem DisplayAgrees.of_later {w₁ w₂ : World F} (h : DisplayAgrees w w') (hasked : w.asked ≤ w₁.asked)
    (hasked' : w₂.asked ≤ w'.asked) (hanswers : w₁.answers = w.answers) : DisplayAgrees w₁ w₂ := by
  intro n hn hn'
  rw [hanswers]
  exact h n (Nat.le_trans hasked hn) (Nat.lt_of_lt_of_le hn' hasked')

theorem Shows.of_later {w₁ w₂ : World F} (h : Shows w w' d)
    (hsame : (w₁.domains d).identity = (w.domains d).identity) (hasked : w.asked ≤ w₁.asked)
    (hasked' : w₂.asked ≤ w'.asked) (hanswers : w₁.answers = w.answers) : Shows w₁ w₂ d := by
  have hdisabled := congrArg Identity.disabledSurface hsame
  have hpvm := congrArg Identity.isPvm hsame
  cases h with
  | inl h => exact .inl (hdisabled.trans h)
  | inr h =>
    cases h with
    | inl h => exact .inr (.inl (hpvm.trans h))
    | inr h => exact .inr (.inr (h.of_later hasked hasked' hanswers))

/-- The scope of what is done while a switch is under way. -/
def Scope.busy (C : Scope) : Scope :=
  { C with nested := True, still := False }

theorem InScope.busy (h : InScope C w) (hbusy : w.switcher.switching = true) :
    InScope C.busy w where
  tracked := h.tracked
  sound := h.sound
  switching _ := hbusy
  still := False.elim
  targets := { h.targets with }
  captured := h.captured

theorem Routed.of_busy (h : Routed C.busy w w') (hstill : ¬C.still) : Routed C w w' :=
  { h with
    current := .inl (h.current.eq trivial)
    surface := .inl (h.surface.eq trivial)
    held := fun hs => absurd hs hstill
    turned := fun hs _ => h.turned hs trivial }

/-- What is done while a switch is under way moves no focus. -/
theorem yields_busy {P : α → World F → Prop} {m : WorldM F α}
    (h : Yields (InScope C.busy) (Routed C.busy) P m w) (hstill : ¬C.still)
    (hbusy : w.switcher.switching = true) :
    Yields (InScope C) (Routed C) (fun a w' => FocusStays w w' ∧ P a w') m w := by
  intro hw
  refine wlp_mono (h (hw.busy hbusy)) ?_
  intro a w' h'
  obtain ⟨hscope, hrouted, hP⟩ := h'
  have hr := hrouted.of_busy hstill
  refine ⟨?_, hr, ⟨hrouted.current.eq trivial, hrouted.surface.eq trivial⟩, hP⟩
  exact hr.inScope hw hscope.tracked hscope.sound hscope.captured

/-- The keyboard diverts change as the ones of a switch under way do. -/
theorem turns_busy {m : WorldM F α} (h : Routes C.busy m w) (hs : C.sound) (hstill : ¬C.still)
    (hbusy : w.switcher.switching = true) :
    Yields (InScope C) (Routed C) (fun _ w' => ∀ a, KeyTurned w w' a) m w := by
  intro hw
  refine wlp_mono (h (hw.busy hbusy)) ?_
  intro a w' h'
  obtain ⟨hscope, hrouted, _⟩ := h'
  have hr := hrouted.of_busy hstill
  refine ⟨?_, hr, hrouted.turned hs trivial⟩
  exact hr.inScope hw hscope.tracked hscope.sound hscope.captured

/-- A step that changes no entry. -/
def SameDomains (w w' : World F) : Prop :=
  w'.domains = w.domains

instance : IsPreorder (World F) SameDomains where
  refl _ := rfl
  trans _ _ _ h h' := h'.trans h

theorem SameDomains.keyTurned (h : SameDomains w w') (a : DomPtr) : KeyTurned w w' a := by
  intro k hk
  rw [World.diverted, h] at hk
  exact .inl hk

theorem ask_answers (f : Answers → α) (w : World F) :
    Yields (InScope C) (Routed C)
      (fun a w' => a = f (w.answers w.asked) ∧ w' = { w with asked := w.asked + 1 }) (ask f) w := by
  apply Yields.of_moves (ask_routes f w)
  intro a w' hrun
  cases hrun
  exact ⟨rfl, rfl⟩

section
variable (hC : ¬C.nested) (hstill : ¬C.still) (hbusy : w.switcher.switching = true)
include hC hstill hbusy

theorem switcherSwitchGraphic_ends (hd : C.target d) :
    Yields (InScope C) (Routed C) (fun ok w' => ok = false → FocusStays w w' ∧ ¬DisplayAgrees w w')
      (switcherSwitchGraphic d) w := by
  apply yields_bind_of (yields_busy (switcherSelfSwitchDisabled_routes w) hstill hbusy)
  intro _ w₁ _ h₁ hstay
  apply yields_get
  intro _
  apply yields_ite
  · intro _
    exact yields_pure _ nofun
  · intro _
    apply yields_bind_of (ask_answers _ w₁)
    intro ok w₂ _ _ hask
    obtain ⟨hok, hw₂⟩ := hask
    apply yields_ite
    · intro _
      apply yields_bind (modifySurface_routes hC hd w₂)
      intro _ w₃ _ _
      exact yields_pure _ nofun
    · intro hrefused
      apply yields_pure
      intro _ _
      rw [hw₂]
      refine ⟨hstay.1.trans ⟨rfl, rfl⟩, ?_⟩
      intro hagrees
      apply hrefused
      rw [hok, h₁.answers]
      exact hagrees w₁.asked h₁.asked (Nat.lt_succ_self _)

theorem displaySwitched_ends (hd : C.target d) :
    Yields (InScope C) (Routed C) (fun ok w' => ok = false → FocusStays w w' ∧ ¬Shows w w' d)
      (displaySwitched d) w := by
  apply yields_get
  intro _
  apply yields_ite
  · intro _
    exact yields_pure _ nofun
  intro hdisabled
  apply yields_bind_of (switcherSwitchGraphic_ends hC hstill hbusy hd)
  intro ok w₁ _ _ hends
  apply yields_ite
  · intro _
    exact yields_pure _ nofun
  · intro hok
    apply yields_pure
    intro _ hpvm
    obtain ⟨hstay, hrefused⟩ := hends (Bool.eq_false_iff.mpr hok)
    refine ⟨hstay, ?_⟩
    intro hshows
    obtain h | h | h := hshows
    · exact hdisabled h
    · rw [h] at hpvm
      cases hpvm
    · exact hrefused h

end

section
variable {inject : Inject F} (hinject : InjectRoutes inject) (hC : ¬C.nested)
  (hstill : ¬C.still)
include hinject hC hstill

omit hinject hC hstill in
theorem ask_sameDomains (f : Answers → α) (w : World F) :
    Moves (fun _ => True) SameDomains (ask f) w := by
  apply yields_get
  intro _ _
  rw [wlp_bind, wlp_set, wlp_pure]
  exact ⟨trivial, rfl, trivial⟩

omit hinject hC hstill in
theorem dbFlag_sameDomains (path : String) (w : World F) :
    Moves (fun _ => True) SameDomains (dbFlag path) w := by
  apply yields_bind (ask_sameDomains _ w)
  intro _ w₁ _ _
  apply yields_ite
  · intro _
    apply yields_bind (ask_sameDomains _ w₁)
    intro _ w₂ _ _
    exact moves_pure _
  · intro _
    exact moves_pure _

omit hinject hC hstill in
theorem switcherSwitchGraphic_sameDomains (d : DomPtr) (w : World F) :
    Moves (fun _ => True) SameDomains (switcherSwitchGraphic d) w := by
  have hdisabled : Moves (fun _ => True) SameDomains switcherSelfSwitchDisabled w := by
    apply yields_bind (dbFlag_sameDomains _ w)
    intro _ w₁ _ _
    exact moves_pure _
  apply yields_bind hdisabled
  intro _ w₁ _ _
  apply yields_get
  intro _
  apply yields_ite
  · intro _
    exact moves_pure _
  intro _
  apply yields_bind (ask_sameDomains _ w₁)
  intro _ w₂ _ _
  apply yields_ite
  · intro _
    apply yields_bind (moves_modify fun _ => ⟨trivial, rfl⟩)
    intro _ w₃ _ _
    exact moves_pure _
  · intro _
    exact moves_pure _

omit hinject hC hstill in
theorem displaySwitched_sameDomains (d : DomPtr) (w : World F) :
    wlp (displaySwitched d) (fun _ w' => SameDomains w w') w := by
  have hmoves : Moves (fun _ => True) SameDomains (displaySwitched d) w := by
    apply yields_get
    intro _
    apply yields_ite
    · intro _
      exact moves_pure _
    · intro _
      apply yields_bind (switcherSwitchGraphic_sameDomains d w)
      intro _ w₁ _ _
      apply yields_ite
      · intro _
        exact moves_pure _
      · intro _
        exact moves_pure _
  exact wlp_mono (hmoves trivial) fun _ _ h => h.2.1

/-- The focus that a switch takes is not moved on. -/
theorem focusDomain_ends (hbusy : w.switcher.switching = true) (hd : C.sound → w.Known d)
    (ht : C.target d) (mouseSwitch : Bool) :
    Yields (InScope C) (Routed C) (fun _ w' => w'.switcher.current = some d)
      (focusDomain inject d mouseSwitch) w := by
  apply takeFocus_routes hC ht
  intro w₁ _ h₁ hcurrent _
  have hfollow :=
    followFocus_routes (C := C.busy) hinject id (fun hs => (h₁.known d).mpr (hd hs)) mouseSwitch
  apply (yields_busy hfollow hstill (h₁.switching.trans hbusy)).mono
  intro _ w₂ _ _ hstay
  exact hstay.1.current.trans hcurrent

variable [Double F]

theorem switchTo_ends (hbusy : w.switcher.switching = true) (hd : C.sound → w.Known d)
    (ht : C.target d) (mouseSwitch : Bool) :
    Yields (InScope C) (Routed C) (Ends w d) (switchTo inject d mouseSwitch) w := by
  have hremember : Routes C.busy rememberKeyboard w := rememberKeyboard_routes id w
  apply yields_bind_of (yields_busy hremember hstill hbusy)
  intro _ w₁ _ h₁ hstay₁
  have hbusy₁ := h₁.switching.trans hbusy
  have hplace : Routes C.busy (placePointer d mouseSwitch) w₁ :=
    placePointer_routes d mouseSwitch w₁
  apply yields_bind_of (yields_busy hplace hstill hbusy₁)
  intro _ w₂ _ h₂ hstay₂
  have hr₂ := h₁.trans h₂
  have hbusy₂ := h₂.switching.trans hbusy₁
  apply yields_bind_of (displaySwitched_ends hC hstill hbusy₂ ht)
  intro shown w₃ _ h₃ hends
  have hr₃ := hr₂.trans h₃
  apply yields_ite
  · intro _
    have hd₃ (hs : C.sound) : w₃.Known d := (hr₃.known d).mpr (hd hs)
    have hbusy₃ := h₃.switching.trans hbusy₂
    apply yields_bind_of (focusDomain_ends hinject hC hstill hbusy₃ hd₃ ht mouseSwitch)
    intro _ w₄ _ _ hcurrent
    exact yields_pure _ fun _ => hcurrent
  · intro hrefused
    apply yields_pure
    intro _
    obtain ⟨hstay₃, hno⟩ := hends (Bool.eq_false_iff.mpr hrefused)
    refine ⟨(hstay₁.1.trans hstay₂.1).trans hstay₃, ?_⟩
    intro hshows
    exact hno (hshows.of_later (hr₂.domains d) hr₂.asked (Nat.le_refl _) hr₂.answers)

/-- A switch turns keyboard diverts only to where their domains divert the mouse. -/
theorem switchTo_turns (hs : C.sound) (hbusy : w.switcher.switching = true) (hd : w.Known d)
    (ht : C.target d) (mouseSwitch : Bool) :
    Yields (InScope C) (Routed C) (fun _ w' => ∀ a, KeyTurned w w' a)
      (switchTo inject d mouseSwitch) w := by
  have hremember : Routes C.busy rememberKeyboard w := rememberKeyboard_routes id w
  apply yields_bind_of (turns_busy hremember hs hstill hbusy)
  intro _ w₁ _ h₁ hturned₁
  have hbusy₁ := h₁.switching.trans hbusy
  have hplace : Routes C.busy (placePointer d mouseSwitch) w₁ :=
    placePointer_routes d mouseSwitch w₁
  apply yields_bind_of (turns_busy hplace hs hstill hbusy₁)
  intro _ w₂ _ h₂ hturned₂
  have hr₂ := h₁.trans h₂
  have hall₂ (a : DomPtr) : KeyTurned w w₂ a := (hturned₁ a).trans (hturned₂ a) (h₁.diverted a)
  apply yields_bind_of
    ((displaySwitched_routes hC ht).of_moves (displaySwitched_sameDomains d w₂))
  intro shown w₃ _ h₃ hsame₃
  have hr₃ := hr₂.trans h₃
  have hall₃ (a : DomPtr) : KeyTurned w w₃ a :=
    (hall₂ a).trans (hsame₃.keyTurned a) (hr₂.diverted a)
  apply yields_ite
  · intro _
    have hfocus : Yields (InScope C) (Routed C) (fun _ w' => ∀ a, KeyTurned w₃ w' a)
        (focusDomain inject d mouseSwitch) w₃ := by
      apply takeFocus_routes hC ht
      intro w₄ _ h₄ _ hsame₄
      have hd₄ (_ : C.sound) : w₄.Known d := ((hr₃.trans h₄).known d).mpr hd
      have hbusy₄ := (hr₃.trans h₄).switching.trans hbusy
      have hfollow := followFocus_routes (C := C.busy) hinject id hd₄ mouseSwitch
      apply (turns_busy hfollow hs hstill hbusy₄).mono
      intro _ w₅ _ _ hturned₅ a
      exact (SameDomains.keyTurned hsame₄ a).trans (hturned₅ a) (h₄.diverted a)
    apply yields_bind_of hfocus
    intro _ w₅ _ _ hturned₅
    exact yields_pure _ fun _ a => (hall₃ a).trans (hturned₅ a) (hr₃.diverted a)
  · intro _
    exact yields_pure _ fun _ => hall₃

theorem switcherSwitch_turns (hs : C.sound) (hfree : w.switcher.switching = false)
    (hd : w.Known d) (ht : C.target d) (mouseSwitch : Bool) :
    Yields (InScope C) (Routed C) (fun _ w' => ∀ a, KeyTurned w w' a)
      (switcherSwitch inject (some d) mouseSwitch) w := by
  apply yields_get
  intro hw
  apply yields_ite
  · intro hbusy
    rw [hfree] at hbusy
    cases hbusy
  · intro _ _
    have hswitch := switchTo_turns hinject (w := { w with
      switcher := { w.switcher with switching := true } }) hC hstill hs rfl hd ht mouseSwitch
    rw [wlp_bind, modifySwitcher, wlp_modify, wlp_bind]
    refine wlp_mono (hswitch (hw.guard hC true)) ?_
    intro switched w₂ h₂
    obtain ⟨hscope, hrouted, hturned⟩ := h₂
    rw [wlp_bind, modifySwitcher, wlp_modify, wlp_pure]
    exact ⟨hscope.guard hC false, hrouted.guarded rfl hfree, hturned⟩

/-- A switch that no other one holds up moves the focus, or the display does not follow. -/
theorem switcherSwitch_ends (hfree : w.switcher.switching = false) (hd : C.sound → w.Known d)
    (ht : C.target d) (mouseSwitch : Bool) :
    Yields (InScope C) (Routed C) (Ends w d) (switcherSwitch inject (some d) mouseSwitch) w := by
  apply yields_get
  intro hw
  apply yields_ite
  · intro hbusy
    rw [hfree] at hbusy
    cases hbusy
  · intro _ _
    have hswitch := switchTo_ends hinject (w := { w with
      switcher := { w.switcher with switching := true } }) hC hstill rfl hd ht mouseSwitch
    rw [wlp_bind, modifySwitcher, wlp_modify, wlp_bind]
    refine wlp_mono (hswitch (hw.guard hC true)) ?_
    intro switched w₂ h₂
    obtain ⟨hscope, hrouted, hends⟩ := h₂
    rw [wlp_bind, modifySwitcher, wlp_modify, wlp_pure]
    refine ⟨hscope.guard hC false, hrouted.guarded rfl hfree, ?_⟩
    cases switched with
    | false => exact ⟨⟨hends.1.current, hends.1.surface⟩, hends.2⟩
    | true => exact hends

end

end InputServer
