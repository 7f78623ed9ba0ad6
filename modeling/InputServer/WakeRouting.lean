import InputServer.RoutedInject
import InputServer.ShortcutFilter

namespace InputServer
open Program
set_option autoImplicit true

variable {F : Type}

/-- What the destinations are, and by what uuid the domains go, stays. -/
structure SameTargets (w w' : World F) : Prop where
  mouseDest : w'.routing.mouseDest = w.routing.mouseDest
  mouseParent : w'.routing.mouseParent = w.routing.mouseParent
  keybDest : w'.routing.keybDest = w.routing.keybDest
  uuid : ∀ d, (w'.domains d).uuid = (w.domains d).uuid

instance : IsPreorder (World F) SameTargets where
  refl _ := ⟨rfl, rfl, rfl, fun _ => rfl⟩
  trans _ _ _ h h' :=
    ⟨h'.mouseDest.trans h.mouseDest, h'.mouseParent.trans h.mouseParent,
      h'.keybDest.trans h.keybDest, fun d => (h'.uuid d).trans (h.uuid d)⟩

/-- Both destinations are set, or nothing moved. -/
def Settled (w w' : World F) : Prop :=
  (w'.routing.mouseDest ≠ none ∧ w'.routing.keybDest ≠ none) ∨ SameTargets w w'

abbrev Stays (m : WorldM F α) (w : World F) : Prop :=
  Moves (fun _ => True) SameTargets m w

section
variable {w w' w'' : World F} {C : Scope}

theorem SendFrame.sameTargets (h : SendFrame w w') : SameTargets w w' where
  mouseDest := congrArg Routing.mouseDest h.routing
  mouseParent := congrArg Routing.mouseParent h.routing
  keybDest := congrArg Routing.keybDest h.routing
  uuid := h.uuid

theorem SameTargets.settled (h : SameTargets w w') : Settled w w' := .inr h

theorem Settled.trans (h : Settled w w') (hr : Routed C w' w'') (h' : Settled w' w'') :
    Settled w w'' := by
  cases h with
  | inl hboth => exact .inl ⟨hr.mouse hboth.1, hr.keyb hboth.2⟩
  | inr hsame =>
    cases h' with
    | inl hboth => exact .inl hboth
    | inr hsame' => exact .inr (IsTrans.trans w w' w'' hsame hsame')

theorem Stays.wlp {m : WorldM F α} (h : Stays m w) : wlp m (fun _ w' => SameTargets w w') w :=
  wlp_mono (h trivial) fun _ _ h => h.2.1

theorem stays_frames {m : WorldM F α} (h : Frames m w) : Stays m w := by
  intro _
  refine wlp_mono (h trivial) ?_
  intro _ _ h
  exact ⟨trivial, h.2.1.sameTargets, trivial⟩

end

theorem stays_ask (f : Answers → α) (w : World F) : Stays (ask f) w := by
  apply yields_get
  intro _ _
  rw [wlp_bind, wlp_set, wlp_pure]
  exact ⟨trivial, ⟨rfl, rfl, rfl, fun _ => rfl⟩, trivial⟩

theorem stays_modifyDomain (d : DomPtr) {f : Domain F → Domain F} (hf : ∀ x, (f x).uuid = x.uuid)
    (w : World F) : Stays (modifyDomain d f) w := by
  apply moves_modify
  intro _
  exact ⟨trivial, rfl, rfl, rfl, setDomain_congr Domain.uuid (hf _)⟩

theorem stays_modifySwitcher (f : Switcher → Switcher) (w : World F) :
    Stays (modifySwitcher f) w :=
  moves_modify fun _ => ⟨trivial, rfl, rfl, rfl, fun _ => rfl⟩

theorem stays_sent (d : Option DomPtr) (slot : Int32) (e : InputEvent)
    {k : InputEvent → WorldM F α} {w : World F} (hk : ∀ e' w', Stays (k e') w') :
    Stays (inputSend d slot e >>= k) w := by
  apply yields_bind (stays_frames (frames_inputSend d slot e w))
  intro e' w' _ _
  exact hk e' w'

theorem timeoutExpired_stays (w : World F) : Stays timeoutExpired w := by
  apply yields_bind (stays_ask _ w)
  intro _ w' _ _
  apply yields_get
  intro _
  exact moves_pure _

theorem timeoutStart_stays (w : World F) : Stays timeoutStart w := by
  apply yields_bind (stays_ask _ w)
  intro _ w' _ _
  exact moves_modify fun _ => ⟨trivial, rfl, rfl, rfl, fun _ => rfl⟩

theorem wiggleCtrlKey_stays (d : Option DomPtr) (w : World F) : Stays (wiggleCtrlKey d) w := by
  apply yields_get
  intro _
  apply yields_ite
  · intro _
    exact moves_pure _
  · intro _
    apply stays_sent
    intro _ w₁
    apply stays_sent
    intro _ w₂
    exact moves_pure _

theorem eventIsKeyboard_stays (slot : Int32) (e : InputEvent) (w : World F) :
    Stays (eventIsKeyboard slot e) w := by
  have hmark (lastWasKey answer : Bool) : Stays (do
      modifyRouting fun r : Routing F => { r with lastWasKey := lastWasKey }
      pure answer) w := by
    have hset : Stays (modifyRouting fun r : Routing F => { r with lastWasKey := lastWasKey }) w :=
      moves_modify fun _ => ⟨trivial, rfl, rfl, rfl, fun _ => rfl⟩
    apply yields_bind hset
    intro _ w' _ _
    exact moves_pure _
  apply yields_get
  intro _
  apply yields_ite
  · intro _
    exact hmark false false
  intro _
  apply yields_ite
  · intro _
    exact hmark true true
  intro _
  apply yields_ite
  · intro _
    exact moves_pure _
  · intro _
    exact hmark false false

theorem resumeDomain_stays (d : DomPtr) (w : World F) : Stays (resumeDomain d) w := by
  apply yields_get
  intro _
  apply yields_ite
  · intro _
    apply stays_modifyDomain
    exact fun _ => rfl
  · intro _
    exact moves_pure _

theorem rememberKeyboard_stays (w : World F) : Stays rememberKeyboard w := by
  apply yields_get
  intro _
  apply yields_ite
  · intro _
    exact moves_pure _
  · intro _
    apply yields_get
    intro _
    split
    · apply yields_ite
      · intro _
        apply stays_modifyDomain
        exact fun _ => rfl
      · intro _
        apply stays_modifyDomain
        exact fun _ => rfl
    · exact moves_pure _

theorem inputDomainSetMousePos_stays (d : Option DomPtr) (x y : Int32) (w : World F) :
    Stays (inputDomainSetMousePos d x y) w := by
  apply yields_ite
  · intro _
    exact moves_pure _
  · intro _
    apply stays_sent
    intro _ w₁
    apply stays_sent
    intro _ w₂
    apply stays_sent
    intro _ w₃
    exact moves_pure _

theorem placePointer_stays [Double F] (d : DomPtr) (mouseSwitch : Bool) (w : World F) :
    Stays (placePointer d mouseSwitch) w := by
  apply yields_get
  intro _
  apply yields_ite
  · intro _
    apply yields_get
    intro _
    exact inputDomainSetMousePos_stays _ _ _ w
  · intro _
    exact moves_pure _

theorem dbFlag_stays (path : String) (w : World F) : Stays (dbFlag path) w := by
  apply yields_bind (stays_ask _ w)
  intro _ w₁ _ _
  apply yields_ite
  · intro _
    apply yields_bind (stays_ask _ w₁)
    intro _ w₂ _ _
    exact moves_pure _
  · intro _
    exact moves_pure _

theorem displaySwitched_stays (d : DomPtr) (w : World F) : Stays (displaySwitched d) w := by
  have hgraphic (w : World F) : Stays (switcherSwitchGraphic d) w := by
    have hdisabled : Stays switcherSelfSwitchDisabled w := by
      apply yields_bind (dbFlag_stays _ w)
      intro _ w₁ _ _
      exact moves_pure _
    apply yields_bind hdisabled
    intro _ w₁ _ _
    apply yields_get
    intro _
    apply yields_ite
    · intro _
      exact moves_pure _
    · intro _
      apply yields_bind (stays_ask _ w₁)
      intro _ w₂ _ _
      apply yields_ite
      · intro _
        apply yields_bind (stays_modifySwitcher _ w₂)
        intro _ w₃ _ _
        exact moves_pure _
      · intro _
        exact moves_pure _
  apply yields_get
  intro _
  apply yields_ite
  · intro _
    exact moves_pure _
  · intro _
    apply yields_bind (hgraphic w)
    intro _ w₁ _ _
    apply yields_ite
    · intro _
      exact moves_pure _
    · intro _
      exact moves_pure _

section
variable {inject : Inject F} (hinject : InjectRoutes inject) {C : Scope} {w : World F}
  (hC : ¬C.nested) (hstill : ¬C.still)
include hinject hC hstill

omit hC in
/-- `input_set` ends with both destinations set. -/
theorem inputSet_sets (hd : C.sound → w.Known d) :
    Yields (InScope C) (Routed C)
      (fun _ w' => w'.routing.mouseDest ≠ none ∧ w'.routing.keybDest ≠ none)
      (inputSet inject d) w := by
  apply yields_bind (leaveKeyboard_routes hinject _ w)
  intro _ w₁ _ h₁
  apply yields_bind (modifyRouting_keeps rfl rfl rfl rfl rfl)
  intro _ w₂ _ h₂
  have h := h₁.trans h₂
  have hmouse : wlp (setMouseDomain d) (fun _ w' => w'.routing.mouseDest ≠ none) w₂ := by
    rw [setMouseDomain, wlp_bind, wlp_get]
    cases w₂.diverted d DivertInfo.mouseDomain with
    | none => exact (wlp_modify _ _ _).mpr (Option.some_ne_none d)
    | some m => exact (wlp_modify _ _ _).mpr (Option.some_ne_none m)
  apply yields_bind_of
    ((setMouseDomain_routes hstill fun hs => (h.known d).mpr (hd hs)).of_moves hmouse)
  intro _ w₃ _ h₃ hm₃
  have hkeyb : wlp (setKbdDomain d) (fun _ w' => w'.routing.keybDest ≠ none) w₃ := by
    rw [setKbdDomain, wlp_bind, wlp_get]
    cases w₃.diverted d DivertInfo.keyDomain with
    | none => exact (wlp_modify _ _ _).mpr (Option.some_ne_none d)
    | some key => exact (wlp_modify _ _ _).mpr (Option.some_ne_none key)
  apply yields_bind_of
    ((setKbdDomain_routes fun hs => ((h.trans h₃).known d).mpr (hd hs)).of_moves hkeyb)
  intro _ w₄ _ h₄ hk₄
  apply yields_bind (gettimeofday_routes w₄)
  intro now w₅ _ h₅
  have hlast : Routes C (modifyDomain d fun x : Domain F => { x with lastInputEvent := now }) w₅ := by
    apply modifyDomain_routes
    · intro x
      exact ⟨rfl, rfl, rfl, rfl, rfl, rfl, rfl, rfl⟩
    · intro _
      rfl
  apply hlast.mono
  intro _ w₆ _ h₆ _
  have hrest := (h₄.trans h₅).trans h₆
  exact ⟨hrest.mouse hm₃, (h₅.trans h₆).keyb hk₄⟩

/-- Where the focus goes by itself, both destinations go with it. -/
theorem focusDomain_sets (hd : C.sound → w.Known d) (ht : C.target d) :
    Yields (InScope C) (Routed C)
      (fun _ w' => w'.routing.mouseDest ≠ none ∧ w'.routing.keybDest ≠ none)
      (focusDomain inject d false) w := by
  apply takeFocus_routes hC ht
  intro w₁ _ h₁ _ _
  apply yields_bind (keyboardFollowsMouse_routes w₁)
  intro _ w₂ _ h₂
  have hd₂ (hs : C.sound) : w₂.Known d := ((h₁.trans h₂).known d).mpr (hd hs)
  apply yields_ite
  · intro hmouse
    cases hmouse.1
  · intro _
    apply yields_bind_of (inputSet_sets hinject hstill hd₂)
    intro _ w₃ _ h₃ hboth
    apply yields_get
    intro _
    apply yields_ite
    · intro _
      apply (restorePrevKeybDomain_routes hinject fun hs => (h₃.known d).mpr (hd₂ hs)).mono
      intro _ w₄ _ h₄ _
      exact ⟨h₄.mouse hboth.1, h₄.keyb hboth.2⟩
    · intro _
      exact yields_pure _ fun _ => hboth

variable [Double F]

theorem switchTo_settles (hd : C.sound → w.Known d) (ht : C.target d) :
    Yields (InScope C) (Routed C) (fun _ w' => Settled w w') (switchTo inject d false) w := by
  apply yields_bind_of
    ((rememberKeyboard_routes hstill w).of_moves (rememberKeyboard_stays w).wlp)
  intro _ w₁ _ h₁ hsame₁
  apply yields_bind_of
    ((placePointer_routes d false w₁).of_moves (placePointer_stays d false w₁).wlp)
  intro _ w₂ _ h₂ hsame₂
  apply yields_bind_of
    ((displaySwitched_routes hC ht).of_moves (displaySwitched_stays d w₂).wlp)
  intro _ w₃ _ h₃ hsame₃
  have hsame := IsTrans.trans _ _ _ (IsTrans.trans _ _ _ hsame₁ hsame₂) hsame₃
  apply yields_ite
  · intro _
    have hd₃ (hs : C.sound) : w₃.Known d := (((h₁.trans h₂).trans h₃).known d).mpr (hd hs)
    apply yields_bind_of (focusDomain_sets hinject hC hstill hd₃ ht)
    intro _ w₄ _ _ hboth
    exact yields_pure _ fun _ => .inl hboth
  · intro _
    exact yields_pure _ fun _ => .inr hsame

theorem switcherSwitch_settles (hd : C.sound → w.Known d) (ht : C.target d) :
    Yields (InScope C) (Routed C) (fun _ w' => Settled w w')
      (switcherSwitch inject (some d) false) w := by
  apply yields_get
  intro hw
  apply yields_ite
  · intro _
    exact yields_pure _ fun _ => .inr (refl w)
  · intro hfree _
    have hswitch := switchTo_settles hinject (w := { w with
      switcher := { w.switcher with switching := true } }) hC hstill hd ht
    rw [wlp_bind, modifySwitcher, wlp_modify, wlp_bind]
    refine wlp_mono (hswitch (hw.guard hC true)) ?_
    intro switched w₂ h₂
    obtain ⟨hscope, hrouted, hsettled⟩ := h₂
    rw [wlp_bind, modifySwitcher, wlp_modify, wlp_pure]
    refine ⟨hscope.guard hC false, hrouted.guarded rfl (Bool.eq_false_iff.mpr hfree), ?_⟩
    cases hsettled with
    | inl hboth => exact .inl hboth
    | inr hsame => exact .inr { hsame with }

theorem domainWakeFromS3_settles (p : Option DomPtr) (hd : C.sound → w.Valid p) :
    Yields (InScope C) (Routed C) (fun _ w' => Settled w w') (domainWakeFromS3 inject p) w := by
  apply yields_get
  intro hw
  cases p with
  | none => exact yields_pure _ fun _ => .inr (refl w)
  | some d =>
    apply yields_ite
    · intro _
      exact yields_pure _ fun _ => .inr (refl w)
    intro hasleep
    apply yields_bind_of ((hostPmopInProgress_routes w).of_moves (stays_ask _ w).wlp)
    intro _ w₁ _ h₁ hsame₁
    apply yields_ite
    · intro _
      exact yields_pure _ fun _ => .inr hsame₁
    · intro _
      apply yields_bind_of ((resumeDomain_routes d w₁).of_moves (resumeDomain_stays d w₁).wlp)
      intro _ w₂ _ h₂ hsame₂
      have h := h₁.trans h₂
      have hsame : Settled w w₂ := .inr (IsTrans.trans _ _ _ hsame₁ hsame₂)
      apply yields_get
      intro _
      apply yields_ite
      · intro hpvm
        have ht : C.target d :=
          hw.targets.asleep d ((h.isPvm d).symm.trans hpvm) (not_not.mp hasleep)
        have hknown (hs : C.sound) : w₂.Known d := (h.known d).mpr (hd hs d rfl)
        apply yields_bind_of (switcherSwitch_settles hinject hC hstill hknown ht)
        intro _ w₃ _ h₃ hsettled
        exact yields_pure _ fun _ => hsame.trans h₃ hsettled
      · intro _
        exact yields_pure _ fun _ => hsame

theorem wakeDomains_settles (w : World F) :
    Yields (InScope C) (Routed C) (fun _ w' => Settled w w') (wakeDomains inject) w := by
  apply yields_get
  intro hw
  apply yields_bind_of ((wiggleCtrlKey_routes _ w).of_moves (wiggleCtrlKey_stays _ w).wlp)
  intro _ w₁ _ h₁ hsame₁
  have hmouse (hs : C.sound) : w₁.Valid w.routing.mouseDest :=
    h₁.valid (hw.sound hs).mouseDest
  apply yields_bind_of (domainWakeFromS3_settles hinject hC hstill _ hmouse)
  intro _ w₂ hw₂ h₂ hsettled₂
  have h12 := hsame₁.settled.trans h₂ hsettled₂
  apply yields_get
  intro _
  apply yields_bind_of
    (domainWakeFromS3_settles hinject hC hstill _ fun hs => (hw₂.sound hs).keybDest)
  intro _ w₃ _ h₃ hsettled₃
  have h13 := h12.trans h₃ hsettled₃
  apply yields_get
  intro _
  apply yields_bind_of
    (domainWakeFromS3_settles hinject hC hstill _ fun _ a ha => known_of_firstDomain ha)
  intro _ w₄ _ h₄ hsettled₄
  have h14 := h13.trans h₄ hsettled₄
  apply ((timeoutStart_routes w₄).of_moves (timeoutStart_stays w₄).wlp).mono
  intro _ w₅ _ h₅ hsame₅
  exact h14.trans h₅ hsame₅.settled

/-- The wake-up at the first input after a pause sets both destinations, or moves none. -/
theorem wakeOnInput_settles (e : InputEvent) (w : World F) :
    Yields (InScope C) (Routed C) (fun _ w' => Settled w w') (wakeOnInput inject e) w := by
  apply yields_ite
  · intro _
    apply yields_bind_of ((timeoutExpired_routes w).of_moves (timeoutExpired_stays w).wlp)
    intro _ w₁ _ _ hsame
    apply yields_ite
    · intro _
      apply (wakeDomains_settles hinject hC hstill w₁).mono
      intro _ w₂ _ h₂ hsettled
      exact hsame.settled.trans h₂ hsettled
    · intro _
      exact yields_pure _ fun _ => .inr hsame
  · intro _
    exact yields_pure _ fun _ => .inr (refl w)

end

end InputServer
