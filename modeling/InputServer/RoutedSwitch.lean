import InputServer.RoutedRouting

namespace InputServer
open Program
set_option autoImplicit true

variable {F : Type} {C : Scope} {w : World F}

/-- What is required of an `input_inject`: it routes input, and makes no message about a slot. -/
def InjectRoutes (inject : Inject F) : Prop :=
  ∀ (C : Scope) (e : InputEvent) (slot : Int32) (type : HidType) (w : World F), e.Plain →
    slot ≠ INPUTSLOT_INVALID →
    Yields (InScope C) (Routed C) (fun e' _ => e'.Plain) (inject e slot type) w

theorem dbFlag_routes (path : String) (w : World F) : Routes C (dbFlag path) w := by
  apply yields_bind (ask_routes _ w)
  intro _ w' _ _
  apply yields_ite
  · intro _
    apply yields_bind (dbRead_routes _ w')
    intro _ w'' _ _
    exact moves_pure _
  · intro _
    exact moves_pure _

theorem switcherSelfSwitchDisabled_routes (w : World F) :
    Routes C switcherSelfSwitchDisabled w := by
  apply yields_bind (dbFlag_routes _ w)
  intro _ w' _ _
  exact moves_pure _

/-- The display goes to a domain of the scope; no nested step does that. -/
theorem modifySurface_routes (hC : ¬C.nested) (hd : C.target d) (w : World F) :
    Routes C (modifySwitcher fun s => { s with surfaceCurrent := some d }) w := by
  apply moves_modify
  intro hw
  have hrouted : Routed C w
      { w with switcher := { w.switcher with surfaceCurrent := some d } } := {
    Routed.refl C w with
    surface := .inr ⟨hC, d, hd, rfl⟩
    held := fun _ => { Held.refl w with } }
  refine ⟨hrouted.inScope hw ?_ ?_ hw.captured, hrouted⟩
  · exact { hw.tracked with diverting := { hw.tracked.diverting with } }
  · exact fun hs => { hw.sound hs with }

/-- The focus goes to a domain of the scope, and the log says so. -/
theorem takeFocus_routes (hC : ¬C.nested) (hd : C.target d) {k : WorldM F α} {w : World F}
    {P : α → World F → Prop}
    (hk : ∀ w', InScope C w' → Routed C w w' → w'.switcher.current = some d →
      w'.domains = w.domains → Yields (InScope C) (Routed C) P k w') :
    Yields (InScope C) (Routed C) P (do
      modifySwitcher fun s => { s with current := some d }
      let w ← get
      happens (.switched (w.domains d).domid)
      k) w := by
  intro hw
  have hrouted : Routed C w { w with
      switcher := { w.switcher with current := some d }
      log := w.log ++ [.switched (w.domains d).domid] } := {
    Routed.refl C w with
    log := by
      refine ⟨[.switched (w.domains d).domid], rfl, ?_⟩
      intro h hh
      rw [List.mem_singleton.mp hh]
      exact trivial
    coherent := fun hlog => hlog.snoc trivial
    current := .inr ⟨hC, d, hd, rfl⟩
    focused := by
      intro _ a ha
      cases ha
      exact lastSwitched_snoc ..
    held := fun _ => { Held.refl w with } }
  have htracked : Tracked { w with
      switcher := { w.switcher with current := some d }
      log := w.log ++ [.switched (w.domains d).domid] } := by
    refine ⟨?_, hw.tracked.pressed, { hw.tracked.diverting with }⟩
    intro a ha
    rw [devslot_snoc]
    exact hw.tracked.devslot a ha
  have hscope := hrouted.inScope hw htracked (fun hs => { hw.sound hs with }) hw.captured
  rw [wlp_bind, modifySwitcher, wlp_modify, wlp_bind, wlp_get, wlp_bind, happens, wlp_modify]
  refine wlp_mono (hk _ hscope hrouted rfl rfl hscope) ?_
  intro a w' h
  exact ⟨h.1, hrouted.trans h.2.1, h.2.2⟩

theorem switcherSwitchGraphic_routes (hC : ¬C.nested) (hd : C.target d) :
    Routes C (switcherSwitchGraphic d) w := by
  apply yields_bind (switcherSelfSwitchDisabled_routes w)
  intro _ w₁ _ _
  apply yields_get
  intro _
  apply yields_ite
  · intro _
    exact moves_pure _
  · intro _
    apply yields_bind (ask_routes _ w₁)
    intro _ w₂ _ _
    apply yields_ite
    · intro _
      apply yields_bind (modifySurface_routes hC hd w₂)
      intro _ w₃ _ _
      exact moves_pure _
    · intro _
      exact moves_pure _

theorem displaySwitched_routes (hC : ¬C.nested) (hd : C.target d) :
    Routes C (displaySwitched d) w := by
  apply yields_get
  intro _
  apply yields_ite
  · intro _
    exact moves_pure _
  · intro _
    apply yields_bind (switcherSwitchGraphic_routes hC hd)
    intro _ w' _ _
    apply yields_ite
    · intro _
      exact moves_pure _
    · intro _
      exact moves_pure _

theorem keyboardFollowsMouse_routes (w : World F) : Routes C keyboardFollowsMouse w := by
  apply yields_get
  intro _
  split
  · exact moves_pure _
  · apply yields_bind (dbFlag_routes _ w)
    intro c w' _ _
    have hfollow : Routes C (modifySwitcher fun s : Switcher =>
        { s with follow := some (c.elim false fun c => !isFalse c) }) w' := by
      apply moves_modify
      intro hw
      have hrouted : Routed C w' { w' with switcher := { w'.switcher with
          follow := some (c.elim false fun c => !isFalse c) } } :=
        { Routed.refl C w' with held := fun _ => { Held.refl w' with } }
      refine ⟨hrouted.inScope hw ?_ ?_ hw.captured, hrouted⟩
      · exact { hw.tracked with diverting := { hw.tracked.diverting with } }
      · exact fun hs => { hw.sound hs with }
    apply yields_bind hfollow
    intro _ w'' _ _
    exact moves_pure _

theorem domainMouseSwitchConfig_routes (d : DomPtr) (w : World F) :
    Routes C (domainMouseSwitchConfig d) w := by
  -- the answer is named by the state it is asked in
  have hask : Yields (InScope C) (Routed C) (fun a w' => ∃ n, a = (w'.answers n).seamlessMouse)
      (ask Answers.seamlessMouse) w := by
    apply yields_get
    intro _ hw
    have hstep : Unmoved w { w with asked := w.asked + 1 } :=
      ⟨rfl, rfl, rfl, rfl, rfl, Nat.le_succ _, rfl, rfl⟩
    obtain ⟨hscope, hrouted⟩ := hstep.step hw.captured hw
    rw [wlp_bind, wlp_set, wlp_pure]
    exact ⟨hscope, hrouted, w.asked, rfl⟩
  apply yields_bind_of hask
  intro a w' _ _ ha
  obtain ⟨n, ha⟩ := ha
  split
  · exact moves_pure _
  · rename_i left right
    apply modifyDomain_alters rfl
    · intro _
      exact {
        identity := rfl
        asleep := fun h => h
        running := fun h => h
        names := fun slot hslot => .inr ⟨n, left, right, ha.symm, hslot⟩
        prev := fun _ h => h
        held := fun _ => ⟨rfl, rfl, .inl rfl⟩
        divert := Iff.rfl
        mouse := rfl
        turned := fun _ _ _ => .inl
        remembers := fun _ _ h => h }
    · intro _ hs
      exact hs.setDomain ⟨rfl, rfl⟩ (hs.keyDomain d) rfl fun h => h

theorem switcherGetSlotType_routes (slot : Int) (w : World F) :
    Routes C (switcherGetSlotType slot) w := by
  apply yields_get
  intro _
  split
  · exact moves_pure _
  · apply yields_bind (ask_routes _ w)
    intro _ w' _ _
    split
    · exact moves_pure _
    · apply yields_ite
      · intro _
        exact moves_pure _
      intro _
      apply yields_ite
      · intro _
        exact moves_pure _
      · intro _
        exact moves_pure _

theorem switcherSwitchMakesSense_routes (fromSlot toSlot : Int) (w : World F) :
    Routes C (switcherSwitchMakesSense fromSlot toSlot) w := by
  apply yields_bind (switcherGetSlotType_routes _ w)
  intro _ w₁ _ _
  apply yields_bind (switcherGetSlotType_routes _ w₁)
  intro _ w₂ _ _
  exact moves_pure _

section
variable {inject : Inject F} (hinject : InjectRoutes inject)
include hinject

theorem turnNumlockOff_routes (w : World F) : Routes C (turnNumlockOff inject) w := by
  apply yields_get
  intro _
  split
  · exact moves_pure _
  · rename_i d hd
    apply yields_ite
    · intro _
      have hled : Routes C (modifyDomain d fun x : Domain F => { x with
          keyboardLedCode := x.keyboardLedCode &&& ~~~LED_CODE_NUMLOCK }) w := by
        apply modifyDomain_routes
        · intro x
          exact ⟨rfl, rfl, rfl, rfl, rfl, rfl, rfl, rfl⟩
        · intro _
          rfl
      apply yields_bind hled
      intro _ w₁ _ _
      apply yields_bind_of (hinject C _ _ _ w₁ (plain_key KEY_NUMLOCK 1) default_ne_invalid)
      intro e w₂ _ _ hplain
      apply yields_bind_of (hinject C { e with value := 0 } _ _ w₂ hplain default_ne_invalid)
      intro _ w₃ _ _ _
      apply yields_get
      intro _
      apply yields_bind (deref_routes _ w₃).moves
      intro _ w₄ _ _
      exact moves_pure _
    · intro _
      exact moves_pure _

theorem leaveNumlock_routes (w : World F) : Routes C (leaveNumlock inject) w := by
  apply yields_bind (inputGetNumlockRestoreOnSwitch_routes w)
  intro _ w' _ _
  apply yields_ite
  · intro _
    exact moves_pure _
  · intro _
    exact turnNumlockOff_routes hinject w'

theorem leaveKeyboard_routes (resetMouseDomain : Bool) (w : World F) :
    Routes C (leaveKeyboard inject resetMouseDomain) w := by
  apply yields_get
  intro _
  apply yields_ite
  · intro _
    apply yields_bind (inputKeyboardReset_routes _ w)
    intro _ w' _ _
    exact leaveNumlock_routes hinject w'
  · intro _
    exact moves_pure _

theorem inputSetKeyb_routes (hd : C.sound → w.Known d) : Routes C (inputSetKeyb inject d) w := by
  apply yields_bind (leaveKeyboard_routes hinject _ w)
  intro _ w₁ _ h₁
  apply yields_bind (modifyRouting_keeps rfl rfl rfl rfl rfl)
  intro _ w₂ _ h₂
  exact setKbdDomain_routes fun hs => ((h₁.trans h₂).known d).mpr (hd hs)

theorem inputSet_routes (hC : ¬C.still) (hd : C.sound → w.Known d) :
    Routes C (inputSet inject d) w := by
  apply yields_bind (leaveKeyboard_routes hinject _ w)
  intro _ w₁ _ h₁
  apply yields_bind (modifyRouting_keeps rfl rfl rfl rfl rfl)
  intro _ w₂ _ h₂
  have h := h₁.trans h₂
  apply yields_bind (setMouseDomain_routes hC fun hs => (h.known d).mpr (hd hs))
  intro _ w₃ _ h₃
  apply yields_bind (setKbdDomain_routes fun hs => ((h.trans h₃).known d).mpr (hd hs))
  intro _ w₄ _ _
  apply yields_bind (gettimeofday_routes w₄)
  intro _ w₅ _ _
  apply modifyDomain_routes
  · intro x
    exact ⟨rfl, rfl, rfl, rfl, rfl, rfl, rfl, rfl⟩
  · intro _
    rfl

theorem syncKbdDomain_routes (hd : C.sound → w.Valid d) : Routes C (syncKbdDomain inject d) w := by
  apply yields_get
  intro _
  apply yields_ite
  · intro _
    apply yields_bind_of (deref_routes d w)
    intro a w₁ _ h₁ ha
    exact inputSetKeyb_routes hinject fun hs => (h₁.known a).mpr (hd hs a ha)
  · intro _
    exact moves_pure _

theorem takeKeyboard_routes (w : World F) : Routes C (takeKeyboard inject) w := by
  apply yields_get
  intro _
  apply yields_ite
  · intro _
    apply yields_bind (inputKeyboardReset_routes _ w)
    intro _ w' _ _
    exact leaveNumlock_routes hinject w'
  · intro _
    exact leaveNumlock_routes hinject w

theorem inputGiveKeyboard_routes (hd : C.sound → w.Known d) :
    Routes C (inputGiveKeyboard inject d) w := by
  apply yields_get
  intro _
  apply yields_ite
  · intro _
    exact moves_pure _
  · intro _
    apply yields_bind (takeKeyboard_routes hinject w)
    intro _ w' _ h
    apply modifyRouting_routes rfl rfl
    · exact fun _ hmb => .inl hmb
    · exact fun _ => nofun
    · exact fun hs _ => .some ((h.known d).mpr (hd hs))
    · exact fun _ _ => .none

theorem inputReturnKeyboard_routes (d : DomPtr) (hmouse : w.routing.mouseDest ≠ none) :
    Routes C (inputReturnKeyboard inject d) w := by
  apply yields_get
  intro _
  apply yields_ite
  · intro _
    exact moves_pure _
  · intro _
    apply yields_bind (takeKeyboard_routes hinject w)
    intro _ w' _ h
    apply modifyRouting_routes rfl rfl
    · exact fun _ hmb => .inl hmb
    · exact fun _ => h.mouse hmouse
    · exact fun _ hs => hs.mouseDest
    · exact fun _ _ => .none

theorem inputGiveKeyboardFromDomain_routes (hC : ¬C.still) (ht : C.target d)
    (hkeyb : C.sound → w.Known newKeybDest) :
    Routes C (inputGiveKeyboardFromDomain inject d newKeybDest) w := by
  apply yields_get
  intro _
  apply yields_ite
  · intro _
    exact moves_pure _
  intro _
  apply yields_ite
  · intro _
    exact inputGiveKeyboard_routes hinject hkeyb
  · intro _
    apply modifyPrev_routes hC
    · intro x
      exact ⟨rfl, rfl, rfl, rfl, rfl, rfl, rfl, rfl⟩
    · intro _
      rfl
    · exact fun hs _ => prevOf_some rfl rfl (hkeyb hs)
    · exact fun hno => absurd ht hno

theorem inputReturnKeyboardToDomain_routes (hC : ¬C.still) (d prevKeybDest : DomPtr)
    (w : World F) : Routes C (inputReturnKeyboardToDomain inject d prevKeybDest) w := by
  apply yields_get
  intro _
  apply yields_ite
  · intro _
    exact moves_pure _
  intro _
  apply yields_ite
  · intro hmouse
    apply inputReturnKeyboard_routes hinject
    rw [hmouse]
    exact Option.some_ne_none d
  intro _
  apply yields_ite
  · intro _
    apply modifyPrev_routes hC
    · intro x
      exact ⟨rfl, rfl, rfl, rfl, rfl, rfl, rfl, rfl⟩
    · intro _
      rfl
    · exact fun _ _ => prevOf_none rfl
    · exact fun _ _ => rfl
  · intro _
    exact moves_pure _

omit hinject in
theorem Sound.prevKeyb (hs : Sound w) (hd : w.Known d) (h : w.prevKeyb d = some p) : w.Known p := by
  obtain ⟨hptr, htest⟩ := Option.filter_eq_some_iff.mp h
  obtain ⟨hdomid, _⟩ := of_decide_eq_true htest
  cases hs.prev d hd p hptr with
  | inl hnone => exact absurd hnone hdomid
  | inr hknown => exact hknown.1

theorem restorePrevKeybDomain_routes (hd : C.sound → w.Known d) :
    Routes C (restorePrevKeybDomain inject d) w := by
  apply yields_get
  intro hw
  split
  · exact moves_pure _
  · rename_i prev hprev
    apply inputGiveKeyboard_routes hinject
    exact fun hs => (hw.sound hs).prevKeyb (hd hs) hprev

/-- The input follows the focus. -/
theorem followFocus_routes (hstill : ¬C.still) (hd : C.sound → w.Known d) (mouseSwitch : Bool) :
    Routes C (do
      let follow ← keyboardFollowsMouse
      if mouseSwitch ∧ ¬follow then inputSetMouse d
      else do
        inputSet inject d
        let w ← get
        if (w.domains d).divertInfo.isNone then restorePrevKeybDomain inject d else pure ()) w := by
  apply yields_bind (keyboardFollowsMouse_routes w)
  intro _ w₁ _ h₁
  have hd₁ (hs : C.sound) : w₁.Known d := (h₁.known d).mpr (hd hs)
  apply yields_ite
  · intro _
    exact inputSetMouse_routes hstill hd₁
  · intro _
    apply yields_bind (inputSet_routes hinject hstill hd₁)
    intro _ w₂ _ h₂
    apply yields_get
    intro _
    apply yields_ite
    · intro _
      exact restorePrevKeybDomain_routes hinject fun hs => (h₂.known d).mpr (hd₁ hs)
    · intro _
      exact moves_pure _

theorem focusDomain_routes (hC : ¬C.nested) (hstill : ¬C.still) (hd : C.sound → w.Known d)
    (ht : C.target d) (mouseSwitch : Bool) : Routes C (focusDomain inject d mouseSwitch) w := by
  apply takeFocus_routes hC ht
  intro w₁ _ h₁ _ _
  exact followFocus_routes hinject hstill (fun hs => (h₁.known d).mpr (hd hs)) mouseSwitch

variable [Double F]

omit hinject [Double F] in
theorem rememberKeyboard_routes (hC : ¬C.still) (w : World F) : Routes C rememberKeyboard w := by
  apply yields_get
  intro _
  apply yields_ite
  · intro _
    exact moves_pure _
  · intro _
    exact savePrevKeybDomain_routes hC w

omit hinject in
theorem placePointer_routes (d : DomPtr) (mouseSwitch : Bool) (w : World F) :
    Routes C (placePointer d mouseSwitch) w := by
  apply yields_get
  intro _
  apply yields_ite
  · intro _
    exact inputDomainSetMouse_routes _ w
  · intro _
    exact moves_pure _

theorem switchTo_routes (hC : ¬C.nested) (hstill : ¬C.still) (hd : C.sound → w.Known d)
    (ht : C.target d) (mouseSwitch : Bool) : Routes C (switchTo inject d mouseSwitch) w := by
  apply yields_bind (rememberKeyboard_routes hstill w)
  intro _ w₁ _ h₁
  apply yields_bind (placePointer_routes d mouseSwitch w₁)
  intro _ w₂ _ h₂
  apply yields_bind (displaySwitched_routes hC ht)
  intro _ w₃ _ h₃
  apply yields_ite
  · intro _
    have hd₃ (hs : C.sound) : w₃.Known d := (((h₁.trans h₂).trans h₃).known d).mpr (hd hs)
    apply yields_bind (focusDomain_routes hinject hC hstill hd₃ ht mouseSwitch)
    intro _ w₄ _ _
    exact moves_pure _
  · intro _
    exact moves_pure _

omit hinject [Double F] in
/-- The guard of a switch is part of no step's frame. -/
theorem Routed.guarded {w w₁ w₂ : World F}
    (h₁ : w₁ = { w with switcher := { w.switcher with switching := true } })
    (h : Routed C w₁ w₂) (hfree : w.switcher.switching = false) :
    Routed C w { w₂ with switcher := { w₂.switcher with switching := false } } := by
  cases h₁
  exact { h with switching := hfree.symm, held := fun hs => { h.held hs with } }

omit hinject [Double F] in
theorem InScope.guard (hw : InScope C w) (hC : ¬C.nested) (switching : Bool) :
    InScope C { w with switcher := { w.switcher with switching := switching } } where
  tracked := { hw.tracked with diverting := { hw.tracked.diverting with } }
  sound hs := { hw.sound hs with }
  switching hn := absurd hn hC
  still := hw.still
  targets := { hw.targets with }
  captured := hw.captured

theorem switcherSwitch_routes (hd : C.sound → w.Valid d)
    (ht : ¬C.nested → ∀ a, d = some a → C.target a) (mouseSwitch : Bool) :
    Routes C (switcherSwitch inject d mouseSwitch) w := by
  apply yields_get
  intro hw
  cases d with
  | none => exact moves_pure _
  | some d =>
    apply yields_ite
    · intro _
      exact moves_pure _
    · intro hfree _
      have hC : ¬C.nested := fun hn => hfree (hw.switching hn)
      have hw₁ := hw.guard hC true
      have hswitch := switchTo_routes hinject (w := { w with
        switcher := { w.switcher with switching := true } }) hC (fun hs => hC (hw.still hs))
        (fun hs => hd hs d rfl) (ht hC d rfl) mouseSwitch
      rw [wlp_bind, modifySwitcher, wlp_modify, wlp_bind]
      refine wlp_mono (hswitch hw₁) ?_
      intro switched w₂ h₂
      rw [wlp_bind, modifySwitcher, wlp_modify, wlp_pure]
      exact ⟨h₂.1.guard hC false, h₂.2.1.guarded rfl (Bool.eq_false_iff.mpr hfree), trivial⟩

/-- A switch to the entry that was found with a slot. -/
theorem switchToSlot_routes (slot : Int) (mouseSwitch : Bool)
    (ht : ¬C.nested → ∀ a, w.domainWithSlot slot = some a → C.target a) :
    Routes C (switchToSlot inject slot mouseSwitch) w := by
  apply yields_get
  intro _
  apply switcherSwitch_routes hinject _ ht
  exact fun _ a ha => known_of_domainWithSlot ha

theorem switchToUivm_routes (mouseSwitch : Bool) (w : World F) :
    Routes C (switcherSwitch inject w.domainUivm mouseSwitch) w := by
  intro hw
  have ht (a : DomPtr) (ha : w.domainUivm = some a) : C.target a := hw.targets.uivm a ha
  apply switcherSwitch_routes hinject _ (fun _ => ht) mouseSwitch hw
  exact fun _ a ha => known_of_domainWithSlot ha

omit hinject [Double F] in
theorem resumeDomain_routes (d : DomPtr) (w : World F) : Routes C (resumeDomain d) w := by
  apply yields_get
  intro _
  apply yields_ite
  · intro _
    apply modifyDomain_alters rfl
    · intro _
      have h5 : (5 : Int) ≠ SWITCHER_SHUTDOWN_REBOOT := by decide
      exact {
        identity := rfl
        asleep := nofun
        running := fun _ => h5
        names := fun slot hslot => .inl ⟨d, hslot⟩
        prev := fun _ h => h
        held := fun _ => ⟨rfl, rfl, .inl rfl⟩
        divert := Iff.rfl
        mouse := rfl
        turned := fun _ _ _ => .inl
        remembers := fun _ _ h => h }
    · intro _ hs
      exact hs.setDomain ⟨rfl, rfl⟩ (hs.keyDomain d) rfl fun h => h
  · intro _
    exact moves_pure _

omit hinject [Double F] in
theorem hostPmopInProgress_routes (w : World F) : Routes C hostPmopInProgress w :=
  ask_routes _ w

theorem domainWakeFromS3_routes (hd : C.sound → w.Valid d) :
    Routes C (domainWakeFromS3 inject d) w := by
  apply yields_get
  intro hw
  cases d with
  | none => exact moves_pure _
  | some d =>
    apply yields_ite
    · intro _
      exact moves_pure _
    intro hasleep
    apply yields_bind (hostPmopInProgress_routes w)
    intro _ w₁ _ h₁
    apply yields_ite
    · intro _
      exact moves_pure _
    · intro _
      apply yields_bind (resumeDomain_routes d w₁)
      intro _ w₂ _ h₂
      have h := h₁.trans h₂
      apply yields_get
      intro _
      apply yields_ite
      · intro hpvm
        have ht : C.target d :=
          hw.targets.asleep d ((h.isPvm d).symm.trans hpvm) (not_not.mp hasleep)
        have hknown (hs : C.sound) : w₂.Valid (some d) :=
          .some ((h.known d).mpr (hd hs d rfl))
        have htarget (a : DomPtr) (ha : some d = some a) : C.target a := by
          cases ha
          exact ht
        apply yields_bind (switcherSwitch_routes hinject hknown (fun _ => htarget) false)
        intro _ w₃ _ _
        exact moves_pure _
      · intro _
        exact moves_pure _

theorem switchAcross_routes (d : DomPtr) (slot mousePosX y : Int)
    (ht : ¬C.nested → ∀ a, w.domainWithSlot slot = some a → C.target a) :
    Routes C (switchAcross inject d slot mousePosX y) w := by
  apply yields_bind (inputDomainSetMousePos_routes _ _ _ w)
  intro _ w₁ _ h₁
  have ht₁ (hn : ¬C.nested) (a : DomPtr) (ha : w₁.domainWithSlot slot = some a) : C.target a :=
    ht hn a ((h₁.domainWithSlot slot).symm.trans ha)
  apply yields_bind (switchToSlot_routes hinject slot true ht₁)
  intro _ w₂ _ _
  apply yields_ite
  · intro _
    apply yields_get
    intro _
    apply yields_bind (inputSetMousePos_routes _ _ w₂)
    intro _ w₃ _ _
    exact inputDomainSetMouse_routes _ w₃
  · intro _
    exact moves_pure _

omit hinject [Double F] in
theorem mouseEdge_named (d : DomPtr) (h : mouseEdge (w.domains d) x = some (slot, mousePosX)) :
    w.NamesSlot slot := by
  unfold mouseEdge at h
  split at h
  · cases h
    exact .inl ⟨d, .inl rfl⟩
  split at h
  · cases h
    exact .inl ⟨d, .inr rfl⟩
  · cases h

theorem switchAtEdge_routes (d : DomPtr) (x y : Int) (w : World F) :
    Routes C (switchAtEdge inject d x y) w := by
  apply yields_bind (domainMouseSwitchConfig_routes d w)
  intro _ w₁ _ _
  apply yields_get
  intro hw₁
  split
  · exact moves_pure _
  rename_i slot mousePosX hedge
  have hnamed := mouseEdge_named d hedge
  apply yields_ite
  · intro _
    exact moves_pure _
  intro _
  apply yields_bind (switcherSwitchMakesSense_routes _ _ w₁)
  intro _ w₂ _ h₂
  apply yields_ite
  · intro _
    apply yields_ite
    · intro hprev
      rw [hprev] at hnamed
      cases hsurface : w₁.switcher.surfaceCurrent with
      | none => exact moves_pure _
      | some s =>
        apply yields_ite
        · intro _
          apply switchAcross_routes hinject
          intro _ a ha
          exact hw₁.targets.back hnamed s a hsurface ((h₂.domainWithSlot _).symm.trans ha)
        · intro _
          exact moves_pure _
    · intro _
      apply yields_ite
      · intro hpos
        apply switchAcross_routes hinject
        intro _ a ha
        exact hw₁.targets.edge slot a hnamed hpos ((h₂.domainWithSlot _).symm.trans ha)
      · intro _
        exact moves_pure _
  · intro _
    exact moves_pure _

theorem switcherSwitchOnMouse_routes (e : InputEvent) (x y : Int) (w : World F) :
    Routes C (switcherSwitchOnMouse inject e x y) w := by
  apply yields_get
  intro _
  split
  · exact moves_pure _
  · apply yields_ite
    · intro _
      exact moves_pure _
    · intro _
      apply yields_bind (dbFlag_routes _ w)
      intro _ w' _ _
      apply yields_ite
      · intro _
        exact moves_pure _
      · intro _
        exact switchAtEdge_routes hinject _ x y w'

end

end InputServer
