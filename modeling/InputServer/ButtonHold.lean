import InputServer.DualDelivery

namespace InputServer
open Program
set_option autoImplicit true

/-- The statics that keep a pointer where its buttons were pressed. -/
structure Hold where
  lastD : Option DomPtr
  buttonHolding : Nat
  mouseButton : UInt32
  buttons : Fin 3 → UInt32
  mousePressed : List MouseButton

def Routing.hold {F : Type} (r : Routing F) : Hold where
  lastD := r.lastD
  buttonHolding := r.buttonHolding
  mouseButton := r.mouseButton
  buttons := r.buttons
  mousePressed := r.mousePressed

def SameHold {F : Type} (w w' : World F) : Prop :=
  w'.routing.hold = w.routing.hold

instance {F : Type} : IsPreorder (World F) SameHold where
  refl _ := rfl
  trans _ _ _ h h' := Eq.trans h' h

/-- A computation that keeps the hold; no touch has put off a press that it could send. -/
abbrev KeepsHold {F : Type} (m : WorldM F α) (w : World F) : Prop :=
  Moves (fun w => w.multitouch.Passes) SameHold m w

def InputEvent.Report (e : InputEvent) : Prop :=
  e.type = EV_SYN ∧ e.code = SYN_REPORT

/-- Behind a SYN_REPORT nothing is put off any more that would wait for a contact. -/
theorem demultitouch_reports (h : m.draining = true ∨ (m.Passes ∧ e.Report)) :
    if (demultitouch m e).action = .eventsQueued then (demultitouch m e).statics.draining = true
    else (demultitouch m e).statics.Passes := by
  by_cases hother : m.slot ≠ 0 ∨ m.draining = true
  · obtain ⟨n, hdeferred, hn, hdraining⟩ := demultitouch_deferred (e := e) hother
    rw [hdeferred]
    by_cases hpress : m.deferpressed = .nope
    · simp [MultiTouch.deferred, hn, hpress, MultiTouch.Passes]
    · have hdrain : m.draining = true := by
        refine h.resolve_right ?_
        rintro ⟨hpasses, _⟩
        obtain ⟨hslot, hidle⟩ := hpasses.resolve_right hpress
        simp [hslot, hidle] at hother
      cases hcase : m.deferpressed with
      | nope => exact absurd hcase hpress
      | sendSync => simp [MultiTouch.deferred, hn, hcase, MultiTouch.Passes]
      | sendLeft => simp [MultiTouch.deferred, hn, hcase, hdraining, hdrain]
      | sendLeftUp => simp [MultiTouch.deferred, hn, hcase, hdraining, hdrain]
  · have hslot : m.slot = 0 := not_not.mp fun h => hother (.inl h)
    have hidle : m.draining = false := Bool.eq_false_iff.mpr fun h => hother (.inr h)
    obtain ⟨_, htype, hcode⟩ := h.resolve_left fun h => hother (.inr h)
    have hreport : demultitouch m e = m.syn e := by
      unfold demultitouch
      rw [if_neg hother, if_pos htype]
    have hmt : SYN_REPORT ≠ SYN_MT_REPORT := by decide
    rw [hreport, MultiTouch.syn, hcode, if_neg hmt, if_pos rfl]
    by_cases hpress : m.deferpressed = .nope
    · simp [hpress, MultiTouch.Passes, hslot, hidle]
    · simp [hpress]

section
variable {F : Type} {w : World F}

theorem sendToVkbd_reports (d : DomPtr) (fuel : Nat)
    (h : w.multitouch.draining = true ∨ (w.multitouch.Passes ∧ e.Report)) :
    wlp (sendToVkbd d fuel e) (fun _ w' => w'.multitouch.Passes) w := by
  induction fuel generalizing e w with
  | zero => exact wlp_throw _ _ w
  | succ fuel ih =>
    have hnext := demultitouch_reports h
    rw [sendToVkbd, wlp_bind, wlp_get]
    dsimp only
    rw [wlp_bind, wlp_set]
    apply wlp_ite
    · intro hdiscarded
      rw [hdiscarded, if_neg (by decide)] at hnext
      exact (wlp_pure _ _ _).mpr hnext
    · intro _
      rw [wlp_bind]
      refine wlp_mono (xenVkbdSendEvent_multitouch d _ _) ?_
      intro _ w₁ h₁
      apply wlp_ite
      · intro hqueued
        rw [if_pos hqueued] at hnext
        apply ih
        left
        rw [h₁]
        exact hnext
      · intro hsent
        rw [if_neg hsent] at hnext
        rw [wlp_pure, h₁]
        exact hnext

theorem inputSend_reports (d : Option DomPtr) (slot : Int32) (he : e.Report)
    (h : w.multitouch.Passes) :
    wlp (inputSend d slot e) (fun _ w' => w'.multitouch.Passes) w := by
  rw [inputSend, wlp_bind, wlp_get]
  cases d with
  | none => exact (wlp_pure _ _ w).mpr h
  | some d =>
    apply wlp_ite
    · intro _
      rw [wlp_bind, onPlug, wlp_zoom]
      intro _ p _
      exact (wlp_pure _ _ _).mpr h
    intro _
    apply wlp_ite
    · intro _
      exact sendToVkbd_reports d 3 (.inr ⟨h, he⟩)
    · intro _
      rw [wlp_bind]
      refine wlp_mono (selectDevslot_multitouch slot w) ?_
      intro _ w₁ h₁
      rw [wlp_bind]
      refine wlp_mono (dom0InputEvent_multitouch (.input slot) e w₁) ?_
      intro _ w₂ h₂
      rw [wlp_pure, h₂, h₁]
      exact h

theorem SendFrame.sameHold {w w' : World F} (h : SendFrame w w') : SameHold w w' :=
  congrArg Routing.hold h.routing

/-- A key or a coordinate comes back as it was sent. -/
theorem keepsHold_sent (d : Option DomPtr) (slot : Int32) (he : e.Single)
    {k : InputEvent → WorldM F α} {P : α → World F → Prop}
    (hk : ∀ w', Yields (fun w => w.multitouch.Passes) SameHold P (k e) w') :
    Yields (fun w => w.multitouch.Passes) SameHold P (inputSend d slot e >>= k) w := by
  have hsend : Yields (fun w => w.multitouch.Passes) SameHold (fun e' _ => e' = e)
      (inputSend d slot e) w := by
    intro hpasses e' w' hrun
    have hframe := (frames_inputSend d slot e w trivial e' w' hrun).2.1
    obtain ⟨hkept, hsame⟩ := inputSend_single d slot he e' w' hrun
    exact ⟨hkept hpasses, hframe.sameHold, hsame fun _ _ _ => hpasses⟩
  apply yields_bind_of hsend
  rintro _ w' _ _ rfl
  exact hk w'

theorem keepsHold_reported (d : Option DomPtr) (slot : Int32) (he : e.Report) :
    KeepsHold (discard (inputSend d slot e)) w := by
  apply moves_discard
  intro hpasses e' w' hrun
  have hframe := (frames_inputSend d slot e w trivial e' w' hrun).2.1
  exact ⟨inputSend_reports d slot he hpasses e' w' hrun, hframe.sameHold, trivial⟩

theorem keepsHold_ask (f : Answers → α) (w : World F) : KeepsHold (ask f) w := by
  apply yields_get
  intro _ hpasses
  rw [wlp_bind, wlp_set, wlp_pure]
  exact ⟨hpasses, rfl, trivial⟩

theorem keepsHold_modifyDomain (d : DomPtr) (f : Domain F → Domain F) (w : World F) :
    KeepsHold (modifyDomain d f) w :=
  moves_modify fun hpasses => ⟨hpasses, rfl⟩

theorem keepsHold_modifySwitcher (f : Switcher → Switcher) (w : World F) :
    KeepsHold (modifySwitcher f) w :=
  moves_modify fun hpasses => ⟨hpasses, rfl⟩

theorem keepsHold_modifyRouting {f : Routing F → Routing F} (hf : ∀ r, (f r).hold = r.hold)
    (w : World F) : KeepsHold (modifyRouting f) w :=
  moves_modify fun hpasses => ⟨hpasses, hf w.routing⟩

theorem keepsHold_happens (h : Happening) (w : World F) : KeepsHold (happens h) w :=
  moves_modify fun hpasses => ⟨hpasses, rfl⟩

theorem keepsHold_deref (d : Option DomPtr) (w : World F) : KeepsHold (deref d) w := by
  cases d with
  | none => exact yields_throw _
  | some d => exact moves_pure _

theorem resetKeys_keepsHold (resetMouseDomain : Bool) (keys : List Nat) (w : World F) :
    KeepsHold (resetKeys resetMouseDomain keys) w := by
  induction keys generalizing w with
  | nil => exact moves_pure _
  | cons i keys ih =>
    apply yields_get
    intro _
    apply yields_ite
    · intro _
      have hset : KeepsHold (set { w with keyStatus := Function.update w.keyStatus i false }) w :=
        fun hpasses => (wlp_set _ _ w).mpr ⟨hpasses, rfl, trivial⟩
      apply yields_bind hset
      intro _ w₁ _ _
      apply keepsHold_sent _ _ (single_key _ _)
      intro w₂
      apply yields_get
      intro _
      apply yields_ite
      · intro _
        apply keepsHold_sent _ _ (single_key _ _)
        exact ih
      · intro _
        exact ih w₂
    · intro _
      exact ih w

theorem inputKeyboardReset_keepsHold (resetMouseDomain : Bool) (w : World F) :
    KeepsHold (inputKeyboardReset resetMouseDomain) w := by
  apply yields_get
  intro _
  apply yields_ite
  · intro _
    exact moves_pure _
  · intro _
    exact resetKeys_keepsHold _ _ w

theorem setKbdDomain_keepsHold (d : DomPtr) (w : World F) : KeepsHold (setKbdDomain d) w := by
  apply yields_get
  intro _
  cases w.diverted d DivertInfo.keyDomain with
  | none =>
    apply keepsHold_modifyRouting
    exact fun _ => rfl
  | some key =>
    apply keepsHold_modifyRouting
    exact fun _ => rfl

theorem setMouseDomain_keepsHold (d : DomPtr) (w : World F) :
    KeepsHold (setMouseDomain d) w := by
  apply yields_get
  intro _
  cases w.diverted d DivertInfo.mouseDomain with
  | none =>
    apply keepsHold_modifyRouting
    exact fun _ => rfl
  | some mouse =>
    apply keepsHold_modifyRouting
    exact fun _ => rfl

theorem inputSetMouse_keepsHold (d : DomPtr) (w : World F) : KeepsHold (inputSetMouse d) w := by
  apply yields_bind
  · apply keepsHold_modifyRouting
    exact fun _ => rfl
  intro _ w₁ _ _
  exact setMouseDomain_keepsHold d w₁

theorem dbFlag_keepsHold (path : String) (w : World F) : KeepsHold (dbFlag path) w := by
  apply yields_bind (keepsHold_ask _ w)
  intro _ w₁ _ _
  apply yields_ite
  · intro _
    apply yields_bind (keepsHold_ask _ w₁)
    intro _ w₂ _ _
    exact moves_pure _
  · intro _
    exact moves_pure _

theorem keyboardFollowsMouse_keepsHold (w : World F) : KeepsHold keyboardFollowsMouse w := by
  apply yields_get
  intro _
  cases w.switcher.follow with
  | some follow => exact moves_pure _
  | none =>
    apply yields_bind (dbFlag_keepsHold _ w)
    intro _ w₁ _ _
    apply yields_bind (keepsHold_modifySwitcher _ w₁)
    intro _ w₂ _ _
    exact moves_pure _

theorem displaySwitched_keepsHold (d : DomPtr) (w : World F) :
    KeepsHold (displaySwitched d) w := by
  have hgraphic : KeepsHold (switcherSwitchGraphic d) w := by
    have hdisabled : KeepsHold switcherSelfSwitchDisabled w := by
      apply yields_bind (dbFlag_keepsHold _ w)
      intro _ w₁ _ _
      exact moves_pure _
    apply yields_bind hdisabled
    intro _ w₁ _ _
    apply yields_get
    intro _
    apply yields_ite
    · intro _
      exact moves_pure _
    · intro _
      apply yields_bind (keepsHold_ask _ w₁)
      intro _ w₂ _ _
      apply yields_ite
      · intro _
        apply yields_bind (keepsHold_modifySwitcher _ w₂)
        intro _ w₃ _ _
        exact moves_pure _
      · intro _
        exact moves_pure _
  apply yields_get
  intro _
  apply yields_ite
  · intro _
    exact moves_pure _
  · intro _
    apply yields_bind hgraphic
    intro _ w₁ _ _
    apply yields_ite
    · intro _
      exact moves_pure _
    · intro _
      exact moves_pure _

theorem rememberKeyboard_keepsHold (w : World F) : KeepsHold rememberKeyboard w := by
  apply yields_get
  intro _
  apply yields_ite
  · intro _
    exact moves_pure _
  · intro _
    apply yields_get
    intro _
    split
    · apply yields_ite
      · intro _
        exact keepsHold_modifyDomain _ _ w
      · intro _
        exact keepsHold_modifyDomain _ _ w
    · exact moves_pure _

theorem inputDomainSetMousePos_keepsHold (d : Option DomPtr) (x y : Int32) (w : World F) :
    KeepsHold (inputDomainSetMousePos d x y) w := by
  apply yields_ite
  · intro _
    exact moves_pure _
  · intro _
    have hx : InputEvent.Single { type := EV_ABS, code := ABS_X, value := x } :=
      ⟨nofun, fun _ => .inl rfl⟩
    have hy : InputEvent.Single { type := EV_ABS, code := ABS_Y, value := y } :=
      ⟨nofun, fun _ => .inr rfl⟩
    apply keepsHold_sent d _ hx
    intro w₁
    apply keepsHold_sent d _ hy
    intro w₂
    exact keepsHold_reported d _ ⟨rfl, rfl⟩

theorem wiggleCtrlKey_keepsHold (d : Option DomPtr) (w : World F) :
    KeepsHold (wiggleCtrlKey d) w := by
  apply yields_get
  intro _
  apply yields_ite
  · intro _
    exact moves_pure _
  · intro _
    apply keepsHold_sent _ _ (single_key _ _)
    intro w₁
    apply keepsHold_sent _ _ (single_key _ _)
    intro w₂
    exact moves_pure _

theorem resumeDomain_keepsHold (d : DomPtr) (w : World F) : KeepsHold (resumeDomain d) w := by
  apply yields_get
  intro _
  apply yields_ite
  · intro _
    exact keepsHold_modifyDomain d _ w
  · intro _
    exact moves_pure _

theorem timeoutStart_keepsHold (w : World F) : KeepsHold timeoutStart w := by
  apply yields_bind (keepsHold_ask _ w)
  intro _ w₁ _ _
  apply keepsHold_modifyRouting
  exact fun _ => rfl

end

def numlockKey (value : Int32) : InputEvent :=
  { type := EV_KEY, code := KEY_NUMLOCK, value := value }

/-- What is required of the `input_inject` that turns NumLock off: the key comes back. -/
def KeepsNumlock {F : Type} (inject : Inject F) : Prop :=
  ∀ value w, Yields (fun w => w.multitouch.Passes) SameHold (fun e' _ => e' = numlockKey value)
    (inject (numlockKey value) INPUTSLOT_DEFAULT .keyboard) w

section
variable {F : Type} {inject : Inject F} (hinject : KeepsNumlock inject)
include hinject

theorem turnNumlockOff_keepsHold (w : World F) : KeepsHold (turnNumlockOff inject) w := by
  apply yields_get
  intro _
  cases w.routing.keybDest with
  | none => exact moves_pure _
  | some d =>
    apply yields_ite
    · intro _
      apply yields_bind (keepsHold_modifyDomain d _ w)
      intro _ w₁ _ _
      apply yields_bind_of (hinject 1 w₁)
      rintro _ w₂ _ _ rfl
      apply yields_bind_of (hinject 0 w₂)
      intro _ w₃ _ _ _
      apply yields_get
      intro _
      exact moves_discard (keepsHold_deref _ w₃)
    · intro _
      exact moves_pure _

theorem leaveNumlock_keepsHold (w : World F) : KeepsHold (leaveNumlock inject) w := by
  have hrestore : KeepsHold inputGetNumlockRestoreOnSwitch w := by
    apply yields_bind (keepsHold_ask _ w)
    intro _ w₁ _ _
    exact moves_pure _
  apply yields_bind hrestore
  intro _ w₁ _ _
  apply yields_ite
  · intro _
    exact moves_pure _
  · intro _
    exact turnNumlockOff_keepsHold hinject w₁

theorem leaveKeyboard_keepsHold (resetMouseDomain : Bool) (w : World F) :
    KeepsHold (leaveKeyboard inject resetMouseDomain) w := by
  apply yields_get
  intro _
  apply yields_ite
  · intro _
    apply yields_bind (inputKeyboardReset_keepsHold _ w)
    intro _ w₁ _ _
    exact leaveNumlock_keepsHold hinject w₁
  · intro _
    exact moves_pure _

theorem inputSetKeyb_keepsHold (d : DomPtr) (w : World F) :
    KeepsHold (inputSetKeyb inject d) w := by
  apply yields_bind (leaveKeyboard_keepsHold hinject _ w)
  intro _ w₁ _ _
  apply yields_bind
  · apply keepsHold_modifyRouting
    exact fun _ => rfl
  intro _ w₂ _ _
  exact setKbdDomain_keepsHold d w₂

theorem inputSet_keepsHold (d : DomPtr) (w : World F) : KeepsHold (inputSet inject d) w := by
  apply yields_bind (leaveKeyboard_keepsHold hinject _ w)
  intro _ w₁ _ _
  apply yields_bind
  · apply keepsHold_modifyRouting
    exact fun _ => rfl
  intro _ w₂ _ _
  apply yields_bind (setMouseDomain_keepsHold d w₂)
  intro _ w₃ _ _
  apply yields_bind (setKbdDomain_keepsHold d w₃)
  intro _ w₄ _ _
  apply yields_bind (keepsHold_ask _ w₄)
  intro _ w₅ _ _
  exact keepsHold_modifyDomain d _ w₅

theorem syncKbdDomain_keepsHold (d : Option DomPtr) (w : World F) :
    KeepsHold (syncKbdDomain inject d) w := by
  apply yields_get
  intro _
  apply yields_ite
  · intro _
    apply yields_bind (keepsHold_deref d w)
    intro d w₁ _ _
    exact inputSetKeyb_keepsHold hinject d w₁
  · intro _
    exact moves_pure _

theorem inputGiveKeyboard_keepsHold (d : DomPtr) (w : World F) :
    KeepsHold (inputGiveKeyboard inject d) w := by
  have htake : KeepsHold (takeKeyboard inject) w := by
    apply yields_get
    intro _
    apply yields_ite
    · intro _
      apply yields_bind (inputKeyboardReset_keepsHold _ w)
      intro _ w₁ _ _
      exact leaveNumlock_keepsHold hinject w₁
    · intro _
      exact leaveNumlock_keepsHold hinject w
  apply yields_get
  intro _
  apply yields_ite
  · intro _
    exact moves_pure _
  · intro _
    apply yields_bind htake
    intro _ w₁ _ _
    apply keepsHold_modifyRouting
    exact fun _ => rfl

theorem focusDomain_keepsHold (d : DomPtr) (mouseSwitch : Bool) (w : World F) :
    KeepsHold (focusDomain inject d mouseSwitch) w := by
  have hrestore (w : World F) : KeepsHold (restorePrevKeybDomain inject d) w := by
    apply yields_get
    intro _
    cases w.prevKeyb d with
    | none => exact moves_pure _
    | some prev => exact inputGiveKeyboard_keepsHold hinject prev w
  apply yields_bind (keepsHold_modifySwitcher _ w)
  intro _ w₁ _ _
  apply yields_get
  intro _
  apply yields_bind (keepsHold_happens _ w₁)
  intro _ w₂ _ _
  apply yields_bind (keyboardFollowsMouse_keepsHold w₂)
  intro _ w₃ _ _
  apply yields_ite
  · intro _
    exact inputSetMouse_keepsHold d w₃
  · intro _
    apply yields_bind (inputSet_keepsHold hinject d w₃)
    intro _ w₄ _ _
    apply yields_get
    intro _
    apply yields_ite
    · intro _
      exact hrestore w₄
    · intro _
      exact moves_pure _

variable [Double F]

theorem switchTo_keepsHold (d : DomPtr) (mouseSwitch : Bool) (w : World F) :
    KeepsHold (switchTo inject d mouseSwitch) w := by
  have hplace (w : World F) : KeepsHold (placePointer d mouseSwitch) w := by
    apply yields_get
    intro _
    apply yields_ite
    · intro _
      apply yields_get
      intro _
      exact inputDomainSetMousePos_keepsHold _ _ _ w
    · intro _
      exact moves_pure _
  apply yields_bind (rememberKeyboard_keepsHold w)
  intro _ w₁ _ _
  apply yields_bind (hplace w₁)
  intro _ w₂ _ _
  apply yields_bind (displaySwitched_keepsHold d w₂)
  intro _ w₃ _ _
  apply yields_ite
  · intro _
    apply yields_bind (focusDomain_keepsHold hinject d mouseSwitch w₃)
    intro _ w₄ _ _
    exact moves_pure _
  · intro _
    exact moves_pure _

theorem switcherSwitch_keepsHold (d : Option DomPtr) (mouseSwitch : Bool) (w : World F) :
    KeepsHold (switcherSwitch inject d mouseSwitch) w := by
  apply yields_get
  intro _
  cases d with
  | none => exact moves_pure _
  | some d =>
    apply yields_ite
    · intro _
      exact moves_pure _
    · intro _
      apply yields_bind (keepsHold_modifySwitcher _ w)
      intro _ w₁ _ _
      apply yields_bind (switchTo_keepsHold hinject d mouseSwitch w₁)
      intro _ w₂ _ _
      apply yields_bind (keepsHold_modifySwitcher _ w₂)
      intro _ w₃ _ _
      exact moves_pure _

theorem domainWakeFromS3_keepsHold (d : Option DomPtr) (w : World F) :
    KeepsHold (domainWakeFromS3 inject d) w := by
  apply yields_get
  intro _
  cases d with
  | none => exact moves_pure _
  | some d =>
    apply yields_ite
    · intro _
      exact moves_pure _
    intro _
    apply yields_bind (keepsHold_ask _ w)
    intro _ w₁ _ _
    apply yields_ite
    · intro _
      exact moves_pure _
    intro _
    apply yields_bind (resumeDomain_keepsHold d w₁)
    intro _ w₂ _ _
    apply yields_get
    intro _
    apply yields_ite
    · intro _
      exact moves_discard (switcherSwitch_keepsHold hinject _ _ w₂)
    · intro _
      exact moves_pure _

theorem wakeOnInput_keepsHold (e : InputEvent) (w : World F) :
    KeepsHold (wakeOnInput inject e) w := by
  have hexpired : KeepsHold timeoutExpired w := by
    apply yields_bind (keepsHold_ask _ w)
    intro _ w₁ _ _
    apply yields_get
    intro _
    exact moves_pure _
  have hwake (w : World F) : KeepsHold (wakeDomains inject) w := by
    apply yields_get
    intro _
    apply yields_bind (wiggleCtrlKey_keepsHold _ w)
    intro _ w₁ _ _
    apply yields_bind (domainWakeFromS3_keepsHold hinject _ w₁)
    intro _ w₂ _ _
    apply yields_get
    intro _
    apply yields_bind (domainWakeFromS3_keepsHold hinject _ w₂)
    intro _ w₃ _ _
    apply yields_get
    intro _
    apply yields_bind (domainWakeFromS3_keepsHold hinject _ w₃)
    intro _ w₄ _ _
    exact timeoutStart_keepsHold w₄
  apply yields_ite
  · intro _
    apply yields_bind hexpired
    intro _ w₁ _ _
    apply yields_ite
    · intro _
      exact hwake w₁
    · intro _
      exact moves_pure _
  · intro _
    exact moves_pure _

theorem switchAcross_keepsHold (d : DomPtr) (slot mousePosX y : Int) (w : World F) :
    KeepsHold (switchAcross inject d slot mousePosX y) w := by
  apply yields_bind (inputDomainSetMousePos_keepsHold _ _ _ w)
  intro _ w₁ _ _
  have hslot : KeepsHold (switchToSlot inject slot true) w₁ := by
    apply yields_get
    intro _
    exact switcherSwitch_keepsHold hinject _ _ w₁
  apply yields_bind hslot
  intro _ w₂ _ _
  apply yields_ite
  · intro _
    apply yields_get
    intro _
    apply yields_bind
    · apply keepsHold_modifyRouting
      exact fun _ => rfl
    intro _ w₃ _ _
    apply yields_get
    intro _
    exact inputDomainSetMousePos_keepsHold _ _ _ w₃
  · intro _
    exact moves_pure _

theorem switchAtEdge_keepsHold (d : DomPtr) (x y : Int) (w : World F) :
    KeepsHold (switchAtEdge inject d x y) w := by
  have hconfig : KeepsHold (domainMouseSwitchConfig d) w := by
    apply yields_bind (keepsHold_ask _ w)
    intro found w₁ _ _
    cases found with
    | none => exact moves_pure _
    | some sides => exact keepsHold_modifyDomain d _ w₁
  have htype (slot : Int) (w : World F) : KeepsHold (switcherGetSlotType slot) w := by
    apply yields_get
    intro _
    cases w.domainWithSlot slot with
    | none => exact moves_pure _
    | some d =>
      apply yields_bind (keepsHold_ask _ w)
      intro v w₁ _ _
      cases v with
      | none => exact moves_pure _
      | some v =>
        apply yields_ite
        · intro _
          exact moves_pure _
        intro _
        apply yields_ite
        · intro _
          exact moves_pure _
        · intro _
          exact moves_pure _
  have hsense (a b : Int) (w : World F) : KeepsHold (switcherSwitchMakesSense a b) w := by
    apply yields_bind (htype a w)
    intro _ w₁ _ _
    apply yields_bind (htype b w₁)
    intro _ w₂ _ _
    exact moves_pure _
  apply yields_bind hconfig
  intro _ w₁ _ _
  apply yields_get
  intro _
  cases mouseEdge (w₁.domains d) x with
  | none => exact moves_pure _
  | some side =>
    apply yields_ite
    · intro _
      exact moves_pure _
    intro _
    apply yields_bind (hsense _ _ w₁)
    intro _ w₂ _ _
    apply yields_ite
    · intro _
      apply yields_ite
      · intro _
        cases w₁.switcher.surfaceCurrent with
        | none => exact moves_pure _
        | some s =>
          apply yields_ite
          · intro _
            exact switchAcross_keepsHold hinject d _ _ y w₂
          · intro _
            exact moves_pure _
      intro _
      apply yields_ite
      · intro _
        exact switchAcross_keepsHold hinject d _ _ y w₂
      · intro _
        exact moves_pure _
    · intro _
      exact moves_pure _

theorem switcherSwitchOnMouse_keepsHold (e : InputEvent) (x y : Int) (w : World F) :
    KeepsHold (switcherSwitchOnMouse inject e x y) w := by
  apply yields_get
  intro _
  cases w.switcher.current with
  | none => exact moves_pure _
  | some d =>
    apply yields_ite
    · intro _
      exact moves_pure _
    intro _
    apply yields_bind (dbFlag_keepsHold _ w)
    intro _ w₁ _ _
    apply yields_ite
    · intro _
      exact moves_pure _
    · intro _
      exact switchAtEdge_keepsHold hinject d x y w₁

omit hinject [Double F] in
theorem readResistance_reads (w : World F) :
    wlp readResistance (fun _ w' => SameHold w w' ∧ w'.routing.mouseX = w.routing.mouseX ∧
      w'.multitouch = w.multitouch) w := by
  intro resistance w' hrun
  unfold readResistance at hrun
  rw [bind_ok (get_apply w)] at hrun
  by_cases hread : w.routing.resistance ≠ -1
  · rw [if_pos hread] at hrun
    cases hrun
    exact ⟨rfl, rfl, rfl⟩
  · rw [if_neg hread] at hrun
    obtain ⟨known, w₁, hknown, hrun⟩ := run_bind hrun
    have hasked : w₁.routing = w.routing ∧ w₁.multitouch = w.multitouch := by
      cases hknown
      exact ⟨rfl, rfl⟩
    have hhold : SameHold w w₁ := congrArg Routing.hold hasked.1
    have hx := congrArg Routing.mouseX hasked.1
    cases known with
    | true =>
      cases hrun
      exact ⟨hhold, hx, hasked.2⟩
    | false =>
      cases hrun
      exact ⟨hhold, hx, hasked.2⟩

/-- The pointer is at the left or the right side of the screen. -/
def World.AtEdge (w : World F) : Prop :=
  ¬(MIN_MOUSE_ABS_X < Double.trunc w.routing.mouseX ∧
    Double.trunc w.routing.mouseX < MAX_MOUSE_ABS_X)

/-- Only at a side of the screen a movement may switch to a neighbour. -/
theorem mouseSwitch_sameHold {e : InputEvent} (val : Int32) {w : World F}
    (h : e.type = EV_ABS → w.AtEdge → w.multitouch.Passes) :
    wlp (mouseSwitch inject e val) (fun _ w' => SameHold w w') w := by
  rw [mouseSwitch, wlp_bind]
  refine wlp_mono (readResistance_reads w) ?_
  rintro resistance w₁ ⟨h₁, hx, hm⟩
  rw [wlp_bind, wlp_get]
  apply wlp_ite
  · intro _
    by_cases hedge : e.type = EV_ABS ∧ w.AtEdge
    · have hpasses : w₁.multitouch.Passes := by
        rw [hm]
        exact h hedge.1 hedge.2
      refine wlp_mono (switcherSwitchOnMouse_keepsHold hinject e _ _ w₁ hpasses) ?_
      intro _ w₂ h₂
      exact IsTrans.trans _ _ _ h₁ h₂.2.1
    · have hnone (d : DomPtr) : e.type ≠ EV_ABS ∨ ¬(w₁.domains d).supportsAbs = true ∨
          (MIN_MOUSE_ABS_X < Double.trunc w₁.routing.mouseX ∧
            Double.trunc w₁.routing.mouseX < MAX_MOUSE_ABS_X) := by
        rw [hx]
        by_cases htype : e.type = EV_ABS
        · exact .inr (.inr (not_not.mp fun h => hedge ⟨htype, h⟩))
        · exact .inl htype
      rw [switcherSwitchOnMouse, wlp_bind, wlp_get]
      cases w₁.switcher.current with
      | none => exact (wlp_pure _ _ _).mpr h₁
      | some d =>
        dsimp only
        rw [if_pos (hnone d)]
        exact (wlp_pure _ _ _).mpr h₁
  · intro _
    exact (wlp_pure _ _ _).mpr h₁

end

theorem InputEvent.single_of_key {e : InputEvent} (he : e.type = EV_KEY) : e.Single := by
  have hsyn : EV_KEY ≠ EV_SYN := by decide
  have habs : EV_KEY ≠ EV_ABS := by decide
  refine ⟨?_, ?_⟩
  · rw [he]
    exact hsyn
  · rw [he]
    exact fun h => absurd h habs

section
variable {F : Type}

theorem sendCodes_keepsHold (d : DomPtr) (codes : List UInt16) {e : InputEvent}
    (he : e.type = EV_KEY) (w : World F) :
    Yields (fun w => w.multitouch.Passes) SameHold (fun e' _ => e'.type = EV_KEY)
      (sendCodes d codes e) w := by
  induction codes generalizing e w with
  | nil => exact yields_pure _ fun _ => he
  | cons code codes ih =>
    have hcode : InputEvent.type { e with code := code } = EV_KEY := he
    apply keepsHold_sent _ _ (InputEvent.single_of_key hcode)
    exact ih hcode

theorem sendKeypair_keepsHold (kp : KeyPair) (dv : DivertInfo) (d : DomPtr) (w : World F) :
    KeepsHold (sendKeypair kp dv d) w := by
  apply yields_bind_of (sendCodes_keepsHold d _ rfl w)
  intro e w₁ _ _ he
  have hkey (code : UInt16) (value : Int32) :
      InputEvent.type { type := e.type, code := code, value := value } = EV_KEY := he
  apply keepsHold_sent _ _ (InputEvent.single_of_key (hkey _ _))
  intro w₂
  apply keepsHold_sent _ _ (InputEvent.single_of_key (hkey _ _))
  intro w₃
  exact moves_discard (sendCodes_keepsHold d _ (hkey _ _) w₃).moves

theorem filterKeys_keepsHold (e : InputEvent) (w : World F) : KeepsHold (filterKeys e) w := by
  have hfilter (keylist : List KeyPair) (dv : DivertInfo) (parent : DomPtr) :
      KeepsHold (filterWith keylist dv parent e) w := by
    apply yields_bind
    · apply keepsHold_modifyRouting
      exact fun _ => rfl
    intro _ w₁ _ _
    apply yields_get
    intro _
    split
    · exact moves_pure _
    · apply yields_ite
      · intro _
        apply yields_bind (sendKeypair_keepsHold _ _ _ w₁)
        intro _ w₂ _ _
        exact moves_pure _
      · intro _
        exact moves_pure _
  apply yields_get
  intro _
  apply yields_ite
  · intro _
    exact moves_pure _
  intro _
  cases w.routing.keybParent with
  | none => exact moves_pure _
  | some parent =>
    dsimp only
    cases (w.domains parent).divertInfo with
    | none => exact moves_pure _
    | some dv =>
      dsimp only
      cases dv.keylist with
      | none => exact moves_pure _
      | some keylist => exact hfilter keylist dv parent

/-- A delivery of a key that nobody changes. -/
theorem deliver_keepsHold (d : Option DomPtr) (slot : Int32) {e : InputEvent} (he : e.Single)
    (w : World F) :
    Yields (fun w => w.multitouch.Passes) SameHold (fun e' _ => e' = e) (deliver d e slot) w := by
  have hsend (d : Option DomPtr) (w : World F) : Yields (fun w => w.multitouch.Passes) SameHold
      (fun e' _ => e' = e) (inputSend d slot e) w := by
    rw [← bind_pure (inputSend d slot e)]
    apply keepsHold_sent d slot he
    intro w₁
    exact yields_pure _ fun _ => rfl
  have hmouse (w : World F) : Yields (fun w => w.multitouch.Passes) SameHold
      (fun e' _ => e' = e) (do
        let w ← get
        if inputInjectSeamlessMouse w.keyStatus e then inputSend w.routing.mouseDest slot e
        else pure e) w := by
    apply yields_get
    intro _
    apply yields_ite
    · intro _
      exact hsend _ w
    · intro _
      exact yields_pure _ fun _ => rfl
  apply yields_get
  intro _
  apply yields_ite
  · intro _
    apply yields_get
    intro _
    apply yields_ite
    · intro _
      apply keepsHold_sent _ slot he
      exact hmouse
    · intro _
      exact hmouse w
  · intro _
    exact hsend d w

theorem injectKey_numlock [Double F] (inject : Inject F) (d : Option DomPtr) (value : Int32) (w : World F) :
    Yields (fun w => w.multitouch.Passes) SameHold (fun dest _ => dest.2 = numlockKey value)
      (injectKey inject d (numlockKey value) INPUTSLOT_DEFAULT) w := by
  have hother : KEY_NUMLOCK ≠ KEY_SYSRQ ∧ KEY_NUMLOCK ≠ KEY_SWITCHVIDEOMODE ∧
      EV_KEY ≠ EV_MSC := by decide
  have hsysrq : ¬((numlockKey value).type = EV_KEY ∧ (numlockKey value).code = KEY_SYSRQ) :=
    fun h => hother.1 h.2
  have hmain : ¬isMainButton (numlockKey value) = true := by
    intro h
    exact hother.2.2 (of_decide_eq_true h).1
  have hvideo : ¬((numlockKey value).type = EV_KEY ∧
      (numlockKey value).code = KEY_SWITCHVIDEOMODE) := fun h => hother.2.1 h.2
  apply yields_bind (filterKeys_keepsHold _ w)
  intro _ w₁ _ _
  apply yields_ite
  · intro _
    exact yields_pure _ fun _ => rfl
  intro _
  rw [printScreenRefused, if_neg hsysrq, pure_bind, if_neg Bool.false_ne_true, if_neg hmain,
    if_neg hvideo]
  apply yields_get
  intro _
  cases w₁.routing.keybDest with
  | none => exact yields_pure _ fun _ => rfl
  | some keyb => exact yields_pure _ fun _ => rfl

theorem eventIsKeyboard_numlock (value : Int32) (w : World F) :
    Yields (fun w => w.multitouch.Passes) SameHold (fun isKey _ => isKey = true)
      (eventIsKeyboard INPUTSLOT_DEFAULT (numlockKey value)) w := by
  have hdevice : ¬((0 : Int32) ≤ INPUTSLOT_DEFAULT ∧
      w.types INPUTSLOT_DEFAULT.toInt.toNat ≠ some .keyboard) := fun h => absurd h.1 (by decide)
  have hcode : KEY_NUMLOCK < BTN_MOUSE := by decide
  have hkey : (((numlockKey value).type = EV_KEY ∧ (numlockKey value).code < BTN_MOUSE) ∨
      ((numlockKey value).type = EV_MSC ∧ (numlockKey value).code = MSC_SCAN)) :=
    .inl ⟨rfl, hcode⟩
  apply yields_get
  intro _
  dsimp only
  rw [if_neg hdevice, if_pos hkey]
  apply yields_bind
  · apply keepsHold_modifyRouting
    exact fun _ => rfl
  intro _ w₁ _ _
  exact yields_pure _ fun _ => rfl

/-- However deep it is called, `input_inject` keeps the hold when it turns NumLock off. -/
theorem inputInject_keepsNumlock [Double F] (depth : Nat) :
    KeepsNumlock (inputInject depth : Inject F) := by
  induction depth with
  | zero =>
    intro value w
    exact yields_throw _
  | succ depth ih =>
    intro value w
    apply yields_get
    intro _
    apply yields_bind (wakeOnInput_keepsHold ih _ w)
    intro _ w₁ _ _
    have hroute : Yields (fun w => w.multitouch.Passes) SameHold
        (fun dest _ => dest.2 = numlockKey value)
        (routeEvent (inputInject depth) w.routing.mouseDest (numlockKey value)
          INPUTSLOT_DEFAULT .keyboard) w₁ := by
      apply yields_bind_of (eventIsKeyboard_numlock value w₁)
      rintro _ w₂ _ _ rfl
      rw [if_pos rfl]
      exact injectKey_numlock _ _ value w₂
    apply yields_bind_of hroute
    rintro ⟨dest, e⟩ w₂ _ _ rfl
    cases dest with
    | none => exact yields_pure _ fun _ => rfl
    | some d => exact deliver_keepsHold d _ (single_key _ _) w₂

end

end InputServer
