import InputServer.Inject
import InputServer.RoutedSwitch

namespace InputServer
open Program
set_option autoImplicit true

variable {F : Type} {C : Scope} {w : World F}

/-- The event that goes on is no message about a device slot. -/
abbrev PlainDestination (r : Destination) (_ : World F) : Prop :=
  r.2.Plain

theorem sendWinP_routes (hslot : slot ≠ INPUTSLOT_INVALID) (value : Int32) (w : World F) :
    Routes C (sendWinP slot value) w := by
  apply yields_get
  intro _
  apply yields_bind_of (deref_routes _ w)
  intro keyb w₁ _ _ _
  apply yields_ite
  · intro _
    exact moves_pure _
  · intro _
    apply sent_routes _ hslot (plain_key KEY_LEFTMETA value)
    intro _ w₂ _ _ _
    apply sent_routes _ hslot (plain_key KEY_P value)
    intro _ w₃ _ _ _
    exact moves_pure _

theorem keyboardDestination_routes (d : Option DomPtr) {e : InputEvent} (hplain : e.Plain)
    (w : World F) :
    Yields (InScope C) (Routed C) PlainDestination (keyboardDestination d e) w := by
  apply yields_get
  intro _
  split
  · exact yields_pure _ fun _ => hplain
  · exact yields_pure _ fun _ => hplain

theorem printScreenRefused_routes (e : InputEvent) (w : World F) :
    Routes C (printScreenRefused e) w := by
  apply yields_ite
  · intro _
    exact inputCantPrintScreen_routes w
  · intro _
    exact moves_pure _

theorem reportPrintScreen_routes {e : InputEvent} (hplain : e.Plain) (w : World F) :
    Yields (InScope C) (Routed C) PlainDestination (reportPrintScreen e) w := by
  apply yields_get
  intro _
  apply yields_bind (deref_routes _ w).moves
  intro _ w₁ _ _
  apply yields_bind (deref_routes _ w₁).moves
  intro _ w₂ _ _
  exact yields_pure _ fun _ => hplain

theorem readResistance_routes (w : World F) : Routes C readResistance w := by
  apply yields_get
  intro _
  have hkeep (known : Bool) (value : Option String) (w' : World F) : Routes C (do
      let resistance := strtol (value.getD "") 0
      modifyRouting fun r : Routing F => { r with resistance := resistance }
      pure resistance) w' := by
    apply yields_bind (modifyRouting_keeps rfl rfl rfl rfl rfl)
    intro _ w'' _ _
    exact moves_pure _
  apply yields_ite
  · intro _
    exact moves_pure _
  · intro _
    apply yields_bind (ask_routes _ w)
    intro known w₁ _ _
    apply yields_ite
    · intro _
      apply yields_bind (dbRead_routes _ w₁)
      intro value w₂ _ _
      exact hkeep known value w₂
    · intro _
      exact hkeep known _ w₁

theorem derefDivert_routes (d : DomPtr) (w : World F) : Routes C (derefDivert d) w := by
  apply yields_get
  intro _
  split
  · exact yields_throw _
  · exact moves_pure _

theorem scaleForChild_routes (parent : DomPtr) (hslot : slot ≠ INPUTSLOT_INVALID) {e : InputEvent}
    (hplain : e.Plain) (w : World F) :
    Yields (InScope C) (Routed C) (fun e' _ => e'.Plain) (scaleForChild parent slot e) w := by
  have hscale (e : InputEvent) (hplain : e.Plain) (w' : World F) :
      Yields (InScope C) (Routed C) (fun e' _ => e'.Plain) (if e.type = EV_ABS then do
        let w ← get
        let p ← deref w.routing.mouseParent
        let dv ← derefDivert p
        scalePointerEvent dv e
      else pure e) w' := by
    apply yields_ite
    · intro _
      apply yields_get
      intro _
      apply yields_bind (deref_routes _ w').moves
      intro p w₁ _ _
      apply yields_bind (derefDivert_routes p w₁)
      intro dv w₂ _ _
      exact scalePointerEvent_routes dv hplain w₂
    · intro _
      exact yields_pure e (fun _ => hplain)
  apply yields_bind (derefDivert_routes parent w)
  intro dv w₁ _ _
  apply yields_get
  intro _
  apply yields_ite
  · intro _
    apply sent_routes _ hslot hplain
    intro e' w₂ hplain' _ _
    exact hscale e' hplain' w₂
  · intro _
    exact hscale e hplain w₁

theorem sendSeamless_routes (hslot : slot ≠ INPUTSLOT_INVALID) {e : InputEvent} (hplain : e.Plain)
    (w : World F) :
    Yields (InScope C) (Routed C) (fun e' _ => e'.Plain) (sendSeamless e slot) w := by
  have hmouse (e : InputEvent) (hplain : e.Plain) (w' : World F) :
      Yields (InScope C) (Routed C) (fun e' _ => e'.Plain) (do
        let w ← get
        if inputInjectSeamlessMouse w.keyStatus e then inputSend w.routing.mouseDest slot e
        else pure e) w' := by
    apply yields_get
    intro _
    apply yields_ite
    · intro _
      exact inputSend_routes _ hslot hplain w'
    · intro _
      exact yields_pure _ fun _ => hplain
  apply yields_get
  intro _
  apply yields_ite
  · intro _
    apply sent_routes _ hslot hplain
    intro e' w' hplain' _ _
    exact hmouse e' hplain' w'
  · intro _
    exact hmouse e hplain w

theorem deliver_routes (d : Option DomPtr) (hslot : slot ≠ INPUTSLOT_INVALID) {e : InputEvent}
    (hplain : e.Plain) (w : World F) :
    Yields (InScope C) (Routed C) (fun e' _ => e'.Plain) (deliver d e slot) w := by
  apply yields_get
  intro _
  apply yields_ite
  · intro _
    exact sendSeamless_routes hslot hplain w
  · intro _
    exact inputSend_routes d hslot hplain w

section
variable [Double F]

theorem inputConvertRelToAbs_plain {e : InputEvent} (hplain : e.Plain) :
    (inputConvertRelToAbs w e).Plain := by
  unfold inputConvertRelToAbs
  split
  · exact plain_abs _ _
  split
  · exact plain_abs _ _
  · exact hplain

theorem checkClick_routes (d : DomPtr) (hslot : slot ≠ INPUTSLOT_INVALID) {e : InputEvent}
    (hplain : e.Plain) (w : World F) : Routes C (checkClick d slot e) w := by
  apply yields_ite
  · intro _
    exact checkMouseKeys_routes d hslot hplain w
  · intro _
    exact moves_pure _

variable {inject : Inject F} (hinject : InjectRoutes inject)
include hinject

theorem wakeDomains_routes (w : World F) : Routes C (wakeDomains inject) w := by
  apply yields_get
  intro hw
  apply yields_bind (wiggleCtrlKey_routes _ w)
  intro _ w₁ _ h₁
  have hmouse (hs : C.sound) : w₁.Valid w.routing.mouseDest :=
    h₁.valid (hw.sound hs).mouseDest
  apply yields_bind (domainWakeFromS3_routes hinject hmouse)
  intro _ w₂ hw₂ _
  apply yields_get
  intro _
  apply yields_bind (domainWakeFromS3_routes hinject fun hs => (hw₂.sound hs).keybDest)
  intro _ w₃ _ _
  apply yields_get
  intro _
  apply yields_bind (domainWakeFromS3_routes hinject fun _ a ha => known_of_firstDomain ha)
  intro _ w₄ _ _
  exact timeoutStart_routes w₄

theorem wakeOnInput_routes (e : InputEvent) (w : World F) :
    Routes C (wakeOnInput inject e) w := by
  apply yields_ite
  · intro _
    apply yields_bind (timeoutExpired_routes w)
    intro _ w' _ _
    apply yields_ite
    · intro _
      exact wakeDomains_routes hinject w'
    · intro _
      exact moves_pure _
  · intro _
    exact moves_pure _

theorem injectKey_routes (d : Option DomPtr) (hslot : slot ≠ INPUTSLOT_INVALID) {e : InputEvent}
    (hplain : e.Plain) (w : World F) :
    Yields (InScope C) (Routed C) PlainDestination (injectKey inject d e slot) w := by
  apply yields_bind (filterKeys_routes e w)
  intro _ w₁ _ _
  apply yields_ite
  · intro _
    exact yields_pure _ fun _ => hplain
  intro _
  apply yields_bind (printScreenRefused_routes e w₁)
  intro _ w₂ _ _
  apply yields_ite
  · intro _
    exact reportPrintScreen_routes hplain w₂
  intro _
  apply yields_ite
  · intro _
    apply yields_get
    intro _
    apply yields_bind (switchToUivm_routes hinject false w₂)
    intro _ w₃ _ _
    exact yields_pure _ fun _ => hplain
  intro _
  apply yields_ite
  · intro _
    apply yields_bind (sendWinP_routes hslot e.value w₂)
    intro _ w₃ _ _
    exact keyboardDestination_routes d hplain w₃
  · intro _
    exact keyboardDestination_routes d hplain w₂

theorem mouseSwitch_routes (e : InputEvent) (val : Int32) (w : World F) :
    Routes C (mouseSwitch inject e val) w := by
  apply yields_bind (readResistance_routes w)
  intro _ w' _ _
  apply yields_get
  intro _
  apply yields_ite
  · intro _
    exact switcherSwitchOnMouse_routes hinject e _ _ w'
  · intro _
    exact moves_pure _

/-- The mouse is where an event for it was found to go, while nothing can move it. -/
def HeldAt (C : Scope) (w : World F) (d : DomPtr) : Prop :=
  C.still → w.routing.mouseDest = some d

/-- In such a scope the mouse stands still wherever a switch is under way. -/
def Firm (C : Scope) : Prop :=
  C.sound → C.nested → C.still

omit [Double F] hinject in
theorem HeldAt.routed (h : HeldAt C w d) (hr : Routed C w w') : HeldAt C w' d :=
  fun hn => (hr.held hn).mouseDest.trans (h hn)

omit [Double F] in
theorem followClick_routes (hfirm : Firm C) (hd : C.sound → w.Known d)
    (hp : C.sound → w.Known parent) (hparent : w.routing.mouseParent = some parent)
    (hheld : HeldAt C w d) (dv : DivertInfo) (click : Bool) :
    Routes C (followClick inject d parent dv click) w := by
  apply yields_ite
  · intro _
    have hdivert : Routes C (modifyDomain parent fun x : Domain F => { x with
        divertInfo := x.divertInfo.map fun dv => { dv with keyDomain := some d } }) w := by
      have hmouse : ((w.domains parent).divertInfo.map fun dv =>
          { dv with keyDomain := some d }).bind DivertInfo.mouseDomain =
            w.diverted parent DivertInfo.mouseDomain := by
        rw [World.diverted]
        cases hdv : (w.domains parent).divertInfo with
        | none => rfl
        | some dv => rfl
      apply modifyDomain_alters rfl
      · intro hw
        exact {
          identity := rfl
          asleep := fun h => h
          running := fun h => h
          names := fun slot hslot => .inl ⟨parent, hslot⟩
          prev := fun _ h => h
          held := by
            intro hn
            refine ⟨rfl, rfl, .inr ⟨hparent, ?_⟩⟩
            rw [hheld hn]
          divert := Option.map_eq_none_iff
          mouse := hmouse
          turned := by
            intro hs hn k hk
            have hfollows := (hw.sound hs).follows parent d hparent (hheld (hfirm hs hn))
            cases hdv : (w.domains parent).divertInfo with
            | none =>
              rw [hdv] at hk
              cases hk
            | some dv =>
              rw [hdv] at hk
              cases hk
              exact .inr hfollows
          remembers := fun _ _ h => h }
      · intro hsound hs
        apply Sound.setDomain hs
        · exact ⟨rfl, rfl⟩
        · cases hdv : (w.domains parent).divertInfo with
          | none => exact .none
          | some dv => exact .some (hd hsound)
        · exact hmouse
        · exact fun h => h
    apply yields_bind hdivert
    intro _ w' _ h
    exact syncKbdDomain_routes hinject fun hs => .some ((h.known parent).mpr (hp hs))
  · intro _
    exact moves_pure _

theorem routeDiverted_routes (hfirm : Firm C) (hd : C.sound → w.Known d)
    (hp : C.sound → w.Known parent) (hparent : w.routing.mouseParent = some parent)
    (hheld : HeldAt C w d) (dv : DivertInfo)
    {e : InputEvent} (hplain : e.Plain) (hslot : slot ≠ INPUTSLOT_INVALID) (click : Bool)
    (val : Int32) :
    Yields (InScope C) (Routed C) PlainDestination
      (routeDiverted inject d parent dv e slot click val) w := by
  have hhold : Yields (InScope C) (Routed C) (fun _ w' => w'.routing.mouseParent = some parent)
      (modifyRouting (holdButton dv e)) w := by
    have hkeeps : Routes C (modifyRouting (holdButton dv e)) w := by
      apply modifyRouting_keeps
      all_goals rfl
    intro hw
    obtain ⟨hw₁, h₁, _⟩ := (wlp_modify _ _ _).mp (hkeeps hw)
    exact (wlp_modify _ _ _).mpr ⟨hw₁, h₁, hparent⟩
  apply yields_bind_of hhold
  intro _ w₁ _ h₁ hparent₁
  apply yields_get
  intro _
  apply yields_ite
  · intro _
    apply yields_bind (checkClick_routes parent hslot hplain w₁)
    intro _ w₂ _ _
    apply yields_ite
    · intro _
      exact yields_pure _ fun _ => hplain
    · intro _
      apply yields_bind (modifyRouting_keeps rfl rfl rfl rfl rfl)
      intro _ w₃ _ _
      apply yields_bind (mouseSwitch_routes hinject e val w₃)
      intro _ w₄ _ _
      exact yields_pure _ fun _ => hplain
  · intro _
    have hd₁ (hs : C.sound) : w₁.Known d := (h₁.known d).mpr (hd hs)
    have hp₁ (hs : C.sound) : w₁.Known parent := (h₁.known parent).mpr (hp hs)
    apply yields_bind (followClick_routes hinject hfirm hd₁ hp₁ hparent₁ (hheld.routed h₁) dv click)
    intro _ w₂ _ _
    apply yields_bind (checkClick_routes d hslot hplain w₂)
    intro _ w₃ _ _
    apply yields_ite
    · intro _
      exact yields_pure _ fun _ => hplain
    · intro _
      apply yields_bind (modifyRouting_keeps rfl rfl rfl rfl rfl)
      intro _ w₄ _ _
      apply yields_bind_of (scaleForChild_routes parent hslot hplain w₄)
      intro e' w₅ _ _ hplain'
      exact yields_pure _ fun _ => hplain'

omit [Double F] in
theorem clickKeyboard_routes (click : Bool) (w : World F) :
    Routes C (clickKeyboard inject click) w := by
  apply yields_get
  intro hw
  apply yields_ite
  · intro _
    apply yields_bind_of (deref_routes _ w)
    intro a w₁ _ h₁ ha
    exact inputSetKeyb_routes hinject fun hs => h₁.valid (hw.sound hs).mouseDest a ha
  · intro _
    exact moves_pure _

theorem routePointer_routes (hfirm : Firm C) (hd : C.sound → w.Known d) (hheld : HeldAt C w d)
    {e : InputEvent} (hplain : e.Plain) (hslot : slot ≠ INPUTSLOT_INVALID) (val : Int32) :
    Yields (InScope C) (Routed C) PlainDestination (routePointer inject d e slot val) w := by
  apply yields_get
  intro hw
  cases hparent : w.routing.mouseParent with
  | none =>
    apply yields_bind (clickKeyboard_routes hinject _ w)
    intro _ w₁ _ _
    apply yields_bind (mouseSwitch_routes hinject e val w₁)
    intro _ w₂ _ _
    exact yields_pure _ fun _ => hplain
  | some parent =>
    have hp (hs : C.sound) : w.Known parent := (hw.sound hs).mouseParent parent hparent
    have hderef : Yields (InScope C) (Routed C) (fun _ w' => w' = w) (derefDivert parent) w := by
      apply yields_get
      intro _
      split
      · exact yields_throw _
      · exact yields_pure _ fun _ => rfl
    apply yields_bind_of hderef
    intro dv w₁ _ _ heq
    rw [heq]
    exact routeDiverted_routes hinject hfirm hd hp hparent hheld dv hplain hslot _ val

theorem injectPointer_routes (hfirm : Firm C) (hd : ∀ a, d = some a → C.sound → w.Known a)
    (hheld : ∀ a, d = some a → HeldAt C w a) {e : InputEvent} (hplain : e.Plain)
    (hslot : slot ≠ INPUTSLOT_INVALID) (type : HidType) :
    Yields (InScope C) (Routed C) PlainDestination (injectPointer inject d e slot type) w := by
  apply yields_bind (inputTrackMousePosition_routes e type w)
  intro _ w₁ _ h₁
  apply yields_get
  intro _
  cases d with
  | none => exact yields_pure _ fun _ => hplain
  | some d =>
    have hd₁ (hs : C.sound) : w₁.Known d := (h₁.known d).mpr (hd d rfl hs)
    have hplain₁ : InputEvent.Plain (if inputDomainSupportsAbs w₁ w₁.routing.mouseDest then
        inputConvertRelToAbs w₁ e else e) := by
      split
      · exact inputConvertRelToAbs_plain hplain
      · exact hplain
    exact routePointer_routes hinject hfirm hd₁ ((hheld d rfl).routed h₁) hplain₁ hslot _

theorem routeEvent_routes (hfirm : Firm C) (hd : ∀ a, d = some a → C.sound → w.Known a)
    (hheld : ∀ a, d = some a → HeldAt C w a) {e : InputEvent} (hplain : e.Plain)
    (hslot : slot ≠ INPUTSLOT_INVALID) (type : HidType) :
    Yields (InScope C) (Routed C) PlainDestination (routeEvent inject d e slot type) w := by
  apply yields_bind (eventIsKeyboard_routes slot e w)
  intro _ w₁ _ h₁
  apply yields_ite
  · intro _
    exact injectKey_routes hinject d hslot hplain w₁
  · intro _
    have hd₁ (a : DomPtr) (ha : d = some a) (hs : C.sound) : w₁.Known a :=
      (h₁.known a).mpr (hd a ha hs)
    exact injectPointer_routes hinject hfirm hd₁ (fun a ha => (hheld a ha).routed h₁) hplain hslot
      type

/-- The destination is the mouse's as it was before a pause may have woken a domain. -/
theorem inputInjectWith_firm (hfirm : Firm C) {e : InputEvent} (hplain : e.Plain)
    (hslot : slot ≠ INPUTSLOT_INVALID) (type : HidType) (w : World F) :
    Yields (InScope C) (Routed C) (fun e' _ => e'.Plain) (inputInjectWith inject e slot type) w := by
  apply yields_get
  intro hw
  apply yields_bind (wakeOnInput_routes hinject e w)
  intro _ w₁ _ h₁
  have hd (a : DomPtr) (ha : w.routing.mouseDest = some a) (hs : C.sound) : w₁.Known a :=
    (h₁.known a).mpr ((hw.sound hs).mouseDest a ha)
  have hheld (a : DomPtr) (ha : w.routing.mouseDest = some a) : HeldAt C w₁ a :=
    fun hn => (h₁.held hn).mouseDest.trans ha
  apply yields_bind_of (routeEvent_routes hinject hfirm hd hheld hplain hslot type)
  intro r w₂ _ _ hplain₂
  obtain ⟨dest, e₂⟩ := r
  cases dest with
  | none => exact yields_pure _ fun _ => hplain₂
  | some d => exact deliver_routes d hslot hplain₂ w₂

/-- While a switch is under way an event moves no mouse. -/
theorem inputInjectWith_routes : InjectRoutes (inputInjectWith inject) := by
  intro C e slot type w hplain hslot
  by_cases hn : C.nested
  · intro hw
    have hfirm := inputInjectWith_firm (C := C.firm) hinject (fun _ _ => trivial) hplain hslot type
      w (hw.firm (hw.switching hn))
    refine wlp_mono hfirm ?_
    intro e' w' h
    have hr := h.2.1.of_firm
    exact ⟨hr.inScope hw h.1.tracked h.1.sound h.1.captured, hr, h.2.2⟩
  · exact inputInjectWith_firm hinject (fun _ hn' => absurd hn' hn) hplain hslot type w

end

theorem inputInject_routes [Double F] (depth : Nat) : InjectRoutes (inputInject (F := F) depth) := by
  induction depth with
  | zero => exact fun _ _ _ _ _ _ _ => yields_throw _
  | succ depth ih => exact inputInjectWith_routes ih

end InputServer
