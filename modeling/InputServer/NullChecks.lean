import InputServer.Library.Blame
import InputServer.Reachable
import InputServer.WakeRouting

namespace InputServer
open Program
set_option autoImplicit true

/-- The places where `input_inject`, `filter_keys`, `mouse_outside_frame` and
`scale_pointer_event` follow a pointer to a domain or to a divert info. -/
inductive Site where
  | filterParent
  | filterDivert
  | printScreenMouse
  | printScreenKeyb
  | switchVideoKeyb
  | injectParent
  | injectDivert
  | frameParent
  | frameDivert
  | cloneDivert
  | scaleParent
  | scaleDivert

/-- A computation of these functions, with the calls that they make. -/
abbrev Checked (F : Type) := Program (Blame Site Fault) (World F)

namespace Checked

section
variable {F : Type}

/-- `filter_keys`: both pointers are tested before they are followed. -/
def filterKeys (e : InputEvent) : Checked F Bool := do
  let w ← get
  if e.type ≠ EV_KEY then pure false
  else if w.routing.keybParent.isNone then pure false
  else do
    let parent ← present .filterParent w.routing.keybParent
    if (w.domains parent).divertInfo.isNone then pure false
    else do
      let dv ← present .filterDivert (w.domains parent).divertInfo
      match dv.keylist with
      | none => pure false
      | some keylist => call (filterWith keylist dv parent e)

def reportPrintScreen (e : InputEvent) : Checked F Destination := do
  let w ← get
  let _ ← present .printScreenMouse w.routing.mouseDest
  let _ ← present .printScreenKeyb w.routing.keybDest
  pure (none, e)

def sendWinP (slot : Int32) (value : Int32) : Checked F Unit := do
  let w ← get
  let keyb ← present .switchVideoKeyb w.routing.keybDest
  if (w.domains keyb).isPvDomain then pure ()
  else call (do
    let _ ← inputSend w.routing.keybDest slot { type := EV_KEY, code := KEY_LEFTMETA, value := value }
    let _ ← inputSend w.routing.keybDest slot { type := EV_KEY, code := KEY_P, value := value })

def scaleForChild (parent : DomPtr) (slot : Int32) (e : InputEvent) : Checked F InputEvent := do
  let w ← get
  let dv ← present .cloneDivert (w.domains parent).divertInfo
  let e ← if dv.focusmode &&& CLONEEVENTS ≠ 0 then call (inputSend w.routing.mouseParent slot e)
    else pure e
  if e.type = EV_ABS then do
    let w ← get
    let p ← present .scaleParent w.routing.mouseParent
    let dv ← present .scaleDivert (w.domains p).divertInfo
    call (scalePointerEvent dv e)
  else pure e

end

section
variable {F : Type} [Double F] (inject : Inject F)

def pointerToParent (w : World F) (d parent : DomPtr) : Checked F Bool :=
  if w.routing.buttonHolding ≠ 0 ∧ w.routing.lastD = some parent then pure true
  else if w.routing.buttonHolding ≠ 0 ∧ w.routing.lastD = some d then pure false
  else do
    let p ← present .frameParent w.routing.mouseParent
    let dv ← present .frameDivert (w.domains p).divertInfo
    pure (mouseOutsideFrame w dv.sframe)

def injectKey (d : Option DomPtr) (e : InputEvent) (slot : Int32) : Checked F Destination := do
  if ← filterKeys e then pure (none, e)
  else if ← call (printScreenRefused e) then reportPrintScreen e
  else if isMainButton e then call (do
    let w ← get
    let _ ← switcherSwitch inject w.domainUivm false
    pure (none, e))
  else if e.type = EV_KEY ∧ e.code = KEY_SWITCHVIDEOMODE then do
    sendWinP slot e.value
    call (keyboardDestination d e)
  else call (keyboardDestination d e)

def routeDiverted (d parent : DomPtr) (dv : DivertInfo) (e : InputEvent) (slot : Int32)
    (click : Bool) (val : Int32) : Checked F Destination := do
  call (modifyRouting (holdButton dv e))
  let w ← get
  if ← pointerToParent w d parent then do
    if ← call (checkClick parent slot e) then pure (none, e)
    else call (do
      modifyRouting fun r => { r with lastD := some parent }
      mouseSwitch inject e val
      pure (some (some parent), e))
  else do
    call (followClick inject d parent dv click)
    if ← call (checkClick d slot e) then pure (none, e)
    else do
      call (modifyRouting fun r => { r with lastD := some d })
      let e ← scaleForChild parent slot e
      pure (some (some d), e)

def routePointer (d : DomPtr) (e : InputEvent) (slot : Int32) (val : Int32) :
    Checked F Destination := do
  let w ← get
  if w.routing.mouseParent.isNone then call (do
    clickKeyboard inject (isClick w e)
    mouseSwitch inject e val
    pure (some (some d), e))
  else do
    let parent ← present .injectParent w.routing.mouseParent
    let dv ← present .injectDivert (w.domains parent).divertInfo
    routeDiverted inject d parent dv e slot (isClick w e) val

def injectPointer (d : Option DomPtr) (e : InputEvent) (slot : Int32) (type : HidType) :
    Checked F Destination := do
  call (inputTrackMousePosition e type)
  let w ← get
  match d with
  | none => pure (none, e)
  | some d =>
    let val := if e.type = EV_REL ∧ e.code = REL_X then e.value else 0
    let e := if inputDomainSupportsAbs w w.routing.mouseDest then inputConvertRelToAbs w e else e
    routePointer inject d e slot val

def routeEvent (d : Option DomPtr) (e : InputEvent) (slot : Int32) (type : HidType) :
    Checked F Destination := do
  if ← call (eventIsKeyboard slot e) then injectKey inject d e slot
  else injectPointer inject d e slot type

/-- `input_inject`, with the pointers that it follows told apart from those of its callees. -/
def inputInjectWith (e : InputEvent) (slot : Int32) (type : HidType) : Checked F InputEvent := do
  let w ← get
  call (wakeOnInput inject e)
  let (dest, e) ← routeEvent inject w.routing.mouseDest e slot type
  match dest with
  | none => pure e
  | some d => call (deliver d e slot)

end

def inputInject {F : Type} [Double F] : Nat → InputEvent → Int32 → HidType → Checked F InputEvent
  | 0 => fun _ _ _ => throw (.callee .hang)
  | depth + 1 => inputInjectWith (InputServer.inputInject depth)

end Checked

/-! Without the sites, the functions are the ones that they were made from. -/

section
variable {F : Type} {w : World F} {e : InputEvent} {slot : Int32}

@[simp] theorem unblamed_none (site : Site) :
    unblamed .segv (present site none : Checked F α) = throw .segv := rfl

@[simp] theorem unblamed_some (site : Site) (a : α) :
    unblamed .segv (present site (some a) : Checked F α) = pure a := rfl

@[simp] theorem unblamed_deref (site : Site) (p : Option DomPtr) :
    unblamed .segv (present site p : Checked F DomPtr) = deref p := by
  cases p with
  | none => rfl
  | some d => rfl

theorem unblamed_filterKeys (e : InputEvent) :
    unblamed .segv (Checked.filterKeys e) = (filterKeys e : WorldM F Bool) := by
  unfold Checked.filterKeys filterKeys
  simp only [unblamed_bind, unblamed_get]
  congr 1
  funext w
  simp only [unblamed_ite, unblamed_pure]
  split
  · rfl
  · cases w.routing.keybParent with
    | none => rfl
    | some parent =>
      simp only [Option.isNone_some, Bool.false_eq_true, if_false, unblamed_bind, unblamed_some,
        unblamed_ite, unblamed_pure, pure_bind]
      cases (w.domains parent).divertInfo with
      | none => rfl
      | some dv =>
        simp only [Option.isNone_some, Bool.false_eq_true, if_false, unblamed_some, pure_bind]
        cases dv.keylist with
        | none => rfl
        | some keylist => exact unblamed_call _ _

theorem unblamed_reportPrintScreen (e : InputEvent) :
    unblamed .segv (Checked.reportPrintScreen e) = (reportPrintScreen e : WorldM F Destination) := by
  unfold Checked.reportPrintScreen reportPrintScreen
  simp only [unblamed_bind, unblamed_get, unblamed_deref, unblamed_pure]

theorem unblamed_sendWinP (slot value : Int32) :
    unblamed .segv (Checked.sendWinP slot value) = (sendWinP slot value : WorldM F Unit) := by
  unfold Checked.sendWinP sendWinP
  simp only [unblamed_bind, unblamed_get, unblamed_deref, unblamed_ite, unblamed_pure,
    unblamed_call]

theorem unblamed_divert (site : Site) (d : DomPtr) (k : DivertInfo → WorldM F β) (w : World F) :
    (unblamed .segv (present site (w.domains d).divertInfo) >>= k) w = (derefDivert d >>= k) w := by
  rw [bind_apply, bind_apply, derefDivert, bind_apply, get_apply]
  dsimp only [Except.bind]
  cases (w.domains d).divertInfo with
  | none => rfl
  | some dv => rfl

theorem unblamed_scaleForChild (parent : DomPtr) (slot : Int32) (e : InputEvent) :
    unblamed .segv (Checked.scaleForChild parent slot e) =
      (scaleForChild parent slot e : WorldM F InputEvent) := by
  have hscale (e : InputEvent) : unblamed .segv (do
      let w ← get
      let p ← present .scaleParent w.routing.mouseParent
      let dv ← present .scaleDivert (w.domains p).divertInfo
      call (scalePointerEvent dv e) : Checked F InputEvent) = (do
        let w ← get
        let p ← deref w.routing.mouseParent
        let dv ← derefDivert p
        scalePointerEvent dv e) := by
    simp only [unblamed_bind, unblamed_get, unblamed_deref, unblamed_call]
    funext w
    rw [bind_apply, bind_apply, get_apply]
    dsimp only [Except.bind]
    cases w.routing.mouseParent with
    | none => rfl
    | some p => exact unblamed_divert .scaleDivert p (fun dv => scalePointerEvent dv e) w
  unfold Checked.scaleForChild scaleForChild
  simp only [unblamed_bind, unblamed_get, unblamed_ite, unblamed_pure, unblamed_call] at hscale ⊢
  funext w
  rw [bind_apply, get_apply]
  dsimp only [Except.bind]
  rw [unblamed_divert]
  simp only [hscale]
  rw [bind_apply, bind_apply]
  unfold derefDivert
  rw [bind_apply, get_apply]
  dsimp only [Except.bind]
  cases (w.domains parent).divertInfo with
  | none => rfl
  | some dv => rfl

section
variable [Double F] (inject : Inject F)

theorem unblamed_injectKey (d : Option DomPtr) (e : InputEvent) (slot : Int32) :
    unblamed .segv (Checked.injectKey inject d e slot) = injectKey inject d e slot := by
  unfold Checked.injectKey injectKey
  simp only [unblamed_bind, unblamed_filterKeys, unblamed_ite, unblamed_pure, unblamed_call,
    unblamed_reportPrintScreen, unblamed_sendWinP]

/-- `mouse_outside_frame` reads the divert info that `input_inject` has at hand. -/
theorem unblamed_pointerToParent (d : DomPtr) (hparent : w.routing.mouseParent = some parent)
    (hdv : (w.domains parent).divertInfo = some dv) :
    unblamed .segv (Checked.pointerToParent w d parent) = pure (pointerToParent w d parent dv) := by
  unfold Checked.pointerToParent pointerToParent
  rw [hparent]
  simp only [unblamed_ite, unblamed_pure, unblamed_bind, unblamed_some, pure_bind, hdv]
  split_ifs
  all_goals rfl

theorem unblamed_routeDiverted (d : DomPtr) (e : InputEvent) (slot : Int32) (click : Bool)
    (val : Int32) (hparent : w.routing.mouseParent = some parent)
    (hdv : (w.domains parent).divertInfo = some dv) :
    unblamed .segv (Checked.routeDiverted inject d parent dv e slot click val) w =
      routeDiverted inject d parent dv e slot click val w := by
  unfold Checked.routeDiverted routeDiverted
  simp only [unblamed_bind, unblamed_call, unblamed_get, unblamed_ite, unblamed_pure,
    unblamed_scaleForChild]
  rw [modifyRouting, bind_apply, bind_apply, modify_apply]
  dsimp only [Except.bind]
  rw [bind_apply, bind_apply, get_apply]
  dsimp only [Except.bind]
  rw [unblamed_pointerToParent (w := { w with routing := holdButton dv e w.routing }) d hparent hdv]
  rfl

theorem unblamed_routePointer (d : DomPtr) (e : InputEvent) (slot : Int32) (val : Int32) :
    unblamed .segv (Checked.routePointer inject d e slot val) =
      routePointer inject d e slot val := by
  unfold Checked.routePointer routePointer
  funext w
  simp only [unblamed_bind, unblamed_call, unblamed_get, unblamed_ite, bind_apply, get_apply]
  dsimp only [Except.bind]
  cases hparent : w.routing.mouseParent with
  | none => rfl
  | some parent =>
    simp only [Option.isNone_some, Bool.false_eq_true, if_false, unblamed_some, pure_bind]
    unfold derefDivert
    simp only [bind_apply, get_apply]
    dsimp only [Except.bind]
    cases hdv : (w.domains parent).divertInfo with
    | none => rfl
    | some dv => exact unblamed_routeDiverted inject d e slot _ val hparent hdv

theorem unblamed_injectPointer (d : Option DomPtr) (e : InputEvent) (slot : Int32)
    (type : HidType) :
    unblamed .segv (Checked.injectPointer inject d e slot type) =
      injectPointer inject d e slot type := by
  unfold Checked.injectPointer injectPointer
  simp only [unblamed_bind, unblamed_call, unblamed_get]
  cases d with
  | none => rfl
  | some d => simp only [unblamed_routePointer]

/-- The checked `input_inject` is `input_inject`. -/
theorem unblamed_inputInjectWith (e : InputEvent) (slot : Int32) (type : HidType) :
    unblamed .segv (Checked.inputInjectWith inject e slot type) =
      inputInjectWith inject e slot type := by
  unfold Checked.inputInjectWith inputInjectWith Checked.routeEvent routeEvent
  simp only [unblamed_bind, unblamed_call, unblamed_get, unblamed_ite, unblamed_injectKey,
    unblamed_injectPointer]
  congr 1
  funext w
  congr 1
  funext _
  congr 1
  funext r
  obtain ⟨dest, e⟩ := r
  cases dest with
  | none => rfl
  | some d => exact unblamed_call _ _

end

theorem unblamed_inputInject [Double F] (depth : Nat) (e : InputEvent) (slot : Int32)
    (type : HidType) :
    unblamed .segv (Checked.inputInject depth e slot type) =
      (inputInject depth e slot type : WorldM F InputEvent) := by
  cases depth with
  | zero => rfl
  | succ depth => exact unblamed_inputInjectWith _ e slot type

end

section
variable {F : Type}

/-- The policy lets a domain print the screen, whenever it is asked from here on. -/
def World.MayPrint (w : World F) (d : DomPtr) : Prop :=
  let uuid := ((w.domains d).uuid).getD "(null)"
  ∀ n, w.asked ≤ n →
    (w.answers n).db s!"/vm/{uuid}/policies/print-screen-disallowed" ≠ some "true"

/-- The key that switches the display has a keyboard's domain to go to, and a print screen key is
not refused on account of one destination while the other is missing. -/
structure KeysRouted (w : World F) (e : InputEvent) : Prop where
  switchVideo : e.type = EV_KEY → e.code = KEY_SWITCHVIDEOMODE → w.routing.keybDest ≠ none
  printScreen : e.type = EV_KEY → e.code = KEY_SYSRQ →
    (w.routing.mouseDest ≠ none ∧ w.routing.keybDest ≠ none) ∨
      ∀ d, w.routing.mouseDest = some d ∨ w.routing.keybDest = some d → w.MayPrint d

section
variable {w w' : World F} {e : InputEvent}

theorem KeysRouted.of_same (h : KeysRouted w e) (hsame : SameTargets w w')
    (hanswers : w'.answers = w.answers) (hasked : w.asked ≤ w'.asked) : KeysRouted w' e where
  switchVideo htype hcode := by
    rw [hsame.keybDest]
    exact h.switchVideo htype hcode
  printScreen htype hcode := by
    rw [hsame.mouseDest, hsame.keybDest]
    cases h.printScreen htype hcode with
    | inl hboth => exact .inl hboth
    | inr hmay =>
      apply Or.inr
      intro d hd n hn
      rw [hanswers, hsame.uuid]
      exact hmay d hd n (Nat.le_trans hasked hn)

theorem KeysRouted.settles (h : KeysRouted w e) (hr : Routed C w w') (hsettled : Settled w w') :
    KeysRouted w' e := by
  cases hsettled with
  | inl hboth =>
    constructor
    · exact fun _ _ => hboth.2
    · exact fun _ _ => .inl hboth
  | inr hsame => exact h.of_same hsame hr.answers hr.asked

/-- A question about a destination's policy moves nothing; it is refused for a destination. -/
theorem domainCantPrintScreen_spec (p : Option DomPtr) (w : World F) :
    wlp (domainCantPrintScreen p) (fun refused w' => w'.routing = w.routing ∧
      w'.domains = w.domains ∧ w'.answers = w.answers ∧ w.asked ≤ w'.asked ∧
      (refused = true → ∃ d, p = some d ∧ ¬w.MayPrint d)) w := by
  rw [domainCantPrintScreen, wlp_bind, wlp_get]
  cases p with
  | none =>
    rw [wlp_pure]
    exact ⟨rfl, rfl, rfl, Nat.le_refl _, nofun⟩
  | some d =>
    rw [wlp_bind]
    intro value w' hrun
    cases hrun
    rw [wlp_pure]
    refine ⟨rfl, rfl, rfl, Nat.le_succ _, ?_⟩
    intro hrefused
    refine ⟨d, rfl, ?_⟩
    intro hmay
    exact hmay w.asked (Nat.le_refl _) (of_decide_eq_true hrefused)

/-- A refused print screen key has both destinations. -/
theorem printScreenRefused_spec (h : KeysRouted w e) :
    wlp (printScreenRefused e) (fun refused w' => w'.routing = w.routing ∧
      (refused = true → w.routing.mouseDest ≠ none ∧ w.routing.keybDest ≠ none)) w := by
  apply wlp_ite
  · intro hkey
    have hscreen := h.printScreen hkey.1 hkey.2
    rw [inputCantPrintScreen, wlp_bind, wlp_get, wlp_bind]
    refine wlp_mono (domainCantPrintScreen_spec _ w) ?_
    rintro mouse w₁ ⟨hrouting, hdomains, hanswers, hasked, hmouse⟩
    apply wlp_ite
    · intro hrefused
      rw [wlp_pure]
      refine ⟨hrouting, fun _ => ?_⟩
      obtain ⟨d, hd, hnot⟩ := hmouse hrefused
      apply hscreen.resolve_right
      exact fun hmay => hnot (hmay d (.inl hd))
    · intro _
      refine wlp_mono (domainCantPrintScreen_spec _ w₁) ?_
      rintro keyb w₂ ⟨hrouting₂, _, _, _, hkeyb⟩
      refine ⟨hrouting₂.trans hrouting, fun hrefused => ?_⟩
      obtain ⟨d, hd, hnot⟩ := hkeyb hrefused
      apply hscreen.resolve_right
      intro hmay
      apply hnot
      intro n hn
      rw [hanswers, hdomains]
      exact hmay d (.inr hd) n (Nat.le_trans hasked hn)
  · intro _
    rw [wlp_pure]
    exact ⟨rfl, nofun⟩

/-- A key that is not filtered is passed on in the state that it found, but for the modifiers. -/
theorem filterWith_passes (keylist : List KeyPair) (dv : DivertInfo) (parent : DomPtr)
    (h : KeysRouted w e) :
    wlp (filterWith keylist dv parent e) (fun filtered w' => filtered = false → KeysRouted w' e) w := by
  rw [filterWith, wlp_bind, modifyRouting, wlp_modify, wlp_bind, wlp_get]
  split
  · rw [wlp_pure]
    exact fun _ => h.of_same ⟨rfl, rfl, rfl, fun _ => rfl⟩ rfl (Nat.le_refl _)
  · apply wlp_ite
    · intro _
      rw [wlp_bind]
      intro _ w' _
      rw [wlp_pure]
      exact fun hpassed => absurd hpassed.symm Bool.false_ne_true
    · intro _
      rw [wlp_pure]
      exact fun hpassed => absurd hpassed.symm Bool.false_ne_true

theorem filterKeys_blameless (h : KeysRouted w e) :
    Blameless (Checked.filterKeys e) (fun filtered w' => filtered = false → KeysRouted w' e) w := by
  apply blameless_get
  apply blameless_ite
  · exact fun _ => blameless_pure fun _ => h
  intro _
  apply blameless_ite
  · exact fun _ => blameless_pure fun _ => h
  intro hparent
  have hsome : w.routing.keybParent ≠ none := by
    intro hnone
    rw [hnone] at hparent
    exact hparent rfl
  apply blameless_bind (blameless_present (Q := fun _ w' => w' = w) hsome fun _ _ => rfl)
  intro parent w' hw'
  cases hw'
  apply blameless_ite
  · exact fun _ => blameless_pure fun _ => h
  intro hdivert
  have hdv : (w.domains parent).divertInfo ≠ none := by
    intro hnone
    rw [hnone] at hdivert
    exact hdivert rfl
  apply blameless_bind (blameless_present (Q := fun _ w' => w' = w) hdv fun _ _ => rfl)
  intro dv w' hw'
  cases hw'
  split
  · exact blameless_pure fun _ => h
  · exact blameless_call (filterWith_passes _ dv parent h)

variable [Double F] {inject : Inject F}

theorem injectKey_blameless (d : Option DomPtr) (slot : Int32) (h : KeysRouted w e) :
    Blameless (Checked.injectKey inject d e slot) (fun _ _ => True) w := by
  have hcall {α : Type} (m : WorldM F α) (w : World F) :
      Blameless (call m : Checked F α) (fun _ _ => True) w :=
    blameless_call fun _ _ _ => trivial
  apply blameless_bind (filterKeys_blameless h)
  intro filtered w₁ hpassed
  apply blameless_ite
  · exact fun _ => blameless_pure trivial
  intro hfiltered
  have h₁ := hpassed (Bool.eq_false_iff.mpr hfiltered)
  apply blameless_bind (blameless_call (printScreenRefused_spec h₁))
  rintro refused w₂ ⟨hrouting, hrefused⟩
  apply blameless_ite
  · intro hyes
    obtain ⟨hmouse, hkeyb⟩ := hrefused hyes
    rw [← hrouting] at hmouse hkeyb
    apply blameless_get
    apply blameless_bind (blameless_present (Q := fun _ w' => w' = w₂) hmouse fun _ _ => rfl)
    intro _ w' hw'
    cases hw'
    apply blameless_bind (blameless_present (Q := fun _ _ => True) hkeyb fun _ _ => trivial)
    intro _ _ _
    exact blameless_pure trivial
  intro _
  apply blameless_ite
  · exact fun _ => hcall _ w₂
  intro _
  apply blameless_ite
  · intro hkey
    have hkeyb : w₂.routing.keybDest ≠ none := by
      rw [hrouting]
      exact h₁.switchVideo hkey.1 hkey.2
    have hsend : Blameless (Checked.sendWinP slot e.value) (fun _ _ => True) w₂ := by
      apply blameless_get
      apply blameless_bind (blameless_present (Q := fun _ _ => True) hkeyb fun _ _ => trivial)
      intro _ w' _
      apply blameless_ite
      · exact fun _ => blameless_pure trivial
      · exact fun _ => hcall _ w'
    apply blameless_bind hsend
    intro _ w₃ _
    exact hcall _ w₃
  · exact fun _ => hcall _ w₂

section
variable {C : Scope} (hinject : InjectRoutes inject) (hstill : ¬C.still) (hsound : ¬C.sound)

omit [Double F] in
/-- What a callee keeps is known behind the call. -/
theorem call_yields {m : WorldM F α} {P : α → World F → Prop}
    (h : Yields (InScope C) (Routed C) P m w) (hw : InScope C w) :
    Blameless (call m : Checked F α) (fun a w' => InScope C w' ∧ Routed C w w' ∧ P a w') w :=
  blameless_call (h hw)

omit [Double F] in
/-- The parent's divert info is there for the clone; the parent itself is there to scale with. -/
theorem scaleForChild_blameless (hw : InScope C w) (parent : DomPtr)
    (hdivert : (w.domains parent).divertInfo ≠ none)
    (habs : e.type = EV_ABS → w.routing.mouseParent ≠ none) (hplain : e.Plain)
    (hslot : slot ≠ INPUTSLOT_INVALID) :
    Blameless (Checked.scaleForChild parent slot e) (fun _ _ => True) w := by
  have hscale (e' : InputEvent) (w₁ : World F) (hw₁ : InScope C w₁)
      (habs₁ : e'.type = EV_ABS → w₁.routing.mouseParent ≠ none) :
      Blameless (if e'.type = EV_ABS then do
          let w ← get
          let p ← present .scaleParent w.routing.mouseParent
          let dv ← present .scaleDivert (w.domains p).divertInfo
          call (scalePointerEvent dv e')
        else pure e' : Checked F InputEvent) (fun _ _ => True) w₁ := by
    apply blameless_ite
    · intro htype
      have hparent := habs₁ htype
      apply blameless_get
      apply blameless_bind (blameless_present (Q := fun p w' => w₁.routing.mouseParent = some p ∧
        w' = w₁) hparent fun _ hp => ⟨hp, rfl⟩)
      rintro p w' ⟨hp, hw'⟩
      cases hw'
      have hdv := hw₁.tracked.diverting.parent p hp
      apply blameless_bind (blameless_present (Q := fun _ _ => True) hdv fun _ _ => trivial)
      intro _ w' _
      exact blameless_call fun _ _ _ => trivial
    · exact fun _ => blameless_pure trivial
  have hsend : Blameless (call (inputSend w.routing.mouseParent slot e) : Checked F InputEvent)
      (fun e' w' => InScope C w' ∧ (e'.type = EV_ABS → w'.routing.mouseParent ≠ none)) w := by
    have hframe := frames_inputSend w.routing.mouseParent slot e w
    cases hparent : w.routing.mouseParent with
    | none =>
      apply blameless_call
      rw [inputSend, wlp_bind, wlp_get, wlp_pure]
      exact ⟨hw, fun htype => absurd hparent (habs htype)⟩
    | some p =>
      rw [hparent] at hframe
      have hroutes := inputSend_routes (C := C) (some p) hslot hplain w
      apply (call_yields (hroutes.moves.of_moves (hframe trivial)) hw).mono
      rintro e' w' ⟨hw', _, _, hsame, _⟩
      refine ⟨hw', fun _ => ?_⟩
      rw [hsame.routing, hparent]
      exact Option.some_ne_none p
  apply blameless_get
  apply blameless_bind (blameless_present (Q := fun _ w' => w' = w) hdivert fun _ _ => rfl)
  intro dv w' hw'
  cases hw'
  apply blameless_ite
  · intro _
    apply blameless_bind hsend
    rintro e' w₁ ⟨hw₁, habs₁⟩
    exact hscale e' w₁ hw₁ habs₁
  · intro _
    apply blameless_bind (blameless_pure (Q := fun e' w' => e' = e ∧ w' = w) ⟨rfl, rfl⟩)
    rintro _ _ ⟨rfl, rfl⟩
    exact hscale _ _ hw habs

theorem pointerToParent_blameless (d : DomPtr) (hparent : w.routing.mouseParent = some parent)
    (hdivert : (w.domains parent).divertInfo ≠ none) :
    Blameless (Checked.pointerToParent w d parent) (fun _ w' => w' = w) w := by
  apply blameless_ite
  · exact fun _ => blameless_pure rfl
  intro _
  apply blameless_ite
  · exact fun _ => blameless_pure rfl
  intro _
  rw [hparent]
  apply blameless_bind (Q := fun p w' => p = parent ∧ w' = w)
  · exact blameless_pure ⟨rfl, rfl⟩
  rintro p w' ⟨rfl, rfl⟩
  apply blameless_bind (blameless_present (Q := fun _ w'' => w'' = w') hdivert fun _ _ => rfl)
  rintro dv w'' rfl
  exact blameless_pure rfl

include hinject hstill hsound

theorem routeDiverted_blameless (hw : InScope C w) (d : DomPtr)
    (hparent : w.routing.mouseParent = some parent) (dv : DivertInfo) (hplain : e.Plain)
    (hslot : slot ≠ INPUTSLOT_INVALID) (hclick : e.type = EV_ABS → click = false) (val : Int32) :
    Blameless (Checked.routeDiverted inject d parent dv e slot click val) (fun _ _ => True) w := by
  have hhold : Yields (InScope C) (Routed C) (fun _ w' => w'.routing.mouseParent = some parent)
      (modifyRouting (holdButton dv e)) w := by
    have hkeeps : Routes C (modifyRouting (holdButton dv e)) w := by
      apply modifyRouting_keeps
      all_goals rfl
    exact hkeeps.of_moves ((wlp_modify _ _ _).mpr hparent)
  apply blameless_bind (call_yields hhold hw)
  rintro _ w₁ ⟨hw₁, _, hparent₁⟩
  have hdivert₁ := hw₁.tracked.diverting.parent parent hparent₁
  apply blameless_get
  apply blameless_bind (pointerToParent_blameless d hparent₁ hdivert₁)
  rintro _ w' hw'
  cases hw'
  apply blameless_ite
  · intro _
    apply blameless_bind (blameless_call (Q := fun _ _ => True) fun _ _ _ => trivial)
    intro _ w₂ _
    apply blameless_ite
    · exact fun _ => blameless_pure trivial
    · exact fun _ => blameless_call fun _ _ _ => trivial
  intro _
  -- An absolute movement is no click, and leaves the parent where it is until it is scaled.
  have hfollow : Yields (InScope C) (Routed C)
      (fun _ w' => e.type = EV_ABS → w'.routing.mouseParent = some parent)
      (followClick inject d parent dv click) w₁ := by
    have hroutes := followClick_routes (C := C) hinject (fun hs => absurd hs hsound) (fun hs => absurd hs hsound)
      (fun hs => absurd hs hsound) hparent₁ (fun hs => absurd hs hstill) (d := d) dv click
    apply hroutes.of_moves
    by_cases htype : e.type = EV_ABS
    · rw [hclick htype, followClick, if_neg fun h => Bool.false_ne_true h.1, wlp_pure]
      exact fun _ => hparent₁
    · exact fun _ _ _ h => absurd h htype
  apply blameless_bind (call_yields hfollow hw₁)
  rintro _ w₂ ⟨hw₂, h₂, hparent₂⟩
  have hcheck : Yields (InScope C) (Routed C)
      (fun _ w' => e.type = EV_ABS → w'.routing.mouseParent = some parent)
      (checkClick d slot e) w₂ := by
    apply (checkClick_routes d hslot hplain w₂).of_moves
    by_cases htype : e.type = EV_ABS
    · have hkey : e.type ≠ EV_KEY := by
        rw [htype]
        decide
      rw [checkClick, if_neg hkey, wlp_pure]
      exact hparent₂
    · exact fun _ _ _ h => absurd h htype
  apply blameless_bind (call_yields hcheck hw₂)
  rintro _ w₃ ⟨hw₃, h₃, hparent₃⟩
  apply blameless_ite
  · exact fun _ => blameless_pure trivial
  intro _
  have hlast : Yields (InScope C) (Routed C)
      (fun _ w' => w'.routing.mouseParent = w₃.routing.mouseParent)
      (modifyRouting fun r : Routing F => { r with lastD := some d }) w₃ := by
    have hkeeps : Routes C (modifyRouting fun r : Routing F => { r with lastD := some d }) w₃ :=
      modifyRouting_keeps rfl rfl rfl rfl rfl
    exact hkeeps.of_moves ((wlp_modify _ _ _).mpr rfl)
  apply blameless_bind (call_yields hlast hw₃)
  rintro _ w₄ ⟨hw₄, h₄, hparent₄⟩
  have hdivert₄ := ((h₂.trans h₃).trans h₄).diverts parent hdivert₁
  have habs (htype : e.type = EV_ABS) : w₄.routing.mouseParent ≠ none := by
    rw [hparent₄, hparent₃ htype]
    exact Option.some_ne_none parent
  apply blameless_bind (scaleForChild_blameless hw₄ parent hdivert₄ habs hplain hslot)
  intro _ w₅ _
  exact blameless_pure trivial

theorem injectPointer_blameless (hw : InScope C w) (d : Option DomPtr) (hplain : e.Plain)
    (hslot : slot ≠ INPUTSLOT_INVALID) (type : HidType) :
    Blameless (Checked.injectPointer inject d e slot type) (fun _ _ => True) w := by
  apply blameless_bind (call_yields (inputTrackMousePosition_routes e type w) hw)
  rintro _ w₁ ⟨hw₁, _, _⟩
  apply blameless_get
  cases d with
  | none => exact blameless_pure trivial
  | some d =>
    have hpointer (e : InputEvent) (hplain : e.Plain) (val : Int32) :
        Blameless (Checked.routePointer inject d e slot val) (fun _ _ => True) w₁ := by
      apply blameless_get
      apply blameless_ite
      · exact fun _ => blameless_call fun _ _ _ => trivial
      intro hsome
      have hparent : w₁.routing.mouseParent ≠ none := by
        intro hnone
        rw [hnone] at hsome
        exact hsome rfl
      apply blameless_bind (blameless_present (Q := fun p w' => w₁.routing.mouseParent = some p ∧
        w' = w₁) hparent fun _ hp => ⟨hp, rfl⟩)
      rintro parent w' ⟨hp, hw'⟩
      cases hw'
      have hdv := hw₁.tracked.diverting.parent parent hp
      apply blameless_bind (blameless_present (Q := fun _ w' => w' = w₁) hdv fun _ _ => rfl)
      intro dv w' hw'
      cases hw'
      apply routeDiverted_blameless hinject hstill hsound hw₁ d hp dv hplain hslot
      intro htype
      rw [isClick, htype]
      rfl
    dsimp only
    split
    · exact hpointer _ (inputConvertRelToAbs_plain hplain) _
    · exact hpointer e hplain _

end

end

end

section
variable {F : Type} [Double F] {w₀ w : World F} {e : InputEvent} {slot : Int32} {type : HidType}

/-- In every state that the daemon gets to, `input_inject` follows no pointer that is NULL, unless
one of the two keys finds a destination missing. -/
theorem inputInject_dereferences (h₀ : w₀.Initial) (hrun : Run Activity.Step w₀ acts w)
    (hvalid : (Op.inputInject e slot type).Valid w) (hkeys : KeysRouted w e) (depth : Nat)
    (site : Site) : Checked.inputInject depth e slot type w ≠ .error (.own site) := by
  cases depth with
  | zero => exact nofun
  | succ depth =>
    have hliving := reachable_living h₀ hrun
    have hscope : InScope { w.scope with sound := False } w :=
      { hliving.inScope with sound := False.elim }
    have hinject := inputInject_routes (F := F) depth
    have hwhole : Blameless (Checked.inputInjectWith (inputInject depth) e slot type)
        (fun _ _ => True) w := by
      apply blameless_get
      apply blameless_bind (call_yields (wakeOnInput_settles hinject id id e w) hscope)
      rintro _ w₁ ⟨hw₁, h₁, hsettled⟩
      have hkeys₁ := hkeys.settles h₁ hsettled
      have hroute : Blameless (Checked.routeEvent (inputInject depth) w.routing.mouseDest e slot
          type) (fun _ _ => True) w₁ := by
        have hkeyboard := (eventIsKeyboard_routes (C := { w.scope with sound := False }) slot e
          w₁).of_moves (eventIsKeyboard_stays slot e w₁).wlp
        apply blameless_bind (call_yields hkeyboard hw₁)
        rintro isKey w₂ ⟨hw₂, h₂, hsame⟩
        apply blameless_ite
        · intro _
          exact injectKey_blameless _ slot (hkeys₁.settles h₂ hsame.settled)
        · intro _
          exact injectPointer_blameless hinject id id hw₂ _ hvalid.2 hvalid.1 type
      apply blameless_bind hroute
      rintro ⟨dest, e'⟩ w₂ _
      cases dest with
      | none => exact blameless_pure trivial
      | some d => exact blameless_call fun _ _ _ => trivial
    exact hwhole.1 site

end

/-- The daemon as it starts, with a keyboard in each slot. -/
def keyboardsWorld : World ℚ :=
  { startWorld (fun _ => told "") [] with types := fun _ => some .keyboard }

theorem keyboardsWorld_initial : keyboardsWorld.Initial :=
  { startWorld_initial (fun _ => told "") [] with }

def KEY_A : UInt16 := 30

theorem inputInject_dereferences_keyA :
    Checked.inputInject 6 { type := EV_KEY, code := KEY_A, value := 1 } 0 .keyboard
      keyboardsWorld ≠ .error (.own .switchVideoKeyb) := by
  apply inputInject_dereferences keyboardsWorld_initial .nil ⟨by decide, plain_key _ _⟩
  constructor
  · exact fun _ hcode => absurd hcode (by decide)
  · exact fun _ hcode => absurd hcode (by decide)

/-- The key that switches the display is pressed before there is a domain. -/
theorem switchVideo_dereferences :
    ¬∀ (w₀ w : World ℚ) (acts : List Activity) (e : InputEvent) (slot : Int32) (type : HidType)
      (depth : Nat) (site : Site), w₀.Initial → Run Activity.Step w₀ acts w →
      (Op.inputInject e slot type).Valid w →
      Checked.inputInject depth e slot type w ≠ .error (.own site) := by
  intro h
  apply h keyboardsWorld keyboardsWorld [] { type := EV_KEY, code := KEY_SWITCHVIDEOMODE, value := 1 }
    0 .keyboard 6 .switchVideoKeyb keyboardsWorld_initial .nil ⟨by decide, plain_key _ _⟩
  rfl

end InputServer
