import InputServer.RoutedDeliver

namespace InputServer
open Program
set_option autoImplicit true

variable {F : Type} {C : Scope} {w : World F}

/-- An entry changed in what the scope allows. -/
theorem modifyDomain_alters {f : Domain F → Domain F}
    (hslot : (f (w.domains d)).lastDevslot = (w.domains d).lastDevslot)
    (h : InScope C w → Alters C w d (f (w.domains d)))
    (hsound : C.sound → Sound w → Sound (w.setDomain d (f (w.domains d)))) :
    Routes C (modifyDomain d f) w := by
  apply moves_modify
  intro hw
  have hrouted := (h hw).routed
  refine ⟨hrouted.inScope hw ?_ ?_ hw.captured, hrouted⟩
  · exact hw.tracked.setDomain (h hw).identity hslot (h hw).divert
  · exact fun hs => hsound hs (hw.sound hs)

theorem resetKeys_routes (resetMouseDomain : Bool) (keys : List Nat) (w : World F) :
    Routes C (resetKeys resetMouseDomain keys) w := by
  induction keys generalizing w with
  | nil => exact moves_pure _
  | cons i keys ih =>
    apply yields_get
    intro _
    apply yields_ite
    · intro _
      have hset : Routes C (set { w with keyStatus := Function.update w.keyStatus i false }) w :=
        modify_unmoved (f := fun _ => { w with keyStatus := Function.update w.keyStatus i false })
          ⟨rfl, rfl, rfl, rfl, rfl, Nat.le_refl _, rfl, rfl⟩ rfl
      apply yields_bind hset
      intro _ w₁ _ _
      apply sent_routes _ default_ne_invalid (plain_key _ 0)
      intro e w₂ hplain _ _
      apply yields_get
      intro _
      apply yields_ite
      · intro _
        apply sent_routes _ default_ne_invalid hplain
        intro _ w₃ _ _ _
        exact ih w₃
      · intro _
        exact ih w₂
    · intro _
      exact ih w

theorem inputKeyboardReset_routes (resetMouseDomain : Bool) (w : World F) :
    Routes C (inputKeyboardReset resetMouseDomain) w := by
  apply yields_get
  intro _
  apply yields_ite
  · intro _
    exact moves_pure _
  · intro _
    exact resetKeys_routes resetMouseDomain _ w

theorem sendCodes_routes (d : DomPtr) (codes : List UInt16) {e : InputEvent} (hplain : e.Plain)
    (w : World F) :
    Yields (InScope C) (Routed C) (fun e' _ => e'.Plain) (sendCodes d codes e) w := by
  induction codes generalizing e w with
  | nil => exact yields_pure _ fun _ => hplain
  | cons code codes ih =>
    apply sent_routes _ default_ne_invalid (e := { e with code := code }) hplain
    intro e' w' hplain' _ _
    exact ih hplain' w'

theorem sendKeypair_routes (key : KeyPair) (dv : DivertInfo) (d : DomPtr) (w : World F) :
    Routes C (sendKeypair key dv d) w := by
  apply yields_bind_of (sendCodes_routes d _ (plain_key 0 1) w)
  intro e w₁ _ _ hplain
  apply sent_routes _ default_ne_invalid (e := { e with code := key.keycode.toUInt16 }) hplain
  intro e w₂ hplain _ _
  apply sent_routes _ default_ne_invalid (e := { e with value := 0 }) hplain
  intro e w₃ hplain _ _
  apply yields_bind_of (sendCodes_routes d _ hplain w₃)
  intro _ w₄ _ _ _
  exact moves_pure _

theorem filterWith_routes (keylist : List KeyPair) (dv : DivertInfo) (parent : DomPtr)
    (e : InputEvent) (w : World F) : Routes C (filterWith keylist dv parent e) w := by
  apply yields_bind (modifyRouting_keeps rfl rfl rfl rfl rfl)
  intro _ w₁ _ _
  apply yields_get
  intro _
  split
  · exact moves_pure _
  · apply yields_ite
    · intro _
      apply yields_bind (sendKeypair_routes _ dv parent w₁)
      intro _ w₂ _ _
      exact moves_pure _
    · intro _
      exact moves_pure _

theorem filterKeys_routes (e : InputEvent) (w : World F) : Routes C (filterKeys e) w := by
  apply yields_get
  intro _
  apply yields_ite
  · intro _
    exact moves_pure _
  · intro _
    split
    · exact moves_pure _
    split
    · exact moves_pure _
    split
    · exact moves_pure _
    · exact filterWith_routes _ _ _ e w

theorem World.Valid.some (h : w.Known d) : w.Valid (some d) := by
  intro a ha
  cases ha
  exact h

theorem World.Valid.none : w.Valid none :=
  nofun

theorem Sound.diverted_key (h : Sound w) (hk : w.diverted d DivertInfo.keyDomain = some key) :
    w.Known key :=
  h.keyDomain d key hk

theorem Sound.diverted_mouse (h : Sound w) (hm : w.diverted d DivertInfo.mouseDomain = some m) :
    w.Known m :=
  h.mouseDomain d m hm

theorem setKbdDomain_routes (hd : C.sound → w.Known d) : Routes C (setKbdDomain d) w := by
  apply yields_get
  intro _
  split
  · rename_i key hkey
    apply modifyRouting_routes rfl rfl
    · exact fun _ h => .inl h
    · exact fun _ => nofun
    · exact fun _ hs => .some (hs.diverted_key hkey)
    · exact fun hs _ => .some (hd hs)
  · apply modifyRouting_routes rfl rfl
    · exact fun _ h => .inl h
    · exact fun _ => nofun
    · exact fun hs _ => .some (hd hs)
    · exact fun _ _ => .none

/-- The mouse is moved too, which no step does that leaves it still. -/
theorem modifyRouting_mouse {f : Routing F → Routing F} (hC : ¬C.still)
    (hpressed : (f w.routing).mousePressed = w.routing.mousePressed)
    (hmouse : (f w.routing).mouseDest ≠ none)
    (hkeyb : (f w.routing).keybDest = w.routing.keybDest)
    (hparent : ∀ p, (f w.routing).mouseParent = some p → (w.domains p).divertInfo ≠ none)
    (hsound : C.sound → Sound w → Sound { w with routing := f w.routing }) :
    Routes C (modifyRouting f) w := by
  apply moves_modify
  intro hw
  have hrouted : Routed C w { w with routing := f w.routing } :=
    { Routed.refl C w with
      held := fun hn => absurd hn hC
      mouse := fun _ => hmouse
      keyb := fun hk => hkeyb ▸ hk }
  refine ⟨hrouted.inScope hw ?_ ?_ hw.captured, hrouted⟩
  · refine ⟨hw.tracked.devslot, ?_, { hw.tracked.diverting with parent := hparent }⟩
    change ∀ mb ∈ (f w.routing).mousePressed, mb.slot ≠ INPUTSLOT_INVALID
    rw [hpressed]
    exact hw.tracked.pressed
  · exact fun hs => hsound hs (hw.sound hs)

theorem setMouseDomain_routes (hC : ¬C.still) (hd : C.sound → w.Known d) :
    Routes C (setMouseDomain d) w := by
  apply yields_get
  intro _
  split
  · rename_i mouse hmouse
    have hdivert : (w.domains d).divertInfo ≠ none := by
      intro hnone
      rw [World.diverted, hnone] at hmouse
      cases hmouse
    apply modifyRouting_mouse hC rfl (Option.some_ne_none mouse) rfl
    · intro p hp
      cases hp
      exact hdivert
    intro hsound hs
    exact { hs with
      mouseDest := .some (hs.diverted_mouse hmouse)
      mouseParent := .some (hd hsound)
      follows := by
        intro p m hp hm
        cases hp
        cases hm
        exact hmouse }
  · apply modifyRouting_mouse hC rfl (Option.some_ne_none d) rfl
    · intro p hp
      cases hp
    intro hsound hs
    exact { hs with
      mouseDest := .some (hd hsound)
      mouseParent := .none
      follows := fun _ _ hp => by cases hp }

theorem inputSetMouse_routes (hC : ¬C.still) (hd : C.sound → w.Known d) :
    Routes C (inputSetMouse d) w := by
  apply yields_bind (modifyRouting_keeps rfl rfl rfl rfl rfl)
  intro _ w' _ h
  exact setMouseDomain_routes hC fun hs => (h.known d).mpr (hd hs)

theorem dupClicks_routes (d : Option DomPtr) (frame : Frame) (pressed mbs : List MouseButton)
    {e : InputEvent} (hplain : e.Plain) (hslot : ∀ mb ∈ mbs, mb.slot ≠ INPUTSLOT_INVALID)
    (w : World F) : Routes C (dupClicks d frame pressed mbs e) w := by
  induction mbs generalizing e w with
  | nil => exact moves_pure _
  | cons mb mbs ih =>
    have hhead : mb.slot ≠ INPUTSLOT_INVALID := hslot mb List.mem_cons_self
    have htail : ∀ mb ∈ mbs, mb.slot ≠ INPUTSLOT_INVALID :=
      fun mb hmb => hslot mb (List.mem_cons_of_mem _ hmb)
    apply yields_get
    intro _
    apply yields_ite
    · intro _
      apply yields_ite
      · intro _
        apply sent_routes d hhead (e := { e with code := mb.code }) hplain
        intro e' w₁ hplain' _ _
        have hrecord : Routes C (modifyRouting fun r => { r with
            mousePressed := r.mousePressed ++ [{ mb with domain := d }] }) w₁ := by
          apply modifyRouting_routes rfl rfl
          · intro mb' hmb'
            cases List.mem_append.mp hmb' with
            | inl hold => exact .inl hold
            | inr hnew =>
              right
              rw [List.mem_singleton.mp hnew]
              exact hhead
          · exact id
          · exact fun _ hs => hs.keybDest
          · exact fun _ hs => hs.keybParent
        apply yields_bind hrecord
        intro _ w₂ _ _
        exact ih hplain' htail w₂
      · intro _
        exact ih hplain htail w
    · intro _
      exact moves_pure _

theorem dupMouseClicks_routes (d : Option DomPtr) (w : World F) :
    Routes C (dupMouseClicks d) w := by
  apply yields_get
  intro hw
  split
  · exact moves_pure _
  · exact dupClicks_routes d _ _ _ (plain_key 0 1) hw.tracked.pressed w

theorem syncMouseDomain_routes (hC : ¬C.still) (hd : C.sound → w.Valid d) :
    Routes C (syncMouseDomain d) w := by
  apply yields_get
  intro _
  apply yields_ite
  · intro _
    apply yields_bind_of (deref_routes d w)
    intro a w₁ _ h₁ ha
    have hknown (hs : C.sound) : w₁.Known a := (h₁.known a).mpr (hd hs a ha)
    apply yields_bind (inputSetMouse_routes hC hknown)
    intro _ w₂ _ _
    exact dupMouseClicks_routes d w₂
  · intro _
    exact dupMouseClicks_routes d w

theorem inputGetNumlockRestoreOnSwitch_routes (w : World F) :
    Routes C inputGetNumlockRestoreOnSwitch w := by
  apply yields_bind (dbRead_routes _ w)
  intro _ w' _ _
  exact moves_pure _

/-- The keyboard that an entry remembers is changed. -/
theorem modifyPrev_routes {f : Domain F → Domain F} (hC : ¬C.still)
    (hsame : ∀ x, Unaltered x { f x with
      prevKeybDomainPtr := x.prevKeybDomainPtr, prevKeybDomid := x.prevKeybDomid })
    (hslot : ∀ x, (f x).lastDevslot = x.lastDevslot)
    (hprev : C.sound → Sound w → w.PrevOf (f (w.domains d)))
    (hremembers : ¬C.target d → w.switcher.current ≠ some d →
      (f (w.domains d)).prevKeybDomainPtr = none) :
    Routes C (modifyDomain d f) w := by
  have hx := hsame (w.domains d)
  have hidentity : SameGuest w d (f (w.domains d)) := hx.identity
  have hdivert : (f (w.domains d)).divertInfo = (w.domains d).divertInfo := hx.divertInfo
  apply modifyDomain_alters (hslot _)
  · intro hw
    exact {
      identity := hidentity
      asleep := fun hs => hx.isInS3.symm.trans hs
      running := fun hs hzero => hs (hx.sstate.symm.trans hzero)
      names := hx.names
      prev := fun hs _ => hprev hs (hw.sound hs)
      held := fun hn => absurd hn hC
      divert := by rw [hdivert]
      mouse := congrArg (Option.bind · DivertInfo.mouseDomain) hdivert
      turned := by
        intro _ _ k hk
        rw [hdivert] at hk
        exact .inl hk
      remembers := fun ht hfocus _ => hremembers ht hfocus }
  · intro hsound hs
    apply hs.setDomain (SameGuest.name hidentity)
    · rw [hdivert]
      exact hs.keyDomain d
    · rw [hdivert]
      rfl
    · exact fun _ => hprev hsound hs

theorem prevOf_none {x : Domain F} (h : x.prevKeybDomainPtr = none) : w.PrevOf x := by
  intro p hp
  rw [h] at hp
  cases hp

theorem prevOf_some {x : Domain F} (hptr : x.prevKeybDomainPtr = some p)
    (hdomid : x.prevKeybDomid = (w.domains p).domid) (hp : w.Known p) : w.PrevOf x := by
  intro q hq
  rw [hptr] at hq
  cases hq
  exact .inr ⟨hp, hdomid.symm⟩

theorem savePrevKeybDomain_routes (hC : ¬C.still) (w : World F) :
    Routes C (savePrevKeybDomain w.switcher.current) w := by
  apply yields_get
  intro _
  split
  · rename_i d keyb mouse hcurrent hkeyb hmouse
    apply yields_ite
    · intro _
      apply modifyPrev_routes hC
      · intro x
        exact ⟨rfl, rfl, rfl, rfl, rfl, rfl, rfl, rfl⟩
      · intro _
        rfl
      · intro _ hs
        exact prevOf_some rfl rfl (hs.keybDest keyb hkeyb)
      · exact fun _ hfocus => absurd hcurrent hfocus
    · intro _
      apply modifyPrev_routes hC
      · intro x
        exact ⟨rfl, rfl, rfl, rfl, rfl, rfl, rfl, rfl⟩
      · intro _
        rfl
      · intro _ _
        exact prevOf_none rfl
      · exact fun _ _ => rfl
  · exact moves_pure _

theorem wiggleCtrlKey_routes (d : Option DomPtr) (w : World F) : Routes C (wiggleCtrlKey d) w := by
  apply yields_get
  intro _
  apply yields_ite
  · intro _
    exact moves_pure _
  · intro _
    apply sent_routes d default_ne_invalid (plain_key KEY_LEFTCTRL 1)
    intro _ w₁ _ _ _
    apply sent_routes d default_ne_invalid (plain_key KEY_LEFTCTRL 0)
    intro _ w₂ _ _ _
    exact moves_pure _

theorem inputDomainSetMousePos_routes (d : Option DomPtr) (x y : Int32) (w : World F) :
    Routes C (inputDomainSetMousePos d x y) w := by
  apply yields_ite
  · intro _
    exact moves_pure _
  · intro _
    apply sent_routes d default_ne_invalid (plain_abs ABS_X x)
    intro e w₁ hplain _ _
    apply sent_routes d default_ne_invalid (e := { e with code := ABS_Y, value := y }) hplain
    intro e w₂ _ _ _
    apply sent_routes d default_ne_invalid (e := { e with type := EV_SYN, code := SYN_REPORT })
      synReport_plain
    intro _ w₃ _ _ _
    exact moves_pure _

theorem eventIsKeyboard_routes (slot : Int32) (e : InputEvent) (w : World F) :
    Routes C (eventIsKeyboard slot e) w := by
  have hmark (lastWasKey answer : Bool) : Routes C (do
      modifyRouting fun r : Routing F => { r with lastWasKey := lastWasKey }
      pure answer) w := by
    apply yields_bind (modifyRouting_keeps rfl rfl rfl rfl rfl)
    intro _ w' _ _
    exact moves_pure _
  apply yields_get
  intro _
  apply yields_ite
  · intro _
    exact hmark false false
  intro _
  apply yields_ite
  · intro _
    exact hmark true true
  intro _
  apply yields_ite
  · intro _
    exact moves_pure _
  · intro _
    exact hmark false false

theorem domainCantPrintScreen_routes (d : Option DomPtr) (w : World F) :
    Routes C (domainCantPrintScreen d) w := by
  apply yields_get
  intro _
  cases d with
  | none => exact moves_pure _
  | some d =>
    apply yields_bind (dbRead_routes _ w)
    intro _ w' _ _
    exact moves_pure _

theorem inputCantPrintScreen_routes (w : World F) : Routes C inputCantPrintScreen w := by
  apply yields_get
  intro _
  apply yields_bind (domainCantPrintScreen_routes _ w)
  intro _ w' _ _
  apply yields_ite
  · intro _
    exact moves_pure _
  · intro _
    exact domainCantPrintScreen_routes _ w'

theorem timeoutExpired_routes (w : World F) : Routes C timeoutExpired w := by
  apply yields_bind (gettimeofday_routes w)
  intro _ w' _ _
  apply yields_get
  intro _
  exact moves_pure _

theorem timeoutStart_routes (w : World F) : Routes C timeoutStart w := by
  apply yields_bind (gettimeofday_routes w)
  intro _ w' _ _
  exact modifyRouting_keeps rfl rfl rfl rfl rfl

theorem takePressed_mem (h : takePressed code slot pressed = some (mb, mbs)) :
    mb ∈ pressed ∧ ∀ mb' ∈ mbs, mb' ∈ pressed := by
  induction pressed generalizing mbs with
  | nil => cases h
  | cons mb' pressed ih =>
    unfold takePressed at h
    split at h
    · cases h
      exact ⟨List.mem_cons_self, fun _ hmem => List.mem_cons_of_mem _ hmem⟩
    · cases hrest : takePressed code slot pressed with
      | none =>
        rw [hrest] at h
        cases h
      | some r =>
        rw [hrest] at h
        cases h
        obtain ⟨hmb, hmbs⟩ := ih hrest
        refine ⟨List.mem_cons_of_mem _ hmb, ?_⟩
        intro mb'' hmem
        cases List.mem_cons.mp hmem with
        | inl heq =>
          rw [heq]
          exact List.mem_cons_self
        | inr htail => exact List.mem_cons_of_mem _ (hmbs mb'' htail)

theorem scaleCoordinate_routes (value : Int32) (s1 s2 d1 d2 : UInt32) (w : World F) :
    Routes C (scaleCoordinate value s1 s2 d1 d2) w := by
  apply yields_ite
  · intro _
    exact yields_throw _
  · intro _
    exact moves_pure _

theorem scalePointerEvent_routes (dv : DivertInfo) {e : InputEvent} (hplain : e.Plain)
    (w : World F) :
    Yields (InScope C) (Routed C) (fun e' _ => e'.Plain) (scalePointerEvent dv e) w := by
  apply yields_ite
  · intro _
    apply yields_bind (scaleCoordinate_routes _ _ _ _ _ w)
    intro v w' _ _
    exact yields_pure _ fun _ => hplain
  intro _
  apply yields_ite
  · intro _
    apply yields_bind (scaleCoordinate_routes _ _ _ _ _ w)
    intro v w' _ _
    exact yields_pure _ fun _ => hplain
  · intro _
    exact yields_pure _ fun _ => hplain

theorem trackButton_keeps (e : InputEvent) (r : Routing F) :
    (trackButton e r).mouseDest = r.mouseDest ∧ (trackButton e r).mouseParent = r.mouseParent ∧
      (trackButton e r).keybDest = r.keybDest ∧ (trackButton e r).keybParent = r.keybParent ∧
      (trackButton e r).mousePressed = r.mousePressed := by
  unfold trackButton
  dsimp only
  split
  · exact ⟨rfl, rfl, rfl, rfl, rfl⟩
  · exact ⟨rfl, rfl, rfl, rfl, rfl⟩

section
variable [Double F]

theorem inputDomainSetMouse_routes (d : Option DomPtr) (w : World F) :
    Routes C (inputDomainSetMouse d) w := by
  apply yields_get
  intro _
  exact inputDomainSetMousePos_routes d _ _ w

theorem inputSetMousePos_routes (x y : Int) (w : World F) : Routes C (inputSetMousePos x y) w :=
  modifyRouting_keeps rfl rfl rfl rfl rfl

theorem trackMotion_routes (e : InputEvent) (type : HidType) (w : World F) :
    Routes C (trackMotion e type) w := by
  apply yields_get
  intro _
  split
  · exact moves_pure _
  · apply yields_ite
    · intro _
      exact modifyRouting_keeps rfl rfl rfl rfl rfl
    intro _
    apply yields_ite
    · intro _
      exact modifyRouting_keeps rfl rfl rfl rfl rfl
    · intro _
      exact moves_pure _

theorem inputTrackMousePosition_routes (e : InputEvent) (type : HidType) (w : World F) :
    Routes C (inputTrackMousePosition e type) w := by
  apply yields_bind (trackMotion_routes e type w)
  intro _ w' _ _
  apply yields_ite
  · intro _
    obtain ⟨hdest, hparent, hkeyb, hkeybParent, hpressed⟩ := trackButton_keeps e w'.routing
    exact modifyRouting_keeps hdest hparent hkeyb hkeybParent hpressed
  · intro _
    exact moves_pure _

theorem checkMouseKeys_routes (d : DomPtr) (hslot : slot ≠ INPUTSLOT_INVALID) {e : InputEvent}
    (hplain : e.Plain) (w : World F) : Routes C (checkMouseKeys d slot e) w := by
  apply yields_get
  intro _
  apply yields_ite
  · intro _
    exact moves_pure _
  intro _
  apply yields_ite
  · intro _
    apply yields_ite
    · intro _
      have hrecord : Routes C (modifyRouting fun r : Routing F => { r with
          mousePressed := r.mousePressed ++ [{
            code := e.code, slot := slot, domain := some d
            x := Double.trunc w.routing.mouseX, y := Double.trunc w.routing.mouseY }] }) w := by
        apply modifyRouting_routes rfl rfl
        · intro mb hmb
          cases List.mem_append.mp hmb with
          | inl hold => exact .inl hold
          | inr hnew =>
            right
            rw [List.mem_singleton.mp hnew]
            exact hslot
        · exact id
        · exact fun _ hs => hs.keybDest
        · exact fun _ hs => hs.keybParent
      apply yields_bind hrecord
      intro _ w' _ _
      exact moves_pure _
    · intro _
      exact moves_pure _
  intro _
  split
  · exact moves_pure _
  · rename_i mb mbs htaken
    obtain ⟨_, hmbs⟩ := takePressed_mem htaken
    have hforget (w' : World F) (h' : ∀ mb' ∈ mbs, mb'.slot ≠ INPUTSLOT_INVALID) :
        Routes C (modifyRouting fun r : Routing F => { r with mousePressed := mbs }) w' := by
      apply modifyRouting_routes rfl rfl
      · exact fun mb' hmb' => .inr (h' mb' hmb')
      · exact id
      · exact fun _ hs => hs.keybDest
      · exact fun _ hs => hs.keybParent
    intro hw
    have hvalid : ∀ mb' ∈ mbs, mb'.slot ≠ INPUTSLOT_INVALID :=
      fun mb' hmb' => hw.tracked.pressed mb' (hmbs mb' hmb')
    revert hw
    apply yields_ite
    · intro _
      apply sent_routes mb.domain hslot hplain
      intro _ w₁ _ _ _
      apply yields_bind (hforget w₁ hvalid)
      intro _ w₂ _ _
      exact moves_pure _
    · intro _
      apply yields_bind (hforget w hvalid)
      intro _ w₁ _ _
      exact moves_pure _

end

end InputServer
