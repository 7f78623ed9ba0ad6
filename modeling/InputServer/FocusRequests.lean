import InputServer.Reachable

namespace InputServer
open Program
set_option autoImplicit true

variable {F : Type} {C : Scope} {w w' : World F} {d : DomPtr}

/-- Both are with `d`, or where `d` diverts them to. -/
structure AimedAt (w : World F) (d : DomPtr) : Prop where
  mouse : MouseAt w d
  keyb : w.routing.keybDest = some ((w.diverted d DivertInfo.keyDomain).getD d)

/-- The domain that the keyboard goes to with the focus on `d`: where `d` diverts it to, or the one
that had it when the focus last left `d`. -/
def World.keyboardOf (w : World F) (d : DomPtr) : DomPtr :=
  if (w.domains d).divertInfo.isNone then (w.prevKeyb d).getD d
  else (w.diverted d DivertInfo.keyDomain).getD d

/-- The input goes where the focus on `d` sends it. -/
structure InputFollows (w : World F) (d : DomPtr) : Prop where
  mouse : MouseAt w d
  keyb : w.routing.keybDest = some (w.keyboardOf d)

theorem setKbdDomain_aimed (h : MouseAt w d) :
    wlp (setKbdDomain d) (fun _ w' => AimedAt w' d) w := by
  rw [setKbdDomain, wlp_bind, wlp_get]
  split
  · rename_i key hkey
    rw [modifyRouting, wlp_modify]
    refine ⟨h.congr rfl rfl rfl, ?_⟩
    change some key = some ((w.diverted d DivertInfo.keyDomain).getD d)
    rw [hkey]
    rfl
  · rename_i hkey
    rw [modifyRouting, wlp_modify]
    refine ⟨h.congr rfl rfl rfl, ?_⟩
    change some d = some ((w.diverted d DivertInfo.keyDomain).getD d)
    rw [hkey]
    rfl

/-- The time that an entry got input at is of no concern to where the input goes. -/
theorem AimedAt.stamped (h : AimedAt w d) :
    wlp (do
      let now ← gettimeofday
      modifyDomain d fun x => { x with lastInputEvent := now }) (fun _ w' => AimedAt w' d) w := by
  rw [wlp_bind, gettimeofday, ask, wlp_bind, wlp_get, wlp_bind, wlp_set, wlp_pure, modifyDomain,
    wlp_modify]
  have hdivert : (Function.update w.domains d { w.domains d with
      lastInputEvent := (w.answers w.asked).time } d).divertInfo = (w.domains d).divertInfo := by
    rw [Function.update_self]
  refine ⟨h.mouse.congr hdivert rfl rfl, ?_⟩
  rw [diverted_congr (w := w) hdivert]
  exact h.keyb

/-- Nothing that is remembered of a keyboard changes while the mouse stands still. -/
theorem prevKeyb_held (h : Held w w') (hdomid : ∀ a, (w'.domains a).domid = (w.domains a).domid)
    (d : DomPtr) : w'.prevKeyb d = w.prevKeyb d := by
  rw [World.prevKeyb, World.prevKeyb, h.prevPtr, h.prevDomid]
  simp only [hdomid]

theorem Held.divertInfo_none (h : Held w w') (hnone : (w.domains d).divertInfo = none) :
    (w'.domains d).divertInfo = none := by
  cases h.divert d with
  | inl hsame => exact hsame.trans hnone
  | inr hturned =>
    rw [hturned.2, hnone]
    rfl

section
variable {inject : Inject F} (hinject : InjectRoutes inject)
include hinject

theorem inputSet_aims (hstill : ¬C.still) (hd : C.sound → w.Known d) :
    Yields (InScope C) (Routed C) (fun _ w' => AimedAt w' d) (inputSet inject d) w := by
  apply Yields.of_moves (inputSet_routes hinject hstill hd)
  rw [inputSet, wlp_bind]
  intro _ w₁ _
  rw [wlp_bind]
  intro _ w₂ _
  rw [wlp_bind]
  refine wlp_mono (setMouseDomain_sets d w₂) ?_
  intro _ w₃ hset
  rw [wlp_bind]
  refine wlp_mono (setKbdDomain_aimed hset.mouse) ?_
  intro _ w₄ haimed
  exact haimed.stamped

/-- The keyboard goes back to the domain that had it. -/
theorem restorePrevKeybDomain_follows (hbusy : w.switcher.switching = true)
    (hd : C.sound → w.Known d) (haimed : AimedAt w d) (hnone : (w.domains d).divertInfo = none) :
    Yields (InScope C) (Routed C) (fun _ w' => InputFollows w' d)
      (restorePrevKeybDomain inject d) w := by
  intro hw
  have hroutes := restorePrevKeybDomain_routes (C := C.firm) hinject hd (hw.firm hbusy)
  have hkept : wlp (restorePrevKeybDomain inject d) (fun _ w' => Routed C.firm w w' →
      w'.routing.keybDest = some ((w.prevKeyb d).getD d)) w := by
    rw [restorePrevKeybDomain, wlp_bind, wlp_get]
    have hkeyb := haimed.keyb
    rw [World.diverted, hnone] at hkeyb
    cases hprev : w.prevKeyb d with
    | none =>
      rw [wlp_pure]
      exact fun _ => hkeyb
    | some prev =>
      change wlp (inputGiveKeyboard inject prev) _ w
      rw [inputGiveKeyboard, wlp_bind, wlp_get]
      apply wlp_ite
      · intro hsame
        rw [wlp_pure]
        exact fun _ => hsame
      · intro _
        rw [wlp_bind]
        intro _ w₁ _
        rw [modifyRouting, wlp_modify]
        exact fun _ => rfl
  intro a w' hrun
  obtain ⟨hscope, hrouted, _⟩ := hroutes a w' hrun
  have hheld := hrouted.held trivial
  have hr := hrouted.of_firm
  have hnone' := hheld.divertInfo_none hnone
  have hdivert := hnone'.trans hnone.symm
  refine ⟨hr.inScope hw hscope.tracked hscope.sound hscope.captured, hr, ?_⟩
  constructor
  · exact haimed.mouse.congr hdivert hheld.mouseDest hheld.mouseParent
  · rw [World.keyboardOf, hnone', prevKeyb_held hheld hr.domid]
    exact hkept a w' hrun hrouted

theorem followFocus_follows (hstill : ¬C.still) (hbusy : w.switcher.switching = true)
    (hd : C.sound → w.Known d) :
    Yields (InScope C) (Routed C) (fun _ w' => InputFollows w' d) (do
      let follow ← keyboardFollowsMouse
      if false ∧ ¬follow then inputSetMouse d
      else do
        inputSet inject d
        let w ← get
        if (w.domains d).divertInfo.isNone then restorePrevKeybDomain inject d else pure ()) w := by
  apply yields_bind (keyboardFollowsMouse_routes w)
  intro _ w₁ _ h₁
  have hd₁ (hs : C.sound) : w₁.Known d := (h₁.known d).mpr (hd hs)
  apply yields_ite
  · exact fun hno => absurd hno.1 Bool.false_ne_true
  intro _
  apply yields_bind_of (inputSet_aims hinject hstill hd₁)
  intro _ w₂ _ h₂ haimed
  apply yields_get
  intro _
  apply yields_ite
  · intro hnone
    apply restorePrevKeybDomain_follows hinject ((h₁.trans h₂).switching.trans hbusy)
      (fun hs => (h₂.known d).mpr (hd₁ hs)) haimed
    exact Option.isNone_iff_eq_none.mp hnone
  · intro hsome
    apply yields_pure
    intro _
    refine ⟨haimed.mouse, ?_⟩
    rw [World.keyboardOf, if_neg hsome]
    exact haimed.keyb

section
variable [Double F] (hC : ¬C.nested) (hstill : ¬C.still)
include hC hstill

/-- The focus that a switch takes, and the input with it. -/
theorem switchTo_follows (hbusy : w.switcher.switching = true) (hd : C.sound → w.Known d)
    (ht : C.target d) :
    Yields (InScope C) (Routed C) (fun switched w' => switched = true → InputFollows w' d)
      (switchTo inject d false) w := by
  apply yields_bind (rememberKeyboard_routes hstill w)
  intro _ w₁ _ h₁
  apply yields_bind (placePointer_routes d false w₁)
  intro _ w₂ _ h₂
  apply yields_bind (displaySwitched_routes hC ht)
  intro shown w₃ _ h₃
  have hr := (h₁.trans h₂).trans h₃
  apply yields_ite
  · intro _
    have hfocus : Yields (InScope C) (Routed C) (fun _ w' => InputFollows w' d)
        (focusDomain inject d false) w₃ := by
      apply takeFocus_routes hC ht
      intro w₄ _ h₄ _ _
      have hall := hr.trans h₄
      exact followFocus_follows hinject hstill (hall.switching.trans hbusy)
        fun hs => (hall.known d).mpr (hd hs)
    apply yields_bind_of hfocus
    intro _ w₅ _ _ hfollows
    exact yields_pure _ fun _ _ => hfollows
  · intro _
    exact yields_pure _ fun _ hno => absurd hno Bool.false_ne_true

theorem switcherSwitch_follows (hfree : w.switcher.switching = false) (hd : C.sound → w.Known d)
    (ht : C.target d) :
    Yields (InScope C) (Routed C) (fun switched w' => switched = true → InputFollows w' d)
      (switcherSwitch inject (some d) false) w := by
  have hroutes : Routes C (switcherSwitch inject (some d) false) w := by
    apply switcherSwitch_routes hinject
    · intro hs a ha
      cases ha
      exact hd hs
    · intro _ a ha
      cases ha
      exact ht
  intro hw
  apply Yields.of_moves hroutes _ hw
  rw [switcherSwitch, wlp_bind, wlp_get]
  apply wlp_ite
  · intro hbusy
    rw [hfree] at hbusy
    cases hbusy
  · intro _
    rw [wlp_bind, modifySwitcher, wlp_modify, wlp_bind]
    have hswitch := switchTo_follows hinject (w := { w with
      switcher := { w.switcher with switching := true } }) hC hstill rfl hd ht
    refine wlp_mono (hswitch (hw.guard hC true)) ?_
    intro switched w₂ h₂
    rw [wlp_bind, modifySwitcher, wlp_modify, wlp_pure]
    exact fun hyes => ⟨⟨(h₂.2.2 hyes).mouse.dest, (h₂.2.2 hyes).mouse.parent⟩, (h₂.2.2 hyes).keyb⟩

end

/-- The domain that an operation asks to move the focus to. -/
def Op.requested (w : World F) : Op → Option DomPtr
  | .switchFocus domid => if domid = -1 then none else w.domainWithDomid domid
  | .command d .switch => some d
  | .command _ (.switchSlot slot) => w.domainWithSlot slot
  | .command _ (.switchDomid domid) => w.domainWithDomid domid
  | _ => none

/-- The display service was asked to show a domain with a surface, and refused. -/
structure DisplayRefused (w w' : World F) (d : DomPtr) : Prop where
  stays : FocusStays w w'
  shown : (w.domains d).disabledSurface = false ∧ (w.domains d).isPvm = false
  refused : ∃ n, w.asked ≤ n ∧ n < w'.asked ∧ (w.answers n).setVisible = false

/-- What a request to move the focus comes to. -/
structure Answered (w w' : World F) (d : DomPtr) : Prop where
  released : w'.switcher.switching = false
  outcome : (w'.switcher.current = some d ∧ (w'.domains d).domid = (w.domains d).domid ∧
    InputFollows w' d) ∨ DisplayRefused w w' d

omit hinject in
theorem DisplayRefused.of_not_shows (hstays : FocusStays w w') (h : ¬Shows w w' d) :
    DisplayRefused w w' d where
  stays := hstays
  shown := ⟨Bool.eq_false_iff.mpr fun hdisabled => h (.inl hdisabled),
    Bool.eq_false_iff.mpr fun hpvm => h (.inr (.inl hpvm))⟩
  refused := by
    by_contra hno
    apply h
    refine .inr (.inr ?_)
    intro n hn hn'
    by_contra hrefused
    exact hno ⟨n, hn, hn', Bool.eq_false_iff.mpr hrefused⟩

variable [Double F]

/-- A switch asked for between two operations is answered. -/
theorem switcherSwitch_answers {L : Regime F} (hw : Living L w) (hd : w.Known d) :
    wlp (switcherSwitch inject (some d) false) (fun _ w' => Answered w w' d) w := by
  have hends := switcherSwitch_ends (C := w.scope) hinject id id hw.idle (fun _ => hd) hd false
    hw.inScope
  have hfollows := switcherSwitch_follows (C := w.scope) hinject id id hw.idle (fun _ => hd) hd
    hw.inScope
  intro switched w' hrun
  obtain ⟨_, hr, hend⟩ := hends switched w' hrun
  constructor
  · exact hr.switching.trans hw.idle
  · cases switched with
    | true => exact .inl ⟨hend, hr.domid d, (hfollows true w' hrun).2.2 rfl⟩
    | false => exact .inr (.of_not_shows hend.1 hend.2)

theorem switchFound_answers {L : Regime F} (hw : Living L w) (hd : w.Known d) :
    wlp (switchFound inject (some d)) (fun _ w' => Answered w w' d) w := by
  rw [switchFound, wlp_bind]
  exact wlp_mono (switcherSwitch_answers hinject hw hd) fun _ _ h => (wlp_pure _ _ _).mpr h

theorem Op.answers {L : Regime F} (op : Op) (hw : Living L w) (hvalid : op.Valid w)
    (hd : op.requested w = some d) : wlp (op.run inject) (fun _ w' => Answered w w' d) w := by
  cases op with
  | switchFocus domid =>
    rw [Op.requested] at hd
    split at hd
    · cases hd
    · rename_i hdomid
      rw [Op.run, inputDaemonSwitchFocus, wlp_bind, wlp_get, if_neg hdomid, hd]
      exact switchFound_answers hinject hw (known_of_firstDomain hd)
  | command sender c =>
    rw [Op.run, domainCommand, wlp_bind, wlp_get]
    cases c with
    | switch =>
      cases hd
      exact switchFound_answers hinject hw hvalid
    | switchSlot slot =>
      change w.domainWithSlot slot = some d at hd
      simp only [hd]
      exact switchFound_answers hinject hw (known_of_domainWithSlot hd)
    | switchDomid domid =>
      change w.domainWithDomid domid = some d at hd
      simp only [hd]
      exact switchFound_answers hinject hw (known_of_firstDomain hd)
    | _ => cases hd
  | _ => cases hd

end

section
variable [Double F] {w₀ : World F} {acts : List Activity}

/-- Two domains connect, one after the other. -/
def twoConnected : World ℚ :=
  Activity.reached 5 [.op (.rpcConnect 5 false), .op (.rpcConnect 6 false)]
    (startWorld (toldUntil 17 "1" "2") [])

end

end InputServer
