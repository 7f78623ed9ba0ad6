import InputServer.ButtonHold

namespace InputServer
open Program
set_option autoImplicit true

/-- `event_is_keyboard` says that an event is not: it is from another device, or no key, nor the
SYN behind one. -/
def World.Points {F : Type} (w : World F) (e : InputEvent) (slot : Int32) : Prop :=
  (0 ≤ slot ∧ w.types slot.toInt.toNat ≠ some .keyboard) ∨
    (¬((e.type = EV_KEY ∧ e.code < BTN_MOUSE) ∨ (e.type = EV_MSC ∧ e.code = MSC_SCAN)) ∧
      (e.type = EV_SYN → w.routing.lastWasKey = false))

def SameTypes {F : Type} (w w' : World F) : Prop :=
  w'.types = w.types

instance {F : Type} : IsPreorder (World F) SameTypes where
  refl _ := rfl
  trans _ _ _ h h' := Eq.trans h' h

section
variable {F : Type} {w : World F}

theorem eventIsKeyboard_points (h : w.Points e slot) :
    wlp (eventIsKeyboard slot e) (fun isKey w' => isKey = false ∧ Alike w w') w := by
  have hmark : wlp (do
      modifyRouting fun r : Routing F => { r with lastWasKey := false }
      pure false) (fun isKey w' => isKey = false ∧ Alike w w') w := by
    rw [wlp_bind, modifyRouting, wlp_modify, wlp_pure]
    exact ⟨rfl, rfl, fun _ => rfl, fun _ h => h, id⟩
  rw [eventIsKeyboard, wlp_bind, wlp_get]
  dsimp only
  apply wlp_ite
  · exact fun _ => hmark
  intro hdevice
  obtain ⟨hother, hsyn⟩ := h.resolve_left hdevice
  rw [if_neg hother]
  apply wlp_ite
  · intro htype
    exact (wlp_pure _ _ w).mpr ⟨hsyn htype, refl w⟩
  · exact fun _ => hmark

abbrev KeepsTypes (m : WorldM F α) (w : World F) : Prop :=
  Moves (fun _ => True) SameTypes m w

theorem keepsTypes_ask (f : Answers → α) (w : World F) : KeepsTypes (ask f) w := by
  intro _ _ _ hrun
  cases hrun
  exact ⟨trivial, rfl, trivial⟩

theorem keepsTypes_sent (d : Option DomPtr) (slot : Int32) (e : InputEvent)
    {k : InputEvent → WorldM F α} (hk : ∀ e' w', KeepsTypes (k e') w') :
    KeepsTypes (inputSend d slot e >>= k) w := by
  have hsend : KeepsTypes (inputSend d slot e) w := by
    intro _ e' w' hrun
    exact ⟨trivial, (frames_inputSend d slot e w trivial e' w' hrun).2.1.types, trivial⟩
  apply yields_bind hsend
  intro e' w' _ _
  exact hk e' w'

variable [Double F] (inject : Inject F)

/-- A domain that is not switched to is woken beside the devices. -/
theorem domainWakeFromS3_keepsTypes {p : Option DomPtr}
    (hawake : ∀ d, p = some d → (w.domains d).isInS3 = true → (w.domains d).isPvm = false) :
    KeepsTypes (domainWakeFromS3 inject p) w := by
  apply yields_get
  intro _
  cases p with
  | none => exact moves_pure _
  | some d =>
    apply yields_ite
    · intro _
      exact moves_pure _
    intro hasleep
    have hpvm := hawake d rfl (not_not.mp hasleep)
    apply yields_bind_of ((keepsTypes_ask _ w).of_moves (likens_ask _ w).wlp)
    intro _ w₁ _ _ h₁
    apply yields_ite
    · intro _
      exact moves_pure _
    intro _
    have hresume : KeepsTypes (resumeDomain d) w₁ := by
      apply yields_get
      intro _
      apply yields_ite
      · intro _
        exact moves_modify fun _ => ⟨trivial, rfl⟩
      · intro _
        exact moves_pure _
    apply yields_bind_of (hresume.of_moves (resumeDomain_likens d w₁).wlp)
    intro _ w₂ _ _ h₂
    apply yields_get
    intro _
    apply yields_ite
    · intro hswitched
      have hsame : (w₂.domains d).isPvm = false := by
        rw [h₂.field Domain.isPvm fun _ => rfl, h₁.field Domain.isPvm fun _ => rfl, hpvm]
      rw [hsame] at hswitched
      exact absurd hswitched Bool.false_ne_true
    · intro _
      exact moves_pure _

theorem wakeDomains_keepsTypes (hawake : w.Awake) : KeepsTypes (wakeDomains inject) w := by
  have hwiggle : KeepsTypes (wiggleCtrlKey w.domainPvm) w := by
    apply yields_get
    intro _
    apply yields_ite
    · intro _
      exact moves_pure _
    · intro _
      apply keepsTypes_sent
      intro _ w₁
      apply keepsTypes_sent
      intro _ w₂
      exact moves_pure _
  apply yields_get
  intro _
  apply yields_bind_of (hwiggle.of_moves (wiggleCtrlKey_likens _ w).wlp)
  intro _ w₁ _ _ h₁
  have hawake₁ := h₁.awake hawake
  have hmouse (d : DomPtr) (hd : w.routing.mouseDest = some d) :
      (w₁.domains d).isInS3 = true → (w₁.domains d).isPvm = false := by
    apply hawake₁ d
    rw [h₁.pointer Routing.mouseDest fun _ => rfl]
    exact .inl hd
  apply yields_bind_of ((domainWakeFromS3_keepsTypes inject hmouse).of_moves
    (domainWakeFromS3_likens inject hmouse).wlp)
  intro _ w₂ _ _ h₂
  have hawake₂ := h₂.awake hawake₁
  have hkeyb (d : DomPtr) (hd : w₂.routing.keybDest = some d) := hawake₂ d (.inr (.inl hd))
  apply yields_get
  intro _
  apply yields_bind_of ((domainWakeFromS3_keepsTypes inject hkeyb).of_moves
    (domainWakeFromS3_likens inject hkeyb).wlp)
  intro _ w₃ _ _ h₃
  have hawake₃ := h₃.awake hawake₂
  have hpvm (d : DomPtr) (hd : w₃.domainPvm = some d) := hawake₃ d (.inr (.inr hd))
  apply yields_get
  intro _
  apply yields_bind (domainWakeFromS3_keepsTypes inject hpvm)
  intro _ w₄ _ _
  apply yields_bind (keepsTypes_ask _ w₄)
  intro _ w₅ _ _
  exact moves_modify fun _ => ⟨trivial, rfl⟩

/-- A wake-up that switches to nobody leaves a pointer event one. -/
theorem wakeOnInput_points (hawake : w.Rested ∨ w.Awake) (h : w.Points e slot) :
    wlp (wakeOnInput inject e) (fun _ w' => Alike w w' ∧ w'.Points e slot) w := by
  by_cases hwakes : e.type = EV_KEY ∨ e.type = EV_REL ∨ e.type = EV_ABS
  · have hsyn : e.type ≠ EV_SYN := by
      obtain htype | htype | htype := hwakes <;>
        · rw [htype]
          decide
    have htypes : wlp (wakeOnInput inject e) (fun _ w' => w'.types = w.types) w := by
      unfold wakeOnInput
      rw [if_pos hwakes, wlp_bind]
      intro expired w₁ hrun
      obtain ⟨h₁, hexpired⟩ := timeoutExpired_likens w expired w₁ hrun
      have htypes₁ : w₁.types = w.types := by
        cases hrun
        rfl
      apply wlp_ite
      · intro htrue
        have hw := h₁.awake (hawake.resolve_left (hexpired htrue))
        refine wlp_mono (wakeDomains_keepsTypes inject hw trivial) ?_
        rintro _ w₂ ⟨_, htypes₂, _⟩
        exact htypes₂.trans htypes₁
      · intro _
        exact (wlp_pure _ _ w₁).mpr htypes₁
    intro _ w' hrun
    refine ⟨wakeOnInput_likens inject e hawake _ w' hrun, ?_⟩
    rw [World.Points, htypes _ w' hrun]
    exact h.imp_right fun h => ⟨h.1, fun htype => absurd htype hsyn⟩
  · unfold wakeOnInput
    rw [if_neg hwakes, wlp_pure]
    exact ⟨refl w, h⟩

end

/-- What tracking an event does to the buttons. -/
def trackHeld {F : Type} (e : InputEvent) (r : Routing F) : Routing F :=
  if e.type = EV_KEY ∧ isButton e then trackButton e r else r

section
variable {F : Type}

theorem trackButton_untimed (e : InputEvent) (r : Routing F) :
    (trackButton e r).untimed = trackButton e r.untimed := by
  unfold trackButton
  dsimp only
  split
  · rfl
  · rfl

variable [Double F] {w w' : World F}

/-- Only a movement moves the pointer. -/
theorem track_still (hmotion : e.type ≠ EV_REL) (type : HidType) (w : World F) :
    inputTrackMousePosition e type w = .ok ((), { w with routing := trackHeld e w.routing }) := by
  have hstill : trackMotion e type w = .ok ((), w) := by
    unfold trackMotion
    rw [bind_ok (get_apply w)]
    cases w.routing.mouseDest with
    | none => rfl
    | some m =>
      dsimp only
      rw [if_neg fun h => hmotion h.1, if_neg fun h => hmotion h.1]
      rfl
  unfold inputTrackMousePosition trackHeld
  rw [bind_ok hstill]
  split_ifs
  · rfl
  · rfl

theorem track_moves (hmotion : e.type = EV_REL) (type : HidType) (w : World F) :
    ∃ x y, ∀ w', Alike w w' → inputTrackMousePosition e type w' = .ok ((), w'.pointedAt x y) ∧
      trackHeld e w'.routing = w'.routing := by
  obtain ⟨x, y, hpoint⟩ := track_points hmotion type w
  have hkey : ¬(e.type = EV_KEY ∧ isButton e = true) := by
    rw [hmotion]
    exact fun h => absurd h.1 (by decide)
  exact ⟨x, y, fun w' h => ⟨hpoint w' h, if_neg hkey⟩⟩

/-- Tracking finds the same buttons and the same place in states that are alike. -/
theorem track_alike (h : Alike w w') (e : InputEvent) (type : HidType) :
    wlp (inputTrackMousePosition e type) (fun _ v => Alike (w.tracked e type) v) w' := by
  intro _ v hrun
  by_cases hmotion : e.type = EV_REL
  · obtain ⟨x, y, hpoint⟩ := track_moves hmotion type w
    rw [(hpoint w' h).1] at hrun
    cases hrun
    rw [World.tracked, (hpoint w (refl w)).1]
    exact ⟨congrArg (fun r : Routing F => { r with mouseX := x, mouseY := y }) h.routing,
      h.domains, h.asleep, h.passes⟩
  · rw [track_still hmotion] at hrun
    cases hrun
    rw [World.tracked, track_still hmotion]
    refine ⟨?_, h.domains, h.asleep, h.passes⟩
    change (trackHeld e w'.routing).untimed = (trackHeld e w.routing).untimed
    unfold trackHeld
    split_ifs
    · rw [trackButton_untimed, trackButton_untimed, h.routing]
    · exact h.routing

theorem tracked_eq (w : World F) (e : InputEvent) (type : HidType) :
    ∃ x y, w.tracked e type =
      { w with routing := { trackHeld e w.routing with mouseX := x, mouseY := y } } := by
  by_cases hmotion : e.type = EV_REL
  · obtain ⟨x, y, hpoint⟩ := track_moves hmotion type w
    obtain ⟨hrun, hsame⟩ := hpoint w (refl w)
    refine ⟨x, y, ?_⟩
    rw [World.tracked, hrun, hsame]
    rfl
  · refine ⟨(trackHeld e w.routing).mouseX, (trackHeld e w.routing).mouseY, ?_⟩
    rw [World.tracked, track_still hmotion]

omit [Double F] in
theorem trackHeld_eq (e : InputEvent) (r : Routing F) :
    ∃ buttons mouseButton,
      trackHeld e r = { r with buttons := buttons, mouseButton := mouseButton } := by
  have hbutton : ∃ buttons mouseButton,
      trackButton e r = { r with buttons := buttons, mouseButton := mouseButton } := by
    unfold trackButton
    dsimp only
    split
    · exact ⟨_, _, rfl⟩
    · exact ⟨r.buttons, r.mouseButton, rfl⟩
  unfold trackHeld
  split
  · exact hbutton
  · exact ⟨r.buttons, r.mouseButton, rfl⟩

end

/-- No button is down, and the hold is over, or ends with the SYN_REPORT that comes. -/
def Routing.LetsGo {F : Type} (r : Routing F) (e : InputEvent) : Prop :=
  r.mouseButton = 0 ∧ (r.buttonHolding = 0 ∨ (e.Report ∧ r.buttonHolding = 2))

/-- Where the frame puts a pointer. -/
def World.framed {F : Type} [Double F] (w : World F) (p m : DomPtr) (dv : DivertInfo) : DomPtr :=
  if mouseOutsideFrame w dv.sframe then p else m

/-- Whom a diverted event is for. -/
def World.side {F : Type} [Double F] (w : World F) (p m : DomPtr) (dv : DivertInfo)
    (e : InputEvent) : DomPtr :=
  if pointerToParent { w with routing := holdButton dv e w.routing } m p dv then p else m

section
variable {F : Type} [Double F] {w w' : World F} {dv : DivertInfo} {p m : DomPtr}

omit [Double F] in
theorem holdButton_letsGo {r : Routing F} (hdv : dv.focusmode &&& CLICKHOLDFOCUS ≠ 0)
    (e : InputEvent) : (holdButton dv e r).buttonHolding = 0 ↔ r.LetsGo e := by
  unfold holdButton Routing.LetsGo InputEvent.Report
  by_cases hdown : r.mouseButton = 0
  · have hnone : ¬(dv.focusmode &&& CLICKHOLDFOCUS ≠ 0 ∧ r.mouseButton ≠ 0) :=
      fun h => h.2 hdown
    dsimp only
    rw [if_neg hnone]
    by_cases hreport : e.type = EV_SYN ∧ e.code = SYN_REPORT ∧ r.buttonHolding = 2
    · simp [hreport, hdown]
    · rw [if_neg hreport]
      by_cases hholding : r.buttonHolding = 0
      · simp [hholding, hdown]
      · simp only [ne_eq, hholding, not_false_eq_true, ↓reduceIte, OfNat.ofNat_ne_zero, hdown,
          true_and, false_or, false_iff]
        exact fun h => hreport ⟨h.1.1, h.1.2, h.2⟩
  · simp [hdown, hdv]

/-- While the hold lasts, the event is for whom the last one was for. -/
theorem side_held (hdv : dv.focusmode &&& CLICKHOLDFOCUS ≠ 0) (hlasts : ¬w.routing.LetsGo e)
    (hlast : w.routing.lastD = some d) (hd : d = p ∨ d = m) : w.side p m dv e = d := by
  have hholding : (holdButton dv e w.routing).buttonHolding ≠ 0 :=
    fun h => hlasts ((holdButton_letsGo hdv e).mp h)
  have hlast' : (holdButton dv e w.routing).lastD = some d := hlast
  unfold World.side
  by_cases hparent : d = p
  · subst hparent
    have hstays : pointerToParent { w with routing := holdButton dv e w.routing } m d dv = true :=
      if_pos ⟨hholding, hlast'⟩
    rw [if_pos hstays]
  · have hchild := hd.resolve_left hparent
    subst hchild
    have hnot : ¬((holdButton dv e w.routing).buttonHolding ≠ 0 ∧
        (holdButton dv e w.routing).lastD = some p) := by
      rintro ⟨_, hp⟩
      rw [hlast'] at hp
      exact hparent (Option.some.inj hp)
    have hstays : pointerToParent { w with routing := holdButton dv e w.routing } d p dv =
        false := by
      unfold pointerToParent
      rw [if_neg hnot, if_pos ⟨hholding, hlast'⟩]
    rw [hstays, if_neg Bool.false_ne_true]

/-- Once it is let go, the frame decides. -/
theorem side_free (hdv : dv.focusmode &&& CLICKHOLDFOCUS ≠ 0) (hgo : w.routing.LetsGo e) :
    w.side p m dv e = w.framed p m dv := by
  have hholding := (holdButton_letsGo hdv e).mpr hgo
  have hframe : pointerToParent { w with routing := holdButton dv e w.routing } m p dv =
      mouseOutsideFrame w dv.sframe := by
    unfold pointerToParent
    rw [if_neg fun h => h.1 hholding, if_neg fun h => h.1 hholding]
    rfl
  unfold World.side
  rw [hframe]
  rfl

theorem side_mem (p m : DomPtr) (dv : DivertInfo) (e : InputEvent) (w : World F) :
    w.side p m dv e = p ∨ w.side p m dv e = m := by
  unfold World.side
  split
  · exact .inl rfl
  · exact .inr rfl

theorem Alike.side (h : Alike w w') (p m : DomPtr) (dv : DivertInfo) (e : InputEvent) :
    w'.side p m dv e = w.side p m dv e := by
  have hholding : (holdButton dv e w'.routing).buttonHolding =
      (holdButton dv e w.routing).buttonHolding :=
    h.pointer (fun r => (holdButton dv e r).buttonHolding) fun _ => rfl
  have hlast := h.pointer Routing.lastD fun _ => rfl
  have hframe : mouseOutsideFrame w' dv.sframe = mouseOutsideFrame w dv.sframe := by
    unfold mouseOutsideFrame
    rw [h.pointer Routing.mouseX fun _ => rfl, h.pointer Routing.mouseY fun _ => rfl]
  have hkept (r : Routing F) : (holdButton dv e r).lastD = r.lastD := rfl
  have hsame : pointerToParent { w' with routing := holdButton dv e w'.routing } m p dv =
      pointerToParent { w with routing := holdButton dv e w.routing } m p dv := by
    unfold pointerToParent
    dsimp only
    rw [hholding, hkept, hkept, hlast]
    congr 1
    congr 1
  unfold World.side
  rw [hsame]

end

/-- An event goes to a domain, and to nobody else but the parent, for a copy. -/
structure GoesTo {F : Type} (d : DomPtr) (ds : List (Delivery F)) : Prop where
  sent : ∃ a ∈ ds, a.call ≠ .copied
  alone : ∀ a ∈ ds, a.call ≠ .copied → a.dest = some d

/-- An event for a domain leaves the buttons as it found them tracked, and the hold behind it. -/
structure Caught {F : Type} (d : DomPtr) (dv : DivertInfo) (e : InputEvent) (r : Routing F)
    (w : World F) : Prop where
  lastD : w.routing.lastD = some d
  holding : w.routing.buttonHolding = (holdButton dv e r).buttonHolding
  mouseButton : w.routing.mouseButton = r.mouseButton
  buttons : w.routing.buttons = r.buttons

section
variable {F : Type} [Double F] {w : World F}

/-- The release of a button that was pressed in the domain, or nowhere, stays there. -/
theorem checkClick_own (d : DomPtr) (slot : Int32) (e : InputEvent)
    (hown : e.type = EV_KEY → isButton e = true → e.value = 0 → ∀ mb mbs,
      takePressed e.code slot w.routing.mousePressed = some (mb, mbs) → mb.domain = some d) :
    ends (Delivering.checkClick d slot e) (fun _ => True) (fun sent w' ds => sent = false ∧
      ds = [] ∧ ∃ mbs, w' = { w with routing := { w.routing with mousePressed := mbs } }) w [] := by
  have hsame : ∃ mbs, w = { w with routing := { w.routing with mousePressed := mbs } } :=
    ⟨w.routing.mousePressed, rfl⟩
  apply ends_ite
  · intro hkey
    apply ends_ite
    · intro hrelease
      apply ends_bind
      apply ends_get
      cases hfound : takePressed e.code slot w.routing.mousePressed with
      | none => exact ends_pure _ ⟨rfl, rfl, hsame⟩
      | some found =>
        have hdomain := hown hkey hrelease.1 hrelease.2 found.1 found.2 hfound
        dsimp only
        rw [if_neg (not_not.mpr hdomain)]
        apply ends_bind
        apply ends_beside trivial
        rw [modifyRouting, wlp_modify]
        exact ends_pure _ ⟨rfl, rfl, found.2, rfl⟩
    · intro hpress
      apply ends_beside trivial
      rw [checkMouseKeys, wlp_bind, wlp_get]
      apply wlp_ite
      · intro _
        exact (wlp_pure _ _ w).mpr ⟨rfl, rfl, hsame⟩
      intro hbutton
      rw [not_not] at hbutton
      rw [if_pos fun h => hpress ⟨hbutton, h⟩]
      dsimp only
      apply wlp_ite
      · intro _
        rw [wlp_bind, modifyRouting, wlp_modify, wlp_pure]
        exact ⟨rfl, rfl, _, rfl⟩
      · intro _
        exact (wlp_pure _ _ w).mpr ⟨rfl, rfl, hsame⟩
  · intro _
    exact ends_pure _ ⟨rfl, rfl, hsame⟩

section
variable {inject : Inject F} (hinject : KeepsNumlock inject)
include hinject

omit [Double F] in
theorem followClick_sameHold (d parent : DomPtr) {dv : DivertInfo} {click : Bool}
    (h : click = true → dv.focusmode &&& KEYFOLLOWMOUSE ≠ 0 → w.multitouch.Passes) :
    wlp (followClick inject d parent dv click) (fun _ w' => SameHold w w') w := by
  apply wlp_ite
  · intro hfollows
    have hmove : KeepsHold (do
        modifyDomain parent fun x : Domain F => { x with
          divertInfo := x.divertInfo.map fun dv => { dv with keyDomain := some d } }
        syncKbdDomain inject (some parent)) w := by
      apply yields_bind (keepsHold_modifyDomain parent _ w)
      intro _ w₁ _ _
      exact syncKbdDomain_keepsHold hinject _ w₁
    refine wlp_mono (hmove (h hfollows.1 hfollows.2)) ?_
    intro _ w₁ h₁
    exact h₁.2.1
  · intro _
    exact (wlp_pure _ _ w).mpr rfl

end

omit [Double F] in
theorem derefDivert_still (d : DomPtr) (w : World F) :
    wlp (derefDivert d) (fun dv w' => w' = w ∧ (w.domains d).divertInfo = some dv) w := by
  rw [derefDivert, wlp_bind, wlp_get]
  cases hdv : (w.domains d).divertInfo with
  | none => exact wlp_throw _ _ w
  | some dv => exact (wlp_pure _ _ w).mpr ⟨rfl, rfl⟩

omit [Double F] in
theorem scaleForFrame_still (e : InputEvent) (w : World F) :
    wlp (scaleForFrame e) (fun _ w' => w' = w) w := by
  apply wlp_ite
  · intro _
    rw [wlp_bind, wlp_get]
    cases w.routing.mouseParent with
    | none => exact wlp_throw _ _ w
    | some p =>
      rw [deref, pure_bind, wlp_bind]
      refine wlp_mono (derefDivert_still p w) ?_
      rintro dv w ⟨rfl, _⟩
      refine wlp_mono (scalePointerEvent_scales dv e w w) ?_
      intro e' w' h
      exact h.1
  · intro _
    exact (wlp_pure _ _ w).mpr rfl

omit [Double F] in
theorem send_noted (call : CallSite) (d : Option DomPtr) (slot : Int32) (e : InputEvent)
    (w : World F) (ds : List (Delivery F)) :
    ends (Delivering.send call d slot e) (fun _ => True)
      (fun _ w' ds' => w'.routing = w.routing ∧ ds' = ds ++ [⟨call, d, e, w⟩]) w ds := by
  apply ends_bind
  apply ends_get
  apply ends_bind
  apply ends_note
  apply ends_beside trivial
  intro e' w' hrun
  exact ⟨(frames_inputSend d slot e w trivial e' w' hrun).2.1.routing, rfl⟩

omit [Double F] in
/-- What the child gets may be copied for the parent before. -/
theorem scaleForChild_copies (parent : DomPtr) (slot : Int32) (e : InputEvent) (w : World F) :
    ends (Delivering.scaleForChild parent slot e) (fun _ => True)
      (fun _ w' ds => w'.routing = w.routing ∧ ∀ a ∈ ds, a.call = .copied) w [] := by
  unfold Delivering.scaleForChild
  simp only [beside_scaleForFrame]
  apply ends_bind
  apply ends_beside trivial
  refine wlp_mono (derefDivert_still parent w) ?_
  rintro dv w ⟨rfl, _⟩
  apply ends_bind
  apply ends_get
  apply ends_ite
  · intro _
    apply ends_bind
    refine ends_mono (send_noted .copied _ slot e w []) ?_
    rintro e' w₁ _ ⟨hrouting, rfl⟩
    apply ends_beside trivial
    refine wlp_mono (scaleForFrame_still e' w₁) ?_
    rintro _ _ rfl
    refine ⟨hrouting, ?_⟩
    intro a ha
    rw [List.mem_singleton.mp ha]
  · intro _
    apply ends_bind
    apply ends_pure
    apply ends_beside trivial
    refine wlp_mono (scaleForFrame_still e w) ?_
    rintro _ w rfl
    refine ⟨rfl, ?_⟩
    intro a ha
    cases ha

omit [Double F] in
/-- Where the keyboard is not split off, one domain gets the event. -/
theorem deliver_sole (d : Option DomPtr) (e : InputEvent) (slot : Int32) (w : World F)
    (ds : List (Delivery F)) :
    ends (Delivering.deliver d e slot) (fun _ => True)
      (fun _ w' ds' => w'.routing = w.routing ∧
        (¬w.routing.Seamless → ds' = ds ++ [⟨.destination, d, e, w⟩])) w ds := by
  have hmouse (e : InputEvent) {w₁ : World F} (h₁ : w₁.routing = w.routing)
      (ds : List (Delivery F)) : ends (do
        let w ← beside get
        if inputInjectSeamlessMouse w.keyStatus e then
          Delivering.send .mouse w.routing.mouseDest slot e else pure e : Delivering F InputEvent)
        (fun _ => True) (fun _ w' _ => w'.routing = w.routing) w₁ ds := by
    apply ends_bind
    apply ends_get
    apply ends_ite
    · intro _
      refine ends_mono (send_noted .mouse _ slot e w₁ ds) ?_
      intro _ w₂ _ h₂
      exact h₂.1.trans h₁
    · intro _
      exact ends_pure _ h₁
  have hsplit (hseamless : w.routing.Seamless) : ends (Delivering.sendSeamless e slot)
      (fun _ => True) (fun _ w' ds' => w'.routing = w.routing ∧
        (¬w.routing.Seamless → ds' = ds ++ [⟨.destination, d, e, w⟩])) w ds := by
    apply ends_bind
    apply ends_get
    apply ends_ite
    · intro _
      apply ends_bind
      refine ends_mono (send_noted .keyboard _ slot e w ds) ?_
      rintro e' w₁ ds' ⟨h₁, _⟩
      refine ends_mono (hmouse e' h₁ ds') ?_
      intro _ w₂ _ h₂
      exact ⟨h₂, fun hnot => absurd hseamless hnot⟩
    · intro _
      apply ends_bind
      apply ends_pure
      refine ends_mono (hmouse e rfl ds) ?_
      intro _ w₂ _ h₂
      exact ⟨h₂, fun hnot => absurd hseamless hnot⟩
  apply ends_bind
  apply ends_get
  apply ends_ite
  · exact hsplit
  · intro _
    refine ends_mono (send_noted .destination d slot e w ds) ?_
    intro _ w₁ _ h₁
    exact ⟨h₁.1, fun _ => h₁.2⟩

section
variable {inject : Inject F} (hinject : KeepsNumlock inject) {dv : DivertInfo} {p m : DomPtr}
include hinject

/-- A diverted event goes to the side that it is for. -/
theorem routeDiverted_goes {e : InputEvent} {click : Bool} (slot val : Int32)
    (hown : e.type = EV_KEY → isButton e = true → e.value = 0 → ∀ mb mbs,
      takePressed e.code slot w.routing.mousePressed = some (mb, mbs) →
        mb.domain = some (w.side p m dv e))
    (hclick : click = true → dv.focusmode &&& KEYFOLLOWMOUSE ≠ 0 → w.multitouch.Passes)
    (hedge : e.type = EV_ABS → w.AtEdge → w.multitouch.Passes) :
    ends (Delivering.routeDiverted inject m p dv e slot click val) (fun _ => True)
      (fun dest w' ds => dest.1 = some (some (w.side p m dv e)) ∧ (∀ a ∈ ds, a.call = .copied) ∧
        Caught (w.side p m dv e) dv e w.routing w') w [] := by
  have hnone : ∀ a ∈ ([] : List (Delivery F)), a.call = .copied := by
    intro a ha
    cases ha
  apply ends_bind
  apply ends_beside trivial
  rw [modifyRouting, wlp_modify]
  apply ends_bind
  apply ends_get
  by_cases hparent : pointerToParent { w with routing := holdButton dv e w.routing } m p dv = true
  · have hside : w.side p m dv e = p := if_pos hparent
    rw [hside] at hown ⊢
    rw [if_pos hparent]
    apply ends_bind
    refine ends_mono (checkClick_own p slot e hown) ?_
    rintro _ _ _ ⟨rfl, rfl, mbs, rfl⟩
    rw [if_neg Bool.false_ne_true]
    apply ends_bind
    apply ends_beside trivial
    rw [modifyRouting, wlp_modify]
    apply ends_bind
    apply ends_beside trivial
    refine wlp_mono (mouseSwitch_sameHold hinject val hedge) ?_
    intro _ w₁ h₁
    refine ends_pure _ ⟨rfl, hnone, ?_⟩
    exact ⟨congrArg Hold.lastD h₁, congrArg Hold.buttonHolding h₁, congrArg Hold.mouseButton h₁,
      congrArg Hold.buttons h₁⟩
  · have hside : w.side p m dv e = m := if_neg hparent
    rw [hside] at hown ⊢
    rw [if_neg hparent]
    apply ends_bind
    apply ends_beside trivial
    refine wlp_mono (followClick_sameHold hinject m p hclick) ?_
    intro _ w₁ h₁
    have hpressed : w₁.routing.mousePressed = w.routing.mousePressed :=
      congrArg Hold.mousePressed h₁
    rw [← hpressed] at hown
    apply ends_bind
    refine ends_mono (checkClick_own m slot e hown) ?_
    rintro _ _ _ ⟨rfl, rfl, mbs, rfl⟩
    rw [if_neg Bool.false_ne_true]
    apply ends_bind
    apply ends_beside trivial
    rw [modifyRouting, wlp_modify]
    apply ends_bind
    refine ends_mono (scaleForChild_copies p slot e _) ?_
    rintro e' w₂ ds ⟨hrouting, hcopied⟩
    refine ends_pure _ ⟨rfl, hcopied, congrArg Routing.lastD hrouting, ?_, ?_, ?_⟩
    · exact (congrArg Routing.buttonHolding hrouting).trans (congrArg Hold.buttonHolding h₁)
    · exact (congrArg Routing.mouseButton hrouting).trans (congrArg Hold.mouseButton h₁)
    · exact (congrArg Routing.buttons hrouting).trans (congrArg Hold.buttons h₁)

end

omit [Double F] in
theorem holdButton_report {e e' : InputEvent} (h : e'.Report ↔ e.Report) (dv : DivertInfo)
    (r : Routing F) : holdButton dv e' r = holdButton dv e r := by
  have hsame : (e'.type = EV_SYN ∧ e'.code = SYN_REPORT ∧ r.buttonHolding = 2) ↔
      (e.type = EV_SYN ∧ e.code = SYN_REPORT ∧ r.buttonHolding = 2) := by
    rw [← and_assoc, ← and_assoc]
    exact and_congr_left' h
  unfold holdButton
  simp only [hsame]

omit [Double F] in
theorem converted_other {F : Type} [Double F] (h : e.type ≠ EV_REL) (w : World F) :
    w.converted e = e := by
  have hkept : inputConvertRelToAbs w e = e := by
    unfold inputConvertRelToAbs
    rw [if_neg fun hx => h hx.1, if_neg fun hy => h hy.1]
  unfold World.converted
  rw [hkept, ite_self]

/-- A movement is converted beside the hold, and is no key. -/
theorem converted_holds (w : World F) (dv : DivertInfo) (e : InputEvent) :
    (∀ r : Routing F, holdButton dv (w.converted e) r = holdButton dv e r) ∧
      (w.converted e = e ∨ (e.type = EV_REL ∧ (w.converted e).Pointer)) := by
  by_cases hmotion : e.type = EV_REL
  · have hpointer := (converted_pointer hmotion w).1
    have hplain : e.Pointer := .inl hmotion
    refine ⟨holdButton_report ?_ dv, .inr ⟨hmotion, hpointer⟩⟩
    exact iff_of_false (fun h => hpointer.ne_syn h.1) fun h => hplain.ne_syn h.1
  · rw [converted_other hmotion w]
    exact ⟨fun _ => rfl, .inl rfl⟩

/-- The divert of the mouse from one domain to another is in force, and holds what is clicked. -/
structure HoldsClicks (p m : DomPtr) (w : World F) : Prop where
  parent : w.routing.mouseParent = some p
  dest : w.routing.mouseDest = some m
  unsplit : ¬w.routing.Seamless
  divert : ∃ dv, (w.domains p).divertInfo = some dv ∧ dv.focusmode &&& CLICKHOLDFOCUS ≠ 0

/-- An event that neither wakes up a domain to switch to, nor finds a touch that has put off a press
when it may move the keyboard or leave the screen. -/
structure Calm (w : World F) (dv : DivertInfo) (e : InputEvent) (type : HidType) : Prop where
  awake : w.Rested ∨ w.Awake
  click : isClick w e = true → dv.focusmode &&& KEYFOLLOWMOUSE ≠ 0 → w.multitouch.Passes
  edge : e.Pointer → (w.tracked e type).AtEdge → w.multitouch.Passes

section
variable {inject : Inject F} (hinject : KeepsNumlock inject) {dv : DivertInfo} {p m : DomPtr}
include hinject

/-- A tracked event goes to the side that it is for, wherever it finds the state alike. -/
theorem routePointer_goes {v : World F} {e : InputEvent} (slot val : Int32) (h : Alike v w)
    (hparent : v.routing.mouseParent = some p) (hdv : (v.domains p).divertInfo = some dv)
    (hown : e.type = EV_KEY → isButton e = true → e.value = 0 → ∀ mb mbs,
      takePressed e.code slot v.routing.mousePressed = some (mb, mbs) →
        mb.domain = some (v.side p m dv e))
    (hclick : isClick v e = true → dv.focusmode &&& KEYFOLLOWMOUSE ≠ 0 → v.multitouch.Passes)
    (hedge : e.Pointer → v.AtEdge → v.multitouch.Passes) :
    ends (Delivering.routePointer inject m (w.converted e) slot val) (fun _ => True)
      (fun dest w' ds => dest.1 = some (some (v.side p m dv e)) ∧ (∀ a ∈ ds, a.call = .copied) ∧
        Caught (v.side p m dv e) dv e v.routing w') w [] := by
  obtain ⟨hsame, hconverted⟩ := converted_holds w dv e
  have hside : w.side p m dv (w.converted e) = v.side p m dv e := by
    rw [← h.side p m dv e]
    unfold World.side
    rw [hsame]
  have hholding : (holdButton dv e w.routing).buttonHolding =
      (holdButton dv e v.routing).buttonHolding :=
    h.pointer (fun r => (holdButton dv e r).buttonHolding) fun _ => rfl
  have hpressed : w.routing.mousePressed = v.routing.mousePressed :=
    h.pointer Routing.mousePressed fun _ => rfl
  have hedge' : v.AtEdge ↔ w.AtEdge := by
    unfold World.AtEdge
    rw [h.pointer Routing.mouseX fun _ => rfl]
  apply ends_bind
  apply ends_get
  rw [h.pointer Routing.mouseParent fun _ => rfl, hparent]
  apply ends_bind
  apply ends_beside trivial
  intro dv' w' hrun
  rw [derefDivert_apply ((h.field Domain.divertInfo (fun _ => rfl) p).trans hdv)] at hrun
  cases hrun
  refine ends_mono (routeDiverted_goes hinject slot val ?_ ?_ ?_) ?_
  · intro hkey
    obtain hsame | ⟨_, hpointer⟩ := hconverted
    · rw [hside, hpressed, hsame]
      rw [hsame] at hkey
      exact hown hkey
    · exact absurd hkey hpointer.ne_key
  · intro hclicked hfollows
    obtain hsame | ⟨_, hpointer⟩ := hconverted
    · rw [hsame] at hclicked
      apply h.passes
      refine hclick ?_ hfollows
      unfold isClick at hclicked ⊢
      rw [← h.pointer Routing.keybWaitsForClick fun _ => rfl]
      exact hclicked
    · exact absurd (of_decide_eq_true hclicked).1 hpointer.ne_key
  · intro habs hat
    apply h.passes
    refine hedge ?_ (hedge'.mpr hat)
    obtain hsame | ⟨hmotion, _⟩ := hconverted
    · rw [hsame] at habs
      exact .inr habs
    · exact .inl hmotion
  · rw [hside]
    rintro dest w' ds ⟨hdest, hcopied, hcaught⟩
    refine ⟨hdest, hcopied, hcaught.lastD, ?_, ?_, ?_⟩
    · rw [hcaught.holding, hsame, hholding]
    · exact hcaught.mouseButton.trans (h.pointer Routing.mouseButton fun _ => rfl)
    · exact hcaught.buttons.trans (h.pointer Routing.buttons fun _ => rfl)

/-- A pointer event goes to the side that it is for, and to nobody else where the keyboard is not
split off. -/
theorem inputInjectWith_goes {e : InputEvent} {slot : Int32} {type : HidType}
    (hw : HoldsClicks p m w) (hdv : (w.domains p).divertInfo = some dv) (hpoints : w.Points e slot)
    (hcalm : Calm w dv e type)
    (hown : e.type = EV_KEY → isButton e = true → e.value = 0 → ∀ mb mbs,
      takePressed e.code slot w.routing.mousePressed = some (mb, mbs) →
        mb.domain = some ((w.tracked e type).side p m dv e)) :
    ends (Delivering.inputInjectWith inject e slot type) (fun _ => True)
      (fun _ w' ds => ¬w'.routing.Seamless →
        GoesTo ((w.tracked e type).side p m dv e) ds ∧
          Caught ((w.tracked e type).side p m dv e) dv e (trackHeld e w.routing) w') w [] := by
  obtain ⟨x, y, hv⟩ := tracked_eq w e type
  obtain ⟨buttons, mouseButton, hr⟩ := trackHeld_eq e w.routing
  have hparent : (w.tracked e type).routing.mouseParent = some p := by
    rw [hv, hr]
    exact hw.parent
  have hdivert : ((w.tracked e type).domains p).divertInfo = some dv := by
    rw [hv]
    exact hdv
  have hpressed : (w.tracked e type).routing.mousePressed = w.routing.mousePressed := by
    rw [hv, hr]
  have htouch : (w.tracked e type).multitouch = w.multitouch := by
    rw [hv]
  have hclick : isClick (w.tracked e type) e = isClick w e := by
    rw [hv, hr]
    rfl
  apply ends_bind
  apply ends_get
  apply ends_bind
  apply ends_beside trivial
  refine wlp_mono (wakeOnInput_points inject hcalm.awake hpoints) ?_
  rintro _ w₁ ⟨h₁, hpoints₁⟩
  rw [hw.dest]
  apply ends_bind
  apply ends_bind
  apply ends_beside trivial
  refine wlp_mono (eventIsKeyboard_points hpoints₁) ?_
  rintro _ w₂ ⟨rfl, h₂⟩
  rw [if_neg Bool.false_ne_true]
  apply ends_bind
  apply ends_beside trivial
  refine wlp_mono (track_alike (IsTrans.trans _ _ _ h₁ h₂) e type) ?_
  intro _ w₃ h₃
  apply ends_bind
  apply ends_get
  rw [← hpressed] at hown
  have hclick' : isClick (w.tracked e type) e = true → dv.focusmode &&& KEYFOLLOWMOUSE ≠ 0 →
      (w.tracked e type).multitouch.Passes := by
    rw [hclick, htouch]
    exact hcalm.click
  have hedge : e.Pointer → (w.tracked e type).AtEdge →
      (w.tracked e type).multitouch.Passes := by
    rw [htouch]
    exact hcalm.edge
  refine ends_mono (routePointer_goes hinject slot _ h₃ hparent hdivert hown hclick' hedge) ?_
  rintro ⟨dest, e'⟩ w₄ ds ⟨hdest, hcopied, hcaught⟩
  cases hdest
  refine ends_mono (deliver_sole _ e' slot w₄ ds) ?_
  rintro _ w₅ ds' ⟨hrouting, hsole⟩ hunsplit
  rw [hrouting] at hunsplit
  rw [hsole hunsplit]
  refine ⟨⟨?_, ?_⟩, ?_, ?_, ?_, ?_⟩
  · exact ⟨_, List.mem_concat_self, nofun⟩
  · intro a ha hcall
    obtain ha | ha := List.mem_append.mp ha
    · exact absurd (hcopied a ha) hcall
    · rw [List.mem_singleton.mp ha]
  · exact (congrArg Routing.lastD hrouting).trans hcaught.lastD
  · have hsame := (congrArg Routing.buttonHolding hrouting).trans hcaught.holding
    rw [hsame, hv]
    rfl
  · have hsame := (congrArg Routing.mouseButton hrouting).trans hcaught.mouseButton
    rw [hsame, hv]
  · have hsame := (congrArg Routing.buttons hrouting).trans hcaught.buttons
    rw [hsame, hv]

end

end

end InputServer
