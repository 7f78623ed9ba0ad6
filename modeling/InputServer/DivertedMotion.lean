import InputServer.Library.Ledger
import InputServer.Reachable
import InputServer.WakeRouting

namespace InputServer
open Program
set_option autoImplicit true

/-- What `input_inject` gives to `input_send`: for whom, and the event and routing of then. -/
structure Handover (F : Type) where
  dest : Option DomPtr
  event : InputEvent
  routing : Routing F

/-- A computation of `input_inject` that lists what is handed over of a pointer event. -/
abbrev Handing (F : Type) := Ledger Fault (World F) (Handover F)

namespace Handing

section
variable {F : Type}

def handOver (d : Option DomPtr) (slot : Int32) (e : InputEvent) : Handing F InputEvent := do
  let w ← beside get
  note ⟨d, e, w.routing⟩
  beside (inputSend d slot e)

def scaleForChild (parent : DomPtr) (slot : Int32) (e : InputEvent) : Handing F InputEvent := do
  let dv ← beside (derefDivert parent)
  let w ← beside get
  let e ← if dv.focusmode &&& CLONEEVENTS ≠ 0 then handOver w.routing.mouseParent slot e
    else pure e
  if e.type = EV_ABS then beside (do
    let w ← get
    let p ← deref w.routing.mouseParent
    let dv ← derefDivert p
    scalePointerEvent dv e)
  else pure e

def sendSeamless (e : InputEvent) (slot : Int32) : Handing F InputEvent := do
  let w ← beside get
  let e ← if inputInjectSeamlessKeyboard w.keyStatus e then handOver w.routing.keybDest slot e
    else pure e
  let w ← beside get
  if inputInjectSeamlessMouse w.keyStatus e then handOver w.routing.mouseDest slot e else pure e

def deliver (d : Option DomPtr) (e : InputEvent) (slot : Int32) : Handing F InputEvent := do
  let w ← beside get
  if w.routing.keybDest ≠ none ∧ w.routing.mouseDest ≠ none ∧
      w.routing.keybDest ≠ w.routing.mouseDest ∧ ¬w.routing.keybWaitsForClick then
    sendSeamless e slot
  else handOver d slot e

end

section
variable {F : Type} [Double F] (inject : Inject F)

def routeDiverted (d parent : DomPtr) (dv : DivertInfo) (e : InputEvent) (slot : Int32)
    (click : Bool) (val : Int32) : Handing F Destination := do
  beside (modifyRouting (holdButton dv e))
  let w ← beside get
  if pointerToParent w d parent dv then do
    if ← beside (checkClick parent slot e) then pure (none, e)
    else do
      beside (modifyRouting fun r => { r with lastD := some parent })
      beside (mouseSwitch inject e val)
      pure (some (some parent), e)
  else do
    beside (followClick inject d parent dv click)
    if ← beside (checkClick d slot e) then pure (none, e)
    else do
      beside (modifyRouting fun r => { r with lastD := some d })
      let e ← scaleForChild parent slot e
      pure (some (some d), e)

def routePointer (d : DomPtr) (e : InputEvent) (slot : Int32) (val : Int32) :
    Handing F Destination := do
  let w ← beside get
  match w.routing.mouseParent with
  | none => beside (do
    clickKeyboard inject (isClick w e)
    mouseSwitch inject e val
    pure (some (some d), e))
  | some parent => do
    let dv ← beside (derefDivert parent)
    routeDiverted inject d parent dv e slot (isClick w e) val

def injectPointer (d : Option DomPtr) (e : InputEvent) (slot : Int32) (type : HidType) :
    Handing F Destination := do
  beside (inputTrackMousePosition e type)
  let w ← beside get
  match d with
  | none => pure (none, e)
  | some d =>
    let val := if e.type = EV_REL ∧ e.code = REL_X then e.value else 0
    let e := if inputDomainSupportsAbs w w.routing.mouseDest then inputConvertRelToAbs w e else e
    routePointer inject d e slot val

def routeEvent (d : Option DomPtr) (e : InputEvent) (slot : Int32) (type : HidType) :
    Handing F Destination := do
  if ← beside (eventIsKeyboard slot e) then beside (injectKey inject d e slot)
  else injectPointer inject d e slot type

/-- `input_inject`, with the list of what it hands over. -/
def inputInjectWith (e : InputEvent) (slot : Int32) (type : HidType) : Handing F InputEvent := do
  let w ← beside get
  beside (wakeOnInput inject e)
  let (dest, e) ← routeEvent inject w.routing.mouseDest e slot type
  match dest with
  | none => pure e
  | some d => deliver d e slot

end

def inputInject {F : Type} [Double F] : Nat → InputEvent → Int32 → HidType → Handing F InputEvent
  | 0 => fun _ _ _ => beside (throw .hang)
  | depth + 1 => inputInjectWith (InputServer.inputInject depth)

end Handing

section
variable {F : Type}

theorem annotates_handOver (d : Option DomPtr) (slot : Int32) (e : InputEvent) :
    Annotates (Handing.handOver d slot e) (inputSend d slot e : WorldM F InputEvent) := by
  change Annotates _ (get >>= fun _ => inputSend d slot e)
  apply annotates_bind (annotates_beside _)
  intro w
  exact annotates_note _ (annotates_beside _)

theorem annotates_scaleForChild (parent : DomPtr) (slot : Int32) (e : InputEvent) :
    Annotates (Handing.scaleForChild parent slot e)
      (scaleForChild parent slot e : WorldM F InputEvent) := by
  have hscale (e : InputEvent) : Annotates (if e.type = EV_ABS then beside (do
        let w ← get
        let p ← deref w.routing.mouseParent
        let dv ← derefDivert p
        scalePointerEvent dv e) else pure e : Handing F InputEvent)
      (if e.type = EV_ABS then do
        let w ← get
        let p ← deref w.routing.mouseParent
        let dv ← derefDivert p
        scalePointerEvent dv e
      else pure e) :=
    annotates_ite (annotates_beside _) (annotates_pure e)
  apply annotates_bind (annotates_beside _)
  intro dv
  apply annotates_bind (annotates_beside _)
  intro w
  apply annotates_ite
  · apply annotates_bind (annotates_handOver _ slot e)
    exact hscale
  · apply annotates_bind (annotates_pure e)
    exact hscale

theorem annotates_deliver (d : Option DomPtr) (e : InputEvent) (slot : Int32) :
    Annotates (Handing.deliver d e slot) (deliver d e slot : WorldM F InputEvent) := by
  have hmouse (e : InputEvent) : Annotates (do
        let w ← beside get
        if inputInjectSeamlessMouse w.keyStatus e then
          Handing.handOver w.routing.mouseDest slot e else pure e : Handing F InputEvent)
      (do
        let w ← get
        if inputInjectSeamlessMouse w.keyStatus e then inputSend w.routing.mouseDest slot e
        else pure e) := by
    apply annotates_bind (annotates_beside _)
    intro w
    exact annotates_ite (annotates_handOver _ slot e) (annotates_pure e)
  apply annotates_bind (annotates_beside _)
  intro w
  apply annotates_ite
  · apply annotates_bind (annotates_beside _)
    intro w
    apply annotates_ite
    · apply annotates_bind (annotates_handOver _ slot e)
      exact hmouse
    · apply annotates_bind (annotates_pure e)
      exact hmouse
  · exact annotates_handOver d slot e

section
variable [Double F] (inject : Inject F)

theorem annotates_routeDiverted (d parent : DomPtr) (dv : DivertInfo) (e : InputEvent)
    (slot : Int32) (click : Bool) (val : Int32) :
    Annotates (Handing.routeDiverted inject d parent dv e slot click val)
      (routeDiverted inject d parent dv e slot click val) := by
  apply annotates_bind (annotates_beside _)
  intro _
  apply annotates_bind (annotates_beside _)
  intro w
  apply annotates_ite
  · apply annotates_bind (annotates_beside _)
    intro clicked
    apply annotates_ite (annotates_pure _)
    apply annotates_bind (annotates_beside _)
    intro _
    apply annotates_bind (annotates_beside _)
    intro _
    exact annotates_pure _
  · apply annotates_bind (annotates_beside _)
    intro _
    apply annotates_bind (annotates_beside _)
    intro clicked
    apply annotates_ite (annotates_pure _)
    apply annotates_bind (annotates_beside _)
    intro _
    apply annotates_bind (annotates_scaleForChild parent slot e)
    intro _
    exact annotates_pure _

theorem annotates_injectPointer (d : Option DomPtr) (e : InputEvent) (slot : Int32)
    (type : HidType) :
    Annotates (Handing.injectPointer inject d e slot type)
      (injectPointer inject d e slot type) := by
  have hpointer (d : DomPtr) (e : InputEvent) (val : Int32) :
      Annotates (Handing.routePointer inject d e slot val) (routePointer inject d e slot val) := by
    apply annotates_bind (annotates_beside _)
    intro w
    cases w.routing.mouseParent with
    | none => exact annotates_beside _
    | some parent =>
      apply annotates_bind (annotates_beside _)
      intro dv
      exact annotates_routeDiverted inject d parent dv e slot _ val
  apply annotates_bind (annotates_beside _)
  intro _
  apply annotates_bind (annotates_beside _)
  intro w
  cases d with
  | none => exact annotates_pure _
  | some d => exact hpointer d _ _

/-- But for the list, it is `input_inject`. -/
theorem annotates_inputInjectWith (e : InputEvent) (slot : Int32) (type : HidType) :
    Annotates (Handing.inputInjectWith inject e slot type)
      (inputInjectWith inject e slot type) := by
  have hroute (d : Option DomPtr) : Annotates (Handing.routeEvent inject d e slot type)
      (routeEvent inject d e slot type) := by
    apply annotates_bind (annotates_beside _)
    intro isKey
    exact annotates_ite (annotates_beside _) (annotates_injectPointer inject d e slot type)
  apply annotates_bind (annotates_beside _)
  intro w
  apply annotates_bind (annotates_beside _)
  intro _
  apply annotates_bind (hroute _)
  rintro ⟨dest, e'⟩
  cases dest with
  | none => exact annotates_pure _
  | some d => exact annotates_deliver d e' slot

end

theorem annotates_inputInject [Double F] (depth : Nat) (e : InputEvent) (slot : Int32)
    (type : HidType) :
    Annotates (Handing.inputInject depth e slot type)
      (inputInject depth e slot type : WorldM F InputEvent) := by
  cases depth with
  | zero => exact fun _ _ => rfl
  | succ depth => exact annotates_inputInjectWith _ e slot type

end

/-- `demultitouch` is not at a contact other than the first, or has put nothing off. -/
def MultiTouch.Passes (m : MultiTouch) : Prop :=
  (m.slot = 0 ∧ m.draining = false) ∨ m.deferpressed = .nope

/-- An event that is part of no contact. -/
def InputEvent.Single (e : InputEvent) : Prop :=
  e.type ≠ EV_SYN ∧ (e.type = EV_ABS → e.code = ABS_X ∨ e.code = ABS_Y)

theorem follow_single (he : e.Single) (m : MultiTouch) : m.follow e = m := by
  have hslot : ¬(e.type = EV_ABS ∧ e.code = ABS_MT_SLOT) := by
    rintro ⟨htype, hcode⟩
    cases he.2 htype with
    | inl hx =>
      rw [hx] at hcode
      exact absurd hcode (by decide)
    | inr hy =>
      rw [hy] at hcode
      exact absurd hcode (by decide)
  unfold MultiTouch.follow
  dsimp only
  rw [if_neg hslot, if_neg fun h => he.1 h.1]

theorem abs_single (hcode : e.code = ABS_X ∨ e.code = ABS_Y) (m : MultiTouch) :
    m.abs e = m.absDone e := by
  cases hcode with
  | inl hx =>
    unfold MultiTouch.abs
    rw [hx]
    rfl
  | inr hy =>
    unfold MultiTouch.abs
    rw [hy]
    rfl

/-- Such an event is passed on as it is, or dropped. -/
theorem demultitouch_single (hm : m.Passes) (he : e.Single) :
    (demultitouch m e).event = e ∧ (demultitouch m e).statics.Passes ∧
      (demultitouch m e).action ≠ .eventsQueued := by
  unfold demultitouch
  by_cases hslot : m.slot ≠ 0 ∨ m.draining = true
  · have hnope : m.deferpressed = .nope := by
      apply hm.resolve_left
      rintro ⟨hzero, hidle⟩
      rw [hidle] at hslot
      cases hslot with
      | inl h => exact h hzero
      | inr h => cases h
    rw [if_pos hslot]
    dsimp only
    rw [follow_single he, ite_self]
    unfold MultiTouch.deferred
    rw [hnope]
    exact ⟨rfl, .inr hnope, nofun⟩
  · have hzero : m.slot = 0 := not_not.mp fun h => hslot (.inl h)
    have hidle : m.draining = false := Bool.eq_false_iff.mpr fun h => hslot (.inr h)
    rw [if_neg hslot, if_neg he.1]
    by_cases habs : e.type = EV_ABS
    · rw [if_pos habs, abs_single (he.2 habs)]
      unfold MultiTouch.absDone
      rw [if_pos hzero]
      exact ⟨rfl, .inl ⟨hzero, hidle⟩, nofun⟩
    · rw [if_neg habs]
      exact ⟨rfl, .inl ⟨hzero, hidle⟩, nofun⟩

section
variable {F : Type} {w : World F}

theorem xenVkbdSendEvent_multitouch (d : DomPtr) (e : InputEvent) (w : World F) :
    wlp (xenVkbdSendEvent d e) (fun _ w' => w'.multitouch = w.multitouch) w := by
  rw [xenVkbdSendEvent, wlp_bind]
  have hled : wlp (xenVkbdHandleLed e d) (fun _ w' => w'.multitouch = w.multitouch) w := by
    apply wlp_ite
    · intro _
      exact (wlp_pure _ _ w).mpr rfl
    · intro _
      rw [modifyDomain]
      exact (wlp_modify _ _ w).mpr rfl
  refine wlp_mono hled ?_
  intro _ w₁ h₁
  rw [happens]
  exact (wlp_modify _ _ w₁).mpr h₁

theorem sendToVkbd_single (d : DomPtr) (fuel : Nat) (hm : w.multitouch.Passes) (he : e.Single) :
    wlp (sendToVkbd d fuel e) (fun e' w' => e' = e ∧ w'.multitouch.Passes) w := by
  cases fuel with
  | zero => exact wlp_throw _ _ w
  | succ fuel =>
    obtain ⟨hevent, hstatics, hqueued⟩ := demultitouch_single hm he
    rw [sendToVkbd, wlp_bind, wlp_get]
    dsimp only
    rw [wlp_bind, wlp_set]
    apply wlp_ite
    · intro _
      exact (wlp_pure _ _ _).mpr ⟨hevent, hstatics⟩
    · intro _
      rw [wlp_bind]
      refine wlp_mono (xenVkbdSendEvent_multitouch d _ _) ?_
      intro _ w₁ h₁
      rw [if_neg hqueued, wlp_pure, h₁]
      exact ⟨hevent, hstatics⟩

/-- What `input_send` leaves of such an event, and of the contacts. -/
theorem inputSend_single (d : Option DomPtr) (slot : Int32) (he : e.Single) :
    wlp (inputSend d slot e) (fun e' w' =>
      (w.multitouch.Passes → w'.multitouch.Passes) ∧
        ((∀ a, d = some a → (w.domains a).isPvDomain = true → w.multitouch.Passes) →
          e' = e)) w := by
  rw [inputSend, wlp_bind, wlp_get]
  cases d with
  | none => exact (wlp_pure _ _ w).mpr ⟨id, fun _ => rfl⟩
  | some d =>
    apply wlp_ite
    · intro _
      rw [wlp_bind, onPlug, wlp_zoom]
      intro _ p _
      exact (wlp_pure _ _ _).mpr ⟨id, fun _ => rfl⟩
    intro _
    apply wlp_ite
    · intro hpv
      by_cases hm : w.multitouch.Passes
      · refine wlp_mono (sendToVkbd_single d 3 hm he) ?_
        rintro e' w' ⟨hsame, hm'⟩
        exact ⟨fun _ => hm', fun _ => hsame⟩
      · exact fun _ _ _ => ⟨fun h => absurd h hm, fun h => absurd (h d rfl hpv) hm⟩
    · intro _
      rw [wlp_bind]
      refine wlp_mono (selectDevslot_multitouch slot w) ?_
      intro _ w₁ h₁
      rw [wlp_bind]
      refine wlp_mono (dom0InputEvent_multitouch (.input slot) e w₁) ?_
      intro _ w₂ h₂
      rw [wlp_pure, h₂, h₁]
      exact ⟨id, fun _ => rfl⟩

end

/-- The times and the mark of a key that `input_inject` keeps, taken out of the routing. -/
def Routing.untimed {F : Type} (r : Routing F) : Routing F :=
  { r with lastTimeout := 0, lastWasKey := false }

/-- An entry, but for what a wake-up or `input_send` may change of it. -/
def Domain.rested {F : Type} (x : Domain F) : Domain F :=
  { x.unsent with isInS3 := false, sstate := 0 }

/-- What an event finds the same, whether it comes first after a pause or not. -/
structure Alike {F : Type} (w w' : World F) : Prop where
  routing : w'.routing.untimed = w.routing.untimed
  domains : ∀ d, (w'.domains d).rested = (w.domains d).rested
  asleep : ∀ d, (w'.domains d).isInS3 = true → (w.domains d).isInS3 = true
  passes : w.multitouch.Passes → w'.multitouch.Passes

instance {F : Type} : IsPreorder (World F) Alike where
  refl _ := ⟨rfl, fun _ => rfl, fun _ h => h, id⟩
  trans _ _ _ h h' :=
    ⟨h'.routing.trans h.routing, fun d => (h'.domains d).trans (h.domains d),
      fun d hd => h.asleep d (h'.asleep d hd), fun hm => h'.passes (h.passes hm)⟩

section
variable {F : Type} {w w' : World F}

/-- The wake-up's timer is running: less than five seconds are over. -/
def World.Rested (w : World F) : Prop :=
  let sec := secondsBetween w.routing.lastTimeout (w.answers w.asked).time
  0 ≤ sec ∧ sec ≤ 4

/-- None of the domains that a wake-up is for is one that it would switch to. -/
def World.Awake (w : World F) : Prop :=
  ∀ d, w.routing.mouseDest = some d ∨ w.routing.keybDest = some d ∨ w.domainPvm = some d →
    (w.domains d).isInS3 = true → (w.domains d).isPvm = false

theorem Alike.field {β : Type} (h : Alike w w') (g : Domain F → β)
    (hg : ∀ x : Domain F, g x.rested = g x) (d : DomPtr) :
    g (w'.domains d) = g (w.domains d) := by
  rw [← hg, h.domains, hg]

theorem Alike.pointer {β : Type} (h : Alike w w') (g : Routing F → β)
    (hg : ∀ r : Routing F, g r.untimed = g r) : g w'.routing = g w.routing := by
  rw [← hg, h.routing, hg]

theorem Alike.awake (h : Alike w w') (hw : w.Awake) : w'.Awake := by
  intro d hd hasleep
  have hidentity (a : DomPtr) : (w'.domains a).identity = (w.domains a).identity :=
    h.field Domain.identity (fun _ => rfl) a
  have hpvm : w'.domainPvm = w.domainPvm :=
    World.firstDomain_congr (Q := fun i => i.isPvm) hidentity fun _ => rfl
  have hmouse := h.pointer Routing.mouseDest fun _ => rfl
  have hkeyb := h.pointer Routing.keybDest fun _ => rfl
  rw [hmouse, hkeyb, hpvm] at hd
  rw [h.field Domain.isPvm fun _ => rfl]
  exact hw d hd (h.asleep d hasleep)

abbrev Likens (m : WorldM F α) (w : World F) : Prop :=
  Moves (fun _ => True) Alike m w

theorem Likens.wlp {m : WorldM F α} (h : Likens m w) : wlp m (fun _ w' => Alike w w') w :=
  wlp_mono (h trivial) fun _ _ h => h.2.1

theorem likens_ask (f : Answers → α) (w : World F) : Likens (ask f) w := by
  apply yields_get
  intro _ _
  rw [wlp_bind, wlp_set, wlp_pure]
  exact ⟨trivial, ⟨rfl, fun _ => rfl, fun _ h => h, id⟩, trivial⟩

theorem likens_sent (d : Option DomPtr) (slot : Int32) (he : e.Single)
    {k : InputEvent → WorldM F α} (hk : ∀ e' w', Likens (k e') w') :
    Likens (inputSend d slot e >>= k) w := by
  have hsend : Likens (inputSend d slot e) w := by
    intro _ e' w' hrun
    have hframe := (frames_inputSend d slot e w trivial e' w' hrun).2.1
    have hsingle := inputSend_single d slot he e' w' hrun
    refine ⟨trivial, ⟨congrArg Routing.untimed hframe.routing, ?_, ?_, hsingle.1⟩, trivial⟩
    · exact hframe.field Domain.rested fun _ => rfl
    · intro d hd
      rw [← hd]
      exact (hframe.field Domain.isInS3 (fun _ => rfl) d).symm
  apply yields_bind hsend
  intro e' w' _ _
  exact hk e' w'

theorem single_key (code : UInt16) (value : Int32) :
    InputEvent.Single { type := EV_KEY, code := code, value := value } := by
  have hsyn : EV_KEY ≠ EV_SYN := by decide
  have habs : EV_KEY ≠ EV_ABS := by decide
  exact ⟨hsyn, fun h => absurd h habs⟩

theorem wiggleCtrlKey_likens (d : Option DomPtr) (w : World F) : Likens (wiggleCtrlKey d) w := by
  apply yields_get
  intro _
  apply yields_ite
  · intro _
    exact moves_pure _
  · intro _
    apply likens_sent _ _ (single_key _ _)
    intro _ w₁
    apply likens_sent _ _ (single_key _ _)
    intro _ w₂
    exact moves_pure _

theorem timeoutExpired_likens (w : World F) :
    wlp timeoutExpired (fun expired w' => Alike w w' ∧ (expired = true → ¬w.Rested)) w := by
  intro expired w' hrun
  cases hrun
  refine ⟨⟨rfl, fun _ => rfl, fun _ h => h, id⟩, ?_⟩
  intro hexpired hrested
  have hsec : secondsBetween w.routing.lastTimeout (w.answers w.asked).time < 0 ∨
      4 < secondsBetween w.routing.lastTimeout (w.answers w.asked).time :=
    of_decide_eq_true hexpired
  obtain ⟨hlow, hhigh⟩ := hrested
  omega

theorem timeoutStart_likens (w : World F) : Likens timeoutStart w := by
  intro _ _ w' hrun
  cases hrun
  exact ⟨trivial, ⟨rfl, fun _ => rfl, fun _ h => h, id⟩, trivial⟩

theorem resumeDomain_likens (d : DomPtr) (w : World F) : Likens (resumeDomain d) w := by
  apply yields_get
  intro _
  apply yields_ite
  · intro _
    apply moves_modify
    intro _
    refine ⟨trivial, rfl, setDomain_congr Domain.rested rfl, ?_, id⟩
    intro a ha
    by_cases had : a = d
    · rw [had] at ha
      dsimp only at ha
      rw [Function.update_self] at ha
      exact absurd ha Bool.false_ne_true
    · dsimp only at ha
      rwa [Function.update_of_ne had] at ha
  · intro _
    exact moves_pure _

variable [Double F]

theorem domainWakeFromS3_likens (inject : Inject F) {p : Option DomPtr}
    (hawake : ∀ d, p = some d → (w.domains d).isInS3 = true → (w.domains d).isPvm = false) :
    Likens (domainWakeFromS3 inject p) w := by
  apply yields_get
  intro _
  cases p with
  | none => exact moves_pure _
  | some d =>
    apply yields_ite
    · intro _
      exact moves_pure _
    intro hasleep
    have hpvm := hawake d rfl (not_not.mp hasleep)
    apply yields_bind (likens_ask _ w)
    intro held w₁ _ h₁
    apply yields_ite
    · intro _
      exact moves_pure _
    intro _
    apply yields_bind (resumeDomain_likens d w₁)
    intro _ w₂ _ h₂
    apply yields_get
    intro _
    apply yields_ite
    · intro hswitched
      have hsame : (w₂.domains d).isPvm = false := by
        rw [h₂.field Domain.isPvm fun _ => rfl, h₁.field Domain.isPvm fun _ => rfl, hpvm]
      rw [hsame] at hswitched
      exact absurd hswitched Bool.false_ne_true
    · intro _
      exact moves_pure _

theorem wakeDomains_likens (inject : Inject F) (hawake : w.Awake) :
    Likens (wakeDomains inject) w := by
  apply yields_get
  intro _
  apply yields_bind (wiggleCtrlKey_likens _ w)
  intro _ w₁ _ h₁
  have hawake₁ := h₁.awake hawake
  have hmouse (d : DomPtr) (hd : w.routing.mouseDest = some d) :
      (w₁.domains d).isInS3 = true → (w₁.domains d).isPvm = false := by
    apply hawake₁ d
    rw [h₁.pointer Routing.mouseDest fun _ => rfl]
    exact .inl hd
  apply yields_bind (domainWakeFromS3_likens inject hmouse)
  intro _ w₂ _ h₂
  have hawake₂ := h₂.awake hawake₁
  apply yields_get
  intro _
  apply yields_bind (domainWakeFromS3_likens inject fun d hd => hawake₂ d (.inr (.inl hd)))
  intro _ w₃ _ h₃
  have hawake₃ := h₃.awake hawake₂
  apply yields_get
  intro _
  apply yields_bind (domainWakeFromS3_likens inject fun d hd => hawake₃ d (.inr (.inr hd)))
  intro _ w₄ _ _
  exact timeoutStart_likens w₄

theorem wakeOnInput_likens (inject : Inject F) (e : InputEvent) (hawake : w.Rested ∨ w.Awake) :
    wlp (wakeOnInput inject e) (fun _ w' => Alike w w') w := by
  apply wlp_ite
  · intro _
    rw [wlp_bind]
    refine wlp_mono (timeoutExpired_likens w) ?_
    rintro expired w₁ ⟨h₁, hexpired⟩
    apply wlp_ite
    · intro htrue
      have hw := hawake.resolve_left (hexpired htrue)
      refine wlp_mono (wakeDomains_likens inject (h₁.awake hw)).wlp ?_
      intro _ w₂ h₂
      exact IsTrans.trans _ _ _ h₁ h₂
    · intro _
      exact (wlp_pure _ _ w₁).mpr h₁
  · intro _
    exact (wlp_pure _ _ w).mpr (refl w)

omit [Double F] in
/-- A movement is no key, from whatever device. -/
theorem eventIsKeyboard_motion (slot : Int32) (hmotion : e.type = EV_REL) (w : World F) :
    wlp (eventIsKeyboard slot e) (fun isKey w' => isKey = false ∧ Alike w w') w := by
  have hmark : wlp (do
      modifyRouting fun r : Routing F => { r with lastWasKey := false }
      pure false) (fun isKey w' => isKey = false ∧ Alike w w') w := by
    rw [wlp_bind, modifyRouting, wlp_modify, wlp_pure]
    exact ⟨rfl, rfl, fun _ => rfl, fun _ h => h, id⟩
  rw [eventIsKeyboard, wlp_bind, wlp_get]
  dsimp only
  rw [hmotion]
  apply wlp_ite
  · exact fun _ => hmark
  intro _
  apply wlp_ite
  · intro hkey
    simp [EV_REL, EV_KEY, EV_MSC] at hkey
  intro _
  apply wlp_ite
  · intro hsyn
    exact absurd hsyn (by decide)
  · exact fun _ => hmark

/-- The state with the pointer moved to a position. -/
def World.pointedAt (w : World F) (x y : F) : World F :=
  { w with routing := { w.routing with mouseX := x, mouseY := y } }

theorem moveMouse_alike (h : Alike w w') (m : DomPtr) (e : InputEvent) (type : HidType)
    (mult : F) (max res : Int) (x : F) :
    moveMouse w' (w'.domains m) e type mult max res x =
      moveMouse w (w.domains m) e type mult max res x := by
  have hxres := h.field Domain.desktopXres (fun _ => rfl) m
  have hyres := h.field Domain.desktopYres (fun _ => rfl) m
  have hspeed := h.pointer Routing.mouseSpeed fun _ => rfl
  have hfirst := h.pointer Routing.mouseSpeedThreshold1 fun _ => rfl
  have hsecond := h.pointer Routing.mouseSpeedThreshold2 fun _ => rfl
  unfold moveMouse getMouseSpeedMult
  rw [hxres, hyres, hspeed, hfirst, hsecond]

/-- Where a relative movement takes the pointer, in the domain that has the mouse. -/
def World.moved (w : World F) (m : DomPtr) (e : InputEvent) (type : HidType) : F × F :=
  let d := w.domains m
  let xres := if d.desktopXres ≠ 0 then d.desktopXres else DEFAULT_RESOLUTION_X
  let yres := if d.desktopYres ≠ 0 then d.desktopYres else DEFAULT_RESOLUTION_Y
  if e.code = REL_X then
    (moveMouse w d e type d.relXMult MAX_MOUSE_ABS_X xres w.routing.mouseX, w.routing.mouseY)
  else if e.code = REL_Y then
    (w.routing.mouseX, moveMouse w d e type d.relYMult MAX_MOUSE_ABS_Y yres w.routing.mouseY)
  else (w.routing.mouseX, w.routing.mouseY)

/-- A movement puts the pointer where it does from every state that is alike. -/
theorem track_points (hmotion : e.type = EV_REL) (type : HidType) (w : World F) :
    ∃ x y, ∀ w', Alike w w' → inputTrackMousePosition e type w' = .ok ((), w'.pointedAt x y) := by
  have hkey : ¬(e.type = EV_KEY ∧ isButton e = true) := by
    rw [hmotion]
    exact fun h => absurd h.1 (by decide)
  have hleft (w' : World F) : inputTrackMousePosition e type w' = trackMotion e type w' := by
    unfold inputTrackMousePosition
    rw [if_neg hkey]
    exact congrFun (bind_pure_unit) w'
  have hx (w' : World F) (h : Alike w w') : w'.routing.mouseX = w.routing.mouseX :=
    h.pointer Routing.mouseX fun _ => rfl
  have hy (w' : World F) (h : Alike w w') : w'.routing.mouseY = w.routing.mouseY :=
    h.pointer Routing.mouseY fun _ => rfl
  have hdest (w' : World F) (h : Alike w w') : w'.routing.mouseDest = w.routing.mouseDest :=
    h.pointer Routing.mouseDest fun _ => rfl
  cases hm : w.routing.mouseDest with
  | none =>
    refine ⟨w.routing.mouseX, w.routing.mouseY, ?_⟩
    intro w' h
    rw [hleft, trackMotion, bind_apply, get_apply]
    dsimp only [Except.bind]
    rw [hdest w' h, hm, ← hx w' h, ← hy w' h]
    rfl
  | some m =>
    refine ⟨(w.moved m e type).1, (w.moved m e type).2, ?_⟩
    intro w' h
    have hxres := h.field Domain.desktopXres (fun _ => rfl) m
    have hyres := h.field Domain.desktopYres (fun _ => rfl) m
    have hxmult := h.field Domain.relXMult (fun _ => rfl) m
    have hymult := h.field Domain.relYMult (fun _ => rfl) m
    rw [hleft, trackMotion, bind_apply, get_apply]
    dsimp only [Except.bind]
    rw [hdest w' h, hm]
    dsimp only
    rw [hmotion, hxres, hyres, hxmult, hymult, World.moved]
    simp only [true_and]
    split_ifs
    all_goals
      simp only [modifyRouting, modify_apply, World.pointedAt, moveMouse_alike h, ← hx w' h,
        ← hy w' h]
      try rfl

end

/-- The keyboard and the mouse are in different domains, and no click is awaited. -/
def Routing.Seamless {F : Type} (r : Routing F) : Prop :=
  r.keybDest ≠ none ∧ r.mouseDest ≠ none ∧ r.keybDest ≠ r.mouseDest ∧ ¬r.keybWaitsForClick

instance {F : Type} (r : Routing F) : Decidable r.Seamless :=
  inferInstanceAs (Decidable (_ ∧ _ ∧ _ ∧ _))

/-- Whom a pointer event for `d` goes to in the end. -/
def Routing.receiver {F : Type} (r : Routing F) (d : Option DomPtr) : Option DomPtr :=
  if r.Seamless then r.mouseDest else d

/-- The state in which `input_inject` has tracked the pointer. -/
def World.tracked {F : Type} [Double F] (w : World F) (e : InputEvent) (type : HidType) :
    World F :=
  match inputTrackMousePosition e type w with
  | .ok (_, w') => w'
  | .error _ => w

/-- A movement as it is after that. -/
def World.converted {F : Type} [Double F] (w : World F) (e : InputEvent) : InputEvent :=
  if inputDomainSupportsAbs w w.routing.mouseDest then inputConvertRelToAbs w e else e

/-- The parent has a copy, where its focus mode asks for one. -/
def Cloned {F : Type} (p : DomPtr) (dv : DivertInfo) (e : InputEvent)
    (ks : List (Handover F)) : Prop :=
  if dv.focusmode &&& CLONEEVENTS ≠ 0 then ∃ r, ks = [⟨some p, e, r⟩] else ks = []

/-- Who is handed an event with the pointer outside the parent's frame, and inside of it. -/
inductive Handed {F : Type} [Double F] (w : World F) (p m : DomPtr) (dv : DivertInfo)
    (e : InputEvent) : List (Handover F) → Prop where
  | outside (r : Routing F) (hout : mouseOutsideFrame w dv.sframe = true) :
    Handed w p m dv e [⟨r.receiver (some p), e, r⟩]
  | inside (r : Routing F) (hin : mouseOutsideFrame w dv.sframe = false)
    (hclone : Cloned p dv e ks) (hscaled : scalePointerEvent dv e w = .ok (e', w)) :
    Handed w p m dv e (ks ++ [⟨some m, e', r⟩])

/-- The same, of an event whose handing over may have been cut short. -/
inductive HandedSoFar {F : Type} [Double F] (w : World F) (p m : DomPtr) (dv : DivertInfo)
    (e : InputEvent) : List (Handover F) → Prop where
  | nothing : HandedSoFar w p m dv e []
  | clone (hin : mouseOutsideFrame w dv.sframe = false) (hclone : Cloned p dv e ks) :
    HandedSoFar w p m dv e ks
  | all (h : Handed w p m dv e ks) : HandedSoFar w p m dv e ks

def InputEvent.Pointer (e : InputEvent) : Prop :=
  e.type = EV_REL ∨ e.type = EV_ABS

section
variable {F : Type} {w : World F} {ks : List (Handover F)} {E : List (Handover F) → Prop}

theorem InputEvent.Pointer.ne_key {e : InputEvent} (he : e.Pointer) : e.type ≠ EV_KEY := by
  cases he with
  | inl hrel =>
    rw [hrel]
    decide
  | inr habs =>
    rw [habs]
    decide

theorem InputEvent.Pointer.ne_syn {e : InputEvent} (he : e.Pointer) : e.type ≠ EV_SYN := by
  cases he with
  | inl hrel =>
    rw [hrel]
    decide
  | inr habs =>
    rw [habs]
    decide

theorem seamless_pointer (he : e.Pointer) (keyStatus : Nat → Bool) :
    inputInjectSeamlessKeyboard keyStatus e = false ∧
      inputInjectSeamlessMouse keyStatus e = true := by
  have hpointer : isPointerEvent e = true := by
    unfold isPointerEvent
    apply decide_eq_true
    cases he with
    | inl hrel => exact .inl hrel
    | inr habs => exact .inr (.inl habs)
  constructor
  · unfold inputInjectSeamlessKeyboard
    dsimp only
    rw [hpointer, if_pos rfl, ite_self]
  · unfold inputInjectSeamlessMouse
    dsimp only
    rw [decide_eq_false he.ne_key, Bool.false_and, if_neg Bool.false_ne_true, hpointer,
      Bool.true_or, ite_self]

theorem handOver_ends (d : Option DomPtr) (slot : Int32) (e : InputEvent)
    {Q : InputEvent → World F → Prop} (hE : E (ks ++ [⟨d, e, w.routing⟩]))
    (hsend : wlp (inputSend d slot e) Q w) :
    ends (Handing.handOver d slot e) E
      (fun e' w' ks' => Q e' w' ∧ ks' = ks ++ [⟨d, e, w.routing⟩]) w ks := by
  apply ends_bind
  apply ends_get
  apply ends_bind
  apply ends_note
  apply ends_beside hE
  refine wlp_mono hsend ?_
  intro e' w' h
  exact ⟨h, rfl⟩

/-- A pointer event goes to one domain at the end. -/
theorem deliver_ends (he : e.Pointer) (d : Option DomPtr) (slot : Int32)
    (hE : E (ks ++ [⟨w.routing.receiver d, e, w.routing⟩])) :
    ends (Handing.deliver d e slot) E
      (fun _ _ ks' => ks' = ks ++ [⟨w.routing.receiver d, e, w.routing⟩]) w ks := by
  obtain ⟨hkeyb, hmouse⟩ := seamless_pointer he w.keyStatus
  have hany (d : Option DomPtr) : wlp (inputSend d slot e) (fun _ _ => True) w :=
    fun _ _ _ => trivial
  apply ends_bind
  apply ends_get
  apply ends_ite
  · intro hseamless
    have hreceiver : w.routing.receiver d = w.routing.mouseDest := if_pos hseamless
    rw [hreceiver] at hE ⊢
    apply ends_bind
    apply ends_get
    rw [hkeyb, if_neg Bool.false_ne_true]
    apply ends_bind
    apply ends_pure
    apply ends_bind
    apply ends_get
    rw [hmouse, if_pos rfl]
    refine ends_mono (handOver_ends _ slot e hE (hany _)) ?_
    intro _ _ _ h
    exact h.2
  · intro hseamless
    have hreceiver : w.routing.receiver d = d := if_neg hseamless
    rw [hreceiver] at hE ⊢
    refine ends_mono (handOver_ends _ slot e hE (hany _)) ?_
    intro _ _ _ h
    exact h.2

end

/-- What has been decided about an event before it is delivered. -/
inductive Decided {F : Type} [Double F] (w : World F) (p m : DomPtr) (dv : DivertInfo)
    (e : InputEvent) : Destination → World F → List (Handover F) → Prop where
  | outside (hout : mouseOutsideFrame w dv.sframe = true) :
    Decided w p m dv e (some (some p), e) w' []
  | inside (hin : mouseOutsideFrame w dv.sframe = false) (hm : w'.routing.mouseDest = some m)
    (hclone : Cloned p dv e ks) (hscaled : scalePointerEvent dv e w = .ok (e', w))
    (htype : e'.type = e.type) : Decided w p m dv e (some (some m), e') w' ks

/-- A copy for the parent does not press a contact that was put off. -/
def World.CopiesPlainly {F : Type} (w : World F) (p : DomPtr) : Prop :=
  ∀ dv, (w.domains p).divertInfo = some dv → dv.focusmode &&& CLONEEVENTS ≠ 0 →
    (w.domains p).isPvDomain = true → w.multitouch.Passes

/-- A relative movement that no button and no wake-up takes elsewhere. -/
structure FreeMotion {F : Type} (w : World F) (e : InputEvent) : Prop where
  motion : e.type = EV_REL
  button : w.routing.mouseButton = 0
  holding : w.routing.buttonHolding = 0
  awake : w.Rested ∨ w.Awake

section
variable {F : Type} [Double F] {w : World F} {e : InputEvent} {p m : DomPtr} {dv : DivertInfo}

omit [Double F] in
/-- The scaling is of the event and the frames alone. -/
theorem scalePointerEvent_scales (dv : DivertInfo) (e : InputEvent) (w w' : World F) :
    wlp (scalePointerEvent dv e) (fun e' w₁ => w₁ = w' ∧ e'.type = e.type ∧
      scalePointerEvent dv e w = .ok (e', w)) w' := by
  have hscale (value : Int32) (s1 s2 d1 d2 : UInt32) :
      wlp (scaleCoordinate value s1 s2 d1 d2) (fun v w₁ => w₁ = w' ∧
        scaleCoordinate value s1 s2 d1 d2 w = .ok (v, w)) w' := by
    unfold scaleCoordinate
    dsimp only
    split
    · exact wlp_throw _ _ _
    · exact (wlp_pure _ _ _).mpr ⟨rfl, rfl⟩
  unfold scalePointerEvent
  split
  · rw [wlp_bind]
    refine wlp_mono (hscale _ _ _ _ _) ?_
    rintro v w₁ ⟨hw, hrun⟩
    rw [wlp_pure, bind_apply, hrun]
    exact ⟨hw, rfl, rfl⟩
  split
  · rw [wlp_bind]
    refine wlp_mono (hscale _ _ _ _ _) ?_
    rintro v w₁ ⟨hw, hrun⟩
    rw [wlp_pure, bind_apply, hrun]
    exact ⟨hw, rfl, rfl⟩
  · exact (wlp_pure _ _ _).mpr ⟨rfl, rfl, rfl⟩

omit [Double F] in
theorem derefDivert_apply (h : (w.domains p).divertInfo = some dv) :
    derefDivert p w = .ok (dv, w) := by
  rw [derefDivert, bind_apply, get_apply]
  dsimp only [Except.bind]
  rw [h]
  rfl

omit [Double F] in
/-- The parent's copy leaves the event as it is, and the frame. -/
theorem clone_keeps (hs : e.Single) (hclone : (w.domains p).isPvDomain = true → w.multitouch.Passes)
    (hdv : (w.domains p).divertInfo = some dv) (slot : Int32) :
    wlp (inputSend (some p) slot e) (fun e' w' => e' = e ∧ w'.routing = w.routing ∧
      (w'.domains p).divertInfo = some dv) w := by
  intro e' w' hrun
  have hframe := (frames_inputSend (some p) slot e w trivial e' w' hrun).2.1
  have hsame := (inputSend_single (some p) slot hs e' w' hrun).2
  refine ⟨hsame ?_, hframe.routing, ?_⟩
  · rintro a hpa hpv
    cases hpa
    exact hclone hpv
  · rw [hframe.divertInfo, hdv]

theorem scaleForChild_ends (hs : e.Single) (hin : mouseOutsideFrame w dv.sframe = false)
    (hclone : dv.focusmode &&& CLONEEVENTS ≠ 0 → (w'.domains p).isPvDomain = true →
      w'.multitouch.Passes)
    (hp : w'.routing.mouseParent = some p) (hdv : (w'.domains p).divertInfo = some dv)
    (slot : Int32) :
    ends (Handing.scaleForChild p slot e) (HandedSoFar w p m dv e)
      (fun e' w₁ ks => w₁.routing = w'.routing ∧ Cloned p dv e ks ∧ e'.type = e.type ∧
        scalePointerEvent dv e w = .ok (e', w)) w' [] := by
  have hscale {w₁ : World F} {ks : List (Handover F)} (hcloned : Cloned p dv e ks)
      (hrouting : w₁.routing = w'.routing) (hdv₁ : (w₁.domains p).divertInfo = some dv) :
      ends (if e.type = EV_ABS then beside (do
        let w ← get
        let p ← deref w.routing.mouseParent
        let dv ← derefDivert p
        scalePointerEvent dv e) else pure e : Handing F InputEvent) (HandedSoFar w p m dv e)
      (fun e' w₁ ks => w₁.routing = w'.routing ∧ Cloned p dv e ks ∧ e'.type = e.type ∧
        scalePointerEvent dv e w = .ok (e', w)) w₁ ks := by
    apply ends_ite
    · intro _
      apply ends_beside (.clone hin hcloned)
      rw [wlp_bind, wlp_get, hrouting, hp, wlp_bind, deref, wlp_pure, wlp_bind]
      intro dv₁ w₂ hrun
      rw [derefDivert_apply hdv₁] at hrun
      cases hrun
      refine wlp_mono (scalePointerEvent_scales dv e w w₁) ?_
      rintro e' w₂ ⟨rfl, htype, hscaled⟩
      exact ⟨hrouting, hcloned, htype, hscaled⟩
    · intro habs
      apply ends_pure
      refine ⟨hrouting, hcloned, rfl, ?_⟩
      unfold scalePointerEvent
      rw [if_neg fun h => habs h.1, if_neg fun h => habs h.1]
      rfl
  apply ends_bind
  apply ends_beside .nothing
  intro dv₁ w₁ hrun
  rw [derefDivert_apply hdv] at hrun
  cases hrun
  apply ends_bind
  apply ends_get
  apply ends_ite
  · intro hmode
    have hcloned (r : Routing F) : Cloned p dv e [⟨some p, e, r⟩] := by
      rw [Cloned, if_pos hmode]
      exact ⟨r, rfl⟩
    rw [hp]
    apply ends_bind
    refine ends_mono (handOver_ends (some p) slot e (.clone hin (hcloned _))
      (clone_keeps hs (hclone hmode) hdv slot)) ?_
    rintro e' w₁ ks ⟨⟨rfl, hrouting, hdv₁⟩, rfl⟩
    exact hscale (hcloned _) hrouting hdv₁
  · intro hmode
    apply ends_bind
    apply ends_pure
    have hcloned : Cloned p dv e ([] : List (Handover F)) := by
      rw [Cloned, if_neg hmode]
    exact hscale hcloned rfl hdv

omit [Double F] in
theorem holdButton_unheld {r : Routing F} (hbutton : r.mouseButton = 0)
    (hholding : r.buttonHolding = 0) (dv : DivertInfo) (e : InputEvent) :
    holdButton dv e r = r := by
  have hnone : ¬(dv.focusmode &&& CLICKHOLDFOCUS ≠ 0 ∧ r.mouseButton ≠ 0) := fun h => h.2 hbutton
  unfold holdButton
  dsimp only
  rw [if_neg hnone, hholding, ite_self, if_neg (not_not.mpr rfl), ← hholding]

/-- With no button held, the frame decides. -/
theorem routeDiverted_ends (inject : Inject F) (he : e.Pointer) (hs : e.Single)
    (hbutton : w'.routing.mouseButton = 0) (hholding : w'.routing.buttonHolding = 0)
    (hm : w'.routing.mouseDest = some m) (hp : w'.routing.mouseParent = some p)
    (hdv : (w'.domains p).divertInfo = some dv)
    (hframe : mouseOutsideFrame w' dv.sframe = mouseOutsideFrame w dv.sframe)
    (hclone : dv.focusmode &&& CLONEEVENTS ≠ 0 → (w'.domains p).isPvDomain = true →
      w'.multitouch.Passes) (slot val : Int32) :
    ends (Handing.routeDiverted inject m p dv e slot false val) (HandedSoFar w p m dv e)
      (Decided w p m dv e) w' [] := by
  have hclick (d : DomPtr) : (checkClick d slot e : WorldM F Bool) = pure false :=
    if_neg he.ne_key
  have hunheld : pointerToParent w' m p dv = mouseOutsideFrame w dv.sframe := by
    unfold pointerToParent
    rw [if_neg fun h => h.1 hholding, if_neg fun h => h.1 hholding, hframe]
  apply ends_bind
  apply ends_beside .nothing
  rw [modifyRouting, wlp_modify, holdButton_unheld hbutton hholding]
  apply ends_bind
  apply ends_get
  change ends (if pointerToParent w' m p dv = true then _ else _) _ _ w' []
  rw [hunheld]
  apply ends_ite
  · intro hout
    rw [hclick]
    apply ends_bind
    apply ends_beside .nothing
    rw [wlp_pure, if_neg Bool.false_ne_true]
    apply ends_bind
    apply ends_beside .nothing
    rw [modifyRouting, wlp_modify]
    apply ends_bind
    apply ends_beside .nothing
    intro _ w₁ _
    exact ends_pure _ (.outside hout)
  · intro hnot
    have hin := Bool.eq_false_iff.mpr hnot
    apply ends_bind
    apply ends_beside .nothing
    rw [followClick, if_neg fun h => Bool.false_ne_true h.1, wlp_pure, hclick]
    apply ends_bind
    apply ends_beside .nothing
    rw [wlp_pure, if_neg Bool.false_ne_true]
    apply ends_bind
    apply ends_beside .nothing
    rw [modifyRouting, wlp_modify]
    apply ends_bind
    apply ends_mono
    · apply scaleForChild_ends hs hin
      · exact hclone
      · exact hp
      · exact hdv
    rintro e' w₁ ks ⟨hrouting, hcloned, htype, hscaled⟩
    refine ends_pure _ (.inside hin ?_ hcloned hscaled htype)
    rw [hrouting]
    exact hm

/-- What is decided is handed over. -/
theorem Decided.delivers {dest : Destination} {w' : World F} {ks : List (Handover F)}
    (h : Decided w p m dv e dest w' ks) (he : e.Pointer) (slot : Int32) :
    ends (match dest.1 with
      | none => pure dest.2
      | some d => Handing.deliver d dest.2 slot) (HandedSoFar w p m dv e)
      (fun _ _ ks' => Handed w p m dv e ks') w' ks := by
  cases h with
  | outside hout =>
    have hall := Handed.outside (p := p) (m := m) (e := e) w'.routing hout
    refine ends_mono (deliver_ends he _ slot (.all hall)) ?_
    rintro _ _ _ rfl
    exact hall
  | inside hin hm hclone hscaled htype =>
    have hall := Handed.inside (m := m) w'.routing hin hclone hscaled
    have hreceiver : w'.routing.receiver (some m) = some m := by
      unfold Routing.receiver
      rw [hm, ite_self]
    rename_i e'
    have he' : e'.Pointer := by
      unfold InputEvent.Pointer
      rw [htype]
      exact he
    rw [← hreceiver] at hall
    refine ends_mono (deliver_ends he' _ slot (.all hall)) ?_
    rintro _ _ _ rfl
    exact hall

theorem converted_pointer (he : e.type = EV_REL) (w : World F) :
    (w.converted e).Pointer ∧ (w.converted e).Single := by
  have hrel : e.Pointer ∧ e.Single := by
    refine ⟨.inl he, ?_, ?_⟩
    · rw [he]
      decide
    · rw [he]
      exact fun h => absurd h (by decide)
  unfold World.converted inputConvertRelToAbs
  split_ifs
  · exact ⟨.inr rfl, nofun, fun _ => .inl rfl⟩
  · exact ⟨.inr rfl, nofun, fun _ => .inr rfl⟩
  · exact hrel
  · exact hrel

theorem Alike.converted (h : Alike w w') (x y : F) (e : InputEvent) :
    (w'.pointedAt x y).converted e = (w.pointedAt x y).converted e := by
  have hdest : w'.routing.mouseDest = w.routing.mouseDest :=
    h.pointer Routing.mouseDest fun _ => rfl
  have habs : inputDomainSupportsAbs (w'.pointedAt x y) (w'.pointedAt x y).routing.mouseDest =
      inputDomainSupportsAbs (w.pointedAt x y) (w.pointedAt x y).routing.mouseDest := by
    unfold inputDomainSupportsAbs World.pointedAt
    dsimp only
    rw [hdest]
    cases w.routing.mouseDest with
    | none => rfl
    | some d => exact h.field Domain.supportsAbs (fun _ => rfl) d
  unfold World.converted
  rw [habs]
  rfl

/-- A movement is decided by the frame wherever it finds the state alike. -/
theorem injectPointer_ends (inject : Inject F) (hfree : FreeMotion w e) (h : Alike w w')
    (hm : w.routing.mouseDest = some m) (hp : w.routing.mouseParent = some p)
    (hdv : (w.domains p).divertInfo = some dv)
    (hclone : dv.focusmode &&& CLONEEVENTS ≠ 0 → (w.domains p).isPvDomain = true →
      w.multitouch.Passes)
    (hw₁ : w₁ = w.tracked e type) (slot : Int32) :
    ends (Handing.injectPointer inject (some m) e slot type)
      (HandedSoFar w₁ p m dv (w₁.converted e)) (Decided w₁ p m dv (w₁.converted e)) w' [] := by
  obtain ⟨x, y, hpoint⟩ := track_points hfree.motion type w
  rw [World.tracked, hpoint w (refl w)] at hw₁
  dsimp only at hw₁
  obtain ⟨hpointer, hsingle⟩ := converted_pointer hfree.motion w₁
  have hbutton : w'.routing.mouseButton = 0 :=
    (h.pointer Routing.mouseButton fun _ => rfl).trans hfree.button
  have hholding : w'.routing.buttonHolding = 0 :=
    (h.pointer Routing.buttonHolding fun _ => rfl).trans hfree.holding
  have hmouse : w'.routing.mouseDest = some m :=
    (h.pointer Routing.mouseDest fun _ => rfl).trans hm
  have hparent : w'.routing.mouseParent = some p :=
    (h.pointer Routing.mouseParent fun _ => rfl).trans hp
  have hdivert : (w'.domains p).divertInfo = some dv :=
    (h.field Domain.divertInfo (fun _ => rfl) p).trans hdv
  have hpv : (w'.domains p).isPvDomain = (w.domains p).isPvDomain :=
    h.field Domain.isPvDomain (fun _ => rfl) p
  have hclick (w : World F) : isClick w (w₁.converted e) = false :=
    decide_eq_false fun hkey => hpointer.ne_key hkey.1
  have hframe : mouseOutsideFrame (w'.pointedAt x y) dv.sframe =
      mouseOutsideFrame w₁ dv.sframe := by
    rw [hw₁]
    rfl
  apply ends_bind
  apply ends_beside .nothing
  intro _ w₂ hrun
  rw [hpoint w' h] at hrun
  cases hrun
  apply ends_bind
  apply ends_get
  dsimp only
  have hconverted : (if inputDomainSupportsAbs (w'.pointedAt x y)
      (w'.pointedAt x y).routing.mouseDest = true then inputConvertRelToAbs (w'.pointedAt x y) e
      else e) = w₁.converted e := by
    rw [hw₁]
    exact h.converted x y e
  rw [hconverted]
  apply ends_bind
  apply ends_get
  have hparent' : (w'.pointedAt x y).routing.mouseParent = some p := hparent
  rw [hparent']
  dsimp only
  apply ends_bind
  apply ends_beside .nothing
  intro dv' w₂ hrun
  have hdivert' : ((w'.pointedAt x y).domains p).divertInfo = some dv := hdivert
  rw [derefDivert_apply hdivert'] at hrun
  cases hrun
  rw [hclick]
  apply routeDiverted_ends inject hpointer hsingle
  · exact hbutton
  · exact hholding
  · exact hmouse
  · exact hparent
  · exact hdivert
  · exact hframe
  · intro hmode hpv'
    exact h.passes (hclone hmode (hpv.symm.trans hpv'))

/-- Where no domain has the mouse, nobody gets the movement. -/
theorem inputInjectWith_nowhere (inject : Inject F) (hfree : FreeMotion w e)
    (hm : w.routing.mouseDest = none) (slot : Int32) (type : HidType) :
    ends (Handing.inputInjectWith inject e slot type) (fun ks => ks = []) (fun _ _ ks => ks = [])
      w [] := by
  apply ends_bind
  apply ends_get
  apply ends_bind
  apply ends_beside
  · rfl
  intro _ w₁ _
  rw [hm]
  apply ends_bind
  apply ends_bind
  apply ends_beside
  · rfl
  refine wlp_mono (eventIsKeyboard_motion slot hfree.motion w₁) ?_
  rintro isKey w₂ ⟨rfl, _⟩
  rw [if_neg Bool.false_ne_true]
  apply ends_bind
  apply ends_beside
  · rfl
  intro _ w₃ _
  apply ends_bind
  apply ends_get
  rfl

theorem inputInjectWith_ends (inject : Inject F) (hfree : FreeMotion w e)
    (hm : w.routing.mouseDest = some m) (hp : w.routing.mouseParent = some p)
    (hdv : (w.domains p).divertInfo = some dv) (hcopy : w.CopiesPlainly p)
    (hw₁ : w₁ = w.tracked e type) (slot : Int32) :
    ends (Handing.inputInjectWith inject e slot type) (HandedSoFar w₁ p m dv (w₁.converted e))
      (fun _ _ ks => Handed w₁ p m dv (w₁.converted e) ks) w [] := by
  have hpointer := (converted_pointer hfree.motion w₁).1
  apply ends_bind
  apply ends_get
  apply ends_bind
  apply ends_beside .nothing
  refine wlp_mono (wakeOnInput_likens inject e hfree.awake) ?_
  intro _ w₂ h₂
  rw [hm]
  have hroute : ends (Handing.routeEvent inject (some m) e slot type)
      (HandedSoFar w₁ p m dv (w₁.converted e)) (Decided w₁ p m dv (w₁.converted e)) w₂ [] := by
    apply ends_bind
    apply ends_beside .nothing
    refine wlp_mono (eventIsKeyboard_motion slot hfree.motion w₂) ?_
    rintro isKey w₃ ⟨rfl, h₃⟩
    rw [if_neg Bool.false_ne_true]
    exact injectPointer_ends inject hfree (IsTrans.trans _ _ _ h₂ h₃) hm hp hdv (hcopy dv hdv)
      hw₁ slot
  apply ends_bind
  refine ends_mono hroute ?_
  intro dest w₃ ks hdecided
  exact hdecided.delivers hpointer slot

end

/-- A domain diverts the mouse to one domain and the keyboard to another, and a client gives up a
keyboard that nobody had. -/
def partedFocus : List Activity :=
  [.op (.rpcConnect 5 false), .op (.rpcConnect 6 false), .op (.rpcConnect 7 false),
    .op (.switchFocus 6), .op (.divertMouseFocus 6 "1" 100 100 200 200 0 0 1000 1000),
    .op (.divertKeyboardFocus 6 "3"), .op (.stopKeyboardDivert 7)]

@[irreducible] def partedWorld : World ℚ :=
  Activity.reached 5 partedFocus (startWorld (toldUntil 25 "1" "3") [])

theorem partedWorld_run :
    Run Activity.Step (startWorld (toldUntil 25 "1" "3") []) partedFocus partedWorld := by
  unfold partedWorld
  apply run_reached
  · intro a ha w
    simp only [partedFocus, List.mem_cons, List.not_mem_nil, or_false] at ha
    obtain rfl | rfl | rfl | rfl | rfl | rfl | rfl := ha <;> trivial
  · decide +kernel

def nudge : InputEvent := { type := EV_REL, code := REL_X, value := 5 }

end InputServer
