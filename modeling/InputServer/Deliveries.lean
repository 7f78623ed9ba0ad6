import InputServer.Library.Ledger
import InputServer.Inject

namespace InputServer
open Program
set_option autoImplicit true

/-- Where `input_inject` calls `input_send` with its event: for the release of a button that was
pressed elsewhere, for a copy to the parent, for the keyboard and the mouse of a split desktop, and
otherwise. -/
inductive CallSite where
  | redirected
  | copied
  | keyboard
  | mouse
  | destination

/-- A delivery of the event of `input_inject`, and the state that it is made in. -/
structure Delivery (F : Type) where
  call : CallSite
  dest : Option DomPtr
  event : InputEvent
  before : World F

/-- A computation of `input_inject` that lists to whom it delivers its event. -/
abbrev Delivering (F : Type) := Ledger Fault (World F) (Delivery F)

namespace Delivering

section
variable {F : Type}

def send (call : CallSite) (d : Option DomPtr) (slot : Int32) (e : InputEvent) :
    Delivering F InputEvent := do
  let w ← beside get
  note ⟨call, d, e, w⟩
  beside (inputSend d slot e)

/-- `check_mouse_keys`, of which only the release of a button delivers the event. -/
def checkMouseKeys [Double F] (d : DomPtr) (slot : Int32) (e : InputEvent) :
    Delivering F Bool := do
  if isButton e ∧ e.value = 0 then do
    let w ← beside get
    match takePressed e.code slot w.routing.mousePressed with
    | none => pure false
    | some (mb, mbs) => do
      if mb.domain ≠ some d then do
        let _ ← send .redirected mb.domain slot e
        beside (modifyRouting fun r => { r with mousePressed := mbs })
        pure true
      else do
        beside (modifyRouting fun r => { r with mousePressed := mbs })
        pure false
  else beside (InputServer.checkMouseKeys d slot e)

def checkClick [Double F] (d : DomPtr) (slot : Int32) (e : InputEvent) : Delivering F Bool :=
  if e.type = EV_KEY then checkMouseKeys d slot e else pure false

def scaleForChild (parent : DomPtr) (slot : Int32) (e : InputEvent) :
    Delivering F InputEvent := do
  let dv ← beside (derefDivert parent)
  let w ← beside get
  let e ← if dv.focusmode &&& CLONEEVENTS ≠ 0 then
      send .copied w.routing.mouseParent slot e
    else pure e
  if e.type = EV_ABS then beside (do
    let w ← get
    let p ← deref w.routing.mouseParent
    let dv ← derefDivert p
    scalePointerEvent dv e)
  else pure e

def sendSeamless (e : InputEvent) (slot : Int32) : Delivering F InputEvent := do
  let w ← beside get
  let e ← if inputInjectSeamlessKeyboard w.keyStatus e then send .keyboard w.routing.keybDest slot e
    else pure e
  let w ← beside get
  if inputInjectSeamlessMouse w.keyStatus e then send .mouse w.routing.mouseDest slot e else pure e

def deliver (d : Option DomPtr) (e : InputEvent) (slot : Int32) : Delivering F InputEvent := do
  let w ← beside get
  if w.routing.keybDest ≠ none ∧ w.routing.mouseDest ≠ none ∧
      w.routing.keybDest ≠ w.routing.mouseDest ∧ ¬w.routing.keybWaitsForClick then
    sendSeamless e slot
  else send .destination d slot e

end

section
variable {F : Type} [Double F] (inject : Inject F)

def routeDiverted (d parent : DomPtr) (dv : DivertInfo) (e : InputEvent) (slot : Int32)
    (click : Bool) (val : Int32) : Delivering F Destination := do
  beside (modifyRouting (holdButton dv e))
  let w ← beside get
  if pointerToParent w d parent dv then do
    if ← checkClick parent slot e then pure (none, e)
    else do
      beside (modifyRouting fun r => { r with lastD := some parent })
      beside (mouseSwitch inject e val)
      pure (some (some parent), e)
  else do
    beside (followClick inject d parent dv click)
    if ← checkClick d slot e then pure (none, e)
    else do
      beside (modifyRouting fun r => { r with lastD := some d })
      let e ← scaleForChild parent slot e
      pure (some (some d), e)

def routePointer (d : DomPtr) (e : InputEvent) (slot : Int32) (val : Int32) :
    Delivering F Destination := do
  let w ← beside get
  match w.routing.mouseParent with
  | none => beside (do
    clickKeyboard inject (isClick w e)
    mouseSwitch inject e val
    pure (some (some d), e))
  | some parent => do
    let dv ← beside (derefDivert parent)
    routeDiverted inject d parent dv e slot (isClick w e) val

def injectPointer (d : Option DomPtr) (e : InputEvent) (slot : Int32) (type : HidType) :
    Delivering F Destination := do
  beside (inputTrackMousePosition e type)
  let w ← beside get
  match d with
  | none => pure (none, e)
  | some d =>
    let val := if e.type = EV_REL ∧ e.code = REL_X then e.value else 0
    let e := if inputDomainSupportsAbs w w.routing.mouseDest then inputConvertRelToAbs w e else e
    routePointer inject d e slot val

def routeEvent (d : Option DomPtr) (e : InputEvent) (slot : Int32) (type : HidType) :
    Delivering F Destination := do
  if ← beside (eventIsKeyboard slot e) then beside (injectKey inject d e slot)
  else injectPointer inject d e slot type

/-- `input_inject`, with the list of what it delivers. -/
def inputInjectWith (e : InputEvent) (slot : Int32) (type : HidType) : Delivering F InputEvent := do
  let w ← beside get
  beside (wakeOnInput inject e)
  let (dest, e) ← routeEvent inject w.routing.mouseDest e slot type
  match dest with
  | none => pure e
  | some d => deliver d e slot

end

def inputInject {F : Type} [Double F] :
    Nat → InputEvent → Int32 → HidType → Delivering F InputEvent
  | 0 => fun _ _ _ => beside (throw .hang)
  | depth + 1 => inputInjectWith (InputServer.inputInject depth)

end Delivering

section
variable {F : Type}

theorem annotates_send (call : CallSite) (d : Option DomPtr) (slot : Int32) (e : InputEvent) :
    Annotates (Delivering.send call d slot e) (inputSend d slot e : WorldM F InputEvent) := by
  change Annotates _ (get >>= fun _ => inputSend d slot e)
  apply annotates_bind (annotates_beside _)
  intro w
  exact annotates_note _ (annotates_beside _)

theorem annotates_checkMouseKeys [Double F] (d : DomPtr) (slot : Int32) (e : InputEvent) :
    Annotates (Delivering.checkMouseKeys d slot e) (checkMouseKeys d slot e : WorldM F Bool) := by
  unfold Delivering.checkMouseKeys
  by_cases hrelease : isButton e = true ∧ e.value = 0
  · rw [if_pos hrelease]
    unfold checkMouseKeys
    apply annotates_bind (annotates_beside _)
    intro w
    rw [if_neg (not_not.mpr hrelease.1), if_neg (not_not.mpr hrelease.2)]
    cases takePressed e.code slot w.routing.mousePressed with
    | none => exact annotates_pure _
    | some found =>
      apply annotates_ite
      · apply annotates_bind (annotates_send _ _ slot e)
        intro _
        apply annotates_bind (annotates_beside _)
        intro _
        exact annotates_pure _
      · apply annotates_bind (annotates_beside _)
        intro _
        exact annotates_pure _
  · rw [if_neg hrelease]
    exact annotates_beside _

theorem annotates_checkClick [Double F] (d : DomPtr) (slot : Int32) (e : InputEvent) :
    Annotates (Delivering.checkClick d slot e) (checkClick d slot e : WorldM F Bool) :=
  annotates_ite (annotates_checkMouseKeys d slot e) (annotates_pure _)

theorem delivering_scaleForChild (parent : DomPtr) (slot : Int32) (e : InputEvent) :
    Annotates (Delivering.scaleForChild parent slot e)
      (scaleForChild parent slot e : WorldM F InputEvent) := by
  apply annotates_bind (annotates_beside _)
  intro dv
  apply annotates_bind (annotates_beside _)
  intro w
  apply annotates_ite
  · apply annotates_bind (annotates_send _ _ slot e)
    intro e
    exact annotates_ite (annotates_beside _) (annotates_pure e)
  · exact annotates_ite (annotates_beside _) (annotates_pure e)

theorem delivering_deliver (d : Option DomPtr) (e : InputEvent) (slot : Int32) :
    Annotates (Delivering.deliver d e slot) (deliver d e slot : WorldM F InputEvent) := by
  have hmouse (e : InputEvent) : Annotates (do
        let w ← beside get
        if inputInjectSeamlessMouse w.keyStatus e then
          Delivering.send .mouse w.routing.mouseDest slot e else pure e : Delivering F InputEvent)
      (do
        let w ← get
        if inputInjectSeamlessMouse w.keyStatus e then inputSend w.routing.mouseDest slot e
        else pure e) := by
    apply annotates_bind (annotates_beside _)
    intro w
    exact annotates_ite (annotates_send _ _ slot e) (annotates_pure e)
  apply annotates_bind (annotates_beside _)
  intro w
  apply annotates_ite
  · apply annotates_bind (annotates_beside _)
    intro w
    apply annotates_ite
    · apply annotates_bind (annotates_send _ _ slot e)
      exact hmouse
    · apply annotates_bind (annotates_pure e)
      exact hmouse
  · exact annotates_send _ d slot e

section
variable [Double F] (inject : Inject F)

theorem delivering_routeDiverted (d parent : DomPtr) (dv : DivertInfo) (e : InputEvent)
    (slot : Int32) (click : Bool) (val : Int32) :
    Annotates (Delivering.routeDiverted inject d parent dv e slot click val)
      (routeDiverted inject d parent dv e slot click val) := by
  apply annotates_bind (annotates_beside _)
  intro _
  apply annotates_bind (annotates_beside _)
  intro w
  apply annotates_ite
  · apply annotates_bind (annotates_checkClick parent slot e)
    intro sent
    apply annotates_ite (annotates_pure _)
    apply annotates_bind (annotates_beside _)
    intro _
    apply annotates_bind (annotates_beside _)
    intro _
    exact annotates_pure _
  · apply annotates_bind (annotates_beside _)
    intro _
    apply annotates_bind (annotates_checkClick d slot e)
    intro sent
    apply annotates_ite (annotates_pure _)
    apply annotates_bind (annotates_beside _)
    intro _
    apply annotates_bind (delivering_scaleForChild parent slot e)
    intro _
    exact annotates_pure _

theorem delivering_routePointer (d : DomPtr) (e : InputEvent) (slot val : Int32) :
    Annotates (Delivering.routePointer inject d e slot val)
      (routePointer inject d e slot val) := by
  apply annotates_bind (annotates_beside _)
  intro w
  cases w.routing.mouseParent with
  | none => exact annotates_beside _
  | some parent =>
    apply annotates_bind (annotates_beside _)
    intro dv
    exact delivering_routeDiverted inject d parent dv e slot _ val

theorem delivering_routeEvent (d : Option DomPtr) (e : InputEvent) (slot : Int32)
    (type : HidType) :
    Annotates (Delivering.routeEvent inject d e slot type) (routeEvent inject d e slot type) := by
  apply annotates_bind (annotates_beside _)
  intro isKey
  apply annotates_ite (annotates_beside _)
  apply annotates_bind (annotates_beside _)
  intro _
  apply annotates_bind (annotates_beside _)
  intro w
  cases d with
  | none => exact annotates_pure _
  | some d => exact delivering_routePointer inject d _ slot _

/-- But for the list, it is `input_inject`. -/
theorem delivering_inputInjectWith (e : InputEvent) (slot : Int32) (type : HidType) :
    Annotates (Delivering.inputInjectWith inject e slot type)
      (inputInjectWith inject e slot type) := by
  apply annotates_bind (annotates_beside _)
  intro w
  apply annotates_bind (annotates_beside _)
  intro _
  apply annotates_bind (delivering_routeEvent inject _ e slot type)
  rintro ⟨dest, e'⟩
  cases dest with
  | none => exact annotates_pure _
  | some d => exact delivering_deliver d e' slot

end

theorem delivering_inputInject [Double F] (depth : Nat) (e : InputEvent) (slot : Int32)
    (type : HidType) :
    Annotates (Delivering.inputInject depth e slot type)
      (inputInject depth e slot type : WorldM F InputEvent) := by
  cases depth with
  | zero => exact fun _ _ => rfl
  | succ depth => exact delivering_inputInjectWith _ e slot type

end

end InputServer
