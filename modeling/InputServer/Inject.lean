import InputServer.Switch

namespace InputServer
open Program
set_option autoImplicit true

section
variable {F : Type} [Double F] (inject : Inject F)

/-- The first input after a pause wakes the domains. -/
def wakeDomains : WorldM F Unit := do
  let w ← get
  wiggleCtrlKey w.domainPvm
  domainWakeFromS3 inject w.routing.mouseDest
  let w ← get
  domainWakeFromS3 inject w.routing.keybDest
  let w ← get
  domainWakeFromS3 inject w.domainPvm
  timeoutStart

def wakeOnInput (e : InputEvent) : WorldM F Unit := do
  if e.type = EV_KEY ∨ e.type = EV_REL ∨ e.type = EV_ABS then
    if ← timeoutExpired then wakeDomains inject else pure ()
  else pure ()

/-- Where `input_inject` delivers an event, if it gets that far, and the event as it is by then. -/
abbrev Destination := Option (Option DomPtr) × InputEvent

/-- A fake Windows + P for the key that switches the display. -/
def sendWinP (slot : Int32) (value : Int32) : WorldM F Unit := do
  let w ← get
  let keyb ← deref w.routing.keybDest
  if (w.domains keyb).isPvDomain then pure ()
  else do
    let _ ← inputSend w.routing.keybDest slot { type := EV_KEY, code := KEY_LEFTMETA, value := value }
    let _ ← inputSend w.routing.keybDest slot { type := EV_KEY, code := KEY_P, value := value }

/-- The keyboard's domain, or else the mouse's as it was. -/
def keyboardDestination (d : Option DomPtr) (e : InputEvent) : WorldM F Destination := do
  let w ← get
  match w.routing.keybDest with
  | some keyb => pure (some (some keyb), e)
  | none => pure (d.map some, e)

def printScreenRefused (e : InputEvent) : WorldM F Bool :=
  if e.type = EV_KEY ∧ e.code = KEY_SYSRQ then inputCantPrintScreen else pure false

/-- The two messages about a refused key read both destinations. -/
def reportPrintScreen (e : InputEvent) : WorldM F Destination := do
  let w ← get
  let _ ← deref w.routing.mouseDest
  let _ ← deref w.routing.keybDest
  pure (none, e)

/-- The main button of a tablet computer switches to the UIVM. -/
def isMainButton (e : InputEvent) : Bool :=
  e.type = EV_MSC ∧ e.code = MSC_SCAN ∧ e.value = 0xAD

def injectKey (d : Option DomPtr) (e : InputEvent) (slot : Int32) : WorldM F Destination := do
  if ← filterKeys e then pure (none, e)
  else if ← printScreenRefused e then reportPrintScreen e
  else if isMainButton e then do
    let w ← get
    let _ ← switcherSwitch inject w.domainUivm false
    pure (none, e)
  else if e.type = EV_KEY ∧ e.code = KEY_SWITCHVIDEOMODE then do
    sendWinP slot e.value
    keyboardDestination d e
  else keyboardDestination d e

def isClick (w : World F) (e : InputEvent) : Bool :=
  e.type = EV_KEY ∧ w.routing.keybWaitsForClick ∧
    (e.code = BTN_LEFT ∨ e.code = BTN_RIGHT ∨ e.code = BTN_MIDDLE)

/-- `resistance`, read once from the database. -/
def readResistance : WorldM F Int := do
  let w ← get
  if w.routing.resistance ≠ -1 then pure w.routing.resistance
  else do
    let known ← ask fun a => (a.db "/switcher/resistance").isSome
    let value ← if known then dbRead "/switcher/resistance" else pure (some "10")
    let resistance := strtol (value.getD "") 0
    modifyRouting fun r => { r with resistance := resistance }
    pure resistance

/-- A large enough movement along X may switch to a neighbour. -/
def mouseSwitch (e : InputEvent) (val : Int32) : WorldM F Unit := do
  let resistance ← readResistance
  let w ← get
  if resistance < val.toInt.natAbs then
    switcherSwitchOnMouse inject e (Double.trunc w.routing.mouseX) (Double.trunc w.routing.mouseY)
  else pure ()

/-- `button_holding` after an event of a diverted mouse. -/
def holdButton (dv : DivertInfo) (e : InputEvent) (r : Routing F) : Routing F :=
  let holding :=
    if e.type = EV_SYN ∧ e.code = SYN_REPORT ∧ r.buttonHolding = 2 then 0 else r.buttonHolding
  { r with buttonHolding :=
      if dv.focusmode &&& CLICKHOLDFOCUS ≠ 0 ∧ r.mouseButton ≠ 0 then 1
      else if holding ≠ 0 then 2 else 0 }

/-- A diverted event is the parent's: a held button stays where it was, else the frame decides. -/
def pointerToParent (w : World F) (d parent : DomPtr) (dv : DivertInfo) : Bool :=
  if w.routing.buttonHolding ≠ 0 ∧ w.routing.lastD = some parent then true
  else if w.routing.buttonHolding ≠ 0 ∧ w.routing.lastD = some d then false
  else mouseOutsideFrame w dv.sframe

def checkClick (d : DomPtr) (slot : Int32) (e : InputEvent) : WorldM F Bool :=
  if e.type = EV_KEY then checkMouseKeys d slot e else pure false

/-- The keyboard follows a click in the frame, where the parent's focus mode says so. -/
def followClick (d parent : DomPtr) (dv : DivertInfo) (click : Bool) : WorldM F Unit := do
  if click ∧ dv.focusmode &&& KEYFOLLOWMOUSE ≠ 0 then do
    modifyDomain parent fun x => { x with
      divertInfo := x.divertInfo.map fun dv => { dv with keyDomain := some d } }
    syncKbdDomain inject (some parent)
  else pure ()

/-- The divert info of a domain that must have one. -/
def derefDivert (d : DomPtr) : WorldM F DivertInfo := do
  let w ← get
  match (w.domains d).divertInfo with
  | none => throw .segv
  | some dv => pure dv

/-- An event of the frame, as the child gets it; the parent may get it too. -/
def scaleForChild (parent : DomPtr) (slot : Int32) (e : InputEvent) : WorldM F InputEvent := do
  let dv ← derefDivert parent
  let w ← get
  let e ← if dv.focusmode &&& CLONEEVENTS ≠ 0 then inputSend w.routing.mouseParent slot e
    else pure e
  if e.type = EV_ABS then do
    let w ← get
    let p ← deref w.routing.mouseParent
    let dv ← derefDivert p
    scalePointerEvent dv e
  else pure e

def routeDiverted (d parent : DomPtr) (dv : DivertInfo) (e : InputEvent) (slot : Int32)
    (click : Bool) (val : Int32) : WorldM F Destination := do
  modifyRouting (holdButton dv e)
  let w ← get
  if pointerToParent w d parent dv then do
    if ← checkClick parent slot e then pure (none, e)
    else do
      modifyRouting fun r => { r with lastD := some parent }
      mouseSwitch inject e val
      pure (some (some parent), e)
  else do
    followClick inject d parent dv click
    if ← checkClick d slot e then pure (none, e)
    else do
      modifyRouting fun r => { r with lastD := some d }
      let e ← scaleForChild parent slot e
      pure (some (some d), e)

/-- A click gets the keyboard back where it was left in another domain. -/
def clickKeyboard (click : Bool) : WorldM F Unit := do
  let w ← get
  if click then do
    inputSetKeyb inject (← deref w.routing.mouseDest)
  else pure ()

def routePointer (d : DomPtr) (e : InputEvent) (slot : Int32) (val : Int32) :
    WorldM F Destination := do
  let w ← get
  match w.routing.mouseParent with
  | none => do
    clickKeyboard inject (isClick w e)
    mouseSwitch inject e val
    pure (some (some d), e)
  | some parent => do
    let dv ← derefDivert parent
    routeDiverted inject d parent dv e slot (isClick w e) val

def injectPointer (d : Option DomPtr) (e : InputEvent) (slot : Int32) (type : HidType) :
    WorldM F Destination := do
  inputTrackMousePosition e type
  let w ← get
  match d with
  | none => pure (none, e)
  | some d =>
    let val := if e.type = EV_REL ∧ e.code = REL_X then e.value else 0
    let e := if inputDomainSupportsAbs w w.routing.mouseDest then inputConvertRelToAbs w e else e
    routePointer inject d e slot val

/-- An event for a keyboard and a mouse in different domains. -/
def sendSeamless (e : InputEvent) (slot : Int32) : WorldM F InputEvent := do
  let w ← get
  let e ← if inputInjectSeamlessKeyboard w.keyStatus e then inputSend w.routing.keybDest slot e
    else pure e
  let w ← get
  if inputInjectSeamlessMouse w.keyStatus e then inputSend w.routing.mouseDest slot e else pure e

def deliver (d : Option DomPtr) (e : InputEvent) (slot : Int32) : WorldM F InputEvent := do
  let w ← get
  if w.routing.keybDest ≠ none ∧ w.routing.mouseDest ≠ none ∧
      w.routing.keybDest ≠ w.routing.mouseDest ∧ ¬w.routing.keybWaitsForClick then
    sendSeamless e slot
  else inputSend d slot e

def routeEvent (d : Option DomPtr) (e : InputEvent) (slot : Int32) (type : HidType) :
    WorldM F Destination := do
  if ← eventIsKeyboard slot e then injectKey inject d e slot
  else injectPointer inject d e slot type

/-- `input_inject`, with the event as it leaves it. -/
def inputInjectWith (e : InputEvent) (slot : Int32) (type : HidType) : WorldM F InputEvent := do
  let w ← get
  wakeOnInput inject e
  let (dest, e) ← routeEvent inject w.routing.mouseDest e slot type
  match dest with
  | none => pure e
  | some d => deliver d e slot

end

/-- `input_inject` with at most `depth` of its calls inside each other. -/
def inputInject {F : Type} [Double F] : Nat → Inject F
  | 0 => fun _ _ _ => throw .hang
  | depth + 1 => inputInjectWith (inputInject depth)

end InputServer
