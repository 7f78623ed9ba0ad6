import InputServer.World

namespace InputServer
open Program
set_option autoImplicit true

def SYN_MT_REPORT : UInt16 := 2

def ABS_X : UInt16 := 0x00
def ABS_Y : UInt16 := 0x01
def ABS_MT_SLOT : UInt16 := 0x2f
def ABS_MT_TOUCH_MAJOR : UInt16 := 0x30
def ABS_MT_TOUCH_MINOR : UInt16 := 0x31
def ABS_MT_WIDTH_MAJOR : UInt16 := 0x32
def ABS_MT_WIDTH_MINOR : UInt16 := 0x33
def ABS_MT_ORIENTATION : UInt16 := 0x34
def ABS_MT_POSITION_X : UInt16 := 0x35
def ABS_MT_POSITION_Y : UInt16 := 0x36
def ABS_MT_TOOL_TYPE : UInt16 := 0x37
def ABS_MT_BLOB_ID : UInt16 := 0x38
def ABS_MT_TRACKING_ID : UInt16 := 0x39
def ABS_MT_PRESSURE : UInt16 := 0x3a
def ABS_MT_DISTANCE : UInt16 := 0x3b

def KEY_CAPSLOCK : UInt16 := 58
def KEY_NUMLOCK : UInt16 := 69
def KEY_SCROLLLOCK : UInt16 := 70
def BTN_LEFT : UInt16 := 0x110

def LED_CODE_SCROLLLOCK : UInt32 := 0x01
def LED_CODE_NUMLOCK : UInt32 := 0x02
def LED_CODE_CAPSLOCK : UInt32 := 0x04

/-- `inputevent_action`. -/
inductive EventAction where
  | discardedEvent
  | sendEvent
  | eventsQueued
deriving DecidableEq

/-- What `demultitouch` decides about an event, with the event as it leaves it. -/
structure Demultitouched where
  action : EventAction
  event : InputEvent
  statics : MultiTouch

def synReport : InputEvent :=
  { type := EV_SYN, code := SYN_REPORT, value := 0 }

def btnLeft (value : Int32) : InputEvent :=
  { type := EV_KEY, code := BTN_LEFT, value := value }

/-- The slot that `demultitouch` follows while it discards the events of other slots. -/
def MultiTouch.follow (m : MultiTouch) (e : InputEvent) : MultiTouch :=
  let m := if e.type = EV_SYN ∧ e.code = SYN_REPORT then
    { m with slot := 0, hadSlot0 := false } else m
  if e.type = EV_ABS ∧ e.code = ABS_MT_SLOT then
    { m with slot := e.value, hadSlot0 := if e.value = 0 then true else m.hadSlot0 } else m

/-- The press that was put off, in place of the event. -/
def MultiTouch.deferred (m : MultiTouch) (e : InputEvent) : Demultitouched :=
  let queued := if m.draining then EventAction.eventsQueued else .sendEvent
  match m.deferpressed with
  | .sendSync => ⟨.sendEvent, synReport, { m with deferpressed := .nope, draining := false }⟩
  | .sendLeft => ⟨queued, btnLeft 1, { m with deferpressed := .sendSync }⟩
  | .sendLeftUp => ⟨queued, btnLeft 0, { m with deferpressed := .sendSync }⟩
  | .nope => ⟨.discardedEvent, e, m⟩

def MultiTouch.syn (m : MultiTouch) (e : InputEvent) : Demultitouched :=
  if e.code = SYN_MT_REPORT then
    ⟨.sendEvent, { e with code := SYN_REPORT }, { m with slot := 1 }⟩
  else if e.code = SYN_REPORT then
    if m.deferpressed ≠ .nope then
      ⟨.eventsQueued, e, { m with hadSlot0 := false, draining := true }⟩
    else ⟨.sendEvent, e, { m with hadSlot0 := false }⟩
  else ⟨.sendEvent, e, m⟩

/-- The codes of a contact that a single-touch pointer does not have. -/
def contactDetails : List UInt16 :=
  [ABS_MT_TOUCH_MAJOR, ABS_MT_TOUCH_MINOR, ABS_MT_WIDTH_MAJOR, ABS_MT_WIDTH_MINOR,
    ABS_MT_ORIENTATION, ABS_MT_TOOL_TYPE, ABS_MT_BLOB_ID, ABS_MT_PRESSURE, ABS_MT_DISTANCE]

/-- The last line of the EV_ABS branch: `return (slot == 0)`. -/
def MultiTouch.absDone (m : MultiTouch) (e : InputEvent) : Demultitouched :=
  ⟨if m.slot = 0 then .sendEvent else .discardedEvent, e, m⟩

def MultiTouch.trackingId (m : MultiTouch) (e : InputEvent) : Demultitouched :=
  let nowpressed := e.value ≠ -1
  if m.slot = 0 ∧ m.pressed ≠ decide nowpressed then
    ⟨.discardedEvent, e, { m with
      pressed := nowpressed
      hadSlot0 := true
      deferpressed := if nowpressed then .sendLeft else .sendLeftUp }⟩
  else m.absDone e

def MultiTouch.abs (m : MultiTouch) (e : InputEvent) : Demultitouched :=
  if e.code = ABS_MT_POSITION_X then m.absDone { e with code := ABS_X }
  else if e.code = ABS_MT_POSITION_Y then m.absDone { e with code := ABS_Y }
  else if e.code = ABS_MT_TRACKING_ID then m.trackingId e
  else if e.code = ABS_MT_SLOT then
    let m := { m with slot := e.value }
    if e.value ≠ 0 then
      if m.hadSlot0 then ⟨.sendEvent, synReport, m⟩ else ⟨.discardedEvent, e, m⟩
    else m.absDone e
  else if e.code ∈ contactDetails then ⟨.discardedEvent, e, { m with hadSlot0 := true }⟩
  else m.absDone e

def demultitouch (m : MultiTouch) (e : InputEvent) : Demultitouched :=
  if m.slot ≠ 0 ∨ m.draining then
    let m := if m.draining then m else m.follow e
    m.deferred e
  else if e.type = EV_SYN then m.syn e
  else if e.type = EV_ABS then m.abs e
  else ⟨.sendEvent, e, { m with hadSlot0 := true }⟩

section
variable {F : Type}

/-- `dom0_input_event` to the client of a domain, where it has one. -/
def dom0InputEvent (d : DomPtr) (source : Source) (e : InputEvent) : WorldM F Unit := do
  let w ← get
  match (w.domains d).client with
  | none => pure ()
  | some guest => happens (.message d guest source e)

/-- `send_slot` of `input.c`. -/
def Input.sendSlot (d : DomPtr) (source : Source) : WorldM F Unit := do
  let w ← get
  dom0InputEvent d source
    { type := EV_DEV, code := DEV_SET, value := (w.domains d).lastDevslot }

/-- The LED that a key toggles. -/
def ledCode (code : UInt16) : UInt32 :=
  if code = KEY_CAPSLOCK then LED_CODE_CAPSLOCK
  else if code = KEY_NUMLOCK then LED_CODE_NUMLOCK
  else if code = KEY_SCROLLLOCK then LED_CODE_SCROLLLOCK
  else 0

/-- `led_code` flipped, where it is fully set. -/
def toggleLed (leds led : UInt32) : UInt32 :=
  if leds &&& led = led then leds &&& ~~~led else leds ||| led

def xenVkbdHandleLed (e : InputEvent) (d : DomPtr) : WorldM F Unit :=
  if e.type ≠ EV_KEY ∨ e.value = 0 ∨ ledCode e.code = 0 then pure ()
  else modifyDomain d fun x =>
    { x with keyboardLedCode := toggleLed x.keyboardLedCode (ledCode e.code) }

def xenVkbdSendEvent (d : DomPtr) (e : InputEvent) : WorldM F Unit := do
  xenVkbdHandleLed e d
  happens (.vkbd d e)

/-- The loop of `input_send` for a PV domain, with the event as it leaves it: a press that was put
off is sent with the SYN_REPORT before and behind it, so three rounds are enough. -/
def sendToVkbd (d : DomPtr) : Nat → InputEvent → WorldM F InputEvent
  | 0, _ => throw .hang
  | fuel + 1, e => do
    let w ← get
    let r := demultitouch w.multitouch e
    set { w with multitouch := r.statics }
    if r.action = .discardedEvent then pure r.event
    else do
      xenVkbdSendEvent d r.event
      if r.action = .eventsQueued then sendToVkbd d fuel r.event else pure r.event

/-- The slot of an event for a domain that is not PV, where it is not the domain's already. -/
def selectDevslot (d : DomPtr) (slot : Int32) : WorldM F Unit := do
  let w ← get
  if (w.domains d).lastDevslot ≠ slot then do
    modifyDomain d fun x => { x with lastDevslot := slot }
    Input.sendSlot d (.input slot)
  else pure ()

/-- `input_send`, with the event as it leaves it. -/
def inputSend (d : Option DomPtr) (slot : Int32) (e : InputEvent) : WorldM F InputEvent := do
  let w ← get
  match d with
  | none => pure e
  | some d =>
    if w.plug.plugin d then do
      let _ ← onPlug (sendPluginEvent slot e)
      pure e
    else if (w.domains d).isPvDomain then sendToVkbd d 3 e
    else do
      selectDevslot d slot
      dom0InputEvent d (.input slot) e
      pure e

end

end InputServer
