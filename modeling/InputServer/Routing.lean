import InputServer.Deliver

namespace InputServer
open Program
set_option autoImplicit true

def EV_MSC : UInt16 := 0x04
def MSC_SCAN : UInt16 := 0x04
def REL_X : UInt16 := 0x00
def REL_Y : UInt16 := 0x01

def KEY_ESC : UInt16 := 1
def KEY_TAB : UInt16 := 15
def KEY_P : UInt16 := 25
def KEY_LEFTCTRL : UInt16 := 29
def KEY_LEFTALT : UInt16 := 56
def KEY_RIGHTCTRL : UInt16 := 97
def KEY_SYSRQ : UInt16 := 99
def KEY_RIGHTALT : UInt16 := 100
def KEY_DELETE : UInt16 := 111
def KEY_LEFTMETA : UInt16 := 125
def KEY_RIGHTMETA : UInt16 := 126
def KEY_SWITCHVIDEOMODE : UInt16 := 227
def BTN_MISC : UInt16 := 0x100
def BTN_MOUSE : UInt16 := 0x110
def BTN_RIGHT : UInt16 := 0x111
def BTN_MIDDLE : UInt16 := 0x112
def BTN_JOYSTICK : UInt16 := 0x120
def BTN_GEAR_UP : UInt16 := 0x151

def KEY_STATUS_SIZE : Nat := 256
def MAX_NUM_PRESSED : Nat := 5

def MIN_MOUSE_ABS_X : Int := 0
def MAX_MOUSE_ABS_X : Int := 0x7fff
def MIN_MOUSE_ABS_Y : Int := 0
def MAX_MOUSE_ABS_Y : Int := 0x7fff
def DEFAULT_RESOLUTION_X : Int := 1920
def DEFAULT_RESOLUTION_Y : Int := 1080

def KEYFOLLOWMOUSE : UInt32 := 1
def CLICKHOLDFOCUS : UInt32 := 2
def CLONEEVENTS : UInt32 := 4

/-- The keys of a combination but the last one, and the last one. -/
abbrev KeyCombination := List UInt16 × UInt16

/-- The keys before the last one are held, and the last one is the code. -/
def KeyCombination.completedBy (keyStatus : Nat → Bool) (c : KeyCombination) (code : UInt16) :
    Bool :=
  c.1.all (fun k => keyStatus k.toNat) && c.2 = code

def isPointerEvent (e : InputEvent) : Bool :=
  e.type = EV_REL ∨ e.type = EV_ABS ∨ (e.type = EV_KEY ∧ BTN_MOUSE ≤ e.code ∧ e.code ≤ BTN_GEAR_UP)

def inputInjectSeamlessKeyboard (keyStatus : Nat → Bool) (e : InputEvent) : Bool :=
  let metaKeys : List KeyCombination := [([KEY_RIGHTALT], KEY_TAB), ([KEY_LEFTALT], KEY_TAB),
    ([KEY_LEFTCTRL], KEY_ESC), ([KEY_RIGHTCTRL], KEY_ESC)]
  if keyStatus KEY_LEFTMETA.toNat || keyStatus KEY_RIGHTMETA.toNat then false
  else if isPointerEvent e then false
  else !(e.type = EV_KEY && metaKeys.any fun c => c.completedBy keyStatus e.code)

def codeIsMetaKey (keyStatus : Nat → Bool) (key : UInt16) : Bool :=
  [KEY_LEFTCTRL, KEY_LEFTALT, KEY_LEFTMETA, KEY_RIGHTCTRL, KEY_RIGHTALT, KEY_RIGHTMETA,
    KEY_SYSRQ].any fun k => key = k || keyStatus k.toNat

def inputInjectSeamlessMouse (keyStatus : Nat → Bool) (e : InputEvent) : Bool :=
  let metaKeys : List KeyCombination := [([KEY_LEFTCTRL, KEY_LEFTALT], KEY_DELETE),
    ([KEY_RIGHTCTRL, KEY_LEFTALT], KEY_DELETE), ([KEY_LEFTCTRL, KEY_RIGHTALT], KEY_DELETE),
    ([KEY_RIGHTCTRL, KEY_RIGHTALT], KEY_DELETE)]
  if e.type = EV_KEY && metaKeys.any fun c => c.completedBy keyStatus e.code then false
  else if codeIsMetaKey keyStatus e.code then true
  else isPointerEvent e || (e.type = EV_SYN && e.code = SYN_REPORT)

section
variable {F : Type}

/-- The keys that are held are released at the keyboard's domain, and at the mouse's. -/
def resetKeys (resetMouseDomain : Bool) : List Nat → WorldM F Unit
  | [] => pure ()
  | i :: is => do
    let w ← get
    if w.keyStatus i then do
      set { w with keyStatus := Function.update w.keyStatus i false }
      let e ← inputSend w.routing.keybDest INPUTSLOT_DEFAULT
        { type := EV_KEY, code := .ofNat i, value := 0 }
      let w ← get
      if resetMouseDomain ∧ w.routing.mouseDest ≠ none ∧
          w.routing.keybDest ≠ w.routing.mouseDest then do
        let _ ← inputSend w.routing.mouseDest INPUTSLOT_DEFAULT e
        resetKeys resetMouseDomain is
      else resetKeys resetMouseDomain is
    else resetKeys resetMouseDomain is

def inputKeyboardReset (resetMouseDomain : Bool) : WorldM F Unit := do
  let w ← get
  if w.routing.keybDest = none then pure ()
  else resetKeys resetMouseDomain (List.range KEY_STATUS_SIZE)

/-- The codes of the modifiers with a bit in `bits`. -/
def modifierCodes (bits : UInt32) (modifers : List UInt32) : List UInt16 :=
  ((List.range modifers.length).filter fun i => bits.toNat.testBit i).filterMap fun i =>
    modifers[i]?.map UInt32.toUInt16

/-- One event sent for each of the codes, each time as the last one was left. -/
def sendCodes (d : DomPtr) : List UInt16 → InputEvent → WorldM F InputEvent
  | [], e => pure e
  | code :: codes, e => do
    let e ← inputSend (some d) INPUTSLOT_DEFAULT { e with code := code }
    sendCodes d codes e

/-- `send_keypair` with the divert info of `d`: the modifiers and the key pressed, then released. -/
def sendKeypair (key : KeyPair) (dv : DivertInfo) (d : DomPtr) : WorldM F Unit := do
  let mods := modifierCodes key.modBits dv.modifers
  let e ← sendCodes d mods { type := EV_KEY, code := 0, value := 1 }
  let e ← inputSend (some d) INPUTSLOT_DEFAULT { e with code := key.keycode.toUInt16 }
  let e ← inputSend (some d) INPUTSLOT_DEFAULT { e with value := 0 }
  let _ ← sendCodes d mods e

/-- `keyb_modbits` after a key event. -/
def trackModifier (modifers : List UInt32) (e : InputEvent) (bits : UInt32) : UInt32 :=
  match modifers.findIdx? (· = e.code.toUInt32) with
  | none => bits
  | some i =>
    let mask : UInt32 := 1 <<< UInt32.ofNat i
    if e.value ≠ 0 then bits ||| mask else bits &&& ~~~mask

def filterWith (keylist : List KeyPair) (dv : DivertInfo) (parent : DomPtr) (e : InputEvent) :
    WorldM F Bool := do
  modifyRouting fun r => { r with keybModbits := trackModifier dv.modifers e r.keybModbits }
  let w ← get
  match keylist.find? fun kp =>
      kp.keycode = e.code.toUInt32 ∧ kp.modBits = w.routing.keybModbits with
  | none => pure false
  | some kp =>
    if e.value ≠ 0 then do
      sendKeypair kp dv parent
      pure true
    else pure true

def filterKeys (e : InputEvent) : WorldM F Bool := do
  let w ← get
  if e.type ≠ EV_KEY then pure false
  else match w.routing.keybParent with
    | none => pure false
    | some parent =>
      match (w.domains parent).divertInfo with
      | none => pure false
      | some dv =>
        match dv.keylist with
        | none => pure false
        | some keylist => filterWith keylist dv parent e

def setKeybDest (d : Option DomPtr) : WorldM F Unit :=
  modifyRouting fun r => { r with keybDest := d }

/-- The domain a divert names, where there is a divert and it names one. -/
def World.diverted (w : World F) (d : DomPtr) (target : DivertInfo → Option DomPtr) :
    Option DomPtr :=
  (w.domains d).divertInfo.bind target

def setKbdDomain (d : DomPtr) : WorldM F Unit := do
  let w ← get
  match w.diverted d DivertInfo.keyDomain with
  | some key =>
    modifyRouting fun r => { r with
      keybParent := some d, keybModbits := 0, keybDest := some key, keybWaitsForClick := true }
  | none =>
    let mouse := w.diverted d DivertInfo.mouseDomain
    modifyRouting fun r => { r with
      keybDest := some d, keybModbits := 0, keybParent := none
      keybWaitsForClick := r.keybWaitsForClick || (mouse ≠ none && mouse ≠ some d) }

def setMouseDomain (d : DomPtr) : WorldM F Unit := do
  let w ← get
  match w.diverted d DivertInfo.mouseDomain with
  | some mouse =>
    modifyRouting fun r => { r with
      mouseDest := some mouse, mouseParent := some d, keybWaitsForClick := true }
  | none => modifyRouting fun r => { r with mouseDest := some d, mouseParent := none }

def inputSetMouse (d : DomPtr) : WorldM F Unit := do
  modifyRouting fun r => { r with
    keybWaitsForClick := !r.keybWaitsForClick || r.keybDest ≠ some d }
  setMouseDomain d

/-- A recorded press lies in the frame, as `dup_mouse_clicks` tests it. -/
def MouseButton.inFrame (mb : MouseButton) (f : Frame) : Bool :=
  let x := UInt32.ofInt mb.x
  let y := UInt32.ofInt mb.y
  x > f.x1 ∧ x < f.x2 ∧ y > f.y1 ∧ y < f.y1

/-- The loop of `dup_mouse_clicks` over the presses recorded when it began. -/
def dupClicks (d : Option DomPtr) (frame : Frame) (pressed : List MouseButton) :
    List MouseButton → InputEvent → WorldM F Unit
  | [], _ => pure ()
  | mb :: mbs, e => do
    let w ← get
    if w.routing.mousePressed.length < MAX_NUM_PRESSED then
      let ok := !pressed.any fun other => other.domain = d ∧ other.code = mb.code
      if mb.domain ≠ d ∧ ok ∧ mb.inFrame frame then do
        let e ← inputSend d mb.slot { e with code := mb.code }
        modifyRouting fun r => { r with
          mousePressed := r.mousePressed ++ [{ mb with domain := d }] }
        dupClicks d frame pressed mbs e
      else dupClicks d frame pressed mbs e
    else pure ()

def dupMouseClicks (d : Option DomPtr) : WorldM F Unit := do
  let w ← get
  match w.routing.mouseParent.bind fun parent => (w.domains parent).divertInfo with
  | none => pure ()
  | some dv =>
    let pressed := w.routing.mousePressed
    dupClicks d dv.sframe pressed pressed { type := EV_KEY, code := 0, value := 1 }

def syncMouseDomain (d : Option DomPtr) : WorldM F Unit := do
  let w ← get
  if w.routing.mouseParent = d ∨ w.routing.mouseDest = d then do
    inputSetMouse (← deref d)
    dupMouseClicks d
  else dupMouseClicks d

/-- `db_read` of a string of fewer than 16 bytes: it restores unless the database says other than
`true`. -/
def inputGetNumlockRestoreOnSwitch : WorldM F Bool := do
  let buf ← dbRead "/keyboard/numlock-restore-on-switch"
  pure (buf = none ∨ buf = some "" ∨ buf = some "true")

def savePrevKeybDomain (d : Option DomPtr) : WorldM F Unit := do
  let w ← get
  match d, w.routing.keybDest, w.routing.mouseDest with
  | some d, some keyb, some mouse =>
    if keyb ≠ mouse then
      modifyDomain d fun x => { x with
        prevKeybDomainPtr := some keyb, prevKeybDomid := (w.domains keyb).domid }
    else modifyDomain d fun x => { x with prevKeybDomainPtr := none, prevKeybDomid := -1 }
  | _, _, _ => pure ()

def wiggleCtrlKey (d : Option DomPtr) : WorldM F Unit := do
  let w ← get
  if d = none ∨ w.routing.mouseDest = none ∨ d = w.routing.mouseDest then pure ()
  else do
    let _ ← inputSend d INPUTSLOT_DEFAULT { type := EV_KEY, code := KEY_LEFTCTRL, value := 1 }
    let _ ← inputSend d INPUTSLOT_DEFAULT { type := EV_KEY, code := KEY_LEFTCTRL, value := 0 }

def inputDomainSetMousePos (d : Option DomPtr) (x y : Int32) : WorldM F Unit :=
  if d = none then pure ()
  else do
    let e ← inputSend d INPUTSLOT_DEFAULT { type := EV_ABS, code := ABS_X, value := x }
    let e ← inputSend d INPUTSLOT_DEFAULT { e with code := ABS_Y, value := y }
    let _ ← inputSend d INPUTSLOT_DEFAULT { e with type := EV_SYN, code := SYN_REPORT }

/-- `d->abs_enabled || (d->slot == 0)`. -/
def Domain.supportsAbs (d : Domain F) : Bool :=
  d.absEnabled || d.slot = 0

def inputDomainSupportsAbs (w : World F) (d : Option DomPtr) : Bool :=
  d.any fun d => (w.domains d).supportsAbs

/-- `event_is_keyboard`; a SYN belongs to the event before it. -/
def eventIsKeyboard (slot : Int32) (e : InputEvent) : WorldM F Bool := do
  let w ← get
  let isKey := (e.type = EV_KEY ∧ e.code < BTN_MOUSE) ∨ (e.type = EV_MSC ∧ e.code = MSC_SCAN)
  if 0 ≤ slot ∧ w.types slot.toInt.toNat ≠ some .keyboard then do
    modifyRouting fun r => { r with lastWasKey := false }
    pure false
  else if isKey then do
    modifyRouting fun r => { r with lastWasKey := true }
    pure true
  else if e.type = EV_SYN then pure w.routing.lastWasKey
  else do
    modifyRouting fun r => { r with lastWasKey := false }
    pure false

def domainCantPrintScreen (d : Option DomPtr) : WorldM F Bool := do
  let w ← get
  match d with
  | none => pure false
  | some d => do
    let uuid := ((w.domains d).uuid).getD "(null)"
    let value ← dbRead s!"/vm/{uuid}/policies/print-screen-disallowed"
    pure (value = some "true")

def inputCantPrintScreen : WorldM F Bool := do
  let w ← get
  if ← domainCantPrintScreen w.routing.mouseDest then pure true
  else domainCantPrintScreen w.routing.keybDest

/-- Seconds between two times, as `timersub` gives them. -/
def secondsBetween (then_ now : Int) : Int :=
  (now - then_) / 1000000

def timeoutExpired : WorldM F Bool := do
  let now ← gettimeofday
  let w ← get
  let sec := secondsBetween w.routing.lastTimeout now
  pure (sec < 0 ∨ 4 < sec)

def timeoutStart : WorldM F Unit := do
  let now ← gettimeofday
  modifyRouting fun r => { r with lastTimeout := now }

end

section
variable {F : Type} [Double F]

def inputDomainSetMouse (d : Option DomPtr) : WorldM F Unit := do
  let w ← get
  inputDomainSetMousePos d (.ofInt (Double.trunc w.routing.mouseX))
    (.ofInt (Double.trunc w.routing.mouseY))

def inputSetMousePos (x y : Int) : WorldM F Unit :=
  modifyRouting fun r => { r with mouseX := Double.ofInt x, mouseY := Double.ofInt y }

def forceRange (x : F) (b e : Int) : F :=
  let x := if Double.lt x (Double.ofInt b) then Double.ofInt b else x
  if Double.le (Double.ofInt e) x then Double.ofInt e else x

def getMouseSpeedMult (w : World F) (d : Domain F) (e : InputEvent) (type : HidType) : F :=
  if type ≠ .mouse ∨ e.type ≠ EV_REL then Double.ofInt 1
  else if d.desktopXres = 0 ∧ d.desktopYres = 0 then w.routing.mouseSpeed
  else if e.value.toInt.natAbs ≤ 2 then w.routing.mouseSpeedThreshold1
  else if e.value.toInt.natAbs ≤ 5 then w.routing.mouseSpeedThreshold2
  else w.routing.mouseSpeed

/-- A relative movement added to a coordinate: `res` is the desktop's and `mult` the domain's
factor for the axis. -/
def moveMouse (w : World F) (d : Domain F) (e : InputEvent) (type : HidType) (mult : F)
    (max res : Int) (x : F) : F :=
  let step :=
    if type = .touchpad then Double.ofInt (e.value.toInt * (max / res))
    else Double.mul (Double.mul (Double.ofInt e.value.toInt) mult) (getMouseSpeedMult w d e type)
  forceRange (Double.add x step) 0 max

def trackMotion (e : InputEvent) (type : HidType) : WorldM F Unit := do
  let w ← get
  match w.routing.mouseDest with
  | none => pure ()
  | some m =>
    let d := w.domains m
    let xres := if d.desktopXres ≠ 0 then d.desktopXres else DEFAULT_RESOLUTION_X
    let yres := if d.desktopYres ≠ 0 then d.desktopYres else DEFAULT_RESOLUTION_Y
    if e.type = EV_REL ∧ e.code = REL_X then
      modifyRouting fun r => { r with
        mouseX := moveMouse w d e type d.relXMult MAX_MOUSE_ABS_X xres r.mouseX }
    else if e.type = EV_REL ∧ e.code = REL_Y then
      modifyRouting fun r => { r with
        mouseY := moveMouse w d e type d.relYMult MAX_MOUSE_ABS_Y yres r.mouseY }
    else pure ()

/-- The bit of a button set or cleared in its word, and the word's bit in `mouse_button`. -/
def trackButton (e : InputEvent) (r : Routing F) : Routing F :=
  let key := e.code.toNat - BTN_MISC.toNat
  if h : key / 32 < 3 then
    let word : Fin 3 := ⟨key / 32, h⟩
    let bit : UInt32 := 1 <<< UInt32.ofNat (key % 32)
    let wordBit : UInt32 := 1 <<< UInt32.ofNat (key / 32)
    let b := if e.value ≠ 0 then r.buttons word ||| bit else r.buttons word &&& ~~~bit
    { r with
      buttons := Function.update r.buttons word b
      mouseButton :=
        if e.value ≠ 0 then if b ≠ 0 then r.mouseButton ||| wordBit else r.mouseButton
        else if b = 0 then r.mouseButton &&& ~~~wordBit else r.mouseButton }
  else r

def isButton (e : InputEvent) : Bool :=
  BTN_MISC ≤ e.code ∧ e.code < BTN_JOYSTICK

def inputTrackMousePosition (e : InputEvent) (type : HidType) : WorldM F Unit := do
  trackMotion e type
  if e.type = EV_KEY ∧ isButton e then modifyRouting (trackButton e) else pure ()

/-- The first press of a button removed, where it was recorded. -/
def takePressed (code : UInt16) (slot : Int32) :
    List MouseButton → Option (MouseButton × List MouseButton)
  | [] => none
  | mb :: mbs =>
    if mb.code = code ∧ mb.slot = slot then some (mb, mbs)
    else (takePressed code slot mbs).map fun r => (r.1, mb :: r.2)

/-- `check_mouse_keys`: a press is recorded, a release is sent where its press went; tells whether
it was sent elsewhere. -/
def checkMouseKeys (d : DomPtr) (slot : Int32) (e : InputEvent) : WorldM F Bool := do
  let w ← get
  if ¬isButton e then pure false
  else if e.value ≠ 0 then do
    let mb : MouseButton := {
      code := e.code, slot := slot, domain := some d
      x := Double.trunc w.routing.mouseX, y := Double.trunc w.routing.mouseY }
    if w.routing.mousePressed.length < MAX_NUM_PRESSED then
      modifyRouting fun r => { r with mousePressed := r.mousePressed ++ [mb] }
      pure false
    else pure false
  else match takePressed e.code slot w.routing.mousePressed with
    | none => pure false
    | some (mb, mbs) => do
      if mb.domain ≠ some d then do
        let _ ← inputSend mb.domain slot e
        modifyRouting fun r => { r with mousePressed := mbs }
        pure true
      else do
        modifyRouting fun r => { r with mousePressed := mbs }
        pure false

def inputConvertRelToAbs (w : World F) (e : InputEvent) : InputEvent :=
  if e.type = EV_REL ∧ e.code = REL_X then
    { type := EV_ABS, code := ABS_X, value := .ofInt (Double.trunc w.routing.mouseX) }
  else if e.type = EV_REL ∧ e.code = REL_Y then
    { type := EV_ABS, code := ABS_Y, value := .ofInt (Double.trunc w.routing.mouseY) }
  else e

def mouseOutsideFrame (w : World F) (f : Frame) : Bool :=
  let x := UInt32.ofInt (Double.trunc w.routing.mouseX)
  let y := UInt32.ofInt (Double.trunc w.routing.mouseY)
  x < f.x1 ∨ f.x2 < x ∨ y < f.y1 ∨ f.y2 < y

end

/-- One coordinate of the source frame in the destination frame. -/
def scaleCoordinate {F : Type} (value : Int32) (s1 s2 d1 d2 : UInt32) : WorldM F Int32 :=
  let o := (value.toUInt32 - s1).toInt32
  let source := (s2 - s1).toInt32
  let dest := (d2 - d1).toInt32
  if source = 0 then throw .sigfpe
  else pure ((o * dest / source).toUInt32 + d1).toInt32

def scalePointerEvent {F : Type} (dv : DivertInfo) (e : InputEvent) : WorldM F InputEvent := do
  if e.type = EV_ABS ∧ (e.code = ABS_X ∨ e.code = ABS_MT_POSITION_X) then do
    let v ← scaleCoordinate e.value dv.sframe.x1 dv.sframe.x2 dv.dframe.x1 dv.dframe.x2
    pure { e with value := v }
  else if e.type = EV_ABS ∧ (e.code = ABS_Y ∨ e.code = ABS_MT_POSITION_Y) then do
    let v ← scaleCoordinate e.value dv.sframe.y1 dv.sframe.y2 dv.dframe.y1 dv.dframe.y2
    pure { e with value := v }
  else pure e

end InputServer
