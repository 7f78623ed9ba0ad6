import InputServer.Lifecycle

namespace InputServer
open Program
set_option autoImplicit true

def FOCUSMODE_MAX : UInt8 := 7
def MAX_MODS : Nat := 20

/-- What a domain may write to its `switcher/command` node. -/
inductive Command where
  | switch
  | switchSlot (slot : Int)
  | switchDomid (domid : Int)
  | keyboardTake
  | keyboardTakeFrom (domid : Int)
  | keyboardRelease
  | keyboardReleaseTo (domid : Int)

/-- The errors of the D-Bus methods. -/
inductive BusError where
  | noSrcId
  | badUuid
  | badFrame
  | busy
  | outOfRange

/-- The position of a modifier, with the table that holds it; none where the table is full. -/
def addmod (key : UInt32) (mods : List UInt32) : Option Nat × List UInt32 :=
  match mods.findIdx? (· = key) with
  | some i => (some i, mods)
  | none => if mods.length < MAX_MODS then (some mods.length, mods ++ [key]) else (none, mods)

/-- `1 << a`, also of the -1 of a full table, which x86 takes modulo 32. -/
def modifierBit (a : Option Nat) : UInt32 :=
  1 <<< UInt32.ofNat (a.getD 31)

/-- The shortcuts of a filter array: zeros end a group, and the last key of a group is its action. -/
def parseFilter : List UInt32 → UInt32 → List UInt32 → List KeyPair × List UInt32
  | [], _, mods => ([], mods)
  | k :: ks, bits, mods =>
    if k = 0 then parseFilter ks bits mods
    else if ks.headD 0 = 0 then
      let r := parseFilter ks 0 mods
      ({ modBits := bits, keycode := k } :: r.1, r.2)
    else
      let (a, mods) := addmod k mods
      parseFilter ks (bits ||| modifierBit a) mods

/-- The divert info that `check_init_divert_info` creates; the frames are set with the mouse's
domain. -/
def freshDivert : DivertInfo where
  modifers := [KEY_LEFTALT, KEY_RIGHTALT, KEY_LEFTCTRL, KEY_RIGHTCTRL].map UInt16.toUInt32
  keylist := none
  focusmode := 0
  keyDomain := none
  mouseDomain := none
  sframe := { x1 := 0, x2 := 0, y1 := 0, y2 := 0 }
  dframe := { x1 := 0, x2 := 0, y1 := 0, y2 := 0 }

/-- A frame of two corners in any order. -/
def orderedFrame (x1 y1 x2 y2 : UInt32) : Frame where
  x1 := min x1 x2
  x2 := max x1 x2
  y1 := min y1 y2
  y2 := max y1 y2

/-- Two corners that span no area. -/
def emptyFrame (x1 y1 x2 y2 : UInt32) : Bool :=
  x1 = x2 ∨ y1 = y2

section
variable {F : Type}

/-- The divert info of `d`, created where it is missing, then changed. -/
def modifyDivert (d : DomPtr) (f : DivertInfo → DivertInfo) : WorldM F Unit :=
  modifyDomain d fun x => { x with divertInfo := some (f (x.divertInfo.getD freshDivert)) }

def domainSetSlot (d : DomPtr) (slot : Int) : WorldM F Unit :=
  modifyDomain d fun x => { x with slot := slot }

def inputDaemonSetSlot (domid slot : Int) : WorldM F Unit := do
  let w ← get
  match w.domainWithDomid domid with
  | none => pure ()
  | some d =>
    if slot < 0 then domainSetSlot d slot
    else match w.domainWithSlot slot with
      | none => domainSetSlot d slot
      | some other => do
        domainSetSlot other (w.domains d).slot
        domainSetSlot d slot

def switcherUnfocusGpu : WorldM F Unit :=
  modifySwitcher fun s => { s with surfaceCurrent := none }

def inputDaemonDivertMouseFocus (sender : Int) (uuid : String) (s1 s2 s3 s4 d1 d2 d3 d4 : UInt32) :
    WorldM F (Option BusError) := do
  let w ← get
  match w.domainWithDomid sender, w.domainWithUuid uuid with
  | none, _ => pure (some .noSrcId)
  | some _, none => pure (some .badUuid)
  | some d, some td =>
    if emptyFrame s1 s2 s3 s4 ∨ emptyFrame d1 d2 d3 d4 then pure (some .badFrame)
    else do
      modifyDivert d fun dv => { dv with
        sframe := orderedFrame s1 s2 s3 s4, dframe := orderedFrame d1 d2 d3 d4
        mouseDomain := some td }
      syncMouseDomain (some d)
      pure none

def inputDaemonSetDivertKeyboardFilter (sender : Int) (filter : List UInt32) :
    WorldM F (Option BusError) := do
  let w ← get
  match w.domainWithDomid sender with
  | none => pure (some .noSrcId)
  | some d =>
    let dv := (w.domains d).divertInfo.getD freshDivert
    if dv.keyDomain ≠ none then do
      modifyDivert d id
      pure (some .busy)
    else do
      let (keylist, modifers) := parseFilter filter 0 dv.modifers
      modifyDivert d fun dv => { dv with keylist := some keylist, modifers := modifers }
      pure none

def inputDaemonStopMouseDivert (sender : Int) : WorldM F Unit := do
  let w ← get
  let d := w.domainWithDomid sender
  match d with
  | none => syncMouseDomain none
  | some d => do
    modifyDomain d fun x => { x with
      divertInfo := x.divertInfo.map fun dv => { dv with mouseDomain := none } }
    syncMouseDomain (some d)

def inputDaemonTouch (uuid : String) : WorldM F (Option BusError) := do
  let w ← get
  match w.domainWithUuid uuid with
  | none => pure (some .badUuid)
  | some td => do
    wiggleCtrlKey (some td)
    pure none

def inputDaemonFocusMode (sender mode : Int) : WorldM F (Option BusError) := do
  let w ← get
  match w.domainWithDomid sender with
  | none => pure (some .noSrcId)
  | some d =>
    let mode := UInt8.ofInt mode
    if FOCUSMODE_MAX < mode then do
      modifyDivert d id
      pure (some .outOfRange)
    else do
      modifyDivert d fun dv => { dv with focusmode := mode.toUInt32 }
      pure none

def handleSwitcherAbs (d : DomPtr) (enabled : Bool) : WorldM F Unit :=
  modifyDomain d fun x => { x with absEnabled := enabled }

def handleSwitcherLeds (d : DomPtr) (ledCode : UInt32) : WorldM F Unit :=
  modifyDomain d fun x => { x with keyboardLedCode := ledCode }

def handleSwitcherShutdown (d : DomPtr) (state : Int) : WorldM F Unit := do
  modifyDomain d fun x => { x with sstate := state }
  if state = SWITCHER_SHUTDOWN_REBOOT then focusExpectDeath d
  else if state = 3 ∨ state = 4 ∨ state = 5 then focusDontExpectDeath d
  else pure ()

/-- The end of `domain_active_adapter_node_watch`, once it knows whether the surface is disabled. -/
def surfaceDisabled (d : DomPtr) (disabled : Bool) : WorldM F Unit := do
  let w ← get
  if (w.domains d).disabledSurface = disabled then pure ()
  else do
    modifyDomain d fun x => { x with disabledSurface := disabled }
    match w.domainUivm with
    | none => pure ()
    | some uivm =>
      if disabled then do
        let _ ← switcherSwitchGraphic uivm
      else pure ()

end

section
variable {F : Type} [Double F]

/-- The pointer moved with the desktop's dimensions. -/
def rescaleMouse (d : Domain F) (xres yres : Int) (r : Routing F) : Routing F :=
  { r with
    mouseX :=
      if d.desktopXres = xres then r.mouseX
      else forceRange (Double.div (Double.mul r.mouseX (Double.ofInt d.desktopXres))
        (Double.ofInt xres)) MIN_MOUSE_ABS_X MAX_MOUSE_ABS_X
    mouseY :=
      if d.desktopYres = yres then r.mouseY
      else forceRange (Double.div (Double.mul r.mouseY (Double.ofInt d.desktopYres))
        (Double.ofInt yres)) MIN_MOUSE_ABS_Y MAX_MOUSE_ABS_Y }

def inputDomainHandleResolutionChange (d : DomPtr) (xres yres : Int) : WorldM F Unit := do
  let w ← get
  let x := w.domains d
  if w.routing.mouseDest ≠ some d ∨ ¬x.supportsAbs ∨ (x.desktopXres = 0 ∧ x.desktopYres = 0) ∨
      (x.desktopXres = xres ∧ x.desktopYres = yres) then pure ()
  else do
    modifyRouting (rescaleMouse x xres yres)
    inputDomainSetMouse (some d)

/-- `domain_calculate_abs_scaling`, where the node holds two numbers or does not. -/
def domainCalculateAbsScaling (d : DomPtr) (dims : Option (Int × Int)) : WorldM F Unit := do
  modifyDomain d fun x => { x with
    relXMult := Double.ofInt (MAX_MOUSE_ABS_X / DEFAULT_RESOLUTION_X)
    relYMult := Double.ofInt (MAX_MOUSE_ABS_Y / DEFAULT_RESOLUTION_Y) }
  match dims.filter fun r => 0 < r.1 ∧ 0 < r.2 with
  | none => modifyDomain d fun x => { x with desktopXres := 0, desktopYres := 0 }
  | some (xres, yres) => do
    modifyDomain d fun x => { x with
      relXMult := Double.div (Double.ofInt MAX_MOUSE_ABS_X) (Double.ofInt xres)
      relYMult := Double.div (Double.ofInt MAX_MOUSE_ABS_Y) (Double.ofInt yres) }
    inputDomainHandleResolutionChange d xres yres
    modifyDomain d fun x => { x with desktopXres := xres, desktopYres := yres }

variable (inject : Inject F)

def inputDaemonSwitchFocus (domid : Int) : WorldM F Unit := do
  let w ← get
  if domid = -1 then switcherUnfocusGpu
  else do
    let _ ← switcherSwitch inject (w.domainWithDomid domid) false

def inputDaemonDivertKeyboardFocus (sender : Int) (uuid : String) :
    WorldM F (Option BusError) := do
  let w ← get
  match w.domainWithDomid sender, w.domainWithUuid uuid with
  | none, _ => pure (some .noSrcId)
  | some _, none => pure (some .badUuid)
  | some d, some td => do
    modifyDivert d fun dv => { dv with keyDomain := some td }
    syncKbdDomain inject (some d)
    pure none

def inputDaemonStopKeyboardDivert (sender : Int) : WorldM F Unit := do
  let w ← get
  match w.domainWithDomid sender with
  | none => syncKbdDomain inject none
  | some d => do
    modifyDomain d fun x => { x with
      divertInfo := x.divertInfo.map fun dv => { dv with keyDomain := none } }
    syncKbdDomain inject (some d)

def switchFound (d : Option DomPtr) : WorldM F Unit := do
  let _ ← switcherSwitch inject d false

/-- A command about the keyboard of the domain that has the domid, where there is one. -/
def withDomid (domid : Int) (f : DomPtr → WorldM F Unit) : WorldM F Unit := do
  let w ← get
  match w.domainWithDomid domid with
  | none => pure ()
  | some d => f d

/-- `domain_command` of the domain whose node it is. -/
def domainCommand (d : DomPtr) (c : Command) : WorldM F Unit := do
  let w ← get
  match c with
  | .switch => switchFound inject (some d)
  | .switchSlot slot => switchFound inject (w.domainWithSlot slot)
  | .switchDomid domid => switchFound inject (w.domainWithDomid domid)
  | .keyboardTake => inputGiveKeyboard inject d
  | .keyboardTakeFrom domid =>
    withDomid domid fun src => inputGiveKeyboardFromDomain inject src d
  | .keyboardRelease => inputReturnKeyboard inject d
  | .keyboardReleaseTo domid =>
    withDomid domid fun dest => inputReturnKeyboardToDomain inject dest d

/-- What the daemon does in answer to one thing that happens: a device model connects or
disconnects, a bus method is called, a node that is watched changes, the plugin connects,
disconnects or sends a record, or an input event comes. -/
inductive Op where
  | rpcConnect (domid : Int) (pvm : Bool)
  | rpcDisconnect (d : DomPtr)
  | attachVkbd (domid : Int)
  | detachVkbd (domid : Int)
  | setSlot (domid slot : Int)
  | switchFocus (domid : Int)
  | command (d : DomPtr) (c : Command)
  | divertMouseFocus (sender : Int) (uuid : String) (s1 s2 s3 s4 d1 d2 d3 d4 : UInt32)
  | divertKeyboardFocus (sender : Int) (uuid : String)
  | setDivertKeyboardFilter (sender : Int) (filter : List UInt32)
  | stopMouseDivert (sender : Int)
  | stopKeyboardDivert (sender : Int)
  | focusMode (sender mode : Int)
  | touch (uuid : String)
  | powerState (path : String) (d : DomPtr)
  | desktopDimensions (d : DomPtr) (dims : Option (Int × Int))
  | activeAdapter (d : DomPtr) (disabled : Bool)
  | switcherAbs (d : DomPtr) (enabled : Bool)
  | switcherLeds (d : DomPtr) (ledCode : UInt32)
  | switcherShutdown (d : DomPtr) (state : Int)
  | pluginAccept (s2 : Int)
  | pluginRecord (r : EventRecord)
  | pluginClosed
  | inputSend (d : DomPtr) (slot : Int32) (e : InputEvent)
  | inputInject (e : InputEvent) (slot : Int32) (type : HidType)

def Op.run : Op → WorldM F Unit
  | rpcConnect domid pvm => domainCreate inject domid pvm
  | rpcDisconnect d => domainGone inject d
  | attachVkbd domid => discard (inputDaemonAttachVkbd inject domid)
  | detachVkbd domid => inputDaemonDetachVkbd inject domid
  | setSlot domid slot => inputDaemonSetSlot domid slot
  | switchFocus domid => inputDaemonSwitchFocus inject domid
  | command d c => domainCommand inject d c
  | divertMouseFocus sender uuid s1 s2 s3 s4 d1 d2 d3 d4 =>
    discard (inputDaemonDivertMouseFocus sender uuid s1 s2 s3 s4 d1 d2 d3 d4)
  | divertKeyboardFocus sender uuid => discard (inputDaemonDivertKeyboardFocus inject sender uuid)
  | setDivertKeyboardFilter sender filter =>
    discard (inputDaemonSetDivertKeyboardFilter sender filter)
  | stopMouseDivert sender => inputDaemonStopMouseDivert sender
  | stopKeyboardDivert sender => inputDaemonStopKeyboardDivert inject sender
  | focusMode sender mode => discard (inputDaemonFocusMode sender mode)
  | touch uuid => discard (inputDaemonTouch uuid)
  | powerState path d => domainPowerState inject path d
  | desktopDimensions d dims => domainCalculateAbsScaling d dims
  | activeAdapter d disabled => surfaceDisabled d disabled
  | switcherAbs d enabled => handleSwitcherAbs d enabled
  | switcherLeds d ledCode => handleSwitcherLeds d ledCode
  | switcherShutdown d state => handleSwitcherShutdown d state
  | pluginAccept s2 => serverAccept s2
  | pluginRecord r => processEvent r
  | pluginClosed => onPlug killConnection
  | inputSend d slot e => discard (InputServer.inputSend (some d) slot e)
  | inputInject e slot type => discard (inject e slot type)

end

end InputServer
