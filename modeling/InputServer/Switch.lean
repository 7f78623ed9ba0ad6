import InputServer.Routing

namespace InputServer
open Program
set_option autoImplicit true

def SWITCHER_SHUTDOWN_REBOOT : Int := 0
def MOUSE_SWITCH_PREV : Int := -2

/-- `strcasestr(s, sub) != NULL`. -/
def containsIgnoreCase (sub s : String) : Bool :=
  sub.toLower.toList <:+: s.toLower.toList

inductive VideoAdapter where
  | domainGone
  | default
  | intel
  | other
deriving DecidableEq

section
variable {F : Type}

/-- A flag of the database: its first character, where the path exists. -/
def dbFlag (path : String) : WorldM F (Option (Option Char)) := do
  if ← ask fun a => (a.db path).isSome then do
    let value ← dbRead path
    pure (some (value.bind fun s => s.toList.head?))
  else pure none

def isFalse (c : Option Char) : Bool :=
  c = some '0' ∨ c = some 'F' ∨ c = some 'f'

def isTrue (c : Option Char) : Bool :=
  c = some '1' ∨ c = some 'T' ∨ c = some 't'

def switcherSelfSwitchDisabled : WorldM F Bool := do
  let c ← dbFlag "/switcher/self-switch-disabled"
  pure (c.elim true isTrue)

def switcherSwitchGraphic (d : DomPtr) : WorldM F Bool := do
  let disabled ← switcherSelfSwitchDisabled
  let w ← get
  if disabled ∧ w.switcher.surfaceCurrent = some d then pure true
  else if ← ask Answers.setVisible then do
    modifySwitcher fun s => { s with surfaceCurrent := some d }
    pure true
  else pure false

/-- Whether the display follows: a domain without a surface needs none. -/
def displaySwitched (d : DomPtr) : WorldM F Bool := do
  let w ← get
  if (w.domains d).disabledSurface then pure true
  else if ← switcherSwitchGraphic d then pure true
  else pure (w.domains d).isPvm

/-- The database read once into `follow`. -/
def keyboardFollowsMouse : WorldM F Bool := do
  let w ← get
  match w.switcher.follow with
  | some follow => pure follow
  | none => do
    let c ← dbFlag "/switcher/keyboard_follows_mouse"
    let follow := c.elim false fun c => !isFalse c
    modifySwitcher fun s => { s with follow := some follow }
    pure follow

def domainMouseSwitchConfig (d : DomPtr) : WorldM F Unit := do
  match ← ask Answers.seamlessMouse with
  | none => pure ()
  | some (left, right) =>
    modifyDomain d fun x => { x with
      mouseSwitchLeft := left.getD (-1), mouseSwitchRight := right.getD (-1) }

def switcherGetSlotType (slot : Int) : WorldM F VideoAdapter := do
  let w ← get
  match w.domainWithSlot slot with
  | none => pure .domainGone
  | some d => do
    let v ← ask fun a =>
      a.xenstore s!"/local/domain/{(w.domains d).domid}/display/activeAdapter/0"
    match v with
    | none => pure .default
    | some v =>
      if v = "" ∨ containsIgnoreCase "citrix" v then pure .default
      else if containsIgnoreCase "intel" v then pure .default
      else pure .other

def switcherSwitchMakesSense (fromSlot toSlot : Int) : WorldM F Bool := do
  let a ← switcherGetSlotType fromSlot
  let b ← switcherGetSlotType toSlot
  pure !(a = .domainGone ∨ b = .domainGone ∨ (a = .intel ∧ b = .intel) ∨
    (a = .intel ∧ b = .default) ∨ (a = .default ∧ b = .intel) ∨ (a = .default ∧ b = .default))

/-- `host_pmop_in_progress`. -/
def hostPmopInProgress : WorldM F Bool :=
  ask fun a => (a.xenstore "/xenmgr/pm-current-action").isSome

end

/-- `input_inject`, which the functions it calls call again. -/
abbrev Inject (F : Type) := InputEvent → Int32 → HidType → WorldM F InputEvent

section
variable {F : Type} (inject : Inject F)

def turnNumlockOff : WorldM F Unit := do
  let w ← get
  match w.routing.keybDest with
  | none => pure ()
  | some d =>
    if (w.domains d).keyboardLedCode &&& LED_CODE_NUMLOCK = LED_CODE_NUMLOCK then do
      modifyDomain d fun x => { x with
        keyboardLedCode := x.keyboardLedCode &&& ~~~LED_CODE_NUMLOCK }
      let e ← inject { type := EV_KEY, code := KEY_NUMLOCK, value := 1 } INPUTSLOT_DEFAULT .keyboard
      let _ ← inject { e with value := 0 } INPUTSLOT_DEFAULT .keyboard
      let w ← get
      let _ ← deref w.routing.keybDest
    else pure ()

/-- Numlock off, where the database does not ask to restore it on a switch. -/
def leaveNumlock : WorldM F Unit := do
  if ← inputGetNumlockRestoreOnSwitch then pure () else turnNumlockOff inject

/-- What the keyboard's domain gets before the keyboard leaves it. -/
def leaveKeyboard (resetMouseDomain : Bool) : WorldM F Unit := do
  let w ← get
  if w.routing.keybDest ≠ none then do
    inputKeyboardReset resetMouseDomain
    leaveNumlock inject
  else pure ()

def inputSetKeyb (d : DomPtr) : WorldM F Unit := do
  leaveKeyboard inject false
  modifyRouting fun r => { r with keybWaitsForClick := false }
  setKbdDomain d

def inputSet (d : DomPtr) : WorldM F Unit := do
  leaveKeyboard inject true
  modifyRouting fun r => { r with keybWaitsForClick := false }
  setMouseDomain d
  setKbdDomain d
  let now ← gettimeofday
  modifyDomain d fun x => { x with lastInputEvent := now }

def syncKbdDomain (d : Option DomPtr) : WorldM F Unit := do
  let w ← get
  if w.routing.keybParent = d ∨ w.routing.keybDest = d then do
    inputSetKeyb inject (← deref d)
  else pure ()

/-- What `input_give_keyboard` and `input_return_keyboard` do before they set the destination. -/
def takeKeyboard : WorldM F Unit := do
  let w ← get
  if w.routing.keybDest ≠ w.routing.mouseDest then do
    inputKeyboardReset false
    leaveNumlock inject
  else leaveNumlock inject

def inputGiveKeyboard (d : DomPtr) : WorldM F Unit := do
  let w ← get
  if w.routing.keybDest = some d then pure ()
  else do
    takeKeyboard inject
    modifyRouting fun r => { r with keybDest := some d, keybParent := none, keybModbits := 0 }

def inputReturnKeyboard (d : DomPtr) : WorldM F Unit := do
  let w ← get
  if w.routing.keybDest ≠ some d then pure ()
  else do
    takeKeyboard inject
    modifyRouting fun r => { r with keybDest := r.mouseDest, keybParent := none, keybModbits := 0 }

def inputGiveKeyboardFromDomain (d newKeybDest : DomPtr) : WorldM F Unit := do
  let w ← get
  if d = newKeybDest then pure ()
  else if w.routing.mouseDest = some d then inputGiveKeyboard inject newKeybDest
  else modifyDomain d fun x => { x with
    prevKeybDomainPtr := some newKeybDest, prevKeybDomid := (w.domains newKeybDest).domid }

def inputReturnKeyboardToDomain (d prevKeybDest : DomPtr) : WorldM F Unit := do
  let w ← get
  if d = prevKeybDest then pure ()
  else if w.routing.mouseDest = some d then inputReturnKeyboard inject prevKeybDest
  else if (w.domains d).prevKeybDomainPtr = some prevKeybDest ∧
      (w.domains d).prevKeybDomid = (w.domains prevKeybDest).domid then
    modifyDomain d fun x => { x with prevKeybDomainPtr := none, prevKeybDomid := -1 }
  else pure ()

/-- The domain whose keyboard was saved, where it is still the one it was. -/
def World.prevKeyb (w : World F) (d : DomPtr) : Option DomPtr :=
  (w.domains d).prevKeybDomainPtr.filter fun prev =>
    (w.domains d).prevKeybDomid ≠ -1 ∧ (w.domains prev).domid = (w.domains d).prevKeybDomid

def restorePrevKeybDomain (d : DomPtr) : WorldM F Unit := do
  let w ← get
  match w.prevKeyb d with
  | none => pure ()
  | some prev => inputGiveKeyboard inject prev

/-- The input follows the display: `current` is the new domain. -/
def focusDomain (d : DomPtr) (mouseSwitch : Bool) : WorldM F Unit := do
  modifySwitcher fun s => { s with current := some d }
  let w ← get
  happens (.switched (w.domains d).domid)
  let follow ← keyboardFollowsMouse
  if mouseSwitch ∧ ¬follow then inputSetMouse d
  else do
    inputSet inject d
    let w ← get
    if (w.domains d).divertInfo.isNone then restorePrevKeybDomain inject d else pure ()

section
variable [Double F]

/-- The keyboard's domain is remembered, where the keyboard is not waiting for a click. -/
def rememberKeyboard : WorldM F Unit := do
  let w ← get
  if w.routing.keybWaitsForClick then pure () else savePrevKeybDomain w.switcher.current

/-- The pointer is put where it is, in the domain that is switched to. -/
def placePointer (d : DomPtr) (mouseSwitch : Bool) : WorldM F Unit := do
  let w ← get
  if !mouseSwitch && (w.domains d).supportsAbs then inputDomainSetMouse (some d) else pure ()

/-- `switcher_switch` once it holds the guard; tells whether it switched. -/
def switchTo (d : DomPtr) (mouseSwitch : Bool) : WorldM F Bool := do
  rememberKeyboard
  placePointer d mouseSwitch
  if ← displaySwitched d then do
    focusDomain inject d mouseSwitch
    pure true
  else pure false

/-- `switcher_switch`; a nested call is refused. -/
def switcherSwitch (d : Option DomPtr) (mouseSwitch : Bool) : WorldM F Bool := do
  let w ← get
  match d with
  | none => pure false
  | some d =>
    if w.switcher.switching then pure false
    else do
      modifySwitcher fun s => { s with switching := true }
      let switched ← switchTo inject d mouseSwitch
      modifySwitcher fun s => { s with switching := false }
      pure switched

/-- A pointer to a domain with the domid of `d`. -/
def World.sameDomid (w : World F) (d : DomPtr) (p : Option DomPtr) : Bool :=
  p.any fun p => (w.domains p).domid = (w.domains d).domid

/-- The switch to the UIVM when a displayed domain died, but not for a reboot. -/
def leaveDead (d : DomPtr) : WorldM F Unit := do
  let w ← get
  if (w.domains d).sstate ≠ SWITCHER_SHUTDOWN_REBOOT then do
    let _ ← switcherSwitch inject w.domainUivm false
  else pure ()

def switcherDomainGone (d : DomPtr) : WorldM F Unit := do
  let w ← get
  if w.sameDomid d w.switcher.surfaceCurrent then do
    modifySwitcher fun s => { s with surfaceCurrent := none }
    leaveDead inject d
  else if w.sameDomid d w.switcher.current ∧ (w.domains d).hasSecondaryGpu then do
    modifySwitcher fun s => { s with current := none }
    leaveDead inject d
  else pure ()

def switchToSlot (slot : Int) (mouseSwitch : Bool) : WorldM F Bool := do
  let w ← get
  switcherSwitch inject (w.domainWithSlot slot) mouseSwitch

def switcherS3 (d : DomPtr) : WorldM F Unit := do
  let w ← get
  if w.domainPvm = some d ∨ w.switcher.current ≠ some d then pure ()
  else do
    let _ ← switcherSwitch inject w.domainUivm false

/-- The state of a domain that Xen is told to resume. -/
def resumeDomain (d : DomPtr) : WorldM F Unit := do
  let w ← get
  if w.xcHandle then modifyDomain d fun x => { x with isInS3 := false, sstate := 5 }
  else pure ()

def domainWakeFromS3 (d : Option DomPtr) : WorldM F Unit := do
  let w ← get
  match d with
  | none => pure ()
  | some d =>
    if ¬(w.domains d).isInS3 then pure ()
    else if ← hostPmopInProgress then pure ()
    else do
      resumeDomain d
      let w ← get
      if (w.domains d).isPvm then do
        let _ ← switcherSwitch inject (some d) false
      else pure ()

/-- The switch to a neighbour slot, with the pointer put on its other side. -/
def switchAcross (d : DomPtr) (slot mousePosX y : Int) : WorldM F Unit := do
  inputDomainSetMousePos (some d) (.ofInt MIN_MOUSE_ABS_X) (.ofInt MAX_MOUSE_ABS_Y)
  if ← switchToSlot inject slot true then do
    let w ← get
    inputSetMousePos mousePosX y
    inputDomainSetMouse (w.domainWithSlot slot)
  else pure ()

/-- The side of `switcher_switch_on_mouse` that the pointer is on: the neighbour's slot and the
new position. -/
def mouseEdge (d : Domain F) (x : Int) : Option (Int × Int) :=
  if x = 0 then some (d.mouseSwitchLeft, MAX_MOUSE_ABS_X - 1)
  else if x = MAX_MOUSE_ABS_X then some (d.mouseSwitchRight, MIN_MOUSE_ABS_X + 1)
  else none

def switchAtEdge (d : DomPtr) (x y : Int) : WorldM F Unit := do
  domainMouseSwitchConfig d
  let w ← get
  match mouseEdge (w.domains d) x with
  | none => pure ()
  | some (slot, mousePosX) =>
    if slot = -1 then pure ()
    else if ← switcherSwitchMakesSense (w.domains d).slot slot then
      if slot = MOUSE_SWITCH_PREV then
        match w.switcher.surfaceCurrent with
        | none => pure ()
        | some s =>
          if 0 ≤ (w.domains s).slot then switchAcross inject d (w.domains s).slot mousePosX y
          else pure ()
      else if 0 ≤ slot then switchAcross inject d slot mousePosX y
      else pure ()
    else pure ()

def switcherSwitchOnMouse (e : InputEvent) (x y : Int) : WorldM F Unit := do
  let w ← get
  match w.switcher.current with
  | none => pure ()
  | some d =>
    if e.type ≠ EV_ABS ∨ ¬(w.domains d).supportsAbs ∨
        (MIN_MOUSE_ABS_X < x ∧ x < MAX_MOUSE_ABS_X) then pure ()
    else do
      let enabled ← dbFlag "/switcher/enabled"
      if enabled.any isFalse then pure () else switchAtEdge inject d x y

end
end

end InputServer
