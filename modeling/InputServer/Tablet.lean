import InputServer.Devices
import InputServer.Gestures
import InputServer.XenEvent

namespace InputServer
set_option autoImplicit true

def BTN_TOOL_RUBBER : Nat := 0x141
def SUBTYPE_MONOTOUCH : UInt8 := 3
def MAXSLOTS : Int := 3

/-- Whether a tablet's finger holds the left button, or is about to press it. -/
inductive Btnleft where
  | released
  | pressed
  | newlypressed
deriving DecidableEq

structure TabletScalingParams (F : Type) where
  xMult : F
  yMult : F
  xOffs : Int
  yOffs : Int
  subtype : UInt8
  btnleft : Btnleft
  tool : UInt16

/-- The statics of `handle_gestures`; what is below index 0 of an array precedes it. -/
structure TabletTouches where
  silence : Nat
  goSilent : Nat
  trackID : Int → Int
  x : Int → Int
  y : Int → Int
  slot : Int
  distance : Int
  trackChange : Bool
  recogniser : Recogniser

def startTouches : TabletTouches where
  silence := 0
  goSilent := 0
  trackID := fun _ => -1
  x := fun _ => -1
  y := fun _ => -1
  slot := -1
  distance := 0
  trackChange := false
  recogniser := startRecogniser

/-- The statics of `usb-tablet.c`; of `pen_inrange` only whether it is zero is ever asked. -/
structure Tablet (F : Type) where
  tscale : Nat → TabletScalingParams F
  ignoreEvents : Nat → Bool
  penInrange : Bool
  touches : TabletTouches

/-- What is done for an event: it is handed to `check_and_inject_event`, or a gesture's callback is
invoked. -/
inductive TabletAct where
  | inject (slot : Nat) (ev : InputEvent)
  | recognise (g : Gesture)
deriving DecidableEq

def InputEvent.isDropped (ev : InputEvent) : Bool :=
  ev.type = EV_SYN && ev.code = SYN_DROPPED

/-- The slot that an event selects; −1 is none. -/
def newSlot (ev : InputEvent) : Int :=
  if ev.type = EV_ABS ∧ ev.code = ABS_MT_SLOT then ev.value.toInt else -1

namespace TabletTouches

/-- A position or a contact of the slot that is selected. -/
def record (t : TabletTouches) (ev : InputEvent) : TabletTouches :=
  let value := ev.value.toInt
  if ev.type ≠ EV_ABS then t
  else if ev.code = ABS_MT_POSITION_X then
    { t with
      distance := t.distance + (t.x t.slot - value).natAbs
      x := Function.update t.x t.slot value }
  else if ev.code = ABS_MT_POSITION_Y then
    { t with
      distance := t.distance + (t.y t.slot - value).natAbs
      y := Function.update t.y t.slot value }
  else if ev.code = ABS_MT_TRACKING_ID then
    if decide (t.trackID t.slot < 0) ≠ decide (value < 0) then
      { t with trackChange := true, trackID := Function.update t.trackID t.slot value }
    else t
  else t

/-- What the slot has gathered is handed to the recogniser. -/
def flush (beyond : Nat → SmallactionSlot) (t : TabletTouches) :
    Option (TabletTouches × Option Gesture) :=
  if h : 0 ≤ t.slot ∧ t.slot < MAXSLOTS then do
    let slot : Fin NUM_FINGERS := ⟨t.slot.toNat, (Int.toNat_lt h.1).2 h.2⟩
    let push : Int := if t.trackChange then (if t.trackID t.slot ≥ 0 then 1 else 0) else -1
    let (t, recognised) ←
      if t.trackChange ∨ t.distance > 1 then do
        let (recogniser, recognised, tracking) ←
          gestureHandler beyond slot (t.x t.slot) (t.y t.slot) push t.recogniser
        pure ({ t with recogniser := recogniser, goSilent := tracking }, recognised)
      else pure (t, none)
    pure ({ t with distance := 0, trackChange := false }, recognised)
  else pure (t, none)

end TabletTouches

/-- `handle_gestures`, with the gesture that is recognised and what is returned. -/
def handleTabletGestures (beyond : Nat → SmallactionSlot) (t : TabletTouches) (ev : InputEvent) :
    Option (TabletTouches × Option Gesture × Bool) :=
  if ev.isDropped then some ({ t with distance := 0, trackChange := false }, none, true)
  else do
    let t := if t.slot < MAXSLOTS then t.record ev else t
    let (t, recognised) ←
      if newSlot ev ≠ -1 ∨ ev.isReport then t.flush beyond else pure (t, none)
    let t := if newSlot ev ≠ -1 then { t with slot := newSlot ev } else t
    let t := if ev.isReport then { t with silence := t.goSilent } else t
    pure (t, recognised, t.silence = 0)

section
variable {F : Type}

/-- A key of the tablet, and the code for a mouse that it is translated into. -/
def translateKey (t : TabletScalingParams F) (penInrange : Bool) (ev : InputEvent) :
    TabletScalingParams F × Bool × UInt16 :=
  let code := ev.code.toNat
  if code = BTN_TOOL_PEN then
    (if ev.value ≠ 0 then { t with tool := BTN_LEFT } else t, ev.value ≠ 0, ev.code)
  else if code = BTN_TOOL_FINGER then
    (if ev.value ≠ 0 then { t with tool := ev.code } else t, penInrange, ev.code)
  else if code = BTN_TOOL_RUBBER then
    (if ev.value ≠ 0 then { t with tool := BTN_RIGHT } else t, ev.value ≠ 0, ev.code)
  else if code = BTN_TOUCH then
    if t.tool.toNat = BTN_TOOL_FINGER then
      if ev.value ≠ 0 then
        (if t.btnleft = .released ∧ !penInrange then { t with btnleft := .newlypressed } else t,
          penInrange, ev.code)
      else if t.btnleft ≠ .released then ({ t with btnleft := .released }, penInrange, BTN_LEFT)
      else (t, penInrange, ev.code)
    else (t, penInrange, t.tool)
  else if code = BTN_STYLUS then (t, penInrange, BTN_MIDDLE)
  else (t, penInrange, ev.code)

/-- `floor`, as an `int`. -/
def floorInt [Double F] (x : F) : Int :=
  if Double.lt x (Double.ofInt (Double.trunc x)) then Double.trunc x - 1 else Double.trunc x

def scaleAxis [Double F] (value : Int32) (offs : Int) (mult : F) : Int32 :=
  Int32.ofInt (floorInt (Double.mul (Double.ofInt (value.toInt - offs)) mult))

def scaleEvent [Double F] (t : TabletScalingParams F) (ev : InputEvent) : InputEvent :=
  if ev.code = ABS_X ∨ ev.code = ABS_MT_POSITION_X then
    { ev with value := scaleAxis ev.value t.xOffs t.xMult }
  else if ev.code = ABS_Y ∨ ev.code = ABS_MT_POSITION_Y then
    { ev with value := scaleAxis ev.value t.yOffs t.yMult }
  else ev

namespace Tablet

def setScaling (w : Tablet F) (slot : Nat) (t : TabletScalingParams F) : Tablet F :=
  { w with tscale := Function.update w.tscale slot t }

def setIgnore (w : Tablet F) (slot : Nat) (ignore : Bool) : Tablet F :=
  { w with ignoreEvents := Function.update w.ignoreEvents slot ignore }

/-- The event as it is to be forwarded. -/
def translate [Double F] (w : Tablet F) (slot : Nat) (ev : InputEvent) : Tablet F × InputEvent :=
  if ev.type = EV_ABS then (w, scaleEvent (w.tscale slot) ev)
  else if ev.type = EV_KEY then
    let (t, penInrange, code) := translateKey (w.tscale slot) w.penInrange ev
    ({ w.setScaling slot t with penInrange := penInrange }, { ev with code := code })
  else (w, ev)

/-- The pen's version of a key goes with the mouse's, whatever the gestures make of the latter. -/
def forward (beyond : Nat → SmallactionSlot) (w : Tablet F) (slot : Nat) (ev newEv : InputEvent) :
    Option (Tablet F × List TabletAct) := do
  let copy := if newEv.type = EV_KEY ∧ newEv.code ≠ ev.code then [.inject slot ev] else []
  let (touches, recognised, pass) ← handleTabletGestures beyond w.touches newEv
  pure ({ w with touches := touches }, copy ++ recognised.toList.map .recognise ++
    if pass then [.inject slot newEv] else [])

end Tablet

/-- `handle_usb_tablet_event`. -/
def handleUsbTabletEvent [Double F] (beyond : Nat → SmallactionSlot) (w : Tablet F)
    (ev : InputEvent) (slot : Nat) : Option (Tablet F × List TabletAct) :=
  if ev.type = EV_ABS ∧ w.penInrange ∧ (w.tscale slot).subtype = SUBTYPE_MONOTOUCH then
    some (w, [])
  else
    let (w, newEv) := w.translate slot ev
    let t := w.tscale slot
    if newEv.isReport ∧ t.btnleft = .newlypressed then
      some (w.setScaling slot { t with btnleft := .pressed },
        [.inject slot newEv, .inject slot { type := EV_KEY, code := BTN_LEFT, value := 1 },
          .inject slot { type := EV_SYN, code := SYN_REPORT, value := 0 }])
    else if newEv.isDropped then (w.setIgnore slot true).forward beyond slot ev newEv
    else if w.ignoreEvents slot then
      if newEv.isReport then (w.setIgnore slot false).forward beyond slot ev newEv
      else some (w, [])
    else w.forward beyond slot ev newEv

end

end InputServer
