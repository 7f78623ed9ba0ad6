import InputServer.Library.Loop
import InputServer.Devices
import InputServer.Routing
import InputServer.XenEvent

namespace InputServer
set_option autoImplicit true

def ABS_PRESSURE : UInt16 := 0x18

inductive TapState where
  | start
  | touch
  | move
  | singleTapPending
  | possibleDrag
  | drag
deriving DecidableEq

/-- The flags of `enum edge_type`. -/
structure Edge where
  right : Bool
  bottom : Bool
  top : Bool

def Edge.none : Edge :=
  ⟨false, false, false⟩

def Edge.corner (edge : Edge) : Bool :=
  edge.right && (edge.top || edge.bottom)

inductive ScrollType where
  | up
  | down

/-- `struct timeval`. -/
structure Timeval where
  sec : Int
  usec : Int

structure TouchpadPacket where
  x : Int
  y : Int
  pressure : Int
  buttonMask : UInt32
  btnTouch : Int
  timestamp : Timeval
  fingertouching : Bool

structure MoveHistoryRec where
  x : Int
  y : Int
  timestamp : Timeval

structure ScrollData where
  up : Int
  down : Int
  left : Int
  right : Int

structure TouchpadState (F : Type) where
  lastX : Int
  lastY : Int
  lastFingertouching : Bool
  tapstate : TapState
  moveHist : Fin 4 → MoveHistoryRec
  moveHistIndex : Int
  packetCountMove : Int
  scrolldata : ScrollData
  vertScrollOn : Bool
  scrollY : Int
  scrollPacketCount : Int
  autoscrollYspd : F
  autoscrollY : F
  fracX : F
  fracY : F
  touchpadOff : Bool

structure TouchpadLimits (F : Type) where
  minx : Int
  maxx : Int
  miny : Int
  maxy : Int
  minPressure : Int
  maxPressure : Int
  rightEdge : Int
  bottomEdge : Int
  topEdge : Int
  tapMove : Int
  noX : Int
  noY : Int
  noPressure : Int
  scrollDistVert : Int
  speed : F
  isClickpad : Bool
  clickpadLeftButtonMaxx : Int
  isClickpadPressed : Bool

structure TouchpadConfig where
  tapToClickEnabled : Bool
  scrollingEnabled : Bool
  speed : Int

/-- The statics of `touchpad.c`, those of its functions among them. Of a timer there is whether it
is set. -/
structure Touchpad (F : Type) where
  packet : TouchpadPacket
  state : TouchpadState F
  limits : TouchpadLimits F
  config : TouchpadConfig
  fingertouching : Bool
  touchOnX : Int
  touchOnY : Int
  touchOnEdge : Edge
  buttonDownX : Int
  syncRecd : Bool
  currentScrollType : ScrollType
  setTimerOnly : Bool
  isAutoscrollTimerSet : Bool
  leftClickTimer : Bool

def leftButtonDown : UInt32 := 0x01
def leftButtonUp : UInt32 := 0x02
def rightButtonDown : UInt32 := 0x04
def rightButtonUp : UInt32 := 0x08
def leftButtonId : Nat := 1

/-- `!n` of C's integers. -/
def lnot (n : UInt32) : UInt32 :=
  if n = 0 then 1 else 0

section
variable {F : Type}

def resetTouchpadPacket (tl : TouchpadLimits F) (tp : TouchpadPacket) : TouchpadPacket :=
  { tp with
    x := tl.noX, y := tl.noY, pressure := tl.noPressure, buttonMask := 0,
    timestamp := ⟨0, 0⟩, fingertouching := false }

def detectEdge (x y rightEdge bottomEdge topEdge : Int) : Edge :=
  { right := x > rightEdge
    bottom := y > bottomEdge
    top := ¬y > bottomEdge ∧ y < topEdge }

/-- The coordinate of a packet, or the last one where the packet has none. -/
def valueOr (value missing last : Int) : Int :=
  if value = missing then last else value

def Touchpad.xValue (t : Touchpad F) : Int :=
  valueOr t.packet.x t.limits.noX t.state.lastX

def Touchpad.yValue (t : Touchpad F) : Int :=
  valueOr t.packet.y t.limits.noY t.state.lastY

def eventSync : List InputEvent :=
  [{ type := EV_SYN, code := SYN_REPORT, value := 0 }]

def eventButtonChange (buttonId : Nat) (value : Int32) : List InputEvent :=
  if buttonId < leftButtonId ∨ buttonId > (BTN_TASK - BTN_LEFT).toNat then []
  else { type := EV_KEY, code := UInt16.ofNat buttonId + BTN_LEFT - 1, value := value } :: eventSync

def eventRelativeMove (distX distY : Int) : List InputEvent :=
  (if distX ≠ 0 then [{ type := EV_REL, code := REL_X, value := Int32.ofInt distX }] else []) ++
    (if distY ≠ 0 then [{ type := EV_REL, code := REL_Y, value := Int32.ofInt distY }] else []) ++
    (if distX ≠ 0 ∨ distY ≠ 0 then eventSync else [])

def eventScroll (scroll : ScrollType) : List InputEvent :=
  let value : Int32 := match scroll with
    | .up => 1
    | .down => -1
  { type := EV_REL, code := REL_WHEEL, value := value } :: eventSync

def Touchpad.tapTo (t : Touchpad F) (tapstate : TapState) : Touchpad F :=
  { t with state := { t.state with tapstate := tapstate } }

def deleteLeftClickTimer (t : Touchpad F) : Touchpad F :=
  { t with leftClickTimer := false }

def setLeftClickTimer (t : Touchpad F) : Touchpad F :=
  { t with leftClickTimer := true }

def leftClick : List InputEvent :=
  eventButtonChange leftButtonId 1 ++ eventButtonChange leftButtonId 0

/-- The expiry of the left click timer. -/
def sendLeftClickEvent (t : Touchpad F) : Touchpad F × List InputEvent :=
  if t.state.tapstate = .singleTapPending then
    (deleteLeftClickTimer (t.tapTo .start), leftClick)
  else (deleteLeftClickTimer t, [])

/-- The loop of `handle_button_clicks`, from a button and its bit on. -/
def buttonClicksFrom (buttonMask : UInt32) : Nat → Nat → UInt32 → List InputEvent
  | 0, _, _ => []
  | n + 1, buttonId, mask =>
    (if buttonMask &&& mask ≠ 0 then eventButtonChange buttonId 1 else []) ++
      (if buttonMask &&& mask <<< 1 ≠ 0 then eventButtonChange buttonId 0 else []) ++
      buttonClicksFrom buttonMask n (buttonId + 1) (mask <<< 1 <<< 1)

def handleButtonClicks (tp : TouchpadPacket) : List InputEvent :=
  buttonClicksFrom tp.buttonMask (BTN_TASK - BTN_LEFT).toNat 1 1

def resetScrollData : ScrollData :=
  ⟨0, 0, 0, 0⟩

/-- `HIST(a)`. -/
def TouchpadState.hist (ts : TouchpadState F) (a : Int) : MoveHistoryRec :=
  ts.moveHist (Fin.ofNat 4 ((ts.moveHistIndex - a + 4) % 4).toNat)

def storeHistory (ts : TouchpadState F) (x y : Int) (timestamp : Timeval) : TouchpadState F :=
  let idx := (ts.moveHistIndex + 1) % 4
  { ts with
    moveHist := Function.update ts.moveHist (Fin.ofNat 4 idx.toNat) ⟨x, y, timestamp⟩
    moveHistIndex := idx }

def freeAutoscrollTimer (t : Touchpad F) : Touchpad F :=
  { t with isAutoscrollTimerSet := false }

/-- The scrolling of the timer; the call that only sets the timer sends nothing. -/
def sendAutoscrollEvent (t : Touchpad F) : Touchpad F × List InputEvent :=
  ({ t with isAutoscrollTimerSet := true },
    if t.setTimerOnly then [] else eventScroll t.currentScrollType)

/-- A press that is rewritten for the side it is on: `!left_button_down` is 0, so the other bits of
the mask go. -/
def handleClickpad (t : Touchpad F) (edge : Edge) : Touchpad F × List InputEvent :=
  if edge.bottom then
    let tp := t.packet
    let tl := t.limits
    let t :=
      if tp.buttonMask &&& leftButtonDown ≠ 0 then
        let x := t.xValue
        { t with
          limits := { tl with isClickpadPressed := true }
          buttonDownX := x
          packet := if x > tl.clickpadLeftButtonMaxx then
              { tp with buttonMask := tp.buttonMask &&& lnot leftButtonDown ||| rightButtonDown }
            else tp }
      else if tp.buttonMask &&& leftButtonUp ≠ 0 then
        { t with
          limits := { tl with isClickpadPressed := false }
          buttonDownX := -1
          packet := if t.buttonDownX > tl.clickpadLeftButtonMaxx then
              { tp with buttonMask := tp.buttonMask &&& lnot leftButtonUp ||| rightButtonUp }
            else tp }
      else t
    (t, handleButtonClicks t.packet)
  else (t, [])

/-- Some touchpads report values outside of their boundaries; these follow. -/
def adjustOverflow (tp : TouchpadPacket) (tl : TouchpadLimits F) : TouchpadLimits F :=
  let xrange := tl.maxx - tl.minx
  let yrange := tl.maxy - tl.miny
  let tl :=
    if tp.x > tl.maxx ∧ tp.x - xrange.tdiv 10 ≤ tl.maxx then
      { tl with rightEdge := tp.x - (xrange - tl.rightEdge), maxx := tp.x }
    else tl
  if tp.y > tl.maxy ∧ tp.y - yrange.tdiv 10 ≤ tl.maxy then
    { tl with bottomEdge := tp.y - (yrange - tl.bottomEdge), maxy := tp.y }
  else tl

def savePreviousPacketValues (t : Touchpad F) : TouchpadState F :=
  { t.state with
    lastFingertouching := t.packet.fingertouching
    lastX := t.xValue
    lastY := t.yValue }

def Touchpad.touch (t : Touchpad F) : Bool :=
  t.packet.fingertouching && !t.state.lastFingertouching

def Touchpad.release (t : Touchpad F) : Bool :=
  !t.packet.fingertouching && t.state.lastFingertouching

/-- The finger has gone as far from where it came down as a move does. -/
def Touchpad.move (t : Touchpad F) : Bool :=
  let tp := t.packet
  let tl := t.limits
  tp.fingertouching && !t.touch &&
    (decide (tp.x ≠ tl.noX ∧ (tp.x - t.touchOnX).natAbs ≥ tl.tapMove) ||
      decide (tp.y ≠ tl.noY ∧ (tp.y - t.touchOnY).natAbs ≥ tl.tapMove))

def noteTouch (t : Touchpad F) : Touchpad F :=
  if t.touch then
    { t with
      touchOnX := t.xValue
      touchOnY := t.yValue
      touchOnEdge := detectEdge t.xValue t.yValue t.limits.rightEdge t.limits.bottomEdge
        t.limits.topEdge }
  else t

/-- Tap clicks are configured, and not on the bottom edge of a clickpad. -/
def Touchpad.tapsClick (t : Touchpad F) : Bool :=
  t.config.tapToClickEnabled && !(t.limits.isClickpad && t.touchOnEdge.bottom)

def Touchpad.still [Double F] (t : Touchpad F) : Touchpad F :=
  { t with state := { t.state with fracX := Double.ofInt 0, fracY := Double.ofInt 0 } }

/-- `handle_gestures`: what the finger does to the taps, and the clicks that come of it. -/
def handleGestures [Double F] (t : Touchpad F) : Touchpad F × List InputEvent :=
  let touch := t.touch
  let release := t.release
  let move := t.move
  let t := noteTouch t
  match t.state.tapstate with
  | .start => (if touch then t.still.tapTo .touch else t.still, [])
  | .touch =>
    if move then (t.tapTo .move, [])
    else if release then
      -- The click waits: a double tap and drag is not a double click.
      if t.tapsClick then (setLeftClickTimer (t.tapTo .singleTapPending), [])
      else (t.tapTo .start, [])
    else (t, [])
  | .move => (if release then t.tapTo .start else t, [])
  | .singleTapPending =>
    if touch then
      if t.tapsClick then (deleteLeftClickTimer (t.still.tapTo .possibleDrag), [])
      else (deleteLeftClickTimer (t.still.tapTo .touch), leftClick)
    else (t.still, [])
  | .possibleDrag =>
    if move then (t.tapTo .drag, eventButtonChange leftButtonId 1)
    else if release then (t.tapTo .start, leftClick ++ leftClick)
    else (t, [])
  | .drag =>
    if release then (t.tapTo .start, eventButtonChange leftButtonId 0) else (t, [])

end

/-! The arithmetic of `double` is that of the class; `a - b` is `a + (-1) * b` there as well. -/

section
variable {F : Type} [Double F]

def fsub (a b : F) : F :=
  Double.add a (Double.mul (Double.ofInt (-1)) b)

/-- A literal of the source, the quotient of two integers. -/
def ratio (n d : Int) : F :=
  Double.div (Double.ofInt n) (Double.ofInt d)

def isZero (a : F) : Bool :=
  Double.le a (Double.ofInt 0) && Double.le (Double.ofInt 0) a

/-- `timersub`, in seconds. -/
def elapsedSecs (later earlier : Timeval) : F :=
  let sec := later.sec - earlier.sec
  let usec := later.usec - earlier.usec
  let (sec, usec) := if usec < 0 then (sec - 1, usec + 1000000) else (sec, usec)
  Double.add (Double.ofInt sec) (ratio usec 1000000)

/-- `detect_finger`; a packet without pressure changes nothing. -/
def detectFinger (t : Touchpad F) : Bool :=
  let range := t.limits.maxPressure - t.limits.minPressure
  let level (mult : F) : F :=
    Double.add (Double.ofInt t.limits.minPressure) (Double.mul (Double.ofInt range) mult)
  if range = 0 then t.packet.btnTouch ≠ 0
  else if t.packet.pressure = t.limits.noPressure then t.fingertouching
  else if !t.fingertouching then Double.lt (level (ratio 12 100)) (Double.ofInt t.packet.pressure)
  else !Double.lt (Double.ofInt t.packet.pressure) (level (ratio 98 1000))

def stopCornerScrolling (t : Touchpad F) : Touchpad F :=
  { t with state := { t.state with autoscrollYspd := Double.ofInt 0, scrollPacketCount := 0 } }

def startCornerScrolling (t : Touchpad F) : Touchpad F × List InputEvent :=
  let ts := { t.state with autoscrollY := Double.ofInt 0 }
  let delta : F := Double.ofInt t.limits.scrollDistVert
  if ts.scrollPacketCount > 3 then
    let y := t.yValue
    let elapsed : F := elapsedSecs (ts.hist 0).timestamp (ts.hist 3).timestamp
    let dy : F := Double.ofInt ((ts.hist 0).y - (ts.hist 3).y)
    let ts :=
      if Double.lt (Double.ofInt 0) elapsed && Double.lt (Double.ofInt 0) delta then
        { ts with
          autoscrollYspd := Double.div (Double.div dy elapsed) delta
          autoscrollY := Double.div (Double.ofInt (y - ts.scrollY)) delta }
      else ts
    let (t, sent) := sendAutoscrollEvent { t with setTimerOnly := true, state := ts }
    ({ t with
        setTimerOnly := false
        currentScrollType := if y < ts.scrollY then .up else .down
        state := { ts with scrollPacketCount := 0 } }, sent)
  else ({ t with state := { ts with scrollPacketCount := 0 } }, [])

/-- A finger that comes down on the right edge begins to scroll. -/
def beginStroke (t : Touchpad F) (edge : Edge) : Touchpad F :=
  if t.packet.fingertouching && !t.state.lastFingertouching then
    let t := stopCornerScrolling t
    if edge.right then
      { t with state := { t.state with vertScrollOn := true, scrollY := t.yValue } }
    else t
  else t

def endStroke (t : Touchpad F) (edge : Edge) : Touchpad F :=
  if t.state.vertScrollOn && (!edge.right || !t.packet.fingertouching) then
    { t with state := { t.state with vertScrollOn := false } }
  else t

/-- No longer in a corner, or the finger raised: neither the speed nor the timer stays. -/
def leaveCorner (t : Touchpad F) (edge : Edge) : Touchpad F :=
  let away := !t.packet.fingertouching || !edge.corner
  let t := if !isZero t.state.autoscrollYspd && away then stopCornerScrolling t else t
  if away then freeAutoscrollTimer t else t

def enterCorner (t : Touchpad F) (edge : Edge) : Touchpad F × List InputEvent :=
  if t.state.vertScrollOn && edge.corner && isZero t.state.autoscrollYspd then
    startCornerScrolling t
  else (t, [])

def countPacket (t : Touchpad F) : Touchpad F :=
  if t.state.vertScrollOn then
    { t with state := { t.state with scrollPacketCount := t.state.scrollPacketCount + 1 } }
  else t

/-- `handle_scrolling` up to its loops: what the edge and the finger say about the stroke. -/
def followStroke (t : Touchpad F) (edge : Edge) : Touchpad F × List InputEvent :=
  let t := { t with state := { t.state with scrolldata := resetScrollData } }
  let t := leaveCorner (endStroke (beginStroke t edge) edge) edge
  let (t, sent) := enterCorner t edge
  (countPacket t, sent)

/-- The rounds of the loop that catches up with a finger that has gone down. -/
def downRound (y delta : Int) : Int × Int → (Int × Int) ⊕ (Int × Int) :=
  Loop.whileRound (fun s => y - s.2 > delta) fun s => (s.1 + 1, s.2 + delta)

def upRound (y delta : Int) : Int × Int → (Int × Int) ⊕ (Int × Int) :=
  Loop.whileRound (fun s => y - s.2 < -delta) fun s => (s.1 + 1, s.2 - delta)

/-- The loops on `scroll_y`, which count the wheel events. -/
def catchUp (fuel : Nat) (t : Touchpad F) : Option (TouchpadState F) := do
  let ts := t.state
  let delta := t.limits.scrollDistVert
  if ts.vertScrollOn ∧ delta > 0 then do
    let (down, scrollY) ← Loop (downRound t.yValue delta) fuel (ts.scrolldata.down, ts.scrollY)
    let (up, scrollY) ← Loop (upRound t.yValue delta) fuel (ts.scrolldata.up, scrollY)
    pure { ts with scrolldata := { ts.scrolldata with up := up, down := down }, scrollY := scrollY }
  else pure ts

def autoDownRound : Int × F → (Int × F) ⊕ (Int × F) :=
  Loop.whileRound (fun s => Double.lt (Double.ofInt 1) s.2)
    fun s => (s.1 + 1, fsub s.2 (Double.ofInt 1))

def autoUpRound : Int × F → (Int × F) ⊕ (Int × F) :=
  Loop.whileRound (fun s => Double.lt s.2 (Double.ofInt (-1)))
    fun s => (s.1 + 1, Double.add s.2 (Double.ofInt 1))

/-- The loops on `autoscroll_y`; after a pause the timer has scrolled already. -/
def autoScroll (fuel : Nat) (timestamp : Timeval) (ts : TouchpadState F) :
    Option (TouchpadState F) := do
  if isZero ts.autoscrollYspd then pure ts
  else
    let dsecs : F := elapsedSecs timestamp (ts.hist 0).timestamp
    if Double.lt dsecs (ratio 2 10) then do
      let y := Double.add ts.autoscrollY (Double.mul ts.autoscrollYspd dsecs)
      let (down, y) ← Loop autoDownRound fuel (ts.scrolldata.down, y)
      let (up, y) ← Loop autoUpRound fuel (ts.scrolldata.up, y)
      pure { ts with
        scrolldata := { ts.scrolldata with up := up, down := down }
        autoscrollY := y }
    else pure ts

/-- A round of `while (count-- > 0) event_scroll(scroll)`. -/
def emitRound (scroll : ScrollType) (s : Int × List InputEvent) :
    (Int × List InputEvent) ⊕ (Int × List InputEvent) :=
  if s.1 > 0 then .inr (s.1 - 1, s.2 ++ eventScroll scroll) else .inl (s.1 - 1, s.2)

/-- `handle_scrolling`; `none` when one of its loops has not ended within the rounds. -/
def handleScrolling (fuel : Nat) (t : Touchpad F) (edge : Edge) :
    Option (Touchpad F × List InputEvent) := do
  if !t.config.scrollingEnabled then pure (t, [])
  else
    let (t, sent) := followStroke t edge
    let ts ← catchUp fuel t
    let ts ← autoScroll fuel t.packet.timestamp ts
    let (up, sent) ← Loop (emitRound .up) fuel (ts.scrolldata.up, sent)
    let (down, sent) ← Loop (emitRound .down) fuel (ts.scrolldata.down, sent)
    pure ({ t with state := { ts with
      scrolldata := { ts.scrolldata with up := up, down := down } } }, sent)

def estimateDelta (x0 x1 x2 x3 : Int) : F :=
  fsub (fsub (Double.add (Double.mul (Double.ofInt x0) (ratio 3 10))
    (Double.mul (Double.ofInt x1) (ratio 1 10))) (Double.mul (Double.ofInt x2) (ratio 1 10)))
    (Double.mul (Double.ofInt x3) (ratio 3 10))

def estimateDeltaPrevious (x0 x1 : Int) : F :=
  Double.mul (fsub (Double.ofInt x0) (Double.ofInt x1)) (ratio 4 10)

/-- `modf` of a distance at the speed, with what was left of the last one: the integral part and
the new rest. -/
def moveBy (d speed frac : F) : Int × F :=
  let d := Double.add (Double.mul d speed) frac
  (Double.trunc d, fsub d (Double.ofInt (Double.trunc d)))

def computeDeltas (t : Touchpad F) : TouchpadState F × Int × Int :=
  let ts := t.state
  let x := t.xValue
  let y := t.yValue
  let (ts, dx, dy) :=
    if (ts.tapstate = .move ∨ ts.tapstate = .drag) ∧ !ts.vertScrollOn then
      let count := ts.packetCountMove + 1
      let (dx, dy) : F × F :=
        if count > 3 then
          (estimateDelta x (ts.hist 0).x (ts.hist 1).x (ts.hist 2).x,
            estimateDelta y (ts.hist 0).y (ts.hist 1).y (ts.hist 2).y)
        else if count > 1 then
          (estimateDeltaPrevious x (ts.hist 0).x, estimateDeltaPrevious y (ts.hist 0).y)
        else (Double.ofInt 0, Double.ofInt 0)
      let (dx, fracX) := moveBy dx t.limits.speed ts.fracX
      let (dy, fracY) := moveBy dy t.limits.speed ts.fracY
      ({ ts with packetCountMove := count, fracX := fracX, fracY := fracY }, dx, dy)
    else ({ ts with packetCountMove := 0 }, 0, 0)
  (storeHistory ts x y t.packet.timestamp, dx, dy)

/-- What one packet injects, in this order. -/
structure PacketOutput where
  buttons : List InputEvent
  taps : List InputEvent
  wheel : List InputEvent
  moves : List InputEvent

/-- `process_packet` up to its handlers: the limits follow the packet, the edge and the finger are
found. -/
def sensePacket (t : Touchpad F) : Touchpad F × Edge :=
  let x := t.xValue
  let y := t.yValue
  let t := { t with limits := adjustOverflow t.packet t.limits }
  let edge := detectEdge x y t.limits.rightEdge t.limits.bottomEdge t.limits.topEdge
  let finger := detectFinger t
  ({ t with
      fingertouching := finger
      packet := { t.packet with fingertouching := finger } }, edge)

def processPacket (fuel : Nat) (t : Touchpad F) : Option (Touchpad F × PacketOutput) := do
  let clicks := if t.limits.isClickpad then [] else handleButtonClicks t.packet
  if t.state.touchpadOff then pure (t, ⟨clicks, [], [], []⟩)
  else
    let (t, edge) := sensePacket t
    let (t, clicks) := if t.limits.isClickpad then handleClickpad t edge else (t, clicks)
    let (t, taps) := handleGestures t
    let (t, wheel) ← handleScrolling fuel t edge
    let (ts, dx, dy) := computeDeltas t
    let t := { t with state := ts }
    let moves :=
      if t.limits.isClickpadPressed && edge.bottom then [] else eventRelativeMove dx dy
    pure ({ t with state := savePreviousPacketValues t }, ⟨clicks, taps, wheel, moves⟩)

/-- What `handle_touchpad_event` does before the report: the packet that is being filled. -/
def fillPacket (tp : TouchpadPacket) (ev : InputEvent) : TouchpadPacket :=
  if ev.type = EV_ABS then
    if ev.code = ABS_X ∨ ev.code = ABS_MT_POSITION_X then { tp with x := ev.value.toInt }
    else if ev.code = ABS_Y ∨ ev.code = ABS_MT_POSITION_Y then { tp with y := ev.value.toInt }
    else if ev.code = ABS_PRESSURE ∨ ev.code = ABS_MT_PRESSURE then
      { tp with pressure := ev.value.toInt }
    else tp
  else if ev.type = EV_KEY then
    let tp :=
      if ev.code ≥ BTN_LEFT ∧ ev.code ≤ BTN_TASK then
        let bitpair := (ev.code - BTN_LEFT) <<< 1
        let bit := bitpair + if ev.value ≠ 0 then 0 else 1
        { tp with buttonMask := tp.buttonMask ||| 1 <<< bit.toUInt32 }
      else tp
    if ev.code.toNat = BTN_TOUCH then { tp with btnTouch := ev.value.toInt } else tp
  else tp

def beginPacket (t : Touchpad F) : Touchpad F :=
  if t.syncRecd then
    { t with packet := resetTouchpadPacket t.limits t.packet, syncRecd := false }
  else t

/-- `handle_touchpad_event`, at a time; there is an output when a packet is complete. -/
def handleTouchpadEvent (fuel : Nat) (t : Touchpad F) (time : Timeval) (ev : InputEvent) :
    Option (Touchpad F × Option PacketOutput) := do
  let t := beginPacket t
  if ev.isReport then do
    let (t, out) ← processPacket fuel { t with
      packet := { t.packet with timestamp := time }
      syncRecd := true }
    pure (t, some out)
  else pure ({ t with packet := fillPacket t.packet ev }, none)

def initTouchpadState (ts : TouchpadState F) : TouchpadState F :=
  { ts with
    lastX := 0, lastY := 0, lastFingertouching := false, tapstate := .start, moveHistIndex := -1
    packetCountMove := 0, vertScrollOn := false, scrollY := 0, scrollPacketCount := 0
    autoscrollYspd := Double.ofInt 0, autoscrollY := Double.ofInt 0, fracX := Double.ofInt 0
    fracY := Double.ofInt 0, touchpadOff := false, scrolldata := resetScrollData }

def disableTouchpad (t : Touchpad F) : Touchpad F :=
  { t with state := { t.state with touchpadOff := true } }

def enableTouchpad (t : Touchpad F) : Touchpad F :=
  { t with state := initTouchpadState t.state }

def toggleTouchpadStatus (t : Touchpad F) : Touchpad F :=
  if t.state.touchpadOff then enableTouchpad t else disableTouchpad t

/-- `touchpad_reread_config`: what the database says, and the speed computed from it. -/
def touchpadRereadConfig (config : TouchpadConfig) (speed : F) (t : Touchpad F) : Touchpad F :=
  { t with config := config, limits := { t.limits with speed := speed } }

end

end InputServer
