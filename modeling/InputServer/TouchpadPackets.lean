import InputServer.Library.Run
import InputServer.Touchpad

namespace InputServer
set_option autoImplicit true

section
variable {F : Type} {t t' t'' : Touchpad F} {edge : Edge}

@[simp] theorem tapTo_tapstate (t : Touchpad F) (s : TapState) : (t.tapTo s).state.tapstate = s :=
  rfl

@[simp] theorem deleteLeftClickTimer_state (t : Touchpad F) :
    (deleteLeftClickTimer t).state = t.state :=
  rfl

@[simp] theorem setLeftClickTimer_state (t : Touchpad F) :
    (setLeftClickTimer t).state = t.state :=
  rfl

@[simp] theorem still_tapstate [Double F] (t : Touchpad F) :
    t.still.state.tapstate = t.state.tapstate :=
  rfl

/-- The scrolling has its own statics, and leaves the taps, the buttons and the packet alone. -/
structure OnlyScrolls (t t' : Touchpad F) : Prop where
  packet : t'.packet = t.packet
  limits : t'.limits = t.limits
  config : t'.config = t.config
  finger : t'.fingertouching = t.fingertouching
  buttonDownX : t'.buttonDownX = t.buttonDownX
  syncRecd : t'.syncRecd = t.syncRecd
  tapstate : t'.state.tapstate = t.state.tapstate
  lastX : t'.state.lastX = t.state.lastX
  lastY : t'.state.lastY = t.state.lastY
  lastFinger : t'.state.lastFingertouching = t.state.lastFingertouching
  off : t'.state.touchpadOff = t.state.touchpadOff

theorem OnlyScrolls.refl (t : Touchpad F) : OnlyScrolls t t :=
  ⟨rfl, rfl, rfl, rfl, rfl, rfl, rfl, rfl, rfl, rfl, rfl⟩

theorem OnlyScrolls.trans (h : OnlyScrolls t t') (h' : OnlyScrolls t' t'') :
    OnlyScrolls t t'' where
  packet := h'.packet.trans h.packet
  limits := h'.limits.trans h.limits
  config := h'.config.trans h.config
  finger := h'.finger.trans h.finger
  buttonDownX := h'.buttonDownX.trans h.buttonDownX
  syncRecd := h'.syncRecd.trans h.syncRecd
  tapstate := h'.tapstate.trans h.tapstate
  lastX := h'.lastX.trans h.lastX
  lastY := h'.lastY.trans h.lastY
  lastFinger := h'.lastFinger.trans h.lastFinger
  off := h'.off.trans h.off

theorem OnlyScrolls.ite {c : Bool} (h : OnlyScrolls t t') :
    OnlyScrolls t (if c then t' else t) := by
  cases c with
  | false => exact .refl t
  | true => exact h

theorem OnlyScrolls.yValue (h : OnlyScrolls t t') : t'.yValue = t.yValue := by
  unfold Touchpad.yValue
  rw [h.packet, h.limits, h.lastY]

variable [Double F]

theorem stopCornerScrolling_only (t : Touchpad F) : OnlyScrolls t (stopCornerScrolling t) :=
  ⟨rfl, rfl, rfl, rfl, rfl, rfl, rfl, rfl, rfl, rfl, rfl⟩

theorem startCornerScrolling_only (t : Touchpad F) : OnlyScrolls t (startCornerScrolling t).1 := by
  unfold startCornerScrolling
  dsimp only
  split
  · split <;> exact ⟨rfl, rfl, rfl, rfl, rfl, rfl, rfl, rfl, rfl, rfl, rfl⟩
  · exact ⟨rfl, rfl, rfl, rfl, rfl, rfl, rfl, rfl, rfl, rfl, rfl⟩

theorem beginStroke_only (t : Touchpad F) (edge : Edge) : OnlyScrolls t (beginStroke t edge) := by
  apply OnlyScrolls.ite
  apply (stopCornerScrolling_only t).trans
  apply OnlyScrolls.ite
  exact ⟨rfl, rfl, rfl, rfl, rfl, rfl, rfl, rfl, rfl, rfl, rfl⟩

omit [Double F] in
theorem endStroke_only (t : Touchpad F) (edge : Edge) : OnlyScrolls t (endStroke t edge) := by
  apply OnlyScrolls.ite
  exact ⟨rfl, rfl, rfl, rfl, rfl, rfl, rfl, rfl, rfl, rfl, rfl⟩

theorem leaveCorner_only (t : Touchpad F) (edge : Edge) : OnlyScrolls t (leaveCorner t edge) := by
  unfold leaveCorner
  dsimp only
  refine (OnlyScrolls.ite (stopCornerScrolling_only t)).trans (OnlyScrolls.ite ?_)
  exact ⟨rfl, rfl, rfl, rfl, rfl, rfl, rfl, rfl, rfl, rfl, rfl⟩

theorem enterCorner_only (t : Touchpad F) (edge : Edge) :
    OnlyScrolls t (enterCorner t edge).1 := by
  unfold enterCorner
  split
  · exact startCornerScrolling_only t
  · exact .refl t

omit [Double F] in
theorem countPacket_only (t : Touchpad F) : OnlyScrolls t (countPacket t) := by
  apply OnlyScrolls.ite
  exact ⟨rfl, rfl, rfl, rfl, rfl, rfl, rfl, rfl, rfl, rfl, rfl⟩

theorem followStroke_only (t : Touchpad F) (edge : Edge) :
    OnlyScrolls t (followStroke t edge).1 := by
  have hreset : OnlyScrolls t { t with state := { t.state with scrolldata := resetScrollData } } :=
    ⟨rfl, rfl, rfl, rfl, rfl, rfl, rfl, rfl, rfl, rfl, rfl⟩
  apply hreset.trans
  apply (beginStroke_only _ edge).trans
  apply (endStroke_only _ edge).trans
  apply (leaveCorner_only _ edge).trans
  apply (enterCorner_only _ edge).trans
  exact countPacket_only _

omit [Double F] in
theorem catchUp_only (h : catchUp fuel t = some ts) : OnlyScrolls t { t with state := ts } := by
  unfold catchUp at h
  dsimp only at h
  split at h
  · obtain ⟨down, _, h⟩ := Option.bind_eq_some_iff.1 h
    obtain ⟨up, _, h⟩ := Option.bind_eq_some_iff.1 h
    cases h
    exact ⟨rfl, rfl, rfl, rfl, rfl, rfl, rfl, rfl, rfl, rfl, rfl⟩
  · cases h
    exact .refl t

theorem autoScroll_only {ts ts' : TouchpadState F} (t : Touchpad F)
    (h : autoScroll fuel timestamp ts = some ts') :
    OnlyScrolls { t with state := ts } { t with state := ts' } := by
  unfold autoScroll at h
  split at h
  · cases h
    exact .refl _
  · dsimp only at h
    split at h
    · obtain ⟨down, _, h⟩ := Option.bind_eq_some_iff.1 h
      obtain ⟨up, _, h⟩ := Option.bind_eq_some_iff.1 h
      cases h
      exact ⟨rfl, rfl, rfl, rfl, rfl, rfl, rfl, rfl, rfl, rfl, rfl⟩
    · cases h
      exact .refl _

theorem handleScrolling_only (h : handleScrolling fuel t edge = some (t', sent)) :
    OnlyScrolls t t' := by
  unfold handleScrolling at h
  split at h
  · cases h
    exact .refl t
  · obtain ⟨ts, hcatch, h⟩ := Option.bind_eq_some_iff.1 h
    obtain ⟨ts', hauto, h⟩ := Option.bind_eq_some_iff.1 h
    obtain ⟨up, _, h⟩ := Option.bind_eq_some_iff.1 h
    obtain ⟨down, _, h⟩ := Option.bind_eq_some_iff.1 h
    cases h
    have hfollow := followStroke_only t edge
    have hloops := (catchUp_only hcatch).trans (autoScroll_only _ hauto)
    apply (hfollow.trans hloops).trans
    exact ⟨rfl, rfl, rfl, rfl, rfl, rfl, rfl, rfl, rfl, rfl, rfl⟩

theorem computeDeltas_only (t : Touchpad F) :
    OnlyScrolls t { t with state := (computeDeltas t).1 } := by
  unfold computeDeltas
  dsimp only
  split
  · split
    · exact ⟨rfl, rfl, rfl, rfl, rfl, rfl, rfl, rfl, rfl, rfl, rfl⟩
    · split <;> exact ⟨rfl, rfl, rfl, rfl, rfl, rfl, rfl, rfl, rfl, rfl, rfl⟩
  · exact ⟨rfl, rfl, rfl, rfl, rfl, rfl, rfl, rfl, rfl, rfl, rfl⟩

omit [Double F] in
/-- Only the far edges follow the packets. -/
theorem adjustOverflow_eq (tp : TouchpadPacket) (tl : TouchpadLimits F) :
    ∃ rightEdge maxx bottomEdge maxy, adjustOverflow tp tl =
      { tl with rightEdge := rightEdge, maxx := maxx, bottomEdge := bottomEdge, maxy := maxy } := by
  unfold adjustOverflow
  dsimp only
  split <;> split <;> exact ⟨_, _, _, _, rfl⟩

theorem sensePacket_limits (t : Touchpad F) : ∃ rightEdge maxx bottomEdge maxy,
    (sensePacket t).1.limits = { t.limits with
      rightEdge := rightEdge, maxx := maxx, bottomEdge := bottomEdge, maxy := maxy } :=
  adjustOverflow_eq t.packet t.limits

theorem sensePacket_isClickpad (t : Touchpad F) :
    (sensePacket t).1.limits.isClickpad = t.limits.isClickpad := by
  obtain ⟨_, _, _, _, hlimits⟩ := sensePacket_limits t
  rw [hlimits]

/-- What a packet that is not ignored does: the finger is sensed, a clickpad's press rewritten, the
taps followed, and the rest scrolls and moves. -/
structure Processed (t t' : Touchpad F) (out : PacketOutput) where
  padded : Touchpad F
  pad : (padded, out.buttons) =
    if t.limits.isClickpad then handleClickpad (sensePacket t).1 (sensePacket t).2
    else ((sensePacket t).1, handleButtonClicks t.packet)
  tapped : Touchpad F
  tap : handleGestures padded = (tapped, out.taps)
  scrolled : Touchpad F
  scroll : ∃ fuel, handleScrolling fuel tapped (sensePacket t).2 = some (scrolled, out.wheel)
  rest : Touchpad F
  deltas : rest = { scrolled with state := (computeDeltas scrolled).1 }
  saved : t' = { rest with state := savePreviousPacketValues rest }

theorem processPacket_off (hoff : t.state.touchpadOff = true)
    (h : processPacket fuel t = some (t', out)) : t' = t ∧ out.taps = [] ∧
      out.buttons = if t.limits.isClickpad then [] else handleButtonClicks t.packet := by
  unfold processPacket at h
  rw [if_pos hoff] at h
  cases h
  exact ⟨rfl, rfl, rfl⟩

theorem processPacket_on (hon : t.state.touchpadOff = false)
    (h : processPacket fuel t = some (t', out)) : Nonempty (Processed t t' out) := by
  unfold processPacket at h
  rw [if_neg (by rw [hon]; exact Bool.false_ne_true)] at h
  dsimp only at h
  rw [sensePacket_isClickpad] at h
  obtain ⟨scrolled, hscroll, h⟩ := Option.bind_eq_some_iff.1 h
  cases h
  refine ⟨⟨_, ?_, _, rfl, scrolled.1, ⟨fuel, hscroll⟩, _, rfl, rfl⟩⟩
  dsimp only
  cases t.limits.isClickpad <;> rfl

theorem sensePacket_finger (t : Touchpad F) :
    (sensePacket t).1.packet.fingertouching = detectFinger t := by
  change detectFinger { t with limits := adjustOverflow t.packet t.limits } = _
  obtain ⟨_, _, _, _, hlimits⟩ := adjustOverflow_eq t.packet t.limits
  rw [hlimits]
  rfl

/-- A clickpad's press changes the mask of the packet, and whether the pad is pressed. -/
structure OnlyClicks (t t' : Touchpad F) : Prop where
  state : t'.state = t.state
  config : t'.config = t.config
  syncRecd : t'.syncRecd = t.syncRecd
  x : t'.packet.x = t.packet.x
  y : t'.packet.y = t.packet.y
  timestamp : t'.packet.timestamp = t.packet.timestamp
  finger : t'.packet.fingertouching = t.packet.fingertouching
  limits : ∃ pressed, t'.limits = { t.limits with isClickpadPressed := pressed }

omit [Double F] in
theorem handleClickpad_only (t : Touchpad F) (edge : Edge) :
    OnlyClicks t (handleClickpad t edge).1 := by
  have hsame : OnlyClicks t t := ⟨rfl, rfl, rfl, rfl, rfl, rfl, rfl, _, rfl⟩
  unfold handleClickpad
  dsimp only
  split
  · split
    · split <;> exact ⟨rfl, rfl, rfl, rfl, rfl, rfl, rfl, _, rfl⟩
    · split
      · split <;> exact ⟨rfl, rfl, rfl, rfl, rfl, rfl, rfl, _, rfl⟩
      · exact hsame
  · exact hsame

omit [Double F] in
theorem noteTouch_state (t : Touchpad F) : (noteTouch t).state = t.state := by
  unfold noteTouch
  cases t.touch <;> rfl

omit [Double F] in
theorem noteTouch_packet (t : Touchpad F) : (noteTouch t).packet = t.packet := by
  unfold noteTouch
  cases t.touch <;> rfl

/-- The gestures are the machine of the taps; what they leave of the rest. -/
structure OnlyTaps (t t' : Touchpad F) : Prop where
  packet : t'.packet = t.packet
  limits : t'.limits = t.limits
  buttonDownX : t'.buttonDownX = t.buttonDownX
  syncRecd : t'.syncRecd = t.syncRecd
  lastX : t'.state.lastX = t.state.lastX
  lastY : t'.state.lastY = t.state.lastY
  lastFinger : t'.state.lastFingertouching = t.state.lastFingertouching
  off : t'.state.touchpadOff = t.state.touchpadOff
  vertScrollOn : t'.state.vertScrollOn = t.state.vertScrollOn
  scrollY : t'.state.scrollY = t.state.scrollY
  yspd : t'.state.autoscrollYspd = t.state.autoscrollYspd
  config : t'.config = t.config

theorem handleGestures_only (t : Touchpad F) : OnlyTaps t (handleGestures t).1 := by
  have hnote : OnlyTaps t (noteTouch t) := by
    unfold noteTouch
    cases t.touch <;> exact ⟨rfl, rfl, rfl, rfl, rfl, rfl, rfl, rfl, rfl, rfl, rfl, rfl⟩
  have hof (u : Touchpad F) (h : OnlyTaps (noteTouch t) u) : OnlyTaps t u :=
    ⟨h.packet.trans hnote.packet, h.limits.trans hnote.limits,
      h.buttonDownX.trans hnote.buttonDownX, h.syncRecd.trans hnote.syncRecd,
      h.lastX.trans hnote.lastX, h.lastY.trans hnote.lastY, h.lastFinger.trans hnote.lastFinger,
      h.off.trans hnote.off, h.vertScrollOn.trans hnote.vertScrollOn,
      h.scrollY.trans hnote.scrollY, h.yspd.trans hnote.yspd, h.config.trans hnote.config⟩
  apply hof
  unfold handleGestures
  dsimp only
  generalize noteTouch t = u
  cases u.state.tapstate with
  | start => cases t.touch <;> exact ⟨rfl, rfl, rfl, rfl, rfl, rfl, rfl, rfl, rfl, rfl, rfl, rfl⟩
  | touch =>
    cases t.move <;> cases t.release <;> cases u.tapsClick <;>
      exact ⟨rfl, rfl, rfl, rfl, rfl, rfl, rfl, rfl, rfl, rfl, rfl, rfl⟩
  | move => cases t.release <;> exact ⟨rfl, rfl, rfl, rfl, rfl, rfl, rfl, rfl, rfl, rfl, rfl, rfl⟩
  | singleTapPending =>
    cases t.touch <;> cases u.tapsClick <;>
      exact ⟨rfl, rfl, rfl, rfl, rfl, rfl, rfl, rfl, rfl, rfl, rfl, rfl⟩
  | possibleDrag =>
    cases t.move <;> cases t.release <;>
      exact ⟨rfl, rfl, rfl, rfl, rfl, rfl, rfl, rfl, rfl, rfl, rfl, rfl⟩
  | drag => cases t.release <;> exact ⟨rfl, rfl, rfl, rfl, rfl, rfl, rfl, rfl, rfl, rfl, rfl, rfl⟩

namespace Processed

/-- The handlers before the gestures leave the state. -/
theorem padded_only (p : Processed t t' out) : OnlyClicks (sensePacket t).1 p.padded := by
  have hpad : p.padded = _ := congrArg Prod.fst p.pad
  rw [hpad]
  split
  · exact handleClickpad_only _ _
  · exact ⟨rfl, rfl, rfl, rfl, rfl, rfl, rfl, _, rfl⟩

theorem padded_state (p : Processed t t' out) : p.padded.state = t.state :=
  p.padded_only.state

theorem padded_finger (p : Processed t t' out) :
    p.padded.packet.fingertouching = detectFinger t :=
  p.padded_only.finger.trans (sensePacket_finger t)

theorem tapped_only (p : Processed t t' out) : OnlyTaps p.padded p.tapped := by
  have htap := handleGestures_only p.padded
  rw [p.tap] at htap
  exact htap

theorem rest_only (p : Processed t t' out) : OnlyScrolls p.tapped p.rest := by
  obtain ⟨fuel, hscroll⟩ := p.scroll
  have hdeltas := computeDeltas_only p.scrolled
  rw [← p.deltas] at hdeltas
  exact (handleScrolling_only hscroll).trans hdeltas

theorem tapstate (p : Processed t t' out) : t'.state.tapstate = p.tapped.state.tapstate :=
  (congrArg (fun u => u.state.tapstate) p.saved).trans p.rest_only.tapstate

theorem off (p : Processed t t' out) : t'.state.touchpadOff = t.state.touchpadOff := by
  have hsaved := congrArg (fun u => u.state.touchpadOff) p.saved
  have hpadded := congrArg TouchpadState.touchpadOff p.padded_state
  exact hsaved.trans (p.rest_only.off.trans (p.tapped_only.off.trans hpadded))

/-- The finger of this packet is the last one for the next. -/
theorem lastFinger (p : Processed t t' out) :
    t'.state.lastFingertouching = detectFinger t := by
  have hsaved := congrArg (fun u => u.state.lastFingertouching) p.saved
  have hpacket := p.rest_only.packet.trans p.tapped_only.packet
  exact hsaved.trans ((congrArg TouchpadPacket.fingertouching hpacket).trans p.padded_finger)

theorem syncRecd (p : Processed t t' out) : t'.syncRecd = t.syncRecd := by
  have hsaved := congrArg Touchpad.syncRecd p.saved
  exact hsaved.trans
    (p.rest_only.syncRecd.trans (p.tapped_only.syncRecd.trans p.padded_only.syncRecd))

/-- The limits that the clickpad leaves stay for the rest of the packet. -/
theorem limits (p : Processed t t' out) : t'.limits = p.padded.limits := by
  have hsaved := congrArg Touchpad.limits p.saved
  exact hsaved.trans (p.rest_only.limits.trans p.tapped_only.limits)

theorem isClickpad (p : Processed t t' out) : t'.limits.isClickpad = t.limits.isClickpad := by
  obtain ⟨pressed, hpadded⟩ := p.padded_only.limits
  rw [p.limits, hpadded]
  exact sensePacket_isClickpad t

end Processed

/-- The packet as the report finds it. -/
def readyPacket (t : Touchpad F) (time : Timeval) : Touchpad F :=
  let t := beginPacket t
  { t with packet := { t.packet with timestamp := time }, syncRecd := true }

omit [Double F] in
theorem beginPacket_state (t : Touchpad F) : (beginPacket t).state = t.state := by
  unfold beginPacket
  split <;> rfl

omit [Double F] in
theorem beginPacket_limits (t : Touchpad F) : (beginPacket t).limits = t.limits := by
  unfold beginPacket
  split <;> rfl

/-- An event fills the packet, and a report has it processed. -/
theorem touchpadEvent_cases (h : handleTouchpadEvent fuel t time ev = some (t', out)) :
    ev.isReport = false ∧ out = none ∧
        t' = { beginPacket t with packet := fillPacket (beginPacket t).packet ev } ∨
      ev.isReport = true ∧ ∃ o, out = some o ∧
        processPacket fuel (readyPacket t time) = some (t', o) := by
  unfold handleTouchpadEvent at h
  dsimp only at h
  split at h
  · rename_i hreport
    obtain ⟨⟨u, o⟩, hprocess, h⟩ := Option.bind_eq_some_iff.1 h
    cases h
    exact .inr ⟨hreport, o, rfl, hprocess⟩
  · rename_i hreport
    cases h
    exact .inl ⟨Bool.eq_false_iff.2 hreport, rfl, rfl⟩

end

/-- An event of the device, with what `handle_touchpad_event` makes of it. -/
structure PadMoment (F : Type) where
  time : Timeval
  ev : InputEvent
  before : Touchpad F
  after : Touchpad F
  out : Option PacketOutput

def PadMoment.Step [Double F] (m : PadMoment F) (t t' : Touchpad F) : Prop :=
  m.before = t ∧ m.after = t' ∧ ∃ fuel, handleTouchpadEvent fuel t m.time m.ev = some (t', m.out)

section
variable {F : Type} [Double F] {t t' : Touchpad F}

/-- The moments of some events, all at one time. -/
def playEvents (fuel : Nat) :
    Touchpad F → List InputEvent → Option (List (PadMoment F) × Touchpad F)
  | t, [] => some ([], t)
  | t, ev :: evs => do
    let (t', out) ← handleTouchpadEvent fuel t ⟨0, 0⟩ ev
    let (ms, t'') ← playEvents fuel t' evs
    pure (⟨⟨0, 0⟩, ev, t, t', out⟩ :: ms, t'')

theorem playEvents_run (h : playEvents fuel t evs = some (ms, t')) :
    Run PadMoment.Step t ms t' := by
  induction evs generalizing t ms with
  | nil =>
    cases h
    exact .nil
  | cons ev evs ih =>
    obtain ⟨⟨t₁, out⟩, hevent, h⟩ := Option.bind_eq_some_iff.1 h
    obtain ⟨⟨ms', t₂⟩, hplay, h⟩ := Option.bind_eq_some_iff.1 h
    cases h
    exact .cons ⟨rfl, rfl, fuel, hevent⟩ (ih hplay)

end

/-- A touchpad that reports a contact, and no pressure. -/
def restingTouchpad : Touchpad ℚ where
  packet := ⟨-1, -1, -1, 0, 0, ⟨0, 0⟩, false⟩
  state :=
    { lastX := 0, lastY := 0, lastFingertouching := false, tapstate := .start
      moveHist := fun _ => ⟨0, 0, ⟨0, 0⟩⟩, moveHistIndex := -1, packetCountMove := 0
      scrolldata := resetScrollData, vertScrollOn := false, scrollY := 0, scrollPacketCount := 0
      autoscrollYspd := 0, autoscrollY := 0, fracX := 0, fracY := 0, touchpadOff := false }
  limits :=
    { minx := 0, maxx := 1000, miny := 0, maxy := 1000, minPressure := 0, maxPressure := 0
      rightEdge := 830, bottomEdge := 830, topEdge := 170, tapMove := 28, noX := -1, noY := -1
      noPressure := -1, scrollDistVert := 56, speed := 0, isClickpad := false
      clickpadLeftButtonMaxx := -1, isClickpadPressed := false }
  config := ⟨true, true, 5⟩
  fingertouching := false
  touchOnX := 0
  touchOnY := 0
  touchOnEdge := .none
  buttonDownX := -1
  syncRecd := true
  currentScrollType := .up
  setTimerOnly := true
  isAutoscrollTimerSet := false
  leftClickTimer := false

end InputServer
