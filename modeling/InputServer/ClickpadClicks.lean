import InputServer.TouchpadButtons

namespace InputServer
open Bitmask
set_option autoImplicit true

section
variable {F : Type}

/-- The edge that the packet of a report is on. -/
def PadMoment.edge [Double F] (m : PadMoment F) : Edge :=
  (sensePacket (readyPacket m.before m.time)).2

/-- A report that finds the pad released leaves neither button pressed, and no press pending. -/
def PadMoment.Completed (past : List (PadMoment F)) (m : PadMoment F) : Prop :=
  m.ev.isReport = true → reported past BTN_LEFT = false →
    seenPressed (past ++ [m]) BTN_LEFT = false ∧ seenPressed (past ++ [m]) BTN_RIGHT = false ∧
      m.after.limits.isClickpadPressed = false

/-- The button that the place of the press does not stand for. -/
def Touchpad.otherButton (t : Touchpad F) : UInt16 :=
  if t.buttonDownX > t.limits.clickpadLeftButtonMaxx then BTN_LEFT else BTN_RIGHT

/-- The packet leaves the pad released, and not its click: a press is pending and the finger is off
the bottom edge, or it is on it and the packet has a press as well, or the other button is still
held. -/
def PadMoment.LosesRelease [Double F] (past : List (PadMoment F)) (m : PadMoment F) : Prop :=
  m.ev.isReport = true ∧ reported past BTN_LEFT = false ∧
    (m.edge.bottom = false ∧ m.before.limits.isClickpadPressed = true ∨
      m.edge.bottom = true ∧
        ((∃ e ∈ sinceReport (past.map PadMoment.ev),
            e.type = EV_KEY ∧ e.code = BTN_LEFT ∧ e.value ≠ 0) ∨
          seenPressed past m.before.otherButton = true))

/-- A clickpad reports one button, the left one. -/
def NoRightButton (evs : List InputEvent) : Prop :=
  ∀ e ∈ evs, ¬(e.type = EV_KEY ∧ e.code = BTN_RIGHT)

/-- What holds while every click was completed. -/
structure ClickHistory (ms : List (PadMoment F)) (t : Touchpad F) : Prop where
  pad : t.limits.isClickpad = true
  on : t.state.touchpadOff = false
  recorded : Recorded (beginPacket t).packet.buttonMask (sinceReport (ms.map PadMoment.ev))
  oneButton : NoRightButton (sinceReport (ms.map PadMoment.ev))
  released : ∃ pressed : UInt16 → Bool, reported ms BTN_LEFT =
      pressedAfter pressed (sinceReport (ms.map PadMoment.ev)) BTN_LEFT ∧
    (pressed BTN_LEFT = false → t.limits.isClickpadPressed = false)
  pending : t.limits.isClickpadPressed = false →
    seenPressed ms BTN_LEFT = false ∧ seenPressed ms BTN_RIGHT = false

/-- Where the mask has no bit of the right button, a mask that is rewritten stands for that button
alone. -/
theorem decoded_right (pressed : Bool) (mask : UInt32) :
    decodedButton (mask &&& lnot leftButtonDown ||| rightButtonDown) 0 pressed = pressed ∧
      decodedButton (mask &&& lnot leftButtonDown ||| rightButtonDown) 1 pressed = true ∧
      decodedButton (mask &&& lnot leftButtonUp ||| rightButtonUp) 0 pressed = pressed ∧
      decodedButton (mask &&& lnot leftButtonUp ||| rightButtonUp) 1 pressed = false := by
  have hdown : mask &&& lnot leftButtonDown ||| rightButtonDown = 4 := by
    rw [show lnot leftButtonDown = 0 from rfl, UInt32.and_zero, UInt32.zero_or]
    rfl
  have hup : mask &&& lnot leftButtonUp ||| rightButtonUp = 8 := by
    rw [show lnot leftButtonUp = 0 from rfl, UInt32.and_zero, UInt32.zero_or]
    rfl
  rw [hdown, hup]
  cases pressed <;> decide

end

section
variable {F : Type} {s t t' : Touchpad F} {edge : Edge}

theorem pressed_left (tp : TouchpadPacket) (seen : UInt16 → Bool) :
    pressedAfter seen (handleButtonClicks tp) BTN_LEFT =
      decodedButton tp.buttonMask 0 (seen BTN_LEFT) :=
  pressed_clicks (j := 0) (by decide) tp seen

theorem pressed_right (tp : TouchpadPacket) (seen : UInt16 → Bool) :
    pressedAfter seen (handleButtonClicks tp) BTN_RIGHT =
      decodedButton tp.buttonMask 1 (seen BTN_RIGHT) :=
  pressed_clicks (j := 1) (by decide) tp seen

theorem leftDown_iff (mask : UInt32) :
    mask &&& leftButtonDown ≠ 0 ↔ mask.toNat.testBit 0 = true :=
  and_shift_ne_zero mask (i := 0) (by decide)

theorem leftUp_iff (mask : UInt32) :
    mask &&& leftButtonUp ≠ 0 ↔ mask.toNat.testBit 1 = true :=
  and_shift_ne_zero mask (i := 1) (by decide)

/-- A packet with a press leaves a press pending. -/
theorem clickpad_presses (hbottom : edge.bottom = true)
    (hdown : s.packet.buttonMask.toNat.testBit 0 = true) :
    (handleClickpad s edge).1.limits.isClickpadPressed = true := by
  unfold handleClickpad
  rw [if_pos hbottom]
  dsimp only
  rw [if_pos ((leftDown_iff _).2 hdown)]

/-- A packet with a release only releases the button that the place of the press stands for. -/
theorem clickpad_releases (hbottom : edge.bottom = true)
    (hdown : s.packet.buttonMask.toNat.testBit 0 = false)
    (hup : s.packet.buttonMask.toNat.testBit 1 = true)
    (hright : ∀ b, 2 ≤ b → b < 4 → s.packet.buttonMask.toNat.testBit b = false)
    (seen : UInt16 → Bool) :
    (handleClickpad s edge).1.limits.isClickpadPressed = false ∧
      (pressedAfter seen (handleClickpad s edge).2 BTN_LEFT = false ∧
          pressedAfter seen (handleClickpad s edge).2 BTN_RIGHT = false ↔
        seen s.otherButton = false) := by
  have hnodown : ¬s.packet.buttonMask &&& leftButtonDown ≠ 0 := by
    rw [leftDown_iff, hdown]
    exact Bool.false_ne_true
  unfold handleClickpad Touchpad.otherButton
  rw [if_pos hbottom]
  dsimp only
  rw [if_neg hnodown, if_pos ((leftUp_iff _).2 hup)]
  refine ⟨rfl, ?_⟩
  rw [pressed_left, pressed_right]
  by_cases hside : s.buttonDownX > s.limits.clickpadLeftButtonMaxx
  · obtain ⟨-, -, hleft, hright'⟩ := decoded_right (seen BTN_LEFT) s.packet.buttonMask
    have hreleased := (decoded_right (seen BTN_RIGHT) s.packet.buttonMask).2.2.2
    simp only [if_pos hside]
    rw [hleft, hreleased, iff_true_intro rfl, and_true]
  · have hleft : decodedButton s.packet.buttonMask 0 (seen BTN_LEFT) = false := by
      unfold decodedButton
      rw [if_pos hup]
    have hsame : decodedButton s.packet.buttonMask 1 (seen BTN_RIGHT) = seen BTN_RIGHT := by
      unfold decodedButton
      rw [hright 3 (by decide) (by decide), hright 2 (by decide) (by decide)]
      rfl
    simp only [if_neg hside]
    rw [hleft, hsame, iff_true_intro rfl, true_and]

/-- A packet without a change of the pad changes neither button. -/
theorem clickpad_rests (edge : Edge) (hdown : s.packet.buttonMask.toNat.testBit 0 = false)
    (hup : s.packet.buttonMask.toNat.testBit 1 = false)
    (hright : ∀ b, 2 ≤ b → b < 4 → s.packet.buttonMask.toNat.testBit b = false)
    (seen : UInt16 → Bool) :
    (handleClickpad s edge).1.limits = s.limits ∧
      pressedAfter seen (handleClickpad s edge).2 BTN_LEFT = seen BTN_LEFT ∧
      pressedAfter seen (handleClickpad s edge).2 BTN_RIGHT = seen BTN_RIGHT := by
  have hnodown : ¬s.packet.buttonMask &&& leftButtonDown ≠ 0 := by
    rw [leftDown_iff, hdown]
    exact Bool.false_ne_true
  have hnoup : ¬s.packet.buttonMask &&& leftButtonUp ≠ 0 := by
    rw [leftUp_iff, hup]
    exact Bool.false_ne_true
  unfold handleClickpad
  split
  · dsimp only
    rw [if_neg hnodown, if_neg hnoup, pressed_left, pressed_right]
    unfold decodedButton
    rw [hup, hdown, hright 3 (by decide) (by decide), hright 2 (by decide) (by decide)]
    exact ⟨rfl, rfl, rfl⟩
  · exact ⟨rfl, rfl, rfl⟩

theorem clickpad_away (hbottom : edge.bottom = false) : handleClickpad s edge = (s, []) := by
  unfold handleClickpad
  rw [hbottom]
  rfl

end

section
variable {F : Type} [Double F] {t t' : Touchpad F} {m : PadMoment F}

/-- The touchpad that the report of a moment hands to the clickpad. -/
def PadMoment.sensed (m : PadMoment F) : Touchpad F :=
  (sensePacket (readyPacket m.before m.time)).1

/-- What the report of a moment makes of the click. -/
structure ClickReport (ms : List (PadMoment F)) (m : PadMoment F) : Prop where
  mask : m.sensed.packet.buttonMask = (beginPacket m.before).packet.buttonMask
  pressed : m.sensed.limits.isClickpadPressed = m.before.limits.isClickpadPressed
  other : m.sensed.otherButton = m.before.otherButton
  seen : seenPressed (ms ++ [m]) =
    pressedAfter (seenPressed ms) (handleClickpad m.sensed m.edge).2
  limits : m.after.limits = (handleClickpad m.sensed m.edge).1.limits
  pad : m.after.limits.isClickpad = true
  on : m.after.state.touchpadOff = false
  sync : m.after.syncRecd = true

theorem ClickHistory.reports (h : ClickHistory ms m.before) (hout : m.out = some out)
    (hprocess : processPacket fuel (readyPacket m.before m.time) = some (m.after, out)) :
    ClickReport ms m := by
  have hbegin : (readyPacket m.before m.time).limits = m.before.limits := beginPacket_limits _
  have hstate : (readyPacket m.before m.time).state = m.before.state := beginPacket_state _
  have hdown : (beginPacket m.before).buttonDownX = m.before.buttonDownX := by
    unfold beginPacket
    split <;> rfl
  obtain ⟨p⟩ := processPacket_on ((congrArg _ hstate).trans h.on) hprocess
  have hpad : (readyPacket m.before m.time).limits.isClickpad = true :=
    (congrArg _ hbegin).trans h.pad
  have hpadded := p.pad
  rw [if_pos hpad] at hpadded
  obtain ⟨_, _, _, _, hlimits⟩ := sensePacket_limits (readyPacket m.before m.time)
  rw [hbegin] at hlimits
  have hsensed : m.sensed.limits = _ := hlimits
  constructor
  · rfl
  · rw [hsensed]
  · have hx : m.sensed.buttonDownX = m.before.buttonDownX := hdown
    unfold Touchpad.otherButton
    rw [hsensed, hx]
  · rw [seenPressed_snoc, hout]
    exact congrArg _ (congrArg Prod.snd hpadded)
  · exact p.limits.trans (congrArg Touchpad.limits (congrArg Prod.fst hpadded))
  · exact p.isClickpad.trans hpad
  · exact p.off.trans ((congrArg _ hstate).trans h.on)
  · exact p.syncRecd

/-- The bits of the mask that a clickpad's packet can have. -/
theorem ClickHistory.bits (h : ClickHistory ms m.before) (hm : ClickReport ms m) :
    (m.sensed.packet.buttonMask.toNat.testBit 0 = true ↔
      ∃ e ∈ sinceReport (ms.map PadMoment.ev),
        e.type = EV_KEY ∧ e.code = BTN_LEFT ∧ e.value ≠ 0) ∧
    (m.sensed.packet.buttonMask.toNat.testBit 1 = true ↔
      ∃ e ∈ sinceReport (ms.map PadMoment.ev),
        e.type = EV_KEY ∧ e.code = BTN_LEFT ∧ e.value = 0) ∧
    ∀ b, 2 ≤ b → b < 4 → m.sensed.packet.buttonMask.toNat.testBit b = false := by
  rw [hm.mask]
  refine ⟨h.recorded.pressed 0 (by decide), h.recorded.released 0 (by decide), ?_⟩
  intro b hge hlt
  have hcase : b = 2 ∨ b = 3 := by omega
  rw [← Bool.not_eq_true]
  obtain rfl | rfl := hcase
  · intro hbit
    obtain ⟨e, hmem, htype, hcode, -⟩ := (h.recorded.pressed 1 (by decide)).1 hbit
    exact h.oneButton e hmem ⟨htype, hcode⟩
  · intro hbit
    obtain ⟨e, hmem, htype, hcode, -⟩ := (h.recorded.released 1 (by decide)).1 hbit
    exact h.oneButton e hmem ⟨htype, hcode⟩

omit [Double F] in
/-- A packet without a change of the pad, which is released, finds no press pending. -/
theorem ClickHistory.resting (h : ClickHistory ms t) (hreleased : reported ms BTN_LEFT = false)
    (hpress : ¬∃ e ∈ sinceReport (ms.map PadMoment.ev),
      e.type = EV_KEY ∧ e.code = BTN_LEFT ∧ e.value ≠ 0)
    (hrelease : ¬∃ e ∈ sinceReport (ms.map PadMoment.ev),
      e.type = EV_KEY ∧ e.code = BTN_LEFT ∧ e.value = 0) :
    t.limits.isClickpadPressed = false := by
  obtain ⟨pressed, hreported, hsettled⟩ := h.released
  rw [hreleased] at hreported
  obtain hin | hbefore := (pressedAfter_unpressed pressed hpress).1 hreported.symm
  · exact absurd hin hrelease
  · exact hsettled hbefore

omit [Double F] in
theorem otherButton_free (h : seenPressed ms BTN_LEFT = false)
    (h' : seenPressed ms BTN_RIGHT = false) (t : Touchpad F) :
    seenPressed ms t.otherButton = false := by
  unfold Touchpad.otherButton
  split
  · exact h
  · exact h'

/-- The click is completed unless the packet loses its release. -/
theorem ClickHistory.completed_iff (h : ClickHistory ms m.before) (hm : ClickReport ms m) :
    m.Completed ms ↔ ¬m.LosesRelease ms := by
  obtain ⟨hdown, hup, hright⟩ := h.bits hm
  unfold PadMoment.Completed PadMoment.LosesRelease
  rw [hm.seen, hm.limits, ← hdown]
  by_cases hreport : m.ev.isReport = true
  · by_cases hreleased : reported ms BTN_LEFT = false
    · simp only [hreport, hreleased, forall_const, true_and]
      cases hbottom : m.edge.bottom with
      | false =>
        rw [clickpad_away hbottom, hm.pressed]
        simp only [pressedAfter_nil, true_and, Bool.false_eq_true, false_and, or_false,
          Bool.not_eq_true]
        constructor
        · exact fun hall => hall.2.2
        · exact fun hfree => ⟨(h.pending hfree).1, (h.pending hfree).2, hfree⟩
      | true =>
        cases hbit : m.sensed.packet.buttonMask.toNat.testBit 0 with
        | true =>
          rw [clickpad_presses hbottom hbit]
          simp
        | false =>
          simp only [Bool.true_eq_false, false_and, Bool.false_eq_true, false_or, true_and,
            Bool.not_eq_true]
          cases hbit' : m.sensed.packet.buttonMask.toNat.testBit 1 with
          | true =>
            obtain ⟨hpressed, hiff⟩ := clickpad_releases hbottom hbit hbit' hright (seenPressed ms)
            rw [hpressed, iff_true_intro rfl, and_true, hiff, hm.other]
          | false =>
            obtain ⟨hlimits, hleft, hright'⟩ :=
              clickpad_rests m.edge hbit hbit' hright (seenPressed ms)
            have hnopress := (not_congr hdown).1 (Bool.eq_false_iff.1 hbit)
            have hnorelease := (not_congr hup).1 (Bool.eq_false_iff.1 hbit')
            have hfree := h.resting hreleased hnopress hnorelease
            obtain ⟨hl, hr⟩ := h.pending hfree
            rw [hlimits, hleft, hright', hm.pressed]
            exact iff_of_true ⟨hl, hr, hfree⟩ (otherButton_free hl hr _)
    · exact iff_of_true (fun _ hreleased' => absurd hreleased' hreleased)
        fun hloses => hreleased hloses.2.1
  · exact iff_of_true (fun hrep => absurd hrep hreport) fun hloses => hreport hloses.1

theorem ClickHistory.report (h : ClickHistory ms m.before) (hm : ClickReport ms m)
    (hreport : m.ev.isReport = true) (hcompleted : m.Completed ms) :
    ClickHistory (ms ++ [m]) m.after := by
  obtain ⟨hdown, hup, hright⟩ := h.bits hm
  have hsince : sinceReport ((ms ++ [m]).map PadMoment.ev) = [] := by
    rw [List.map_append, List.map_singleton, sinceReport_snoc, hreport]
    rfl
  have hreported : reported (ms ++ [m]) = reported ms := reported_report ms hreport
  constructor
  · exact hm.pad
  · exact hm.on
  · rw [hsince]
    unfold beginPacket
    rw [if_pos hm.sync]
    exact .empty
  · rw [hsince]
    intro e he
    cases he
  · rw [hsince, hreported]
    exact ⟨reported ms, rfl, fun hreleased => (hcompleted hreport hreleased).2.2⟩
  · intro hfree
    cases hbottom : m.edge.bottom with
    | false =>
      have haway := clickpad_away (s := m.sensed) hbottom
      rw [hm.limits, haway, hm.pressed] at hfree
      rw [hm.seen, haway]
      exact h.pending hfree
    | true =>
      cases hbit : m.sensed.packet.buttonMask.toNat.testBit 0 with
      | true =>
        rw [hm.limits, clickpad_presses hbottom hbit] at hfree
        cases hfree
      | false =>
        have hnopress := (not_congr hdown).1 (Bool.eq_false_iff.1 hbit)
        cases hbit' : m.sensed.packet.buttonMask.toNat.testBit 1 with
        | true =>
          -- The packet only releases, so the pad is released and the click was completed.
          obtain ⟨pressed, hlast, -⟩ := h.released
          have hreleased := (pressedAfter_unpressed pressed hnopress).2 (.inl (hup.1 hbit'))
          obtain ⟨hleft, hright', -⟩ := hcompleted hreport (hlast.trans hreleased)
          exact ⟨hleft, hright'⟩
        | false =>
          obtain ⟨hlimits, hleft, hright'⟩ :=
            clickpad_rests m.edge hbit hbit' hright (seenPressed ms)
          rw [hm.limits, hlimits, hm.pressed] at hfree
          rw [hm.seen, hleft, hright']
          exact h.pending hfree

omit [Double F] in
theorem ClickHistory.fill (h : ClickHistory ms m.before) (hreport : m.ev.isReport = false)
    (hone : ¬(m.ev.type = EV_KEY ∧ m.ev.code = BTN_RIGHT)) (hout : m.out = none)
    (hafter : m.after = { beginPacket m.before with
      packet := fillPacket (beginPacket m.before).packet m.ev }) :
    ClickHistory (ms ++ [m]) m.after := by
  have hseen : seenPressed (ms ++ [m]) = seenPressed ms := by
    rw [seenPressed_snoc, hout]
    rfl
  have hsince : sinceReport ((ms ++ [m]).map PadMoment.ev) =
      sinceReport (ms.map PadMoment.ev) ++ [m.ev] := by
    rw [List.map_append, List.map_singleton, sinceReport_snoc, hreport]
    rfl
  have hlimits : m.after.limits = m.before.limits := by
    rw [hafter]
    exact beginPacket_limits m.before
  have hbegin : beginPacket m.after = m.after := by
    rw [hafter]
    exact beginPacket_filled _ _
  constructor
  · rw [hlimits]
    exact h.pad
  · rw [hafter]
    exact (congrArg _ (beginPacket_state m.before)).trans h.on
  · rw [hbegin, hafter, hsince]
    exact h.recorded.snoc m.ev
  · rw [hsince]
    intro e he
    obtain he | he := List.mem_append.1 he
    · exact h.oneButton e he
    · rw [List.mem_singleton.1 he]
      exact hone
  · obtain ⟨pressed, hreported, hsettled⟩ := h.released
    rw [hlimits, hsince]
    refine ⟨pressed, ?_, hsettled⟩
    rw [reported_snoc, pressedAfter_append]
    exact pressedAfter_congr hreported _
  · rw [hlimits, hseen]
    exact h.pending

theorem ClickHistory.step (h : ClickHistory ms t) (hstep : m.Step t t')
    (hone : ¬(m.ev.type = EV_KEY ∧ m.ev.code = BTN_RIGHT)) :
    (m.Completed ms ↔ ¬m.LosesRelease ms) ∧ (m.Completed ms → ClickHistory (ms ++ [m]) t') := by
  obtain ⟨rfl, rfl, fuel, hevent⟩ := hstep
  obtain ⟨hreport, hout, hafter⟩ | ⟨hreport, out, hout, hprocess⟩ := touchpadEvent_cases hevent
  · have hno : m.ev.isReport ≠ true := by
      rw [hreport]
      exact Bool.false_ne_true
    refine ⟨?_, fun _ => h.fill hreport hone hout hafter⟩
    exact iff_of_true (fun hrep => absurd hrep hno) fun hloses => hno hloses.1
  · have hm := h.reports hout hprocess
    exact ⟨h.completed_iff hm, h.report hm hreport⟩

omit [Double F] in
theorem ClickHistory.start (hpad : t.limits.isClickpad = true)
    (hon : t.state.touchpadOff = false) (hsync : t.syncRecd = true)
    (hpressed : t.limits.isClickpadPressed = false) : ClickHistory [] t where
  pad := hpad
  on := hon
  recorded := by
    unfold beginPacket
    rw [if_pos hsync]
    exact .empty
  oneButton e he := by cases he
  released := ⟨_, rfl, fun _ => hpressed⟩
  pending _ := ⟨rfl, rfl⟩

/-- The clicks of a clickpad are completed exactly in the runs none of whose packets loses the
release. -/
theorem clicks_completed_iff {t₀ : Touchpad F} (hpad : t₀.limits.isClickpad = true)
    (hon : t₀.state.touchpadOff = false) (hsync : t₀.syncRecd = true)
    (hpressed : t₀.limits.isClickpadPressed = false) (hone : NoRightButton (ms.map PadMoment.ev))
    (h : Run PadMoment.Step t₀ ms t) :
    Throughout PadMoment.Completed ms ↔ Throughout (fun past m => ¬m.LosesRelease past) ms := by
  suffices hboth : (Throughout PadMoment.Completed ms ↔
      Throughout (fun past m => ¬m.LosesRelease past) ms) ∧
      (Throughout PadMoment.Completed ms → ClickHistory ms t) from hboth.1
  induction h with
  | nil => exact ⟨iff_of_true .nil .nil, fun _ => .start hpad hon hsync hpressed⟩
  | @snoc past _ m _ hrun hstep ih =>
    rw [List.map_append] at hone
    obtain ⟨hiff, hhistory⟩ := ih fun e he => hone e (List.mem_append_left _ he)
    have hlast := hone m.ev (List.mem_append_right _ (List.mem_singleton_self _))
    refine ⟨⟨?_, ?_⟩, ?_⟩
    · intro hcompleted
      obtain ⟨hpast, hnow⟩ := hcompleted.of_snoc
      exact (hiff.1 hpast).snoc (((hhistory hpast).step hstep hlast).1.1 hnow)
    · intro hkept
      obtain ⟨hpast, hnow⟩ := hkept.of_snoc
      have hcompleted := hiff.2 hpast
      exact hcompleted.snoc (((hhistory hcompleted).step hstep hlast).1.2 hnow)
    · intro hcompleted
      obtain ⟨hpast, hnow⟩ := hcompleted.of_snoc
      exact ((hhistory hpast).step hstep hlast).2 hnow

end

instance [Double F] (past : List (PadMoment F)) (m : PadMoment F) :
    Decidable (m.LosesRelease past) :=
  inferInstanceAs (Decidable (_ ∧ _))

/-- A clickpad with its right button on the right half. -/
def restingClickpad : Touchpad ℚ :=
  { restingTouchpad with limits := { restingTouchpad.limits with
      isClickpad := true, clickpadLeftButtonMaxx := 500 } }

/-- The pad is pressed on the bottom edge. -/
def pressPad : List InputEvent :=
  [⟨EV_KEY, UInt16.ofNat BTN_TOUCH, 1⟩, ⟨EV_ABS, ABS_X, 700⟩, ⟨EV_ABS, ABS_Y, 900⟩,
    ⟨EV_KEY, BTN_LEFT, 1⟩] ++ eventSync

def releasePad : List InputEvent :=
  [⟨EV_KEY, BTN_LEFT, 0⟩] ++ eventSync

/-- The finger stays where it is. -/
theorem clicks_completed_still : ∃ ms t, Run PadMoment.Step restingClickpad ms t ∧
    ms.map PadMoment.ev = pressPad ++ releasePad ∧ Throughout PadMoment.Completed ms := by
  obtain ⟨⟨ms, t⟩, hplay, hfacts⟩ := Option.map_eq_some_iff.1
    (show ((playEvents 2 restingClickpad (pressPad ++ releasePad)).map fun r =>
        (r.1.map PadMoment.ev,
          Throughout.check (fun past m => ¬PadMoment.LosesRelease past m) [] r.1)) =
      some (pressPad ++ releasePad, true) by decide +kernel)
  obtain ⟨hevents, hkept⟩ := Prod.mk.inj hfacts
  have hrun := playEvents_run hplay
  have hone : NoRightButton (ms.map PadMoment.ev) := by
    rw [hevents]
    unfold NoRightButton
    decide
  refine ⟨ms, t, hrun, hevents, (clicks_completed_iff rfl rfl rfl rfl hone hrun).2 ?_⟩
  exact Throughout.of_check .nil hkept

/-- The finger leaves the bottom edge before the pad is released: the right button stays pressed. -/
theorem click_left_open : ∃ ms t, Run PadMoment.Step restingClickpad ms t ∧
    NoRightButton (ms.map PadMoment.ev) ∧ ¬Throughout PadMoment.Completed ms := by
  obtain ⟨⟨ms, t⟩, hplay, hfacts⟩ := Option.map_eq_some_iff.1
    (show ((playEvents 2 restingClickpad
        (pressPad ++ [⟨EV_ABS, ABS_Y, 500⟩] ++ eventSync ++ releasePad)).map fun r =>
        (r.1.map PadMoment.ev, seenPressed r.1 BTN_RIGHT, reported r.1 BTN_LEFT)) =
      some (pressPad ++ [⟨EV_ABS, ABS_Y, 500⟩] ++ eventSync ++ releasePad, true, false) by
        decide +kernel)
  obtain ⟨hevents, hfacts⟩ := Prod.mk.inj hfacts
  obtain ⟨hseen, hreported⟩ := Prod.mk.inj hfacts
  refine ⟨ms, t, playEvents_run hplay, ?_, ?_⟩
  · rw [hevents]
    unfold NoRightButton
    decide
  · intro hcompleted
    cases playEvents_run hplay with
    | nil => cases hevents
    | @snoc past _ m _ hbefore hstep =>
      rw [List.map_append] at hevents
      have hlast := congrArg List.getLast? hevents
      rw [List.map_singleton, List.getLast?_concat] at hlast
      have hreport : m.ev.isReport = true := by
        rw [Option.some.inj hlast]
        rfl
      rw [reported_report past hreport] at hreported
      have hright := (hcompleted.of_snoc.2 hreport hreported).2.1
      rw [hseen] at hright
      cases hright

end InputServer
