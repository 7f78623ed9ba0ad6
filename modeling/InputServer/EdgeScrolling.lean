import InputServer.Reachable
import InputServer.RangeAdjustment
import InputServer.TouchpadPackets

namespace InputServer
set_option autoImplicit true

def wheelUps (es : List InputEvent) : Nat :=
  es.count { type := EV_REL, code := REL_WHEEL, value := 1 }

def wheelDowns (es : List InputEvent) : Nat :=
  es.count { type := EV_REL, code := REL_WHEEL, value := -1 }

/-- The loop that goes down ends within reach of the finger, and not beyond it. -/
theorem downRound_ends {y delta : Int} (hdelta : 0 < delta) (s : Int) (n : Nat)
    (hn : (y - s).toNat < n) : ∃ r, Loop (downRound y delta) n (0, s) = some r ∧
      0 ≤ r.1 ∧ r.2 = s + r.1 * delta ∧ y - r.2 ≤ delta ∧ (r.1 = 0 ∨ 0 < y - r.2) := by
  apply Loop.total (I := fun x => 0 ≤ x.1 ∧ x.2 = s + x.1 * delta ∧ (x.1 = 0 ∨ 0 < y - x.2))
    (fun x => (y - x.2).toNat) _ hn
  · exact ⟨Int.le_refl 0, by simp, .inl rfl⟩
  · rintro ⟨down, scrollY⟩ ⟨hcount, hscroll, hbeyond⟩
    unfold downRound Loop.whileRound
    dsimp only at hcount hscroll hbeyond ⊢
    by_cases htest : y - scrollY > delta
    · rw [if_pos (decide_eq_true htest)]
      have hnext : scrollY + delta = s + (down + 1) * delta := by
        rw [hscroll, Int.add_mul, Int.one_mul, Int.add_assoc]
      refine ⟨⟨by omega, hnext, .inr (by omega)⟩, by omega⟩
    · rw [if_neg (by rw [decide_eq_false htest]; exact Bool.false_ne_true)]
      exact ⟨hcount, hscroll, by omega, hbeyond⟩

theorem upRound_ends {y delta : Int} (hdelta : 0 < delta) (s : Int) (n : Nat)
    (hn : (s - y).toNat < n) : ∃ r, Loop (upRound y delta) n (0, s) = some r ∧
      0 ≤ r.1 ∧ r.2 = s - r.1 * delta ∧ -delta ≤ y - r.2 ∧ (r.1 = 0 ∨ y - r.2 < 0) := by
  apply Loop.total (I := fun x => 0 ≤ x.1 ∧ x.2 = s - x.1 * delta ∧ (x.1 = 0 ∨ y - x.2 < 0))
    (fun x => (x.2 - y).toNat) _ hn
  · exact ⟨Int.le_refl 0, by simp, .inl rfl⟩
  · rintro ⟨up, scrollY⟩ ⟨hcount, hscroll, hbeyond⟩
    unfold upRound Loop.whileRound
    dsimp only at hcount hscroll hbeyond ⊢
    by_cases htest : y - scrollY < -delta
    · rw [if_pos (decide_eq_true htest)]
      have hnext : scrollY - delta = s - (up + 1) * delta := by
        rw [hscroll, Int.add_mul, Int.one_mul]
        omega
      refine ⟨⟨by omega, hnext, .inr (by omega)⟩, by omega⟩
    · rw [if_neg (by rw [decide_eq_false htest]; exact Bool.false_ne_true)]
      exact ⟨hcount, hscroll, by omega, hbeyond⟩

/-- The countdown sends one wheel event for each count. -/
theorem emitRound_ends (scroll : ScrollType) (count : Int) (sent : List InputEvent) (n : Nat)
    (hn : count.toNat < n) : ∃ r, Loop (emitRound scroll) n (count, sent) = some r ∧
      r.2 = sent ++ (List.replicate count.toNat (eventScroll scroll)).flatten := by
  induction n generalizing count sent with
  | zero => exact absurd hn (Nat.not_lt_zero _)
  | succ n ih =>
    by_cases hpos : count > 0
    · have hround : emitRound scroll (count, sent) =
          .inr (count - 1, sent ++ eventScroll scroll) := if_pos hpos
      obtain ⟨r, hrun, hsent⟩ := ih (count - 1) (sent ++ eventScroll scroll) (by omega)
      have hcount : count.toNat = (count - 1).toNat + 1 := by omega
      refine ⟨r, (Loop.again hround n).trans hrun, ?_⟩
      rw [hsent, hcount, List.replicate_succ, List.flatten_cons, List.append_assoc]
    · have hround : emitRound scroll (count, sent) = .inl (count - 1, sent) := if_neg hpos
      have hzero : count.toNat = 0 := by omega
      refine ⟨_, Loop.leave hround n, ?_⟩
      rw [hzero]
      exact (List.append_nil sent).symm

section
variable {F : Type} [Double F] {t₀ t t' : Touchpad F} {edge : Edge} {ts ts' : TouchpadState F}

omit [Double F] in
theorem catchUp_mono (h : catchUp n t = some ts) (hnm : n ≤ m) : catchUp m t = some ts := by
  unfold catchUp at h ⊢
  dsimp only at h ⊢
  split at h
  · rename_i hscrolls
    rw [if_pos hscrolls]
    obtain ⟨down, hdown, h⟩ := Option.bind_eq_some_iff.1 h
    obtain ⟨up, hup, h⟩ := Option.bind_eq_some_iff.1 h
    exact Option.bind_eq_some_iff.2 ⟨down, Loop.mono hdown hnm,
      Option.bind_eq_some_iff.2 ⟨up, Loop.mono hup hnm, h⟩⟩
  · rename_i hscrolls
    rw [if_neg hscrolls]
    exact h

theorem autoScroll_mono (h : autoScroll n timestamp ts = some ts') (hnm : n ≤ m) :
    autoScroll m timestamp ts = some ts' := by
  unfold autoScroll at h ⊢
  split at h
  · rename_i hzero
    rw [if_pos hzero]
    exact h
  · rename_i hzero
    rw [if_neg hzero]
    dsimp only at h ⊢
    split at h
    · rename_i hsecs
      rw [if_pos hsecs]
      obtain ⟨down, hdown, h⟩ := Option.bind_eq_some_iff.1 h
      obtain ⟨up, hup, h⟩ := Option.bind_eq_some_iff.1 h
      exact Option.bind_eq_some_iff.2 ⟨down, Loop.mono hdown hnm,
        Option.bind_eq_some_iff.2 ⟨up, Loop.mono hup hnm, h⟩⟩
    · rename_i hsecs
      rw [if_neg hsecs]
      exact h

/-- More rounds than enough change nothing. -/
theorem handleScrolling_mono (h : handleScrolling n t edge = some (t', sent)) (hnm : n ≤ m) :
    handleScrolling m t edge = some (t', sent) := by
  unfold handleScrolling at h ⊢
  split at h
  · rename_i hoff
    rw [if_pos hoff]
    exact h
  · rename_i hoff
    rw [if_neg hoff]
    obtain ⟨ts, hcatch, h⟩ := Option.bind_eq_some_iff.1 h
    obtain ⟨ts', hauto, h⟩ := Option.bind_eq_some_iff.1 h
    obtain ⟨up, hup, h⟩ := Option.bind_eq_some_iff.1 h
    obtain ⟨down, hdown, h⟩ := Option.bind_eq_some_iff.1 h
    exact Option.bind_eq_some_iff.2 ⟨ts, catchUp_mono hcatch hnm,
      Option.bind_eq_some_iff.2 ⟨ts', autoScroll_mono hauto hnm,
        Option.bind_eq_some_iff.2 ⟨up, Loop.mono hup hnm,
          Option.bind_eq_some_iff.2 ⟨down, Loop.mono hdown hnm, h⟩⟩⟩⟩

/-- The corners and the count of packets leave the stroke as it is. -/
structure SameStroke (t t' : Touchpad F) : Prop where
  vertScrollOn : t'.state.vertScrollOn = t.state.vertScrollOn
  scrollY : t'.state.scrollY = t.state.scrollY
  scrolldata : t'.state.scrolldata = t.state.scrolldata

omit [Double F] in
theorem SameStroke.trans {t'' : Touchpad F} (h : SameStroke t t') (h' : SameStroke t' t'') :
    SameStroke t t'' :=
  ⟨h'.1.trans h.1, h'.2.trans h.2, h'.3.trans h.3⟩

theorem leaveCorner_stroke (t : Touchpad F) (edge : Edge) : SameStroke t (leaveCorner t edge) := by
  unfold leaveCorner
  dsimp only
  split <;> split <;> exact ⟨rfl, rfl, rfl⟩

theorem enterCorner_stroke (t : Touchpad F) (edge : Edge) :
    SameStroke t (enterCorner t edge).1 ∧ (enterCorner t edge).2 = [] := by
  unfold enterCorner
  split
  · unfold startCornerScrolling
    dsimp only
    split
    · split <;> exact ⟨⟨rfl, rfl, rfl⟩, rfl⟩
    · exact ⟨⟨rfl, rfl, rfl⟩, rfl⟩
  · exact ⟨⟨rfl, rfl, rfl⟩, rfl⟩

omit [Double F] in
theorem countPacket_stroke (t : Touchpad F) : SameStroke t (countPacket t) := by
  unfold countPacket
  split <;> exact ⟨rfl, rfl, rfl⟩

/-- Where the stroke of a finger on the right edge is: it begins where the finger comes down. -/
def Touchpad.strokeY (t : Touchpad F) : Int :=
  if t.state.lastFingertouching then t.state.scrollY else t.yValue

/-- A finger that stays on the right edge goes on with its stroke, or begins one. -/
theorem followStroke_stroke (hfinger : t.packet.fingertouching = true)
    (hright : edge.right = true)
    (hstroke : t.state.lastFingertouching = true → t.state.vertScrollOn = true) :
    (followStroke t edge).1.state.vertScrollOn = true ∧
      (followStroke t edge).1.state.scrollY = t.strokeY ∧
      (followStroke t edge).1.state.scrolldata = resetScrollData ∧
      (followStroke t edge).2 = [] := by
  let reset : Touchpad F := { t with state := { t.state with scrolldata := resetScrollData } }
  have hbegin : (beginStroke reset edge).state.vertScrollOn = true ∧
      (beginStroke reset edge).state.scrollY = t.strokeY ∧
      (beginStroke reset edge).state.scrolldata = resetScrollData ∧
      (beginStroke reset edge).packet.fingertouching = true := by
    unfold beginStroke Touchpad.strokeY
    dsimp only [reset]
    rw [hfinger]
    cases hlast : t.state.lastFingertouching with
    | false =>
      rw [hright]
      exact ⟨rfl, rfl, rfl, hfinger⟩
    | true => exact ⟨hstroke hlast, rfl, rfl, hfinger⟩
  have hend : endStroke (beginStroke reset edge) edge = beginStroke reset edge := by
    unfold endStroke
    rw [hbegin.2.2.2, hright, Bool.not_true, Bool.or_self, Bool.and_false,
      if_neg Bool.false_ne_true]
  have hrest : SameStroke (beginStroke reset edge) (followStroke t edge).1 := by
    have hleave := leaveCorner_stroke (beginStroke reset edge) edge
    have henter := (enterCorner_stroke (leaveCorner (beginStroke reset edge) edge) edge).1
    unfold followStroke
    dsimp only
    rw [hend]
    exact (hleave.trans henter).trans (countPacket_stroke _)
  refine ⟨hrest.vertScrollOn.trans hbegin.1, hrest.scrollY.trans hbegin.2.1,
    hrest.scrolldata.trans hbegin.2.2.1, ?_⟩
  exact (enterCorner_stroke _ edge).2

/-- One packet of a stroke: wheel events one way only, as many as the reference has moved by, and
the reference within reach of the finger. -/
structure Scrolls (y reference dist : Int) (t' : Touchpad F) (wheel : List InputEvent) : Prop where
  on : t'.state.vertScrollOn = true
  oneWay : wheelUps wheel = 0 ∨ wheelDowns wheel = 0
  moved : ((wheelDowns wheel : Int) - wheelUps wheel) * dist = t'.state.scrollY - reference
  reach : |y - t'.state.scrollY| ≤ dist

theorem wheel_replicate (n : Nat) :
    wheelUps (List.replicate n (eventScroll .up)).flatten = n ∧
      wheelDowns (List.replicate n (eventScroll .up)).flatten = 0 ∧
      wheelUps (List.replicate n (eventScroll .down)).flatten = 0 ∧
      wheelDowns (List.replicate n (eventScroll .down)).flatten = n := by
  induction n with
  | zero => exact ⟨rfl, rfl, rfl, rfl⟩
  | succ n ih =>
    obtain ⟨huu, hud, hdu, hdd⟩ := ih
    unfold wheelUps wheelDowns at *
    simp only [List.replicate_succ, List.flatten_cons, List.count_append, huu, hud, hdu, hdd]
    have hone : List.count (⟨EV_REL, REL_WHEEL, 1⟩ : InputEvent) (eventScroll .up) = 1 := by decide
    have hnone : List.count (⟨EV_REL, REL_WHEEL, -1⟩ : InputEvent) (eventScroll .up) = 0 := by
      decide
    have hnone' : List.count (⟨EV_REL, REL_WHEEL, 1⟩ : InputEvent) (eventScroll .down) = 0 := by
      decide
    have hone' : List.count (⟨EV_REL, REL_WHEEL, -1⟩ : InputEvent) (eventScroll .down) = 1 := by
      decide
    rw [hone, hnone, hnone', hone']
    omega

omit [Double F] in
/-- The two loops together: one of them does nothing, and the reference is in reach. -/
theorem catchUp_ends (hon : t.state.vertScrollOn = true) (hdist : 0 < t.limits.scrollDistVert)
    (hdata : t.state.scrolldata = resetScrollData) : ∃ n down up scrollY,
      catchUp n t = some { t.state with
        scrolldata := { resetScrollData with up := up, down := down }, scrollY := scrollY } ∧
      0 ≤ up ∧ 0 ≤ down ∧ (up = 0 ∨ down = 0) ∧
      (down - up) * t.limits.scrollDistVert = scrollY - t.state.scrollY ∧
      |t.yValue - scrollY| ≤ t.limits.scrollDistVert := by
  obtain ⟨⟨down, s⟩, hdown, hdown0, hs, hreach, hbeyond⟩ :=
    downRound_ends (y := t.yValue) hdist t.state.scrollY _ (Nat.lt_succ_self _)
  obtain ⟨⟨up, s'⟩, hup, hup0, hs', hreach', hbeyond'⟩ :=
    upRound_ends (y := t.yValue) hdist s _ (Nat.lt_succ_self _)
  dsimp only at hdown0 hs hreach hbeyond hup0 hs' hreach' hbeyond'
  have hmoves : 0 ≤ up * t.limits.scrollDistVert := Int.mul_nonneg hup0 (Int.le_of_lt hdist)
  refine ⟨(t.yValue - t.state.scrollY).toNat + 1 + ((s - t.yValue).toNat + 1), down, up, s', ?_,
    hup0, hdown0, ?_, ?_, ?_⟩
  · have hdata' : t.state.scrolldata.down = 0 ∧ t.state.scrolldata.up = 0 := by
      rw [hdata]
      exact ⟨rfl, rfl⟩
    unfold catchUp
    dsimp only
    rw [if_pos ⟨hon, hdist⟩, hdata'.1, hdata'.2, Loop.mono hdown (Nat.le_add_right _ _)]
    change (Loop _ _ (0, s)).bind _ = _
    rw [Loop.mono hup (Nat.le_add_left _ _), hdata]
    rfl
  · obtain hzero | habove := hbeyond'
    · exact .inl hzero
    · obtain hzero | hbelow := hbeyond
      · exact .inr hzero
      · -- The loop down has stopped short of the finger, so the loop up does not start.
        omega
  · rw [hs', hs]
    ring
  · rw [abs_le]
    obtain hzero | habove := hbeyond'
    · rw [hzero, Int.zero_mul, Int.sub_zero] at hs'
      omega
    · omega

/-- Where auto-scroll is not active, a packet on the right edge is scrolled to its end. -/
theorem handleScrolling_scrolls (henabled : t.config.scrollingEnabled = true)
    (hdist : 0 < t.limits.scrollDistVert) (hfinger : t.packet.fingertouching = true)
    (hright : edge.right = true)
    (hstroke : t.state.lastFingertouching = true → t.state.vertScrollOn = true)
    (hquiet : isZero (followStroke t edge).1.state.autoscrollYspd = true) :
    ∃ n t' wheel, handleScrolling n t edge = some (t', wheel) ∧
      Scrolls t.yValue t.strokeY t.limits.scrollDistVert t' wheel := by
  obtain ⟨hon, hstart, hdata, hsent⟩ := followStroke_stroke hfinger hright hstroke
  have honly := followStroke_only t edge
  have hdist' : 0 < (followStroke t edge).1.limits.scrollDistVert := by
    rw [honly.limits]
    exact hdist
  obtain ⟨n, down, up, scrollY, hcatch, hup0, hdown0, honeWay, hmoved, hreach⟩ :=
    catchUp_ends hon hdist' hdata
  rw [honly.limits, hstart] at hmoved
  rw [honly.limits, honly.yValue] at hreach
  obtain ⟨⟨up', sent⟩, hup, hsentUp⟩ := emitRound_ends .up up [] _ (Nat.lt_succ_self _)
  obtain ⟨⟨down', sent'⟩, hdown, hsentDown⟩ := emitRound_ends .down down sent _ (Nat.lt_succ_self _)
  dsimp only at hsentUp hsentDown
  let f := (followStroke t edge).1
  let t' : Touchpad F := { f with state := { f.state with
    scrolldata := { resetScrollData with up := up', down := down' }, scrollY := scrollY } }
  let fuel := n + (up.toNat + 1) + (down.toNat + 1)
  refine ⟨fuel, t', sent', ?_, ?_⟩
  · have hno : ¬(!t.config.scrollingEnabled) = true := by
      rw [henabled]
      exact Bool.false_ne_true
    have hauto (ts : TouchpadState F) (hts : ts.autoscrollYspd = f.state.autoscrollYspd) :
        autoScroll fuel f.packet.timestamp ts = some ts := by
      unfold autoScroll
      rw [hts, if_pos hquiet]
      rfl
    have hcatch' := catchUp_mono hcatch (show n ≤ fuel by omega)
    have hup' := Loop.mono hup (show up.toNat + 1 ≤ fuel by omega)
    have hdown' := Loop.mono hdown (show down.toNat + 1 ≤ fuel by omega)
    unfold handleScrolling
    rw [if_neg hno]
    dsimp only
    rw [hsent]
    refine Option.bind_eq_some_iff.2 ⟨_, hcatch', Option.bind_eq_some_iff.2 ⟨_, hauto _ rfl, ?_⟩⟩
    exact Option.bind_eq_some_iff.2 ⟨_, hup', Option.bind_eq_some_iff.2 ⟨_, hdown', rfl⟩⟩
  · have hups : wheelUps sent' = up.toNat := by
      rw [hsentDown, hsentUp, List.nil_append]
      unfold wheelUps
      rw [List.count_append]
      change wheelUps _ + wheelUps _ = _
      rw [(wheel_replicate up.toNat).1, (wheel_replicate down.toNat).2.2.1, Nat.add_zero]
    have hdowns : wheelDowns sent' = down.toNat := by
      rw [hsentDown, hsentUp, List.nil_append]
      unfold wheelDowns
      rw [List.count_append]
      change wheelDowns _ + wheelDowns _ = _
      rw [(wheel_replicate up.toNat).2.1, (wheel_replicate down.toNat).2.2.2, Nat.zero_add]
    constructor
    · exact hon
    · rw [hups, hdowns]
      omega
    · rw [hups, hdowns, Int.toNat_of_nonneg hup0, Int.toNat_of_nonneg hdown0]
      exact hmoved
    · exact hreach

/-- What `process_packet` hands to `handle_scrolling`. -/
def handedToScroll (t : Touchpad F) : Touchpad F :=
  (handleGestures (if t.limits.isClickpad then
    (handleClickpad (sensePacket t).1 (sensePacket t).2).1 else (sensePacket t).1)).1

/-- Nothing of a stroke is changed on the way to the scrolling. -/
structure HandedStroke (t u : Touchpad F) : Prop where
  config : u.config = t.config
  dist : u.limits.scrollDistVert = t.limits.scrollDistVert
  finger : u.packet.fingertouching = detectFinger t
  lastFinger : u.state.lastFingertouching = t.state.lastFingertouching
  vertScrollOn : u.state.vertScrollOn = t.state.vertScrollOn
  strokeY : u.strokeY = t.strokeY
  yValue : u.yValue = t.yValue

theorem handedToScroll_handed (t : Touchpad F) : HandedStroke t (handedToScroll t) := by
  have hpad : OnlyClicks (sensePacket t).1 (if t.limits.isClickpad then
      (handleClickpad (sensePacket t).1 (sensePacket t).2).1 else (sensePacket t).1) := by
    split
    · exact handleClickpad_only _ _
    · exact ⟨rfl, rfl, rfl, rfl, rfl, rfl, rfl, _, rfl⟩
  unfold handedToScroll
  generalize (if t.limits.isClickpad then
    (handleClickpad (sensePacket t).1 (sensePacket t).2).1 else (sensePacket t).1) = u at hpad
  have htap := handleGestures_only u
  obtain ⟨_, hpadded⟩ := hpad.limits
  obtain ⟨_, _, _, _, hsensed⟩ := sensePacket_limits t
  have hlimits : (handleGestures u).1.limits = _ :=
    htap.limits.trans (hpadded.trans (by rw [hsensed]))
  have hlast := htap.lastFinger.trans (congrArg TouchpadState.lastFingertouching hpad.state)
  have hlastY := htap.lastY.trans (congrArg TouchpadState.lastY hpad.state)
  have hy : (handleGestures u).1.packet.y = t.packet.y :=
    (congrArg TouchpadPacket.y htap.packet).trans hpad.y
  have hvalue : (handleGestures u).1.yValue = t.yValue := by
    unfold Touchpad.yValue
    rw [hy, hlimits, hlastY]
    rfl
  constructor
  · exact htap.config.trans hpad.config
  · rw [hlimits]
  · exact (congrArg TouchpadPacket.fingertouching htap.packet).trans
      (hpad.finger.trans (sensePacket_finger t))
  · exact hlast
  · exact htap.vertScrollOn.trans (congrArg TouchpadState.vertScrollOn hpad.state)
  · have hscroll := htap.scrollY.trans (congrArg TouchpadState.scrollY hpad.state)
    unfold Touchpad.strokeY
    rw [hlast, hscroll, hvalue]
    rfl
  · exact hvalue

theorem computeDeltas_stroke (t : Touchpad F) :
    SameStroke t { t with state := (computeDeltas t).1 } := by
  unfold computeDeltas
  dsimp only
  split
  · split
    · exact ⟨rfl, rfl, rfl⟩
    · split <;> exact ⟨rfl, rfl, rfl⟩
  · exact ⟨rfl, rfl, rfl⟩

/-- A packet of a stroke along the right edge, where auto-scroll does not become active. -/
structure Touchpad.OnEdge (t : Touchpad F) : Prop where
  on : t.state.touchpadOff = false
  enabled : t.config.scrollingEnabled = true
  dist : 0 < t.limits.scrollDistVert
  finger : detectFinger t = true
  right : (sensePacket t).2.right = true
  quiet : isZero (followStroke (handedToScroll t) (sensePacket t).2).1.state.autoscrollYspd = true

theorem Touchpad.OnEdge.scrolls (h : t.OnEdge)
    (hstroke : t.state.lastFingertouching = true → t.state.vertScrollOn = true) :
    ∃ n u wheel, handleScrolling n (handedToScroll t) (sensePacket t).2 = some (u, wheel) ∧
      Scrolls t.yValue t.strokeY t.limits.scrollDistVert u wheel := by
  have hhanded := handedToScroll_handed t
  rw [← hhanded.yValue, ← hhanded.strokeY, ← hhanded.dist]
  apply handleScrolling_scrolls
  · rw [hhanded.config]
    exact h.enabled
  · rw [hhanded.dist]
    exact h.dist
  · rw [hhanded.finger]
    exact h.finger
  · exact h.right
  · rw [hhanded.lastFinger, hhanded.vertScrollOn]
    exact hstroke
  · exact h.quiet

/-- The loops of such a packet end. -/
theorem Touchpad.OnEdge.ends (h : t.OnEdge)
    (hstroke : t.state.lastFingertouching = true → t.state.vertScrollOn = true) :
    ∃ n r, processPacket n t = some r := by
  obtain ⟨n, u, wheel, hscroll, -⟩ := h.scrolls hstroke
  refine ⟨n, ?_⟩
  unfold handedToScroll at hscroll
  unfold processPacket
  rw [if_neg (by rw [h.on]; exact Bool.false_ne_true)]
  dsimp only
  rw [sensePacket_isClickpad]
  cases hpad : t.limits.isClickpad with
  | false =>
    rw [hpad, if_neg Bool.false_ne_true] at hscroll
    rw [if_neg Bool.false_ne_true, hscroll]
    exact ⟨_, rfl⟩
  | true =>
    rw [hpad, if_pos rfl] at hscroll
    rw [if_pos rfl, hscroll]
    exact ⟨_, rfl⟩

namespace Processed

theorem handed (p : Processed t t' out) : p.tapped = handedToScroll t := by
  have htap : p.tapped = (handleGestures p.padded).1 := (congrArg Prod.fst p.tap).symm
  have hpad : p.padded = _ := congrArg Prod.fst p.pad
  rw [htap, hpad]
  unfold handedToScroll
  cases t.limits.isClickpad <;> rfl

/-- What a packet of a stroke does, however many rounds its loops were given. -/
theorem scrolls (p : Processed t t' out) (h : t.OnEdge)
    (hstroke : t.state.lastFingertouching = true → t.state.vertScrollOn = true) :
    Scrolls t.yValue t.strokeY t.limits.scrollDistVert t' out.wheel ∧
      t'.state.lastY = t.yValue := by
  obtain ⟨n, u, wheel, hscroll, hscrolls⟩ := h.scrolls hstroke
  obtain ⟨fuel, hfuel⟩ := p.scroll
  have hsame := handleScrolling_mono hscroll (Nat.le_max_left n fuel)
  rw [← p.handed, handleScrolling_mono hfuel (Nat.le_max_right n fuel)] at hsame
  obtain ⟨hu, hwheel⟩ := Prod.mk.inj (Option.some.inj hsame)
  have hrest : SameStroke p.scrolled p.rest := by
    rw [p.deltas]
    exact computeDeltas_stroke _
  have hon := congrArg (fun x => x.state.vertScrollOn) p.saved
  have hscrollY := congrArg (fun x => x.state.scrollY) p.saved
  have hlastY := congrArg (fun x => x.state.lastY) p.saved
  dsimp only [savePreviousPacketValues] at hon hscrollY hlastY
  constructor
  · rw [← hu, ← hwheel] at hscrolls
    constructor
    · rw [hon, hrest.vertScrollOn]
      exact hscrolls.on
    · exact hscrolls.oneWay
    · rw [hscrollY, hrest.scrollY]
      exact hscrolls.moved
    · rw [hscrollY, hrest.scrollY]
      exact hscrolls.reach
  · rw [hlastY, p.rest_only.yValue, p.handed]
    exact (handedToScroll_handed t).yValue

theorem dist (p : Processed t t' out) :
    t'.limits.scrollDistVert = t.limits.scrollDistVert := by
  obtain ⟨_, hpadded⟩ := p.padded_only.limits
  obtain ⟨_, _, _, _, hsensed⟩ := sensePacket_limits t
  rw [p.limits, hpadded, hsensed]

end Processed

namespace PadMoment

/-- A step of one stroke along the right edge: every packet in it is one of the stroke. -/
def StrokeStep (m : PadMoment F) (t t' : Touchpad F) : Prop :=
  m.Step t t' ∧ (m.ev.isReport = true → (readyPacket t m.time).OnEdge)

def wheel (m : PadMoment F) : List InputEvent :=
  m.out.elim [] PacketOutput.wheel

end PadMoment

def wheelSent (ms : List (PadMoment F)) : List InputEvent :=
  ms.flatMap PadMoment.wheel

/-- Where the finger comes down, and where the reference of the stroke is put. -/
def strokeStart (ms : List (PadMoment F)) : Option Int :=
  (ms.find? (·.ev.isReport)).map fun m => (readyPacket m.before m.time).yValue

omit [Double F] in
theorem wheelSent_snoc (ms : List (PadMoment F)) (m : PadMoment F) :
    wheelUps (wheelSent (ms ++ [m])) = wheelUps (wheelSent ms) + wheelUps m.wheel ∧
      wheelDowns (wheelSent (ms ++ [m])) = wheelDowns (wheelSent ms) + wheelDowns m.wheel := by
  unfold wheelSent wheelUps wheelDowns
  rw [List.flatMap_append, List.count_append, List.count_append, List.flatMap_singleton]
  exact ⟨rfl, rfl⟩

omit [Double F] in
theorem strokeStart_snoc (ms : List (PadMoment F)) (m : PadMoment F) :
    strokeStart (ms ++ [m]) = (strokeStart ms).or
      (if m.ev.isReport then some (readyPacket m.before m.time).yValue else none) := by
  unfold strokeStart
  rw [List.find?_append]
  cases ms.find? (·.ev.isReport) with
  | some first => rfl
  | none => cases hreport : m.ev.isReport <;> simp [hreport]

/-- What the packets of a stroke have sent, and where they have left the reference. -/
structure StrokeHistory (dist : Int) (ms : List (PadMoment F)) (t : Touchpad F) : Prop where
  step : t.limits.scrollDistVert = dist
  oneWay : ∀ m ∈ ms, wheelUps m.wheel = 0 ∨ wheelDowns m.wheel = 0
  idle : strokeStart ms = none → t.state.lastFingertouching = false ∧
    wheelUps (wheelSent ms) = 0 ∧ wheelDowns (wheelSent ms) = 0
  stroke : ∀ start, strokeStart ms = some start → t.state.lastFingertouching = true ∧
    t.state.vertScrollOn = true ∧
    ((wheelDowns (wheelSent ms) : Int) - wheelUps (wheelSent ms)) * dist = t.state.scrollY - start ∧
    |t.state.lastY - t.state.scrollY| ≤ dist

namespace StrokeHistory

variable {ms : List (PadMoment F)} {m : PadMoment F}

omit [Double F] in
/-- A finger that has stayed down has been scrolling. -/
theorem scrolling (h : StrokeHistory span ms t) (hlast : t.state.lastFingertouching = true) :
    t.state.vertScrollOn = true := by
  cases hstart : strokeStart ms with
  | none => exact absurd (hlast.symm.trans (h.idle hstart).1) (by decide)
  | some start => exact (h.stroke start hstart).2.1

omit [Double F] in
/-- An event that does not end a packet leaves the stroke. -/
theorem fill (h : StrokeHistory span ms m.before) (hquiet : m.ev.isReport = false)
    (hout : m.out = none)
    (hafter : m.after = { beginPacket m.before with
      packet := fillPacket (beginPacket m.before).packet m.ev }) :
    StrokeHistory span (ms ++ [m]) m.after := by
  have hstate : m.after.state = m.before.state := by
    rw [hafter]
    exact beginPacket_state _
  have hlimits : m.after.limits = m.before.limits := by
    rw [hafter]
    exact beginPacket_limits _
  have hwheel : m.wheel = [] := by
    unfold PadMoment.wheel
    rw [hout]
    rfl
  have hstart : strokeStart (ms ++ [m]) = strokeStart ms := by
    rw [strokeStart_snoc, hquiet, if_neg Bool.false_ne_true, Option.or_none]
  obtain ⟨hups, hdowns⟩ := wheelSent_snoc ms m
  rw [hwheel] at hups hdowns
  have hups : wheelUps (wheelSent (ms ++ [m])) = wheelUps (wheelSent ms) := hups
  have hdowns : wheelDowns (wheelSent (ms ++ [m])) = wheelDowns (wheelSent ms) := hdowns
  constructor
  · rw [hlimits]
    exact h.step
  · intro m' hm'
    obtain hm' | hm' := List.mem_append.1 hm'
    · exact h.oneWay m' hm'
    · rw [List.mem_singleton.1 hm', hwheel]
      exact .inl rfl
  · rw [hstart, hstate, hups, hdowns]
    exact h.idle
  · rw [hstart, hstate, hups, hdowns]
    exact h.stroke

/-- A packet of the stroke moves the reference by what it sends. -/
theorem report (h : StrokeHistory span ms m.before) (hreport : m.ev.isReport = true)
    (hout : m.out = some out) (hedge : (readyPacket m.before m.time).OnEdge)
    (hprocess : processPacket fuel (readyPacket m.before m.time) = some (m.after, out)) :
    StrokeHistory span (ms ++ [m]) m.after := by
  have hstate : (readyPacket m.before m.time).state = m.before.state := beginPacket_state _
  have hlimits : (readyPacket m.before m.time).limits = m.before.limits := beginPacket_limits _
  have hready : (readyPacket m.before m.time).limits.scrollDistVert = span := by
    rw [hlimits]
    exact h.step
  obtain ⟨p⟩ := processPacket_on hedge.on hprocess
  have hstroke : (readyPacket m.before m.time).state.lastFingertouching = true →
      (readyPacket m.before m.time).state.vertScrollOn = true := by
    rw [hstate]
    exact h.scrolling
  obtain ⟨hscrolls, hlastY⟩ := p.scrolls hedge hstroke
  rw [hready] at hscrolls
  have hwheel : m.wheel = out.wheel := by
    unfold PadMoment.wheel
    rw [hout]
    rfl
  obtain ⟨hups, hdowns⟩ := wheelSent_snoc ms m
  rw [hwheel] at hups hdowns
  have hmoved := hscrolls.moved
  constructor
  · exact p.dist.trans hready
  · intro m' hm'
    obtain hm' | hm' := List.mem_append.1 hm'
    · exact h.oneWay m' hm'
    · rw [List.mem_singleton.1 hm', hwheel]
      exact hscrolls.oneWay
  · intro hnone
    rw [strokeStart_snoc, hreport, if_pos rfl] at hnone
    cases hstart : strokeStart ms <;> rw [hstart] at hnone <;> cases hnone
  · intro start hsome
    rw [strokeStart_snoc, hreport, if_pos rfl] at hsome
    have hreach : |m.after.state.lastY - m.after.state.scrollY| ≤ span := by
      rw [hlastY]
      exact hscrolls.reach
    refine ⟨p.lastFinger.trans hedge.finger, hscrolls.on, ?_, hreach⟩
    rw [hups, hdowns]
    cases hstart : strokeStart ms with
    | none =>
      -- The touch-down puts the reference where the finger is.
      obtain ⟨hlast, hups₀, hdowns₀⟩ := h.idle hstart
      rw [hstart] at hsome
      cases hsome
      unfold Touchpad.strokeY at hmoved
      rw [hstate, hlast, if_neg Bool.false_ne_true] at hmoved
      rw [hups₀, hdowns₀, Nat.zero_add, Nat.zero_add]
      exact hmoved
    | some start₀ =>
      obtain ⟨hlast, -, hbefore, -⟩ := h.stroke start₀ hstart
      rw [hstart] at hsome
      cases hsome
      unfold Touchpad.strokeY at hmoved
      rw [hstate, hlast, if_pos rfl] at hmoved
      push_cast
      linarith only [hbefore, hmoved]

end StrokeHistory

theorem stroke_history (h : Run PadMoment.StrokeStep t₀ ms t)
    (h₀ : t₀.state.lastFingertouching = false) :
    StrokeHistory t₀.limits.scrollDistVert ms t := by
  refine h.invariant ⟨rfl, fun m hm => absurd hm List.not_mem_nil, fun _ => ⟨h₀, rfl, rfl⟩,
    fun start hstart => nomatch hstart⟩ ?_
  rintro ms m t t' hhistory ⟨⟨rfl, rfl, fuel, hevent⟩, hedge⟩
  obtain ⟨hquiet, hout, hafter⟩ | ⟨hreport, out, hout, hprocess⟩ := touchpadEvent_cases hevent
  · exact hhistory.fill hquiet hout hafter
  · exact hhistory.report hreport hout (hedge hreport) hprocess

/-- The wheel events of a stroke along the right edge pay for the way of its reference, which the
finger does not get out of reach of; the loops end at whatever packet comes next. -/
theorem edge_scrolling (h : Run PadMoment.StrokeStep t₀ ms t)
    (h₀ : t₀.state.lastFingertouching = false) :
    (∀ m ∈ ms, wheelUps m.wheel = 0 ∨ wheelDowns m.wheel = 0) ∧
      (∀ start, strokeStart ms = some start →
        ((wheelDowns (wheelSent ms) : Int) - wheelUps (wheelSent ms)) *
            t₀.limits.scrollDistVert = t.state.scrollY - start ∧
          |t.state.lastY - t.state.scrollY| ≤ t₀.limits.scrollDistVert) ∧
      ∀ time ev, (ev.isReport = true → (readyPacket t time).OnEdge) →
        ∃ fuel r, handleTouchpadEvent fuel t time ev = some r := by
  have hhistory := stroke_history h h₀
  refine ⟨hhistory.oneWay, fun start hstart => (hhistory.stroke start hstart).2.2, ?_⟩
  intro time ev hedge
  cases hreport : ev.isReport with
  | false =>
    refine ⟨0, ({ beginPacket t with packet := fillPacket (beginPacket t).packet ev }, none), ?_⟩
    unfold handleTouchpadEvent
    dsimp only
    rw [if_neg (by rw [hreport]; exact Bool.false_ne_true)]
    rfl
  | true =>
    have hstroke : (readyPacket t time).state.lastFingertouching = true →
        (readyPacket t time).state.vertScrollOn = true := by
      change (beginPacket t).state.lastFingertouching = true →
        (beginPacket t).state.vertScrollOn = true
      rw [beginPacket_state]
      exact hhistory.scrolling
    obtain ⟨fuel, r, hends⟩ := (hedge hreport).ends hstroke
    refine ⟨fuel, (r.1, some r.2), ?_⟩
    unfold handleTouchpadEvent
    dsimp only
    rw [if_pos hreport]
    exact Option.bind_eq_some_iff.2 ⟨r, hends, rfl⟩

end

instance (t : Touchpad F) [Double F] : Decidable t.OnEdge :=
  decidable_of_iff (t.state.touchpadOff = false ∧ t.config.scrollingEnabled = true ∧
    0 < t.limits.scrollDistVert ∧ detectFinger t = true ∧ (sensePacket t).2.right = true ∧
    isZero (followStroke (handedToScroll t) (sensePacket t).2).1.state.autoscrollYspd = true)
    ⟨fun h => ⟨h.1, h.2.1, h.2.2.1, h.2.2.2.1, h.2.2.2.2.1, h.2.2.2.2.2⟩,
      fun h => ⟨h.on, h.enabled, h.dist, h.finger, h.right, h.quiet⟩⟩

theorem strokeSteps [Double F] {t t' : Touchpad F} (h : Run PadMoment.Step t ms t')
    (hedge : ∀ m ∈ ms, m.ev.isReport = true → (readyPacket m.before m.time).OnEdge) :
    Run PadMoment.StrokeStep t ms t' := by
  induction h with
  | nil => exact .nil
  | snoc hrun hstep ih =>
    have hlast := hedge _ List.mem_concat_self
    rw [hstep.1] at hlast
    exact .snoc (ih fun m hm => hedge m (List.mem_append_left _ hm)) ⟨hstep, hlast⟩

/-- A finger goes down the right edge, leaves out its height once, and goes up again. -/
def edgeStroke : List InputEvent :=
  touchAt 900 300 ++ touchAt 900 450 ++
    [⟨EV_KEY, UInt16.ofNat BTN_TOUCH, 1⟩, ⟨EV_ABS, ABS_X, 890⟩] ++ eventSync ++ touchAt 900 200

theorem edge_scrolling_back : ∃ ms t, Run PadMoment.StrokeStep restingTouchpad ms t ∧
    wheelDowns (wheelSent ms) = 2 ∧ wheelUps (wheelSent ms) = 3 ∧ t.state.scrollY = 300 - 56 ∧
    ∀ m ∈ ms, wheelUps m.wheel = 0 ∨ wheelDowns m.wheel = 0 := by
  obtain ⟨⟨ms, t⟩, hplay, hfacts⟩ := Option.map_eq_some_iff.1
    (show ((playEvents 8 restingTouchpad edgeStroke).map fun r =>
        (decide (∀ m ∈ r.1, m.ev.isReport = true → (readyPacket m.before m.time).OnEdge),
          wheelDowns (wheelSent r.1), wheelUps (wheelSent r.1), strokeStart r.1)) =
      some (true, 2, 3, some 300) by decide +kernel)
  obtain ⟨hedge, hfacts⟩ := Prod.mk.inj hfacts
  obtain ⟨hdowns, hfacts⟩ := Prod.mk.inj hfacts
  obtain ⟨hups, hstart⟩ := Prod.mk.inj hfacts
  have hrun := strokeSteps (playEvents_run hplay) (of_decide_eq_true hedge)
  obtain ⟨honeWay, hmoved, -⟩ := edge_scrolling hrun rfl
  obtain ⟨hway, -⟩ := hmoved 300 hstart
  refine ⟨ms, t, hrun, hdowns, hups, ?_, honeWay⟩
  rw [hdowns, hups] at hway
  have hdist : restingTouchpad.limits.scrollDistVert = 56 := rfl
  rw [hdist] at hway
  omega

end InputServer
