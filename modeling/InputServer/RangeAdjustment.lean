import InputServer.Reachable
import InputServer.TouchpadPackets

namespace InputServer
set_option autoImplicit true

/-- A coordinate beyond its maximum, by no more than a tenth of the range. -/
def Tolerated (value min max : Int) : Prop :=
  value > max ∧ value - (max - min).tdiv 10 ≤ max

instance (value min max : Int) : Decidable (Tolerated value min max) :=
  inferInstanceAs (Decidable (_ ∧ _))

section
variable {F : Type}

/-- The zones at the far edges keep their widths, the maxima do not sink, and what stays within its
range or is beyond what is tolerated moves nothing. -/
structure KeepsZones (tp : TouchpadPacket) (tl tl' : TouchpadLimits F) : Prop where
  right : tl'.maxx - tl'.rightEdge = tl.maxx - tl.rightEdge
  bottom : tl'.maxy - tl'.bottomEdge = tl.maxy - tl.bottomEdge
  maxx : tl.maxx ≤ tl'.maxx
  maxy : tl.maxy ≤ tl'.maxy
  stillX : ¬Tolerated tp.x tl.minx tl.maxx → tl'.maxx = tl.maxx ∧ tl'.rightEdge = tl.rightEdge
  stillY : ¬Tolerated tp.y tl.miny tl.maxy → tl'.maxy = tl.maxy ∧ tl'.bottomEdge = tl.bottomEdge
  rest : ∃ pressed, tl' = { tl with
    rightEdge := tl'.rightEdge, maxx := tl'.maxx, bottomEdge := tl'.bottomEdge, maxy := tl'.maxy
    isClickpadPressed := pressed }

/-- What a packet of the moment leaves of the zones. -/
def PadMoment.KeepsZones (m : PadMoment F) : Prop :=
  InputServer.KeepsZones (beginPacket m.before).packet m.before.limits m.after.limits

/-- A packet that is not ignored overflows an axis, as far as is tolerated, that does not start
at zero. -/
def PadMoment.ShiftsZone (origin : TouchpadLimits F) (m : PadMoment F) : Prop :=
  let tp := (beginPacket m.before).packet
  let tl := m.before.limits
  m.ev.isReport = true ∧ m.before.state.touchpadOff = false ∧
    (Tolerated tp.x tl.minx tl.maxx ∧ origin.minx ≠ 0 ∨
      Tolerated tp.y tl.miny tl.maxy ∧ origin.miny ≠ 0)

/-- What `adjust_overflow` does to one axis. -/
theorem adjustOverflow_x (tp : TouchpadPacket) (tl : TouchpadLimits F) :
    let tl' := adjustOverflow tp tl
    if Tolerated tp.x tl.minx tl.maxx then
      tl'.maxx = tp.x ∧ tl'.rightEdge = tp.x - (tl.maxx - tl.minx - tl.rightEdge)
    else tl'.maxx = tl.maxx ∧ tl'.rightEdge = tl.rightEdge := by
  unfold adjustOverflow Tolerated
  dsimp only
  split <;> split <;> exact ⟨rfl, rfl⟩

theorem adjustOverflow_y (tp : TouchpadPacket) (tl : TouchpadLimits F) :
    let tl' := adjustOverflow tp tl
    if Tolerated tp.y tl.miny tl.maxy then
      tl'.maxy = tp.y ∧ tl'.bottomEdge = tp.y - (tl.maxy - tl.miny - tl.bottomEdge)
    else tl'.maxy = tl.maxy ∧ tl'.bottomEdge = tl.bottomEdge := by
  unfold adjustOverflow Tolerated
  dsimp only
  by_cases hx : tp.x > tl.maxx ∧ tp.x - (tl.maxx - tl.minx).tdiv 10 ≤ tl.maxx
  · rw [if_pos hx]
    dsimp only
    split <;> exact ⟨rfl, rfl⟩
  · rw [if_neg hx]
    split <;> exact ⟨rfl, rfl⟩

/-- The zones are kept where neither axis shifts. -/
theorem adjustOverflow_keeps_iff (tp : TouchpadPacket) (tl : TouchpadLimits F) :
    KeepsZones tp tl (adjustOverflow tp tl) ↔
      (Tolerated tp.x tl.minx tl.maxx → tl.minx = 0) ∧
        (Tolerated tp.y tl.miny tl.maxy → tl.miny = 0) := by
  have hx := adjustOverflow_x tp tl
  have hy := adjustOverflow_y tp tl
  dsimp only at hx hy
  constructor
  · intro h
    constructor
    · intro htolerated
      rw [if_pos htolerated] at hx
      have hright := h.right
      rw [hx.1, hx.2] at hright
      omega
    · intro htolerated
      rw [if_pos htolerated] at hy
      have hbottom := h.bottom
      rw [hy.1, hy.2] at hbottom
      omega
  · intro h
    constructor
    · by_cases htolerated : Tolerated tp.x tl.minx tl.maxx
      · rw [if_pos htolerated] at hx
        have hzero := h.1 htolerated
        rw [hx.1, hx.2]
        omega
      · rw [if_neg htolerated] at hx
        rw [hx.1, hx.2]
    · by_cases htolerated : Tolerated tp.y tl.miny tl.maxy
      · rw [if_pos htolerated] at hy
        have hzero := h.2 htolerated
        rw [hy.1, hy.2]
        omega
      · rw [if_neg htolerated] at hy
        rw [hy.1, hy.2]
    · by_cases htolerated : Tolerated tp.x tl.minx tl.maxx
      · rw [if_pos htolerated] at hx
        rw [hx.1]
        exact Int.le_of_lt htolerated.1
      · rw [if_neg htolerated] at hx
        exact Int.le_of_eq hx.1.symm
    · by_cases htolerated : Tolerated tp.y tl.miny tl.maxy
      · rw [if_pos htolerated] at hy
        rw [hy.1]
        exact Int.le_of_lt htolerated.1
      · rw [if_neg htolerated] at hy
        exact Int.le_of_eq hy.1.symm
    · intro htolerated
      rw [if_neg htolerated] at hx
      exact hx
    · intro htolerated
      rw [if_neg htolerated] at hy
      exact hy
    · obtain ⟨_, _, _, _, heq⟩ := adjustOverflow_eq tp tl
      rw [heq]
      exact ⟨_, rfl⟩

theorem KeepsZones.refl (tp : TouchpadPacket) (tl : TouchpadLimits F) : KeepsZones tp tl tl :=
  ⟨rfl, rfl, Int.le_refl _, Int.le_refl _, fun _ => ⟨rfl, rfl⟩, fun _ => ⟨rfl, rfl⟩, _, rfl⟩

/-- Whether the clickpad is pressed says nothing of the zones. -/
theorem keepsZones_pressed (tp : TouchpadPacket) (tl tl' : TouchpadLimits F) (pressed : Bool) :
    KeepsZones tp tl { tl' with isClickpadPressed := pressed } ↔ KeepsZones tp tl tl' := by
  constructor
  · intro h
    obtain ⟨_, hrest⟩ := h.rest
    refine ⟨h.right, h.bottom, h.maxx, h.maxy, h.stillX, h.stillY, tl'.isClickpadPressed, ?_⟩
    have hback := congrArg
      (fun x : TouchpadLimits F => { x with isClickpadPressed := tl'.isClickpadPressed }) hrest
    exact hback
  · intro h
    obtain ⟨_, hrest⟩ := h.rest
    refine ⟨h.right, h.bottom, h.maxx, h.maxy, h.stillX, h.stillY, pressed, ?_⟩
    have hback := congrArg
      (fun x : TouchpadLimits F => { x with isClickpadPressed := pressed }) hrest
    exact hback

end

section
variable {F : Type} [Double F] {t t' t₀ : Touchpad F}

/-- The limits of a moment's packet: adjusted where it is not ignored, and the clickpad's press. -/
theorem PadMoment.Step.limits_cases {m : PadMoment F} (h : m.Step t t') :
    t'.limits = t.limits ∧ ¬(m.ev.isReport = true ∧ t.state.touchpadOff = false) ∨
      (m.ev.isReport = true ∧ t.state.touchpadOff = false) ∧ ∃ pressed, t'.limits =
        { adjustOverflow (beginPacket t).packet t.limits with isClickpadPressed := pressed } := by
  obtain ⟨rfl, rfl, fuel, hevent⟩ := h
  obtain ⟨hreport, -, hafter⟩ | ⟨hreport, out, -, hprocess⟩ := touchpadEvent_cases hevent
  · left
    rw [hafter, hreport]
    exact ⟨beginPacket_limits _, fun h => Bool.false_ne_true h.1⟩
  · have hstate : (readyPacket m.before m.time).state = m.before.state := beginPacket_state _
    have hlimits : (readyPacket m.before m.time).limits = m.before.limits := beginPacket_limits _
    cases hoff : m.before.state.touchpadOff with
    | true =>
      obtain ⟨hsame, -⟩ := processPacket_off ((congrArg _ hstate).trans hoff) hprocess
      left
      rw [hsame, hlimits]
      exact ⟨rfl, fun h => Bool.noConfusion h.2⟩
    | false =>
      right
      refine ⟨⟨hreport, rfl⟩, ?_⟩
      obtain ⟨p⟩ := processPacket_on ((congrArg _ hstate).trans hoff) hprocess
      obtain ⟨pressed, hpadded⟩ := p.padded_only.limits
      refine ⟨pressed, ?_⟩
      rw [p.limits, hpadded]
      change { adjustOverflow (readyPacket m.before m.time).packet
        (readyPacket m.before m.time).limits with isClickpadPressed := pressed } = _
      rw [hlimits]
      rfl

/-- The axes start where they started. -/
theorem origins_kept (h : Run PadMoment.Step t₀ ms t) :
    t.limits.minx = t₀.limits.minx ∧ t.limits.miny = t₀.limits.miny := by
  induction h with
  | nil => exact ⟨rfl, rfl⟩
  | snoc hrun hstep ih =>
    obtain ⟨hsame, -⟩ | ⟨-, _, hlimits⟩ := hstep.limits_cases
    · rw [hsame]
      exact ih
    · obtain ⟨_, _, _, _, hadjust⟩ := adjustOverflow_eq _ _
      rw [hlimits, hadjust]
      exact ih

/-- A packet keeps the zones unless it shifts one. -/
theorem PadMoment.Step.keepsZones_iff {m : PadMoment F} (h : m.Step t t')
    (hx : t.limits.minx = t₀.limits.minx) (hy : t.limits.miny = t₀.limits.miny) :
    m.KeepsZones ↔ ¬m.ShiftsZone t₀.limits := by
  have hcases := h.limits_cases
  obtain ⟨rfl, rfl, -⟩ := h
  unfold PadMoment.KeepsZones PadMoment.ShiftsZone
  rw [← hx, ← hy]
  obtain ⟨hsame, hnone⟩ | ⟨⟨hreport, hon⟩, pressed, hlimits⟩ := hcases
  · rw [hsame]
    exact iff_of_true (KeepsZones.refl _ _) fun h => hnone ⟨h.1, h.2.1⟩
  · rw [hlimits, keepsZones_pressed, adjustOverflow_keeps_iff]
    simp only [hreport, hon, true_and, not_or, not_and, not_not]

/-- The zones are kept exactly in the runs none of whose packets overflows, as far as is tolerated,
an axis that does not start at zero. -/
theorem zones_kept_iff (h : Run PadMoment.Step t₀ ms t) :
    (∀ m ∈ ms, m.KeepsZones) ↔ ∀ m ∈ ms, ¬m.ShiftsZone t₀.limits := by
  induction h with
  | nil => simp
  | snoc hrun hstep ih =>
    obtain ⟨hx, hy⟩ := origins_kept hrun
    have hlast := hstep.keepsZones_iff hx hy
    simp only [List.forall_mem_append, List.forall_mem_singleton]
    rw [ih, hlast]

end

/-- A finger that comes down at a place. -/
def touchAt (x y : Int32) : List InputEvent :=
  [⟨EV_KEY, UInt16.ofNat BTN_TOUCH, 1⟩, ⟨EV_ABS, ABS_X, x⟩, ⟨EV_ABS, ABS_Y, y⟩] ++ eventSync

/-- The axes of this touchpad start at zero. -/
theorem zones_kept_zero : ∃ ms t, Run PadMoment.Step restingTouchpad ms t ∧
    t.limits.maxx = 1050 ∧ ∀ m ∈ ms, m.KeepsZones := by
  obtain ⟨⟨ms, t⟩, hplay, hmaxx⟩ := Option.map_eq_some_iff.1
    (show ((playEvents 2 restingTouchpad (touchAt 1050 500)).map fun r => r.2.limits.maxx) =
      some 1050 by decide +kernel)
  have hrun := playEvents_run hplay
  refine ⟨ms, t, hrun, hmaxx, (zones_kept_iff hrun).2 ?_⟩
  rintro m - ⟨-, -, ⟨-, hx⟩ | ⟨-, hy⟩⟩
  · exact hx rfl
  · exact hy rfl

/-- A touchpad whose horizontal axis goes from 1000 to 2000. -/
def farTouchpad : Touchpad ℚ :=
  { restingTouchpad with limits := { restingTouchpad.limits with
      minx := 1000, maxx := 2000, rightEdge := 1830, noX := 999 } }

/-- Its right zone, 170 wide, ends up 830 beyond the edge. -/
theorem zone_shifted : ∃ ms t, Run PadMoment.Step farTouchpad ms t ∧
    ¬∀ m ∈ ms, m.KeepsZones := by
  obtain ⟨⟨ms, t⟩, hplay, hlast⟩ := Option.map_eq_some_iff.1
    (show ((playEvents 2 farTouchpad (touchAt 2050 500)).map fun r => r.1.getLast?.map fun m =>
        (m.before.limits.maxx - m.before.limits.rightEdge,
          m.after.limits.maxx - m.after.limits.rightEdge)) =
      some (some (170, -830)) by decide +kernel)
  obtain ⟨m, hm, hwidths⟩ := Option.map_eq_some_iff.1 hlast
  obtain ⟨hbefore, hafter⟩ := Prod.mk.inj hwidths
  refine ⟨ms, t, playEvents_run hplay, fun hkept => ?_⟩
  have hright := (hkept m (List.mem_of_getLast? hm)).right
  rw [hbefore, hafter] at hright
  cases hright

end InputServer
