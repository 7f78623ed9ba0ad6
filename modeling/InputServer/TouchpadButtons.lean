import InputServer.Library.Bitmask
import InputServer.Library.Trace
import InputServer.Reachable
import InputServer.TouchpadPackets

namespace InputServer
open Bitmask
set_option autoImplicit true

/-- The keys that are pressed after some events. -/
def pressedAfter (pressed : UInt16 → Bool) (es : List InputEvent) : UInt16 → Bool :=
  es.foldl (fun pressed e =>
    if e.type = EV_KEY then Function.update pressed e.code (e.value ≠ 0) else pressed) pressed

/-- The buttons of a touchpad, from `BTN_LEFT` on. -/
def buttonCode (k : Nat) : UInt16 :=
  BTN_LEFT + UInt16.ofNat k

/-- What the two bits of a button make of its state. -/
def decodedButton (mask : UInt32) (k : Nat) (pressed : Bool) : Bool :=
  if mask.toNat.testBit (2 * k + 1) then false
  else if mask.toNat.testBit (2 * k) then true
  else pressed

@[simp] theorem pressedAfter_nil (pressed : UInt16 → Bool) : pressedAfter pressed [] = pressed :=
  rfl

theorem pressedAfter_append (pressed : UInt16 → Bool) (es es' : List InputEvent) :
    pressedAfter pressed (es ++ es') = pressedAfter (pressedAfter pressed es) es' :=
  List.foldl_append

theorem buttonCode_inj (hj : j < 8) (hk : k < 8) (h : buttonCode j = buttonCode k) : j = k := by
  have hall : ∀ j < 8, ∀ k < 8, buttonCode j = buttonCode k → j = k := by
    decide
  exact hall j hj k hk h

/-- `event_button_change` sends the button and a report. -/
theorem eventButtonChange_eq (hk : k < 7) (value : Int32) :
    eventButtonChange (k + 1) value =
      { type := EV_KEY, code := buttonCode k, value := value } :: eventSync := by
  have hcode : ∀ k < 7, UInt16.ofNat (k + 1) + BTN_LEFT - 1 = buttonCode k := by
    decide
  have hrange : ¬(k + 1 < leftButtonId ∨ k + 1 > (BTN_TASK - BTN_LEFT).toNat) := by
    have hlast : (BTN_TASK - BTN_LEFT).toNat = 7 := by
      decide
    have hfirst : leftButtonId = 1 := rfl
    omega
  unfold eventButtonChange
  rw [if_neg hrange, hcode k hk]

theorem pressed_change (hk : k < 7) (pressed : UInt16 → Bool) (value : Int32) :
    pressedAfter pressed (eventButtonChange (k + 1) value) =
      Function.update pressed (buttonCode k) (decide (value ≠ 0)) := by
  rw [eventButtonChange_eq hk]
  rfl

/-- One round of the loop decodes one button. -/
theorem pressed_round (hk : k < 7) (hj : j < 8) (mask : UInt32) (pressed : UInt16 → Bool) :
    pressedAfter pressed
        ((if mask &&& 1 <<< UInt32.ofNat (2 * k) ≠ 0 then eventButtonChange (k + 1) 1 else []) ++
          if mask &&& 1 <<< UInt32.ofNat (2 * k) <<< 1 ≠ 0 then eventButtonChange (k + 1) 0
          else []) (buttonCode j) =
      if j = k then decodedButton mask k (pressed (buttonCode j)) else pressed (buttonCode j) := by
  have hshift : ∀ k < 7, (1 : UInt32) <<< UInt32.ofNat (2 * k) <<< 1 =
      1 <<< UInt32.ofNat (2 * k + 1) := by
    decide
  have hup : 2 * k + 1 < 32 := by omega
  have hdown : 2 * k < 32 := by omega
  rw [hshift k hk]
  simp only [and_shift_ne_zero mask hdown, and_shift_ne_zero mask hup]
  rw [pressedAfter_append]
  unfold decodedButton
  by_cases hjk : j = k
  · subst hjk
    cases mask.toNat.testBit (2 * j) <;> cases mask.toNat.testBit (2 * j + 1) <;>
      simp [pressed_change hk]
  · have hne : buttonCode j ≠ buttonCode k :=
      fun heq => hjk (buttonCode_inj hj (Nat.lt_succ_of_lt hk) heq)
    cases mask.toNat.testBit (2 * k) <;> cases mask.toNat.testBit (2 * k + 1) <;>
      simp [pressed_change hk, hjk, hne]

/-- The loop decodes the buttons it counts, and no other. -/
theorem pressed_clicksFrom (hk : k + n ≤ 7) (hj : j < 8) (mask : UInt32)
    (pressed : UInt16 → Bool) :
    pressedAfter pressed (buttonClicksFrom mask n (k + 1) (1 <<< UInt32.ofNat (2 * k)))
        (buttonCode j) =
      if k ≤ j ∧ j < k + n then decodedButton mask j (pressed (buttonCode j))
      else pressed (buttonCode j) := by
  induction n generalizing k pressed with
  | zero =>
    have hout : ¬(k ≤ j ∧ j < k + 0) := by omega
    rw [if_neg hout]
    rfl
  | succ n ih =>
    have hshift : ∀ k < 7, (1 : UInt32) <<< UInt32.ofNat (2 * k) <<< 1 <<< 1 =
        1 <<< UInt32.ofNat (2 * (k + 1)) := by
      decide
    have hlt : k < 7 := by omega
    have hrest : k + 1 + n ≤ 7 := by omega
    unfold buttonClicksFrom
    rw [pressedAfter_append, hshift k hlt, ih hrest, pressed_round hlt hj]
    by_cases hjk : j = k
    · subst hjk
      have hfirst : ¬(j + 1 ≤ j ∧ j < j + 1 + n) := by omega
      have hin : j ≤ j ∧ j < j + (n + 1) := by omega
      rw [if_neg hfirst, if_pos rfl, if_pos hin]
    · have hsame : k + 1 ≤ j ∧ j < k + 1 + n ↔ k ≤ j ∧ j < k + (n + 1) := by omega
      rw [if_neg hjk]
      simp only [hsame]

/-- `handle_button_clicks` decodes all but the last button. -/
theorem pressed_clicks (hj : j < 8) (tp : TouchpadPacket) (pressed : UInt16 → Bool) :
    pressedAfter pressed (handleButtonClicks tp) (buttonCode j) =
      if j < 7 then decodedButton tp.buttonMask j (pressed (buttonCode j))
      else pressed (buttonCode j) := by
  have hloop := pressed_clicksFrom (k := 0) (n := 7) (by decide) hj tp.buttonMask pressed
  have hrange : 0 ≤ j ∧ j < 0 + 7 ↔ j < 7 := by omega
  simp only [hrange] at hloop
  exact hloop

theorem isButton_iff (code : UInt16) :
    code ≥ BTN_LEFT ∧ code ≤ BTN_TASK ↔ ∃ k < 8, code = buttonCode k := by
  constructor
  · rintro ⟨hfirst, hlast⟩
    have hge : 0x110 ≤ code.toNat := UInt16.le_iff_toNat_le.1 hfirst
    have hle : code.toNat ≤ 0x117 := UInt16.le_iff_toNat_le.1 hlast
    have hk : code.toNat - 0x110 < 8 := by omega
    have hall : ∀ k < 8, (buttonCode k).toNat = 0x110 + k := by
      decide
    refine ⟨code.toNat - 0x110, hk, UInt16.toNat_inj.1 ?_⟩
    rw [hall _ hk]
    omega
  · rintro ⟨k, hk, rfl⟩
    have hall : ∀ k < 8, buttonCode k ≥ BTN_LEFT ∧ buttonCode k ≤ BTN_TASK := by
      decide
    exact hall k hk

/-- The pair of bits of each button tells what happened to it. -/
structure Recorded (mask : UInt32) (es : List InputEvent) : Prop where
  pressed : ∀ k < 8, mask.toNat.testBit (2 * k) = true ↔
    ∃ e ∈ es, e.type = EV_KEY ∧ e.code = buttonCode k ∧ e.value ≠ 0
  released : ∀ k < 8, mask.toNat.testBit (2 * k + 1) = true ↔
    ∃ e ∈ es, e.type = EV_KEY ∧ e.code = buttonCode k ∧ e.value = 0

theorem Recorded.empty : Recorded 0 [] := by
  constructor <;> intro k hk <;> simp

theorem fillPacket_button (tp : TouchpadPacket) (htype : ev.type = EV_KEY) (hk : k < 8)
    (hcode : ev.code = buttonCode k) : (fillPacket tp ev).buttonMask =
      tp.buttonMask ||| 1 <<< UInt32.ofNat (2 * k + if ev.value ≠ 0 then 0 else 1) := by
  have hrange := (isButton_iff ev.code).2 ⟨k, hk, hcode⟩
  have hdown : ∀ k < 8,
      ((buttonCode k - BTN_LEFT) <<< 1 + 0).toUInt32 = UInt32.ofNat (2 * k + 0) := by
    decide
  have hup : ∀ k < 8,
      ((buttonCode k - BTN_LEFT) <<< 1 + 1).toUInt32 = UInt32.ofNat (2 * k + 1) := by
    decide
  have hkey : ¬ev.type = EV_ABS := by
    rw [htype]
    decide
  unfold fillPacket
  dsimp only
  rw [if_neg hkey, if_pos htype, if_pos hrange, hcode]
  by_cases hvalue : ev.value ≠ 0
  · rw [if_pos hvalue, if_pos hvalue, hdown k hk]
    split <;> rfl
  · rw [if_neg hvalue, if_neg hvalue, hup k hk]
    split <;> rfl

theorem fillPacket_other (tp : TouchpadPacket)
    (h : ev.type = EV_KEY → ∀ k < 8, ev.code ≠ buttonCode k) :
    (fillPacket tp ev).buttonMask = tp.buttonMask := by
  unfold fillPacket
  split
  · split
    · rfl
    · split
      · rfl
      · split <;> rfl
  · split
    · rename_i htype
      have hrange : ¬(ev.code ≥ BTN_LEFT ∧ ev.code ≤ BTN_TASK) := by
        rw [isButton_iff]
        rintro ⟨k, hk, hcode⟩
        exact h htype k hk hcode
      dsimp only
      rw [if_neg hrange]
      split <;> rfl
    · rfl

theorem exists_mem_snoc {α : Type} {P : α → Prop} (xs : List α) (x : α) :
    (∃ y ∈ xs ++ [x], P y) ↔ (∃ y ∈ xs, P y) ∨ P x := by
  simp only [List.mem_append, List.mem_singleton, or_and_right, exists_or, exists_eq_left]

/-- The bit that an event sets is the bit of its button and its value. -/
theorem bit_iff {ev : InputEvent} (hi : i < 8) (hk : k < 8) (hcode : ev.code = buttonCode i)
    (b : Nat) (hb : b < 2) :
    (2 * i + if ev.value ≠ 0 then 0 else 1) = 2 * k + b ↔
      ev.code = buttonCode k ∧ (ev.value = 0 ↔ b = 1) := by
  have hinj : ev.code = buttonCode k ↔ i = k := by
    rw [hcode]
    exact ⟨buttonCode_inj hi hk, fun h => congrArg buttonCode h⟩
  rw [hinj]
  by_cases hvalue : ev.value = 0
  · simp only [hvalue, ne_eq, not_true_eq_false, if_false, true_iff]
    omega
  · simp only [hvalue, ne_eq, not_false_eq_true, if_true, false_iff]
    omega

theorem Recorded.snoc {tp : TouchpadPacket} (h : Recorded tp.buttonMask es) (ev : InputEvent) :
    Recorded (fillPacket tp ev).buttonMask (es ++ [ev]) := by
  by_cases hbutton : ev.type = EV_KEY ∧ ∃ k < 8, ev.code = buttonCode k
  · obtain ⟨htype, i, hi, hcode⟩ := hbutton
    have hbit : (2 * i + if ev.value ≠ 0 then 0 else 1) < 32 := by
      split <;> omega
    rw [fillPacket_button tp htype hi hcode]
    constructor
    · intro k hk
      have hiff := bit_iff hi hk hcode 0 (by decide)
      rw [testBit_or, testBit_one_shift hbit, Bool.or_eq_true, h.pressed k hk,
        decide_eq_true_iff, exists_mem_snoc]
      apply or_congr_right
      simpa [htype] using hiff
    · intro k hk
      have hiff := bit_iff hi hk hcode 1 (by decide)
      rw [testBit_or, testBit_one_shift hbit, Bool.or_eq_true, h.released k hk,
        decide_eq_true_iff, exists_mem_snoc]
      apply or_congr_right
      simpa [htype] using hiff
  · have hnot (htype : ev.type = EV_KEY) (k : Nat) (hk : k < 8) : ev.code ≠ buttonCode k :=
      fun hcode => hbutton ⟨htype, k, hk, hcode⟩
    rw [fillPacket_other tp hnot]
    constructor
    · intro k hk
      rw [h.pressed k hk, exists_mem_snoc]
      exact (or_iff_left fun hev => hnot hev.1 k hk hev.2.1).symm
    · intro k hk
      rw [h.released k hk, exists_mem_snoc]
      exact (or_iff_left fun hev => hnot hev.1 k hk hev.2.1).symm

theorem pressedAfter_snoc (pressed : UInt16 → Bool) (es : List InputEvent) (e : InputEvent) :
    pressedAfter pressed (es ++ [e]) = if e.type = EV_KEY then
      Function.update (pressedAfter pressed es) e.code (e.value ≠ 0)
    else pressedAfter pressed es := by
  rw [pressedAfter_append]
  rfl

/-- The state of a key comes from its own state and events. -/
theorem pressedAfter_congr {pressed pressed' : UInt16 → Bool} {code : UInt16}
    (h : pressed code = pressed' code) (es : List InputEvent) :
    pressedAfter pressed es code = pressedAfter pressed' es code := by
  induction es using List.reverseRecOn with
  | nil => exact h
  | append_singleton es e ih =>
    rw [pressedAfter_snoc, pressedAfter_snoc]
    by_cases htype : e.type = EV_KEY
    · rw [if_pos htype, if_pos htype, Function.update_apply, Function.update_apply, ih]
    · rw [if_neg htype, if_neg htype]
      exact ih

/-- Of a key that was not released the state is that it was pressed now, or before. -/
theorem pressedAfter_unreleased (pressed : UInt16 → Bool) {es : List InputEvent} {code : UInt16}
    (h : ¬∃ e ∈ es, e.type = EV_KEY ∧ e.code = code ∧ e.value = 0) :
    pressedAfter pressed es code = true ↔
      (∃ e ∈ es, e.type = EV_KEY ∧ e.code = code ∧ e.value ≠ 0) ∨ pressed code = true := by
  induction es using List.reverseRecOn with
  | nil => simp
  | append_singleton es e ih =>
    rw [exists_mem_snoc, not_or] at h
    rw [pressedAfter_snoc, exists_mem_snoc]
    have hinit := ih h.1
    by_cases htype : e.type = EV_KEY
    · rw [if_pos htype]
      by_cases hcode : e.code = code
      · have hvalue : e.value ≠ 0 := fun hzero => h.2 ⟨htype, hcode, hzero⟩
        rw [hcode, Function.update_self, decide_eq_true hvalue]
        simp [htype, hvalue]
      · rw [Function.update_of_ne (Ne.symm hcode), hinit]
        simp [hcode]
    · rw [if_neg htype, hinit]
      simp [htype]

/-- Of a key that was not pressed the state is that it was released now, or before. -/
theorem pressedAfter_unpressed (pressed : UInt16 → Bool) {es : List InputEvent} {code : UInt16}
    (h : ¬∃ e ∈ es, e.type = EV_KEY ∧ e.code = code ∧ e.value ≠ 0) :
    pressedAfter pressed es code = false ↔
      (∃ e ∈ es, e.type = EV_KEY ∧ e.code = code ∧ e.value = 0) ∨ pressed code = false := by
  induction es using List.reverseRecOn with
  | nil => simp
  | append_singleton es e ih =>
    rw [exists_mem_snoc, not_or] at h
    rw [pressedAfter_snoc, exists_mem_snoc]
    have hinit := ih h.1
    by_cases htype : e.type = EV_KEY
    · rw [if_pos htype]
      by_cases hcode : e.code = code
      · have hvalue : e.value = 0 := not_not.1 fun hne => h.2 ⟨htype, hcode, hne⟩
        rw [hcode, Function.update_self]
        simp [htype, hvalue]
      · rw [Function.update_of_ne (Ne.symm hcode), hinit]
        simp [hcode]
    · rw [if_neg htype, hinit]
      simp [htype]

/-- Decoding agrees with the device but for a button that is pressed again after a release. -/
theorem decodedButton_iff (hk : k < 8) (h : Recorded mask es) (pressed : UInt16 → Bool) :
    decodedButton mask k (pressed (buttonCode k)) = pressedAfter pressed es (buttonCode k) ↔
      ¬(pressedAfter pressed es (buttonCode k) = true ∧
        ∃ e ∈ es, e.type = EV_KEY ∧ e.code = buttonCode k ∧ e.value = 0) := by
  unfold decodedButton
  by_cases hreleased : mask.toNat.testBit (2 * k + 1) = true
  · rw [if_pos hreleased, iff_true_intro ((h.released k hk).1 hreleased), and_true, eq_comm,
      Bool.not_eq_true]
  · have hnone := (not_congr (h.released k hk)).1 hreleased
    have hunreleased := pressedAfter_unreleased pressed hnone
    rw [← h.pressed k hk] at hunreleased
    rw [if_neg hreleased, iff_false_intro hnone, and_false, not_false_iff, iff_true,
      Bool.eq_iff_iff, hunreleased]
    cases mask.toNat.testBit (2 * k) <;> simp

/-- The events of the packet that is not yet complete. -/
def sinceReport (evs : List InputEvent) : List InputEvent :=
  evs.foldl (fun es ev => if ev.isReport then [] else es ++ [ev]) []

theorem sinceReport_snoc (evs : List InputEvent) (ev : InputEvent) :
    sinceReport (evs ++ [ev]) = if ev.isReport then [] else sinceReport evs ++ [ev] := by
  unfold sinceReport
  rw [List.foldl_append]
  rfl

/-- A button is left pressed that is the last one, or that the packet has released before. -/
def GarbledIn (evs : List InputEvent) (code : UInt16) : Prop :=
  pressedAfter (fun _ => false) evs code = true ∧
    (code = BTN_TASK ∨ ∃ e ∈ sinceReport evs, e.type = EV_KEY ∧ e.code = code ∧ e.value = 0)

instance (evs : List InputEvent) (code : UInt16) : Decidable (GarbledIn evs code) :=
  inferInstanceAs (Decidable (_ ∧ _))

section
variable {F : Type}

/-- The events that `handle_button_clicks` has sent. -/
def clicksSent (ms : List (PadMoment F)) : List InputEvent :=
  ms.flatMap fun m => m.out.elim [] PacketOutput.buttons

/-- The keys as the device has reported them. -/
def reported (ms : List (PadMoment F)) : UInt16 → Bool :=
  pressedAfter (fun _ => false) (ms.map PadMoment.ev)

/-- The keys as they are seen through what was sent. -/
def seenPressed (ms : List (PadMoment F)) : UInt16 → Bool :=
  pressedAfter (fun _ => false) (clicksSent ms)

/-- At a report every button is seen as the device has it. -/
def PadMoment.Decoded (past : List (PadMoment F)) (m : PadMoment F) : Prop :=
  m.ev.isReport = true → ∀ code, BTN_LEFT ≤ code → code ≤ BTN_TASK →
    seenPressed (past ++ [m]) code = reported past code

/-- A report finds a button garbled. -/
def PadMoment.Garbled (past : List (PadMoment F)) (m : PadMoment F) : Prop :=
  m.ev.isReport = true ∧ ∃ code, BTN_LEFT ≤ code ∧ code ≤ BTN_TASK ∧
    GarbledIn (past.map PadMoment.ev) code

theorem reported_snoc (ms : List (PadMoment F)) (m : PadMoment F) :
    reported (ms ++ [m]) = pressedAfter (reported ms) [m.ev] := by
  unfold reported
  rw [List.map_append, pressedAfter_append]
  rfl

theorem reported_report (ms : List (PadMoment F)) {m : PadMoment F} (h : m.ev.isReport = true) :
    reported (ms ++ [m]) = reported ms := by
  have hkey : m.ev.type ≠ EV_KEY := by
    rw [(of_decide_eq_true h).1]
    decide
  rw [reported_snoc, ← List.nil_append [m.ev], pressedAfter_snoc, if_neg hkey]
  rfl

theorem seenPressed_snoc (ms : List (PadMoment F)) (m : PadMoment F) :
    seenPressed (ms ++ [m]) =
      pressedAfter (seenPressed ms) (m.out.elim [] PacketOutput.buttons) := by
  unfold seenPressed clicksSent
  rw [List.flatMap_append, pressedAfter_append, List.flatMap_singleton]

/-- What holds of the buttons while every report was decoded: the packet has its events recorded,
and they lead from what is seen to what the device has. -/
structure PadHistory (ms : List (PadMoment F)) (t : Touchpad F) : Prop where
  pad : t.limits.isClickpad = false
  recorded : Recorded (beginPacket t).packet.buttonMask (sinceReport (ms.map PadMoment.ev))
  last : seenPressed ms (buttonCode 7) = false
  agree : ∀ k < 8, reported ms (buttonCode k) =
    pressedAfter (seenPressed ms) (sinceReport (ms.map PadMoment.ev)) (buttonCode k)

theorem PadHistory.start {t : Touchpad F} (hpad : t.limits.isClickpad = false)
    (hsync : t.syncRecd = true) : PadHistory [] t where
  pad := hpad
  recorded := by
    unfold beginPacket
    rw [if_pos hsync]
    exact .empty
  last := rfl
  agree _ _ := rfl

variable [Double F] {t t' : Touchpad F}

/-- A packet has its mask decoded, and the next one starts anew. -/
theorem processPacket_buttons (hpad : t.limits.isClickpad = false)
    (h : processPacket fuel t = some (t', out)) :
    out.buttons = handleButtonClicks t.packet ∧ t'.syncRecd = t.syncRecd ∧
      t'.limits.isClickpad = false := by
  cases hoff : t.state.touchpadOff with
  | true =>
    obtain ⟨hsame, -, hbuttons⟩ := processPacket_off hoff h
    rw [hpad] at hbuttons
    rw [hsame]
    exact ⟨hbuttons, rfl, hpad⟩
  | false =>
    obtain ⟨p⟩ := processPacket_on hoff h
    have hpadded := p.pad
    rw [hpad] at hpadded
    exact ⟨congrArg Prod.snd hpadded, p.syncRecd, p.isClickpad.trans hpad⟩

omit [Double F] in
/-- A packet that is being filled is not begun again. -/
theorem beginPacket_filled (t : Touchpad F) (tp : TouchpadPacket) :
    beginPacket { beginPacket t with packet := tp } = { beginPacket t with packet := tp } := by
  have hsync : (beginPacket t).syncRecd = false := by
    unfold beginPacket
    split
    · rfl
    · rename_i hsync
      exact Bool.eq_false_iff.2 hsync
  generalize beginPacket t = u at hsync
  unfold beginPacket
  rw [hsync]
  rfl

omit [Double F] in
/-- An event that is no report is recorded. -/
theorem PadHistory.fill {m : PadMoment F} (h : PadHistory ms m.before)
    (hreport : m.ev.isReport = false) (hout : m.out = none)
    (hafter : m.after = { beginPacket m.before with
      packet := fillPacket (beginPacket m.before).packet m.ev }) :
    PadHistory (ms ++ [m]) m.after := by
  have hseen : seenPressed (ms ++ [m]) = seenPressed ms := by
    rw [seenPressed_snoc, hout]
    rfl
  have hsince : sinceReport ((ms ++ [m]).map PadMoment.ev) =
      sinceReport (ms.map PadMoment.ev) ++ [m.ev] := by
    rw [List.map_append, List.map_singleton, sinceReport_snoc, hreport]
    rfl
  have hbegin : beginPacket m.after = m.after := by
    rw [hafter]
    exact beginPacket_filled _ _
  constructor
  · rw [hafter]
    exact (congrArg _ (beginPacket_limits m.before)).trans h.pad
  · rw [hbegin, hafter, hsince]
    exact h.recorded.snoc m.ev
  · rw [hseen]
    exact h.last
  · intro k hk
    rw [hseen, hsince, reported_snoc, pressedAfter_append]
    exact pressedAfter_congr (h.agree k hk) _

theorem PadHistory.button_iff {m : PadMoment F} {time : Timeval} (h : PadHistory ms m.before)
    (hout : m.out = some out)
    (hprocess : processPacket fuel (readyPacket m.before time) = some (m.after, out))
    (hk : k < 8) :
    seenPressed (ms ++ [m]) (buttonCode k) = reported ms (buttonCode k) ↔
      ¬GarbledIn (ms.map PadMoment.ev) (buttonCode k) := by
  have hpad : (readyPacket m.before time).limits.isClickpad = false :=
    (congrArg _ (beginPacket_limits m.before)).trans h.pad
  have hbuttons := (processPacket_buttons hpad hprocess).1
  have hmask : (readyPacket m.before time).packet.buttonMask =
    (beginPacket m.before).packet.buttonMask := rfl
  unfold GarbledIn
  change _ ↔ ¬(reported ms (buttonCode k) = true ∧ _)
  rw [seenPressed_snoc, hout, Option.elim_some, hbuttons, pressed_clicks hk, hmask]
  by_cases hlast : k < 7
  · have hcode : buttonCode k ≠ BTN_TASK :=
      fun heq => absurd (buttonCode_inj (k := 7) hk (by decide) heq) (Nat.ne_of_lt hlast)
    rw [if_pos hlast, h.agree k hk, decodedButton_iff hk h.recorded, or_iff_right hcode]
  · have hseven : k = 7 := by omega
    subst hseven
    have hcode : buttonCode 7 = BTN_TASK := rfl
    rw [if_neg hlast, h.last, iff_true_intro hcode, true_or, and_true, Bool.not_eq_true, eq_comm]

/-- What the decoder makes of the packet is what the device has, unless the packet is garbled. -/
theorem PadHistory.decoded_iff {m : PadMoment F} {time : Timeval} (h : PadHistory ms m.before)
    (hreport : m.ev.isReport = true) (hout : m.out = some out)
    (hprocess : processPacket fuel (readyPacket m.before time) = some (m.after, out)) :
    m.Decoded ms ↔ ¬m.Garbled ms := by
  constructor
  · rintro hdecoded ⟨-, code, hfirst, hlast, hgarbled⟩
    have hsame := hdecoded hreport code hfirst hlast
    obtain ⟨k, hk, rfl⟩ := (isButton_iff code).1 ⟨hfirst, hlast⟩
    exact (h.button_iff hout hprocess hk).1 hsame hgarbled
  · intro hclean _ code hfirst hlast
    obtain ⟨k, hk, rfl⟩ := (isButton_iff code).1 ⟨hfirst, hlast⟩
    apply (h.button_iff hout hprocess hk).2
    intro hgarbled
    exact hclean ⟨hreport, _, hfirst, hlast, hgarbled⟩

theorem PadHistory.report {m : PadMoment F} {time : Timeval} (h : PadHistory ms m.before)
    (hreport : m.ev.isReport = true) (hout : m.out = some out)
    (hprocess : processPacket fuel (readyPacket m.before time) = some (m.after, out))
    (hdecoded : m.Decoded ms) : PadHistory (ms ++ [m]) m.after := by
  have hpad : (readyPacket m.before time).limits.isClickpad = false :=
    (congrArg _ (beginPacket_limits m.before)).trans h.pad
  obtain ⟨hbuttons, hsync, hpad'⟩ := processPacket_buttons hpad hprocess
  have hsince : sinceReport ((ms ++ [m]).map PadMoment.ev) = [] := by
    rw [List.map_append, List.map_singleton, sinceReport_snoc, hreport]
    rfl
  have hreported : reported (ms ++ [m]) = reported ms := reported_report ms hreport
  constructor
  · exact hpad'
  · have hrecd : m.after.syncRecd = true := hsync
    rw [hsince]
    unfold beginPacket
    rw [if_pos hrecd]
    exact .empty
  · rw [seenPressed_snoc, hout, Option.elim_some, hbuttons, pressed_clicks (by decide)]
    exact h.last
  · intro k hk
    obtain ⟨hfirst, hlast⟩ := (isButton_iff (buttonCode k)).2 ⟨k, hk, rfl⟩
    rw [hsince, hreported]
    exact (hdecoded hreport _ hfirst hlast).symm

theorem PadHistory.step {m : PadMoment F} (h : PadHistory ms t) (hstep : m.Step t t') :
    (m.Decoded ms ↔ ¬m.Garbled ms) ∧ (m.Decoded ms → PadHistory (ms ++ [m]) t') := by
  obtain ⟨rfl, rfl, fuel, hevent⟩ := hstep
  obtain ⟨hreport, hout, hafter⟩ | ⟨hreport, out, hout, hprocess⟩ := touchpadEvent_cases hevent
  · have hno : m.ev.isReport ≠ true := by
      rw [hreport]
      exact Bool.false_ne_true
    refine ⟨?_, fun _ => h.fill hreport hout hafter⟩
    exact iff_of_true (fun hrep => absurd hrep hno) fun hgarbled => hno hgarbled.1
  · exact ⟨h.decoded_iff hreport hout hprocess, h.report hreport hout hprocess⟩

/-- The buttons are decoded as they were encoded exactly in the runs none of whose packets leaves
the last button pressed, or presses a button again that it has released. -/
theorem buttons_decoded_iff {t₀ : Touchpad F} (hpad : t₀.limits.isClickpad = false)
    (hsync : t₀.syncRecd = true) (h : Run PadMoment.Step t₀ ms t) :
    Throughout PadMoment.Decoded ms ↔ Throughout (fun past m => ¬m.Garbled past) ms := by
  suffices hboth : (Throughout PadMoment.Decoded ms ↔
      Throughout (fun past m => ¬m.Garbled past) ms) ∧
      (Throughout PadMoment.Decoded ms → PadHistory ms t) from hboth.1
  induction h with
  | nil => exact ⟨iff_of_true .nil .nil, fun _ => .start hpad hsync⟩
  | snoc hrun hstep ih =>
    obtain ⟨hiff, hhistory⟩ := ih
    refine ⟨⟨?_, ?_⟩, ?_⟩
    · intro hdecoded
      obtain ⟨hpast, hnow⟩ := hdecoded.of_snoc
      exact (hiff.1 hpast).snoc (((hhistory hpast).step hstep).1.1 hnow)
    · intro hclean
      obtain ⟨hpast, hnow⟩ := hclean.of_snoc
      have hdecoded := hiff.2 hpast
      exact hdecoded.snoc (((hhistory hdecoded).step hstep).1.2 hnow)
    · intro hdecoded
      obtain ⟨hpast, hnow⟩ := hdecoded.of_snoc
      exact ((hhistory hpast).step hstep).2 hnow

end

/-- Two buttons pressed in one packet, one of them released in the next. -/
def twoButtons : List InputEvent :=
  [⟨EV_KEY, BTN_LEFT, 1⟩, ⟨EV_KEY, BTN_RIGHT, 1⟩] ++ eventSync ++
    [⟨EV_KEY, BTN_LEFT, 0⟩] ++ eventSync

theorem buttons_decoded_two : ∃ ms t, Run PadMoment.Step restingTouchpad ms t ∧
    ms.map PadMoment.ev = twoButtons ∧ Throughout PadMoment.Decoded ms := by
  obtain ⟨⟨ms, t⟩, hplay, hevents⟩ := Option.map_eq_some_iff.1
    (show ((playEvents 2 restingTouchpad twoButtons).map fun r => r.1.map PadMoment.ev) =
      some twoButtons by decide +kernel)
  have hrun := playEvents_run hplay
  refine ⟨ms, t, hrun, hevents, (buttons_decoded_iff rfl rfl hrun).2 ?_⟩
  have hclean : ∀ n < 5, ∀ k < 8, ¬GarbledIn (twoButtons.take n) (buttonCode k) := by
    decide +kernel
  rintro past m later heq ⟨-, code, hfirst, hlast, hgarbled⟩
  obtain ⟨k, hk, rfl⟩ := (isButton_iff code).1 ⟨hfirst, hlast⟩
  have hsplit : past.map PadMoment.ev ++ m.ev :: later.map PadMoment.ev = twoButtons := by
    rw [← hevents, heq, List.map_append, List.map_cons]
  have htake : twoButtons.take (past.map PadMoment.ev).length = past.map PadMoment.ev := by
    rw [← hsplit]
    exact List.take_left
  have hlength : (past.map PadMoment.ev).length < 5 := by
    have hfive := congrArg List.length hsplit
    rw [List.length_append, List.length_cons] at hfive
    have hof : twoButtons.length = 5 := rfl
    omega
  apply hclean _ hlength k hk
  rw [htake]
  exact hgarbled

/-- The last button is never seen. -/
theorem lastButton_lost : ∃ ms t, Run PadMoment.Step restingTouchpad ms t ∧
    ¬Throughout PadMoment.Decoded ms := by
  obtain ⟨⟨ms, t⟩, hplay, hevents⟩ := Option.map_eq_some_iff.1
    (show ((playEvents 2 restingTouchpad ([⟨EV_KEY, BTN_TASK, 1⟩] ++ eventSync)).map fun r =>
        (r.1.map PadMoment.ev, clicksSent r.1)) =
      some ([⟨EV_KEY, BTN_TASK, 1⟩] ++ eventSync, []) by decide +kernel)
  have hrun := playEvents_run hplay
  obtain ⟨hevents, hsent⟩ := Prod.mk.inj hevents
  refine ⟨ms, t, hrun, ?_⟩
  intro hdecoded
  cases hrun with
  | nil => cases hevents
  | @snoc past _ m _ hbefore hstep =>
    rw [List.map_append] at hevents
    obtain ⟨hpast, hm⟩ := List.append_inj' hevents rfl
    have hreport : m.ev.isReport = true := by
      rw [(List.singleton_inj.1 hm)]
      rfl
    have hsame := hdecoded.of_snoc.2 hreport BTN_TASK (by decide) (by decide)
    have hseen : seenPressed (past ++ [m]) = fun _ => false := by
      unfold seenPressed
      rw [hsent]
      rfl
    have hpressed : reported past BTN_TASK = true := by
      unfold reported
      rw [hpast]
      rfl
    rw [hseen, hpressed] at hsame
    cases hsame

end InputServer
