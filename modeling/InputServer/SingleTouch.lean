import InputServer.Reachable
import InputServer.VkbdForward

namespace InputServer
open Program
set_option autoImplicit true

/-- The slot that the events sent so far have selected. -/
def slotAfter (slot : Int32) (sends : List Send) : Int32 :=
  sends.foldl (fun slot s => followedSlot slot s.event) slot

section
variable {F : Type}

/-- The events before one are sent without any failure. -/
theorem inputSendAll_reaches {w : World F} (h : ToVkbds (before ++ sends) w) :
    wp (inputSendAll before) (fun _ w₁ => ToVkbds sends w₁ ∧
      w₁.multitouch.slot = slotAfter w.multitouch.slot before) w := by
  induction before generalizing w with
  | nil => exact (wp_pure _ _ w).mpr ⟨h, rfl⟩
  | cons s before ih =>
    obtain ⟨out, m, _, hslot, hsend⟩ := h.cons
    unfold inputSendAll
    rw [wp_bind]
    refine wp_mono hsend ?_
    intro _ w' hw'
    have hrest := ih hw'.2
    rw [hw'.1.multitouch, hslot] at hrest
    exact hrest

theorem vkbd_log_iff {w w' : World F} {e : InputEvent} (h : Forwarded d out m w w') :
    w'.log = w.log ++ [.vkbd d e] ↔ out = [e] := by
  rw [h.log, List.append_cancel_left_eq]
  constructor
  · intro heq
    cases out with
    | nil => cases heq
    | cons f out =>
      obtain ⟨hf, hout⟩ := List.cons.inj heq
      cases hf
      rw [List.map_eq_nil_iff.mp hout]
  · rintro rfl
    rfl

/-- A key or a motion is passed on as itself under slot 0, and else only where it happens to be
the press that was put off. -/
theorem drain_key_iff {m : MultiTouch} {e : InputEvent} (hdraining : m.draining = false)
    (htype : e.type = EV_KEY ∨ e.type = EV_REL) (h : m.drain 3 e = some (out, m')) :
    out = [e] ↔ m.slot = 0 ∨ m.deferpressed.replaces = [e] := by
  by_cases hslot : m.slot = 0
  · have hsyn : e.type ≠ EV_SYN := by
      obtain htype | htype := htype <;> rw [htype] <;> decide
    have habs : e.type ≠ EV_ABS := by
      obtain htype | htype := htype <;> rw [htype] <;> decide
    rw [drain_plain hdraining hslot hsyn habs] at h
    cases h
    exact ⟨fun _ => .inl hslot, fun _ => rfl⟩
  · rw [drain_other hdraining hslot] at h
    cases h
    rw [or_iff_right hslot]

/-- Of all that is sent to PV domains, a key or a motion is forwarded once and as it is exactly when
slot 0 is the one selected, or it is the press that `demultitouch` owes. -/
theorem keys_forwarded_iff (w : World F) (sends : List Send) (h : ToVkbds sends w)
    (before after : List Send) (s : Send) (hs : sends = before ++ s :: after)
    (htype : s.event.type = EV_KEY ∨ s.event.type = EV_REL) :
    ∃ w₁ w₂ e, inputSendAll before w = .ok ((), w₁) ∧
      inputSend (some s.domain) s.slot s.event w₁ = .ok (e, w₂) ∧
      (w₂.log = w₁.log ++ [.vkbd s.domain s.event] ↔
        slotAfter w.multitouch.slot before = 0 ∨
          w₁.multitouch.deferpressed.replaces = [s.event]) := by
  subst hs
  obtain ⟨_, w₁, hbefore, hready, hslot⟩ := inputSendAll_reaches h
  obtain ⟨out, m, hdrain, _⟩ := drain_ends (e := s.event) hready.idle
  obtain ⟨e, w₂, hsend, hforwarded⟩ := inputSend_forwards s.slot
    (hready.plug s List.mem_cons_self) (hready.pv s List.mem_cons_self) hdrain
  refine ⟨w₁, w₂, e, hbefore, hsend, ?_⟩
  rw [vkbd_log_iff hforwarded, drain_key_iff hready.idle htype hdrain, hslot]

end

/-- The multi-touch protocol B: the axes of the contacts, and SYN_REPORT. -/
def InputEvent.ProtocolB (e : InputEvent) : Prop :=
  e.type = EV_SYN ∧ e.code = SYN_REPORT ∨ e.type = EV_ABS ∧ ABS_MT_SLOT ≤ e.code

instance (e : InputEvent) : Decidable e.ProtocolB :=
  inferInstanceAs (Decidable (_ ∨ _))

/-- What a stream says by the protocol: the slot that is selected, whether slot 0 has a contact, and
whether a packet has ended since the slot was selected. -/
structure Protocol where
  slot : Int32
  touching : Bool
  reported : Bool

def Protocol.start : Protocol :=
  ⟨0, false, false⟩

def Protocol.next (p : Protocol) (e : InputEvent) : Protocol :=
  if e.type = EV_SYN then { p with reported := true }
  else if e.code = ABS_MT_SLOT then { p with slot := e.value, reported := false }
  else if e.code = ABS_MT_TRACKING_ID ∧ p.slot = 0 then { p with touching := e.value ≠ -1 }
  else p

/-- The position that a single-touch pointer has of an event. -/
def InputEvent.position (e : InputEvent) : Option InputEvent :=
  if e.type = EV_ABS ∧ e.code = ABS_MT_POSITION_X then some { e with code := ABS_X }
  else if e.type = EV_ABS ∧ e.code = ABS_MT_POSITION_Y then some { e with code := ABS_Y }
  else none

def InputEvent.isPosition (e : InputEvent) : Bool :=
  e.type = EV_ABS ∧ (e.code = ABS_X ∨ e.code = ABS_Y)

def InputEvent.isAxis (e : InputEvent) : Bool :=
  e.type = EV_ABS

/-- The positions of a stream from where `own` holds. -/
def positions (own : Protocol → Bool) : Protocol → List InputEvent → List InputEvent
  | _, [] => []
  | p, e :: stream =>
    (if own p then e.position.toList else []) ++ positions own (p.next e) stream

/-- The positions reported for slot 0. -/
def slot0Positions (stream : List InputEvent) : List InputEvent :=
  positions (fun p => p.slot = 0) .start stream

/-- What slot 0 has of an event, the selection of the slot included. -/
def Protocol.data (p : Protocol) (e : InputEvent) : List InputEvent :=
  if e.type = EV_ABS ∧ (p.slot = 0 ∨ e.code = ABS_MT_SLOT ∧ e.value = 0) then
    [e.position.getD e]
  else []

def slot0Data : Protocol → List InputEvent → List InputEvent
  | _, [] => []
  | p, e :: stream => p.data e ++ slot0Data (p.next e) stream

/-- Whether the left button is down for the one that gets these events. -/
def buttonAfter (held : Bool) (out : List InputEvent) : Bool :=
  out.foldl (fun held e => if e.type = EV_KEY ∧ e.code = BTN_LEFT then e.value ≠ 0 else held) held

def protocolAfter (stream : List InputEvent) : Protocol :=
  stream.foldl Protocol.next .start

/-- Behind the end of a packet another slot is selected anew before its data. -/
def Protocol.Reselects (p : Protocol) (e : InputEvent) : Prop :=
  p.slot ≠ 0 → p.reported = true → e.type = EV_ABS →
    e.code = ABS_MT_SLOT ∨ e.code ∈ contactDetails

def Reselecting : Protocol → List InputEvent → Prop
  | _, [] => True
  | p, e :: stream => p.Reselects e ∧ Reselecting (p.next e) stream

/-- `demultitouch` on a stream. -/
inductive Drains : MultiTouch → List InputEvent → List InputEvent → MultiTouch → Prop where
  | nil : Drains m [] [] m
  | cons : m.drain 3 e = some (out, m') → Drains m' stream outs m'' →
      Drains m (e :: stream) (out ++ outs) m''

/-- The button is as the contact, or the change is put off. -/
def SimPress.Owes (owed : SimPress) (pressed held : Bool) : Prop :=
  match owed with
  | .sendLeft => pressed = true
  | .sendLeftUp => pressed = false
  | _ => held = pressed

def SimPress.settled : SimPress → Bool
  | .sendLeft => false
  | .sendLeftUp => false
  | _ => true

/-- The statics follow the protocol but for the slot, which goes back to 0 behind a packet. -/
structure Follows (p : Protocol) (m : MultiTouch) : Prop where
  idle : m.draining = false
  slot : m.slot = if p.reported then 0 else p.slot


section
variable {p : Protocol} {m m' : MultiTouch} {e : InputEvent}

theorem next_syn (htype : e.type = EV_SYN) : p.next e = { p with reported := true } :=
  if_pos htype

theorem next_slot (htype : e.type = EV_ABS) (hcode : e.code = ABS_MT_SLOT) :
    p.next e = { p with slot := e.value, reported := false } := by
  rw [Protocol.next, if_neg (by rw [htype]; decide), if_pos hcode]

theorem next_data (htype : e.type = EV_ABS) (hcode : e.code ≠ ABS_MT_SLOT) :
    (p.next e).slot = p.slot ∧ (p.next e).reported = p.reported := by
  rw [Protocol.next, if_neg (by rw [htype]; decide), if_neg hcode]
  split <;> exact ⟨rfl, rfl⟩

theorem Follows.next (h : Follows p m) (he : e.ProtocolB) (hdrain : m.drain 3 e = some (out, m')) :
    Follows (p.next e) m' := by
  obtain ⟨out', m'', hsome, hidle, hslot⟩ := drain_ends (e := e) h.idle
  rw [hdrain] at hsome
  cases hsome
  refine ⟨hidle, ?_⟩
  rw [hslot, h.slot, followedSlot]
  obtain ⟨hsyn, hreport⟩ | ⟨habs, _⟩ := he
  · have habs : ¬e.type = EV_ABS := by rw [hsyn]; decide
    rw [if_neg (fun h => habs h.1), if_pos ⟨hsyn, hreport⟩, next_syn hsyn, if_pos rfl]
  · have hsyn : ¬e.type = EV_SYN := by rw [habs]; decide
    by_cases hcode : e.code = ABS_MT_SLOT
    · rw [if_pos ⟨habs, hcode⟩, next_slot habs hcode, if_neg Bool.false_ne_true]
    · obtain ⟨hsame, hreported⟩ := next_data (p := p) habs hcode
      rw [if_neg (fun h => hcode h.2), if_neg (fun h => hsyn h.1), if_neg (fun h => hsyn h.1),
        hsame, hreported]

end

/-- Where `demultitouch` takes what comes for slot 0's. -/
def Protocol.taken (p : Protocol) : Bool :=
  p.slot = 0 ∨ p.reported

section
variable {p : Protocol} {m m' : MultiTouch} {e : InputEvent}

theorem abs_position (hslot : m.slot = 0) (h : e.position = some f) :
    m.abs e = ⟨.sendEvent, f, m⟩ := by
  unfold InputEvent.position at h
  unfold MultiTouch.abs MultiTouch.absDone
  by_cases hx : e.type = EV_ABS ∧ e.code = ABS_MT_POSITION_X
  · rw [if_pos hx] at h
    cases h
    rw [if_pos hx.2, if_pos hslot]
  · rw [if_neg hx] at h
    by_cases hy : e.type = EV_ABS ∧ e.code = ABS_MT_POSITION_Y
    · rw [if_pos hy] at h
      cases h
      rw [if_neg (fun h => hx ⟨hy.1, h⟩), if_pos hy.2, if_pos hslot]
    · rw [if_neg hy] at h
      cases h

theorem position_none (htype : e.type = EV_ABS) (h : e.position = none) :
    e.code ≠ ABS_MT_POSITION_X ∧ e.code ≠ ABS_MT_POSITION_Y := by
  unfold InputEvent.position at h
  constructor
  · intro hx
    rw [if_pos ⟨htype, hx⟩] at h
    cases h
  · intro hy
    have hx : ¬e.code = ABS_MT_POSITION_X := by rw [hy]; decide
    rw [if_neg (fun h => hx h.2), if_pos ⟨htype, hy⟩] at h
    cases h

/-- What is not a position is passed on in multi-touch axes, or not at all. -/
theorem abs_other (htype : e.type = EV_ABS) (h : e.position = none) :
    m.abs e = (if e.code = ABS_MT_TRACKING_ID then m.trackingId e
      else if e.code = ABS_MT_SLOT then
        if e.value ≠ 0 then
          if m.hadSlot0 then ⟨.sendEvent, synReport, { m with slot := e.value }⟩
          else ⟨.discardedEvent, e, { m with slot := e.value }⟩
        else ⟨.sendEvent, e, { m with slot := e.value }⟩
      else if e.code ∈ contactDetails then ⟨.discardedEvent, e, { m with hadSlot0 := true }⟩
      else m.absDone e) := by
  obtain ⟨hx, hy⟩ := position_none htype h
  rw [MultiTouch.abs, if_neg hx, if_neg hy]
  by_cases hvalue : e.value = 0
  · simp [hvalue, MultiTouch.absDone]
  · simp [hvalue]

theorem replaces_not_abs (owed : SimPress) : owed.replaces.filter InputEvent.isAxis = [] := by
  cases owed <;> rfl

theorem events_not_abs (owed : SimPress) : owed.events.filter InputEvent.isAxis = [] := by
  cases owed <;> rfl

end

section
variable {p : Protocol} {m m' : MultiTouch} {e : InputEvent}

theorem Follows.slot_iff (h : Follows p m) : m.slot = 0 ↔ p.taken = true := by
  rw [h.slot, Protocol.taken, decide_eq_true_eq]
  cases p.reported <;> simp

theorem position_isAxis (h : e.isPosition = true) : e.isAxis = true := by
  simp only [InputEvent.isPosition, InputEvent.isAxis, decide_eq_true_eq] at h ⊢
  exact h.1

theorem filter_position (out : List InputEvent) :
    out.filter InputEvent.isPosition =
      (out.filter InputEvent.isAxis).filter InputEvent.isPosition := by
  rw [List.filter_filter]
  apply List.filter_congr
  intro e _
  cases h : e.isPosition with
  | false => rfl
  | true => rw [position_isAxis h]; rfl

theorem position_some (h : e.position = some f) :
    e.type = EV_ABS ∧ e.code ≠ ABS_MT_SLOT ∧ e.code ≠ ABS_MT_TRACKING_ID ∧ e.code ∉ contactDetails ∧
      f.isPosition = true := by
  unfold InputEvent.position at h
  by_cases hx : e.type = EV_ABS ∧ e.code = ABS_MT_POSITION_X
  · rw [if_pos hx] at h
    cases h
    rw [hx.2]
    refine ⟨hx.1, by decide, by decide, by decide, ?_⟩
    simp [InputEvent.isPosition, hx.1]
  · rw [if_neg hx] at h
    by_cases hy : e.type = EV_ABS ∧ e.code = ABS_MT_POSITION_Y
    · rw [if_pos hy] at h
      cases h
      rw [hy.2]
      refine ⟨hy.1, by decide, by decide, by decide, ?_⟩
      simp [InputEvent.isPosition, hy.1]
    · rw [if_neg hy] at h
      cases h

/-- A multi-touch axis is none of the single-touch ones. -/
theorem protocolB_not_position (h : e.ProtocolB) : e.isPosition = false := by
  unfold InputEvent.isPosition
  rw [decide_eq_false_iff_not]
  rintro ⟨htype, hcode⟩
  obtain ⟨hsyn, _⟩ | ⟨_, hge⟩ := h
  · rw [htype] at hsyn
    cases hsyn
  · obtain hcode | hcode := hcode <;> rw [hcode] at hge <;> exact absurd hge (by decide)

theorem abs_passes (hslot : m.slot = 0) (htype : e.type = EV_ABS) (h : e.position = none) :
    (m.abs e).action = .discardedEvent ∨ (m.abs e).event = synReport ∨
      (m.abs e).action = .sendEvent ∧ (m.abs e).event = e ∧ e.code ∉ contactDetails ∧
        (e.code = ABS_MT_SLOT → e.value = 0) := by
  have hdone : m.absDone e = ⟨.sendEvent, e, m⟩ := by rw [MultiTouch.absDone, if_pos hslot]
  rw [abs_other htype h]
  split
  · rename_i hcode
    simp only [MultiTouch.trackingId]
    split
    · exact .inl rfl
    · rw [hdone, hcode]
      exact .inr (.inr ⟨rfl, rfl, by decide, fun h => absurd h (by decide)⟩)
  split
  · rename_i hcode
    split
    · split
      · exact .inr (.inl rfl)
      · exact .inl rfl
    · rename_i hvalue
      rw [hcode]
      exact .inr (.inr ⟨rfl, rfl, by decide, fun _ => not_not.mp hvalue⟩)
  split
  · exact .inl rfl
  · rename_i hselect hdetail
    rw [hdone]
    exact .inr (.inr ⟨rfl, rfl, hdetail, fun h => absurd h hselect⟩)

/-- The axes that are passed on for an event: at most the event itself. -/
theorem drain_axes (hidle : m.draining = false) (he : e.ProtocolB)
    (hdrain : m.drain 3 e = some (out, m')) :
    out.filter InputEvent.isAxis = [] ∨ m.slot = 0 ∧ e.type = EV_ABS ∧ out = [e.position.getD e] ∧
      e.code ∉ contactDetails ∧ (e.code = ABS_MT_SLOT → e.value = 0) := by
  by_cases hslot : m.slot = 0
  · obtain ⟨hsyn, hreport⟩ | ⟨habs, _⟩ := he
    · rw [drain_report hidle hslot hsyn hreport] at hdrain
      cases hdrain
      left
      have hnot : ¬e.isAxis = true := by
        rw [InputEvent.isAxis, hsyn]
        decide
      rw [List.filter_cons_of_neg hnot, events_not_abs]
    · rw [drain_abs hidle hslot habs] at hdrain
      cases hdrain
      cases hpos : e.position with
      | some f =>
        have hother := position_some hpos
        rw [abs_position hslot hpos]
        exact .inr ⟨hslot, habs, rfl, hother.2.2.2.1, fun h => absurd h hother.2.1⟩
      | none =>
        obtain hgone | hreport | ⟨hsent, hsame, hdetail, hselect⟩ := abs_passes hslot habs hpos
        · left
          rw [Demultitouched.passed, hgone, if_neg (fun h => by cases h), List.filter_nil]
        · left
          rw [Demultitouched.passed, hreport]
          split <;> rfl
        · right
          rw [Demultitouched.passed, hsent, if_pos rfl, hsame]
          exact ⟨hslot, habs, rfl, hdetail, hselect⟩
  · rw [drain_other hidle hslot] at hdrain
    cases hdrain
    exact .inl (replaces_not_abs _)

end

section
variable {p : Protocol} {m m' : MultiTouch} {e : InputEvent} {held : Bool}

theorem step_positions (h : Follows p m) (he : e.ProtocolB) (hdrain : m.drain 3 e = some (out, m')) :
    out.filter InputEvent.isPosition = if p.taken then e.position.toList else [] := by
  cases hpos : e.position with
  | none =>
    rw [Option.toList_none, ite_self, filter_position]
    obtain hnone | ⟨_, _, hout, _, _⟩ := drain_axes h.idle he hdrain
    · rw [hnone, List.filter_nil]
    · rw [hout, hpos, Option.getD_none, ← filter_position, List.filter_cons_of_neg, List.filter_nil]
      rw [protocolB_not_position he]
      exact Bool.false_ne_true
  | some f =>
    have hf := position_some hpos
    by_cases hslot : m.slot = 0
    · rw [if_pos (h.slot_iff.mp hslot)]
      rw [drain_abs h.idle hslot hf.1, abs_position hslot hpos] at hdrain
      cases hdrain
      exact List.filter_cons_of_pos hf.2.2.2.2
    · rw [if_neg fun htaken => hslot (h.slot_iff.mpr htaken), filter_position]
      obtain hnone | ⟨hzero, _⟩ := drain_axes h.idle he hdrain
      · rw [hnone, List.filter_nil]
      · exact absurd hzero hslot

theorem step_data (h : Follows p m) (he : e.ProtocolB) (hreselects : p.Reselects e)
    (hdrain : m.drain 3 e = some (out, m')) :
    (out.filter InputEvent.isAxis).Sublist (p.data e) := by
  obtain hnone | ⟨hslot, htype, hout, hdetail, hselect⟩ := drain_axes h.idle he hdrain
  · rw [hnone]
    exact List.nil_sublist _
  · have hown : p.slot = 0 ∨ e.code = ABS_MT_SLOT ∧ e.value = 0 := by
      by_contra hother
      rw [not_or] at hother
      have htaken := h.slot_iff.mp hslot
      simp only [Protocol.taken, decide_eq_true_eq, or_iff_right hother.1] at htaken
      obtain hcode | hcode := hreselects hother.1 htaken htype
      · exact hother.2 ⟨hcode, hselect hcode⟩
      · exact hdetail hcode
    rw [Protocol.data, if_pos ⟨htype, hown⟩, ← hout]
    exact List.filter_sublist

theorem buttonAfter_append (held : Bool) (out outs : List InputEvent) :
    buttonAfter held (out ++ outs) = buttonAfter (buttonAfter held out) outs :=
  List.foldl_append

/-- What the statics say of the contact in slot 0 and of the button. -/
structure Holds (p : Protocol) (m : MultiTouch) (held : Bool) : Prop where
  pressed : m.pressed = p.touching
  owes : m.deferpressed.Owes m.pressed held

theorem next_touching (h : p.slot ≠ 0 ∨ e.code ≠ ABS_MT_TRACKING_ID) :
    (p.next e).touching = p.touching := by
  unfold Protocol.next
  split
  · rfl
  split
  · rfl
  split
  · rename_i htracking
    obtain hslot | hcode := h
    · exact absurd htracking.2 hslot
    · exact absurd htracking.1 hcode
  · rfl

theorem replaces_owes {owed : SimPress} (h : owed.Owes pressed held) :
    owed.replaced.Owes pressed (buttonAfter held owed.replaces) ∧
      owed.replaced.settled = true := by
  cases owed <;> cases h <;> exact ⟨rfl, rfl⟩

theorem events_owes {owed : SimPress} (h : owed.Owes pressed held) :
    buttonAfter held owed.events = pressed := by
  cases owed <;> cases h <;> rfl

theorem button_same (h : e.type ≠ EV_KEY) : buttonAfter held [e] = held :=
  if_neg fun hkey => h hkey.1

/-- What comes for slot 0 is slot 0's, where other slots are selected anew. -/
theorem Follows.own (h : Follows p m) (hslot : m.slot = 0) (hreselects : p.Reselects e)
    (htype : e.type = EV_ABS) (hcode : e.code ≠ ABS_MT_SLOT) (hdetail : e.code ∉ contactDetails) :
    p.slot = 0 := by
  by_contra hother
  have htaken := h.slot_iff.mp hslot
  simp only [Protocol.taken, decide_eq_true_eq, or_iff_right hother] at htaken
  exact (hreselects hother htaken htype).elim hcode hdetail

/-- A tracking id of slot 0 puts the press off that it makes. -/
theorem trackingId_holds (hslot : m.slot = 0) (hown : p.slot = 0) (htype : e.type = EV_ABS)
    (hcode : e.code = ABS_MT_TRACKING_ID) (hholds : Holds p m held) :
    Holds (p.next e) (m.trackingId e).statics (buttonAfter held (m.trackingId e).passed) := by
  have hnext : (p.next e).touching = decide (e.value ≠ -1) := by
    rw [Protocol.next, if_neg (by rw [htype]; decide), if_neg (by rw [hcode]; decide),
      if_pos ⟨hcode, hown⟩]
  simp only [MultiTouch.trackingId]
  by_cases hchanged : m.slot = 0 ∧ m.pressed ≠ decide (e.value ≠ -1)
  · rw [if_pos hchanged]
    refine ⟨hnext.symm, ?_⟩
    change SimPress.Owes _ _ held
    by_cases hdown : e.value ≠ -1
    · simp [hdown, SimPress.Owes]
    · simp [hdown, SimPress.Owes]
  · rw [if_neg hchanged]
    have hsame : m.pressed = decide (e.value ≠ -1) := by
      by_contra hne
      exact hchanged ⟨hslot, hne⟩
    rw [MultiTouch.absDone, if_pos hslot]
    change Holds _ m (buttonAfter held [e])
    rw [button_same (by rw [htype]; decide)]
    exact ⟨by rw [hnext, hsame], hholds.owes⟩

theorem step_button (h : Follows p m) (he : e.ProtocolB) (hreselects : p.Reselects e)
    (hholds : Holds p m held) (hdrain : m.drain 3 e = some (out, m')) :
    Holds (p.next e) m' (buttonAfter held out) ∧
      (e.type = EV_SYN → m'.deferpressed.settled = true) := by
  by_cases hslot : m.slot = 0
  · obtain ⟨hsyn, hreport⟩ | ⟨habs, _⟩ := he
    · rw [drain_report h.idle hslot hsyn hreport] at hdrain
      cases hdrain
      refine ⟨⟨?_, ?_⟩, fun _ => rfl⟩
      · rw [next_syn hsyn]
        exact hholds.pressed
      · change buttonAfter held ([e] ++ m.deferpressed.events) = m.pressed
        rw [buttonAfter_append, button_same (by rw [hsyn]; decide), events_owes hholds.owes]
    · refine ⟨?_, fun hsyn => absurd (habs.symm.trans hsyn) (by decide)⟩
      rw [drain_abs h.idle hslot habs] at hdrain
      cases hdrain
      have hkept (hcode : e.code ≠ ABS_MT_TRACKING_ID) (n : MultiTouch)
          (hdefer : n.deferpressed = m.deferpressed) (hpressed : n.pressed = m.pressed) :
          Holds (p.next e) n held := by
        refine ⟨?_, ?_⟩
        · rw [next_touching (.inr hcode), hpressed, hholds.pressed]
        · rw [hdefer, hpressed]
          exact hholds.owes
      cases hpos : e.position with
      | some f =>
        have hf := position_some hpos
        have hfabs := position_isAxis hf.2.2.2.2
        rw [abs_position hslot hpos]
        change Holds _ m (buttonAfter held [f])
        rw [button_same]
        · exact hkept hf.2.2.1 m rfl rfl
        · simp only [InputEvent.isAxis, decide_eq_true_eq] at hfabs
          rw [hfabs]
          decide
      | none =>
        rw [abs_other habs hpos]
        by_cases htracking : e.code = ABS_MT_TRACKING_ID
        · rw [if_pos htracking]
          have hown : p.slot = 0 := by
            apply h.own hslot hreselects habs <;> rw [htracking] <;> decide
          exact trackingId_holds hslot hown habs htracking hholds
        · have hkept := hkept htracking
          have hsame : buttonAfter held [e] = held := button_same (by rw [habs]; decide)
          rw [if_neg htracking]
          split
          · split
            · split
              · exact hkept _ rfl rfl
              · exact hkept _ rfl rfl
            · change Holds _ _ (buttonAfter held [e])
              rw [hsame]
              exact hkept _ rfl rfl
          split
          · exact hkept _ rfl rfl
          · rw [MultiTouch.absDone, if_pos hslot]
            change Holds _ _ (buttonAfter held [e])
            rw [hsame]
            exact hkept _ rfl rfl
  · have hother : p.slot ≠ 0 := by
      intro hzero
      apply hslot
      rw [h.slot, hzero, ite_self]
    rw [drain_other h.idle hslot] at hdrain
    cases hdrain
    have hreplaced := replaces_owes hholds.owes
    refine ⟨⟨?_, ?_⟩, fun _ => hreplaced.2⟩
    · rw [next_touching (.inl hother), ← hholds.pressed]
      exact follow_pressed
    · change m.deferpressed.replaced.Owes (m.follow e).pressed _
      rw [follow_pressed]
      exact hreplaced.1

end

/-- A position of another slot comes behind the end of a packet, and the slot was not selected anew. -/
def Misplaced : Protocol → List InputEvent → Prop
  | _, [] => False
  | p, e :: stream =>
    p.slot ≠ 0 ∧ p.reported = true ∧ e.position.isSome ∨ Misplaced (p.next e) stream

section
variable {p : Protocol} {m m' : MultiTouch} {stream : List InputEvent} {held : Bool}

theorem Drains.append (h : Drains m (before ++ after) out m'') :
    ∃ out₁ m' out₂, Drains m before out₁ m' ∧ Drains m' after out₂ m'' ∧ out = out₁ ++ out₂ := by
  induction before generalizing m out with
  | nil => exact ⟨[], m, out, .nil, h, rfl⟩
  | cons e before ih =>
    cases h with
    | cons hdrain hrest =>
      obtain ⟨out₁, m', out₂, hbefore, hafter, rfl⟩ := ih hrest
      exact ⟨_, m', out₂, .cons hdrain hbefore, hafter, (List.append_assoc _ _ _).symm⟩

theorem drains_positions (h : Follows p m) (hB : ∀ e ∈ stream, e.ProtocolB)
    (hd : Drains m stream out m') :
    out.filter InputEvent.isPosition = positions Protocol.taken p stream := by
  induction hd generalizing p with
  | nil => rfl
  | cons hdrain hrest ih =>
    have he := hB _ List.mem_cons_self
    rw [List.filter_append, step_positions h he hdrain, positions,
      ih (h.next he hdrain) fun e he => hB e (List.mem_cons_of_mem _ he)]

theorem drains_data (h : Follows p m) (hB : ∀ e ∈ stream, e.ProtocolB)
    (hreselecting : Reselecting p stream) (hd : Drains m stream out m') :
    (out.filter InputEvent.isAxis).Sublist (slot0Data p stream) := by
  induction hd generalizing p with
  | nil => exact List.Sublist.refl _
  | cons hdrain hrest ih =>
    have he := hB _ List.mem_cons_self
    rw [List.filter_append, slot0Data]
    apply (step_data h he hreselecting.1 hdrain).append
    exact ih (h.next he hdrain) (fun e he => hB e (List.mem_cons_of_mem _ he)) hreselecting.2

theorem drains_button (h : Follows p m) (hB : ∀ e ∈ stream, e.ProtocolB)
    (hreselecting : Reselecting p stream) (hholds : Holds p m held) (hd : Drains m stream out m') :
    Follows (stream.foldl Protocol.next p) m' ∧
      Holds (stream.foldl Protocol.next p) m' (buttonAfter held out) := by
  induction hd generalizing p held with
  | nil => exact ⟨h, hholds⟩
  | cons hdrain hrest ih =>
    have he := hB _ List.mem_cons_self
    rw [buttonAfter_append]
    exact ih (h.next he hdrain) (fun e he => hB e (List.mem_cons_of_mem _ he)) hreselecting.2
      (step_button h he hreselecting.1 hholds hdrain).1

theorem Reselecting.append (h : Reselecting p (before ++ after)) :
    Reselecting p before ∧ Reselecting (before.foldl Protocol.next p) after := by
  induction before generalizing p with
  | nil => exact ⟨trivial, h⟩
  | cons e before ih => exact ⟨⟨h.1, (ih h.2).1⟩, (ih h.2).2⟩

/-- At the end of a packet nothing is put off that the button lacks. -/
theorem packet_button (h : Follows p m) (hB : ∀ f ∈ before ++ [e], f.ProtocolB)
    (hreselecting : Reselecting p (before ++ [e])) (hholds : Holds p m held)
    (hsyn : e.type = EV_SYN) (hd : Drains m (before ++ [e]) out m') :
    buttonAfter held out = ((before ++ [e]).foldl Protocol.next p).touching := by
  obtain ⟨out₁, m₁, out₂, hbefore, hlast, rfl⟩ := hd.append
  have hreselecting := hreselecting.append
  have hB₁ : ∀ f ∈ before, f.ProtocolB := fun f hf => hB f (List.mem_append_left _ hf)
  obtain ⟨hfollows, hholds₁⟩ := drains_button h hB₁ hreselecting.1 hholds hbefore
  cases hlast with
  | cons hdrain hrest =>
    cases hrest
    have he := hB e List.mem_concat_self
    obtain ⟨hholds₂, hsettled⟩ := step_button hfollows he hreselecting.2.1 hholds₁ hdrain
    rw [List.append_nil, buttonAfter_append, List.foldl_append, List.foldl_cons, List.foldl_nil,
      ← hholds₂.pressed]
    have howes := hholds₂.owes
    have hsettled := hsettled hsyn
    revert howes hsettled
    cases m'.deferpressed <;> intro howes hsettled
    · exact howes
    · exact howes
    · cases hsettled
    · cases hsettled

theorem positions_taken (h : Reselecting p stream) :
    positions Protocol.taken p stream = positions (fun p => p.slot = 0) p stream := by
  induction stream generalizing p with
  | nil => rfl
  | cons e stream ih =>
    rw [positions, positions, ih h.2]
    congr 1
    by_cases hown : p.slot = 0
    · simp [Protocol.taken, hown]
    · cases hpos : e.position with
      | none => simp
      | some f =>
        have hf := position_some hpos
        have hnot : p.reported = false := by
          cases hreported : p.reported with
          | false => rfl
          | true => exact ((h.1 hown hreported hf.1).elim hf.2.1 hf.2.2.2.1).elim
        simp [Protocol.taken, hown, hnot]

theorem positions_length (p : Protocol) (stream : List InputEvent) :
    (positions (fun p => p.slot = 0) p stream).length ≤
      (positions Protocol.taken p stream).length := by
  induction stream generalizing p with
  | nil => exact Nat.le_refl _
  | cons e stream ih =>
    rw [positions, positions, List.length_append, List.length_append]
    have hrest := ih (p.next e)
    by_cases hown : p.slot = 0
    · simp [Protocol.taken, hown, hrest]
    · simp [hown]
      omega

/-- A misplaced position is one too many. -/
theorem misplaced_length (h : Misplaced p stream) :
    (positions (fun p => p.slot = 0) p stream).length <
      (positions Protocol.taken p stream).length := by
  induction stream generalizing p with
  | nil => exact h.elim
  | cons e stream ih =>
    rw [positions, positions, List.length_append, List.length_append]
    obtain ⟨hother, hreported, hpos⟩ | hrest := h
    · have hle := positions_length (p.next e) stream
      obtain ⟨f, hf⟩ := Option.isSome_iff_exists.mp hpos
      simp [Protocol.taken, hother, hreported, hf]
      omega
    · have hlt := ih hrest
      by_cases hown : p.slot = 0
      · simp [Protocol.taken, hown, hlt]
      · simp [hown]
        omega

end

/-- The statics of `demultitouch` as they are initialised. -/
def MultiTouch.start : MultiTouch :=
  { deferpressed := .nope, draining := false, slot := 0, pressed := false, hadSlot0 := false }

section
variable {F : Type}

/-- The events of one device, sent to one domain. -/
def sendsOf (d : DomPtr) (slot : Int32) (stream : List InputEvent) : List Send :=
  stream.map fun e => ⟨d, slot, e⟩

theorem stream_forwards {w : World F} (h : ToVkbds (sendsOf d slot stream) w) :
    ∃ out m' w', inputSendAll (sendsOf d slot stream) w = .ok ((), w') ∧
      Drains w.multitouch stream out m' ∧ w'.log = w.log ++ out.map (.vkbd d) := by
  induction stream generalizing w with
  | nil => exact ⟨[], _, w, rfl, .nil, (List.append_nil _).symm⟩
  | cons e stream ih =>
    obtain ⟨out, m, hdrain, _, _, w₁, hsend, hforwarded, hready⟩ := h.cons
    obtain ⟨outs, m', w', hrest, hdrains, hlog⟩ := ih hready
    rw [hforwarded.multitouch] at hdrains
    refine ⟨out ++ outs, m', w', ?_, .cons hdrain hdrains, ?_⟩
    · change (discard (inputSend (some d) slot e) >>= fun _ =>
        inputSendAll (sendsOf d slot stream)) w = _
      rw [bind_ok hsend, hrest]
    · rw [hlog, hforwarded.log, List.map_append, List.append_assoc]

/-- A multi-touch stream comes out as the single touch of its slot 0, if slots are selected anew in
every packet; a position that comes without comes out as slot 0's. -/
theorem single_touch (w : World F) (d : DomPtr) (slot : Int32) (stream : List InputEvent)
    (hB : ∀ e ∈ stream, e.ProtocolB) (hw : ToVkbds (sendsOf d slot stream) w)
    (hstart : w.multitouch = .start) :
    ∃ out w', inputSendAll (sendsOf d slot stream) w = .ok ((), w') ∧
      w'.log = w.log ++ out.map (.vkbd d) ∧
      (Reselecting .start stream →
        out.filter InputEvent.isPosition = slot0Positions stream ∧
        (out.filter InputEvent.isAxis).Sublist (slot0Data .start stream) ∧
        ∀ before e, stream = before ++ [e] → e.type = EV_SYN →
          buttonAfter false out = (protocolAfter stream).touching) ∧
      (Misplaced .start stream → out.filter InputEvent.isPosition ≠ slot0Positions stream) := by
  obtain ⟨out, m', w', hrun, hdrains, hlog⟩ := stream_forwards hw
  rw [hstart] at hdrains
  have hfollows : Follows .start MultiTouch.start := ⟨rfl, rfl⟩
  have hpositions := drains_positions hfollows hB hdrains
  refine ⟨out, w', hrun, hlog, ?_, ?_⟩
  · intro hreselecting
    refine ⟨?_, drains_data hfollows hB hreselecting hdrains, ?_⟩
    · rw [hpositions, positions_taken hreselecting]
      rfl
    · rintro before e rfl hsyn
      exact packet_button hfollows hB hreselecting ⟨rfl, rfl⟩ hsyn hdrains
  · intro hmisplaced heq
    have hlt := misplaced_length hmisplaced
    rw [hpositions] at heq
    rw [heq] at hlt
    exact Nat.lt_irrefl _ hlt

end

/-- Every domain is a PV domain, and nothing has been sent. -/
def pvWorld : World ℚ :=
  { startWorld (fun _ => told "") [] with
    domains := fun _ => { Domain.fresh 1 none false 1 with isPvDomain := true } }

theorem pvWorld_toVkbds (sends : List Send) : ToVkbds sends pvWorld :=
  ⟨fun _ _ => rfl, fun _ _ => rfl, rfl⟩

def touchSlot (value : Int32) : InputEvent :=
  { type := EV_ABS, code := ABS_MT_SLOT, value := value }

/-- The release of a key. -/
def keyUp : InputEvent :=
  { type := EV_KEY, code := 30, value := 0 }

/-- A touchscreen on device slot 7 selects its second contact, and a keyboard on device slot 6
releases a key. -/
def interrupted : List Send :=
  [⟨firstEntry, 7, touchSlot 1⟩, ⟨firstEntry, 6, keyUp⟩]

/-- The release is lost: the touchscreen's contact is still selected. -/
theorem key_release_lost : ToVkbds interrupted pvWorld ∧
    ∃ w₁ w₂ e, inputSendAll [⟨firstEntry, 7, touchSlot 1⟩] pvWorld = .ok ((), w₁) ∧
      inputSend (some firstEntry) 6 keyUp w₁ = .ok (e, w₂) ∧
      w₂.log ≠ w₁.log ++ [.vkbd firstEntry keyUp] := by
  have hrun : ((inputSendAll [⟨firstEntry, 7, touchSlot 1⟩] >>= fun _ => do
      let w₁ ← get
      let _ ← inputSend (some firstEntry) 6 keyUp
      let w₂ ← get
      pure (decide (w₂.log = w₁.log ++ [Happening.vkbd firstEntry keyUp]))) pvWorld).toOption.map
        Prod.fst = some false := by
    decide +kernel
  obtain ⟨⟨lost, w⟩, hok, hlost⟩ := returns_of_map hrun
  obtain ⟨_, w₁, hbefore, hrest⟩ := run_bind hok
  obtain ⟨_, _, hget, hrest⟩ := run_bind hrest
  cases hget
  obtain ⟨e, w₂, hsend, hrest⟩ := run_bind hrest
  obtain ⟨a, w₃, hget, hrest⟩ := run_bind hrest
  have hsame : a = w₂ := by
    cases hget
    rfl
  rw [hsame] at hrest
  cases hrest
  refine ⟨pvWorld_toVkbds _, w₁, w₂, e, hbefore, hsend, ?_⟩
  exact of_decide_eq_false hlost

/-- A key is released before the touchscreen says anything. -/
theorem keys_forwarded_first : ∃ w₁ w₂ e,
    inputSendAll [] pvWorld = .ok ((), w₁) ∧
      inputSend (some firstEntry) 6 keyUp w₁ = .ok (e, w₂) ∧
      w₂.log = w₁.log ++ [.vkbd firstEntry keyUp] := by
  obtain ⟨w₁, w₂, e, hbefore, hsend, hiff⟩ := keys_forwarded_iff pvWorld
    [⟨firstEntry, 6, keyUp⟩, ⟨firstEntry, 7, touchSlot 1⟩] (pvWorld_toVkbds _) []
    [⟨firstEntry, 7, touchSlot 1⟩] ⟨firstEntry, 6, keyUp⟩ rfl (.inl rfl)
  exact ⟨w₁, w₂, e, hbefore, hsend, hiff.mpr (.inl rfl)⟩

def touchEvent (code : UInt16) (value : Int32) : InputEvent :=
  { type := EV_ABS, code := code, value := value }

/-- The second contact touches, and moves in the packet behind: its slot is still selected. -/
def secondContact : List InputEvent :=
  [touchSlot 1, touchEvent ABS_MT_TRACKING_ID 5, touchEvent ABS_MT_POSITION_X 100, synReport,
    touchEvent ABS_MT_POSITION_X 101, synReport]

/-- The position is forwarded though no contact is in slot 0. -/
theorem second_contact_forwarded : (∀ e ∈ secondContact, e.ProtocolB) ∧
    ToVkbds (sendsOf firstEntry 7 secondContact) pvWorld ∧ pvWorld.multitouch = .start ∧
    slot0Positions secondContact = [] ∧
    ∃ w', inputSendAll (sendsOf firstEntry 7 secondContact) pvWorld = .ok ((), w') ∧
      w'.log = pvWorld.log ++ [touchEvent ABS_X 101, synReport].map (.vkbd firstEntry) := by
  refine ⟨by decide, pvWorld_toVkbds _, rfl, by decide, ?_⟩
  have hrun : (inputSendAll (sendsOf firstEntry 7 secondContact) pvWorld).toOption.map
      (fun r => r.2.log) =
      some (pvWorld.log ++ [touchEvent ABS_X 101, synReport].map (.vkbd firstEntry)) := by
    decide +kernel
  obtain ⟨⟨_, w'⟩, hok, hlog⟩ := returns_of_map hrun
  exact ⟨w', hok, hlog⟩

/-- The first contact touches. -/
def firstContact : List InputEvent :=
  [touchEvent ABS_MT_TRACKING_ID 5, touchEvent ABS_MT_POSITION_X 100, synReport]

theorem single_touch_first : ∃ out w',
    inputSendAll (sendsOf firstEntry 7 firstContact) pvWorld = .ok ((), w') ∧
      out.filter InputEvent.isPosition = [touchEvent ABS_X 100] ∧ buttonAfter false out = true := by
  obtain ⟨out, w', hrun, _, hprojects, _⟩ := single_touch pvWorld firstEntry 7 firstContact
    (by decide) (pvWorld_toVkbds _) rfl
  have hreselecting : Reselecting .start firstContact := by
    refine ⟨?_, ?_, ?_, trivial⟩ <;> exact fun hslot => absurd rfl hslot
  obtain ⟨hpositions, _, hbutton⟩ := hprojects hreselecting
  have hends : firstContact = firstContact.dropLast ++ [synReport] := rfl
  exact ⟨out, w', hrun, hpositions, hbutton _ synReport hends rfl⟩

end InputServer
