import InputServer.Library.Trace
import InputServer.XenEvent

namespace InputServer
set_option autoImplicit true

/-- Events sent through `xen_vkbd_send_event`, each with the domain it is for. -/
abbrev Sendings := List (DomPtr × InputEvent)

/-- The statics after some events were sent. -/
def staticsAfter (es : Sendings) : XenEventStatics :=
  es.foldl (fun s x => (xenEventSend s x.2).1) .zero

/-- What is written to the rings of `d`, in order. -/
def writtenTo (d : DomPtr) (es : Sendings) : List (VkbdDevice × XenkbdInEvent) :=
  (es.foldl (fun r x => ((xenEventSend r.1 x.2).1,
    if x.1 = d then r.2 ++ (xenEventSend r.1 x.2).2 else r.2)) (XenEventStatics.zero, [])).2

/-- The events of one domain, the others left out. -/
def only (d : DomPtr) (es : Sendings) : Sendings :=
  es.filter fun x => x.1 = d

def InputEvent.isMotion (e : InputEvent) : Bool :=
  e.type = EV_REL ∨ e.type = EV_ABS

def InputEvent.isAbs (code : UInt16) (e : InputEvent) : Bool :=
  e.type = EV_ABS ∧ e.code = code

/-- The motion events since the last SYN_REPORT. -/
def pendingStep (pending : Sendings) (x : DomPtr × InputEvent) : Sendings :=
  if x.2.isReport then [] else if x.2.isMotion then pending ++ [x] else pending

def pending (es : Sendings) : Sendings :=
  es.foldl pendingStep []

/-- The domain that the last event of an absolute axis was for. -/
def axisStep (code : UInt16) (owner : Option DomPtr) (x : DomPtr × InputEvent) : Option DomPtr :=
  if x.2.isAbs code then some x.1 else owner

def axisOwner (code : UInt16) (es : Sendings) : Option DomPtr :=
  es.foldl (axisStep code) none

/-- A SYN_REPORT ends a packet that is all its own domain's, and so is the position it reports. -/
def WholePacket (past : Sendings) (x : DomPtr × InputEvent) : Prop :=
  x.2.isReport → (∀ y ∈ pending past, y.1 = x.1) ∧
    ((∃ y ∈ pending past, y.2.type = EV_ABS) →
      ∀ code ∈ [ABS_X, ABS_Y], ∀ d ∈ axisOwner code past, d = x.1)

theorem staticsAfter_snoc (es : Sendings) (x : DomPtr × InputEvent) :
    staticsAfter (es ++ [x]) = (xenEventSend (staticsAfter es) x.2).1 := by
  simp only [staticsAfter, List.foldl_append, List.foldl_cons, List.foldl_nil]

theorem writtenTo_statics (d : DomPtr) (es : Sendings) :
    es.foldl (fun r x => ((xenEventSend r.1 x.2).1,
      if x.1 = d then r.2 ++ (xenEventSend r.1 x.2).2 else r.2)) (XenEventStatics.zero, []) =
      (staticsAfter es, writtenTo d es) := by
  induction es using List.reverseRecOn with
  | nil => rfl
  | append_singleton es x ih =>
    rw [writtenTo, staticsAfter_snoc, List.foldl_append, ih]
    rfl

theorem writtenTo_snoc (d : DomPtr) (es : Sendings) (x : DomPtr × InputEvent) :
    writtenTo d (es ++ [x]) =
      if x.1 = d then writtenTo d es ++ (xenEventSend (staticsAfter es) x.2).2
      else writtenTo d es := by
  rw [writtenTo, List.foldl_append, writtenTo_statics]
  rfl

theorem pending_snoc (es : Sendings) (x : DomPtr × InputEvent) :
    pending (es ++ [x]) = pendingStep (pending es) x := by
  simp only [pending, List.foldl_append, List.foldl_cons, List.foldl_nil]

theorem axisOwner_snoc (code : UInt16) (es : Sendings) (x : DomPtr × InputEvent) :
    axisOwner code (es ++ [x]) = axisStep code (axisOwner code es) x := by
  simp only [axisOwner, List.foldl_append, List.foldl_cons, List.foldl_nil]

theorem only_snoc (d : DomPtr) (es : Sendings) (x : DomPtr × InputEvent) :
    only d (es ++ [x]) = if x.1 = d then only d es ++ [x] else only d es := by
  rw [only, List.filter_append]
  by_cases hx : x.1 = d
  · have hkept : List.filter (fun y : DomPtr × InputEvent => y.1 = d) [x] = [x] := by simp [hx]
    rw [if_pos hx, hkept]
    rfl
  · have hleft : List.filter (fun y : DomPtr × InputEvent => y.1 = d) [x] = [] := by simp [hx]
    rw [if_neg hx, hleft, List.append_nil]
    rfl

/-- The part of the statics that a packet collects. -/
structure SamePacket (s t : XenEventStatics) : Prop where
  relative : s.relative = t.relative
  relativeX : s.relativeX = t.relativeX
  relativeY : s.relativeY = t.relativeY
  relativeZ : s.relativeZ = t.relativeZ
  absolute : s.absolute = t.absolute
  absoluteZ : s.absoluteZ = t.absoluteZ

/-- No packet is begun. -/
abbrev NoPacket (s : XenEventStatics) : Prop :=
  SamePacket s .zero

/-- What is not counted is zero. -/
structure Counted (s : XenEventStatics) : Prop where
  relative : s.relative = 0 → s.relativeX = 0 ∧ s.relativeY = 0 ∧ s.relativeZ = 0
  absolute : s.absolute = 0 → s.absoluteZ = 0

/-- An event is a key, a motion on either kind of axis, a report, or nothing to `xen_event_send`. -/
inductive EventKind (e : InputEvent) : Prop where
  | key (h : e.type = EV_KEY)
  | rel (h : e.type = EV_REL)
  | abs (h : e.type = EV_ABS)
  | report (h : e.type = EV_SYN) (hcode : e.code = SYN_REPORT)
  | other (hkey : e.type ≠ EV_KEY) (hrel : e.type ≠ EV_REL) (habs : e.type ≠ EV_ABS)
      (hreport : e.isReport = false)

theorem eventKind (e : InputEvent) : EventKind e := by
  by_cases hkey : e.type = EV_KEY
  · exact .key hkey
  by_cases hrel : e.type = EV_REL
  · exact .rel hrel
  by_cases habs : e.type = EV_ABS
  · exact .abs habs
  by_cases hreport : e.isReport
  · obtain ⟨hsyn, hcode⟩ := of_decide_eq_true hreport
    exact .report hsyn hcode
  · exact .other hkey hrel habs (Bool.eq_false_iff.mpr hreport)

section
variable {s t : XenEventStatics} {x : DomPtr × InputEvent} {es : Sendings}

theorem SamePacket.symm (h : SamePacket s t) : SamePacket t s :=
  ⟨h.relative.symm, h.relativeX.symm, h.relativeY.symm, h.relativeZ.symm, h.absolute.symm,
    h.absoluteZ.symm⟩

theorem SamePacket.trans (h : SamePacket s t) (h' : SamePacket t u) : SamePacket s u :=
  ⟨h.relative.trans h'.relative, h.relativeX.trans h'.relativeX, h.relativeY.trans h'.relativeY,
    h.relativeZ.trans h'.relativeZ, h.absolute.trans h'.absolute, h.absoluteZ.trans h'.absoluteZ⟩

theorem SamePacket.counted (h : SamePacket s t) (hs : Counted s) : Counted t := by
  obtain ⟨hrel, hx, hy, hz, habs, haz⟩ := h
  constructor
  · rw [← hrel, ← hx, ← hy, ← hz]
    exact hs.relative
  · rw [← habs, ← haz]
    exact hs.absolute

theorem SamePacket.addRelative (h : SamePacket s t) (code : UInt16) (value : Int32) :
    SamePacket (s.addRelative code value) (t.addRelative code value) := by
  obtain ⟨hrel, hx, hy, hz, habs, haz⟩ := h
  unfold XenEventStatics.addRelative
  constructor
  all_goals grind

theorem SamePacket.addAbsolute (h : SamePacket s t) (code : UInt16) (value : Int32) :
    SamePacket (s.addAbsolute code value) (t.addAbsolute code value) := by
  obtain ⟨hrel, hx, hy, hz, habs, haz⟩ := h
  unfold XenEventStatics.addAbsolute
  constructor
  all_goals grind

theorem Counted.addRelative (h : Counted s) (code : UInt16) (value : Int32) :
    Counted (s.addRelative code value) := by
  have habs := h.absolute
  unfold XenEventStatics.addRelative
  constructor
  all_goals grind

theorem Counted.addAbsolute (h : Counted s) (code : UInt16) (value : Int32) :
    Counted (s.addAbsolute code value) := by
  have hrel := h.relative
  unfold XenEventStatics.addAbsolute
  constructor
  all_goals grind

/-- The statics after a report. -/
theorem Counted.cleared (h : Counted s) : NoPacket s.clearRelative.clearAbsolute := by
  obtain ⟨hrel, habs⟩ := h
  unfold XenEventStatics.clearAbsolute XenEventStatics.clearRelative
  constructor
  all_goals
    simp only [XenEventStatics.zero]
    grind

theorem cleared_absoluteX (s : XenEventStatics) :
    s.clearRelative.clearAbsolute.absoluteX = s.absoluteX := by
  unfold XenEventStatics.clearAbsolute XenEventStatics.clearRelative
  grind

theorem cleared_absoluteY (s : XenEventStatics) :
    s.clearRelative.clearAbsolute.absoluteY = s.absoluteY := by
  unfold XenEventStatics.clearAbsolute XenEventStatics.clearRelative
  grind

/-- A report writes what the packet collected, and the position. -/
theorem SamePacket.report (h : SamePacket s t)
    (hx : s.absolute ≠ 0 → s.absoluteX = t.absoluteX ∧ s.absoluteY = t.absoluteY) :
    s.sendMotion ++ s.sendPosition = t.sendMotion ++ t.sendPosition := by
  obtain ⟨hrel, hrx, hry, hrz, habs, haz⟩ := h
  have hmotion : s.sendMotion = t.sendMotion := by
    rw [XenEventStatics.sendMotion, XenEventStatics.sendMotion, hrel, hrx, hry, hrz]
  have hposition : s.sendPosition = t.sendPosition := by
    by_cases hzero : s.absolute = 0
    · rw [XenEventStatics.sendPosition, XenEventStatics.sendPosition, ← habs, hzero]
      rfl
    · obtain ⟨hax, hay⟩ := hx hzero
      rw [XenEventStatics.sendPosition, XenEventStatics.sendPosition, habs, hax, hay, haz]
  rw [hmotion, hposition]

end

/-- The statics of the run with everything (`s`) and of the one with the events of `d` (`t`). -/
structure Apart (d : DomPtr) (es : Sendings) (s t : XenEventStatics) : Prop where
  counted : Counted s
  own : (∀ y ∈ pending es, y.1 = d) → SamePacket s t
  others : (∀ y ∈ pending es, y.1 ≠ d) → NoPacket t
  moved : s.absolute ≠ 0 → ∃ y ∈ pending es, y.2.type = EV_ABS
  absoluteX : (∀ g ∈ axisOwner ABS_X es, g = d) → s.absoluteX = t.absoluteX
  absoluteY : (∀ g ∈ axisOwner ABS_Y es, g = d) → s.absoluteY = t.absoluteY

/-- The statics of `d`'s own run after one more event, which it may not see. -/
def ownStep (d : DomPtr) (x : DomPtr × InputEvent) (t : XenEventStatics) : XenEventStatics :=
  if x.1 = d then (xenEventSend t x.2).1 else t

section
variable {d : DomPtr} {s t : XenEventStatics} {x : DomPtr × InputEvent} {es : Sendings}

theorem Apart.start (d : DomPtr) : Apart d [] .zero .zero where
  counted := ⟨fun _ => ⟨rfl, rfl, rfl⟩, fun _ => rfl⟩
  own _ := ⟨rfl, rfl, rfl, rfl, rfl, rfl⟩
  others _ := ⟨rfl, rfl, rfl, rfl, rfl, rfl⟩
  moved h := absurd rfl h
  absoluteX _ := rfl
  absoluteY _ := rfl

/-- An event that neither moves nor reports. -/
theorem Apart.still (h : Apart d es s t) (hreport : x.2.isReport = false)
    (hmotion : x.2.isMotion = false) (hstatics : ∀ u, (xenEventSend u x.2).1 = u) :
    Apart d (es ++ [x]) (xenEventSend s x.2).1 (ownStep d x t) := by
  have hpending : pending (es ++ [x]) = pending es := by
    rw [pending_snoc, pendingStep, hreport, hmotion]
    rfl
  have habs (code : UInt16) : x.2.isAbs code = false := by
    have hnone : ¬x.2.isMotion = true := Bool.eq_false_iff.mp hmotion
    apply decide_eq_false
    intro hcode
    exact hnone (decide_eq_true (.inr hcode.1))
  have howner (code : UInt16) : axisOwner code (es ++ [x]) = axisOwner code es := by
    rw [axisOwner_snoc, axisStep, habs]
    rfl
  have hown : ownStep d x t = t := by
    rw [ownStep, hstatics, ite_self]
  rw [hstatics, hown]
  constructor
  · exact h.counted
  · rw [hpending]
    exact h.own
  · rw [hpending]
    exact h.others
  · rw [hpending]
    exact h.moved
  · rw [howner]
    exact h.absoluteX
  · rw [howner]
    exact h.absoluteY

/-- A motion event, given what it does to the statics. -/
theorem Apart.motion (h : Apart d es s t) (hreport : x.2.isReport = false)
    (hmotion : x.2.isMotion = true) (hcounted : Counted (xenEventSend s x.2).1)
    (hsame : SamePacket s t → SamePacket (xenEventSend s x.2).1 (xenEventSend t x.2).1)
    (hmoved : (xenEventSend s x.2).1.absolute ≠ 0 → s.absolute ≠ 0 ∨ x.2.type = EV_ABS)
    (hx : ∀ u, (xenEventSend u x.2).1.absoluteX =
      if x.2.isAbs ABS_X then x.2.value else u.absoluteX)
    (hy : ∀ u, (xenEventSend u x.2).1.absoluteY =
      if x.2.isAbs ABS_Y then x.2.value else u.absoluteY) :
    Apart d (es ++ [x]) (xenEventSend s x.2).1 (ownStep d x t) := by
  have hpending : pending (es ++ [x]) = pending es ++ [x] := by
    rw [pending_snoc, pendingStep, hreport, hmotion]
    rfl
  have hlast : x ∈ pending es ++ [x] := List.mem_concat_self
  have hinit (y : DomPtr × InputEvent) (hy : y ∈ pending es) : y ∈ pending es ++ [x] :=
    List.mem_append_left _ hy
  constructor
  · exact hcounted
  · rw [hpending]
    intro hall
    have hd : x.1 = d := hall x hlast
    rw [ownStep, if_pos hd]
    exact hsame (h.own fun y hy => hall y (hinit y hy))
  · rw [hpending]
    intro hnone
    have hd : x.1 ≠ d := hnone x hlast
    rw [ownStep, if_neg hd]
    exact h.others fun y hy => hnone y (hinit y hy)
  · rw [hpending]
    intro habs
    cases hmoved habs with
    | inl hbefore =>
      obtain ⟨y, hy, htype⟩ := h.moved hbefore
      exact ⟨y, hinit y hy, htype⟩
    | inr htype => exact ⟨x, hlast, htype⟩
  · rw [axisOwner_snoc, axisStep, hx]
    intro howner
    by_cases hcode : x.2.isAbs ABS_X
    · rw [if_pos hcode] at howner ⊢
      rw [ownStep, if_pos (howner x.1 rfl), hx, if_pos hcode]
    · rw [if_neg hcode] at howner ⊢
      have hsame := h.absoluteX howner
      by_cases hd : x.1 = d
      · rw [ownStep, if_pos hd, hx, if_neg hcode]
        exact hsame
      · rw [ownStep, if_neg hd]
        exact hsame
  · rw [axisOwner_snoc, axisStep, hy]
    intro howner
    by_cases hcode : x.2.isAbs ABS_Y
    · rw [if_pos hcode] at howner ⊢
      rw [ownStep, if_pos (howner x.1 rfl), hy, if_pos hcode]
    · rw [if_neg hcode] at howner ⊢
      have hsame := h.absoluteY howner
      by_cases hd : x.1 = d
      · rw [ownStep, if_pos hd, hy, if_neg hcode]
        exact hsame
      · rw [ownStep, if_neg hd]
        exact hsame

theorem xenEventSend_report (hsyn : x.2.type = EV_SYN) (hcode : x.2.code = SYN_REPORT)
    (u : XenEventStatics) :
    xenEventSend u x.2 = (u.clearRelative.clearAbsolute, u.sendMotion ++ u.sendPosition) := by
  have hreport : x.2.isReport = true := decide_eq_true ⟨hsyn, hcode⟩
  rw [xenEventSend, hsyn, hreport]
  rfl

/-- A report ends the packet, which is all its own domain's. -/
theorem Apart.report (h : Apart d es s t) (hwhole : WholePacket es x) (hsyn : x.2.type = EV_SYN)
    (hcode : x.2.code = SYN_REPORT) :
    Apart d (es ++ [x]) (xenEventSend s x.2).1 (ownStep d x t) := by
  have hreport : x.2.isReport = true := decide_eq_true ⟨hsyn, hcode⟩
  have hpending : pending (es ++ [x]) = [] := by
    rw [pending_snoc, pendingStep, hreport]
    rfl
  have howner (code : UInt16) : axisOwner code (es ++ [x]) = axisOwner code es := by
    have habs : x.2.isAbs code = false := by
      rw [InputEvent.isAbs, hsyn]
      rfl
    rw [axisOwner_snoc, axisStep, habs]
    rfl
  have hs := h.counted.cleared
  have ht : NoPacket (ownStep d x t) := by
    rw [ownStep]
    split
    · rename_i hd
      have hsame := h.own fun y hy => ((hwhole hreport).1 y hy).trans hd
      rw [xenEventSend_report hsyn hcode]
      exact (hsame.counted h.counted).cleared
    · rename_i hd
      exact h.others fun y hy heq => hd (((hwhole hreport).1 y hy).symm.trans heq)
  have hx : (ownStep d x t).absoluteX = t.absoluteX := by
    rw [ownStep, xenEventSend_report hsyn hcode]
    split
    · exact cleared_absoluteX t
    · rfl
  have hy : (ownStep d x t).absoluteY = t.absoluteY := by
    rw [ownStep, xenEventSend_report hsyn hcode]
    split
    · exact cleared_absoluteY t
    · rfl
  rw [xenEventSend_report hsyn hcode]
  constructor
  · exact hs.symm.counted ⟨fun _ => ⟨rfl, rfl, rfl⟩, fun _ => rfl⟩
  · exact fun _ => hs.trans ht.symm
  · exact fun _ => ht
  · exact fun habs => absurd hs.absolute habs
  · rw [howner, hx, cleared_absoluteX]
    exact h.absoluteX
  · rw [howner, hy, cleared_absoluteY]
    exact h.absoluteY

theorem isMotion_rel (h : x.2.type = EV_REL) : x.2.isMotion = true :=
  decide_eq_true (.inl h)

theorem isMotion_abs (h : x.2.type = EV_ABS) : x.2.isMotion = true :=
  decide_eq_true (.inr h)

theorem isReport_of_type {e : InputEvent} (h : e.type ≠ EV_SYN) : e.isReport = false :=
  decide_eq_false fun hreport => h hreport.1

theorem Apart.snoc (h : Apart d es s t) (hwhole : WholePacket es x) :
    Apart d (es ++ [x]) (xenEventSend s x.2).1 (ownStep d x t) := by
  cases eventKind x.2 with
  | key hkey =>
    apply h.still
    · apply isReport_of_type
      rw [hkey]
      decide
    · rw [InputEvent.isMotion, hkey]
      rfl
    · intro u
      rw [xenEventSend, if_pos hkey]
  | rel hrel =>
    have hsend (u : XenEventStatics) :
        (xenEventSend u x.2).1 = u.addRelative x.2.code x.2.value := by
      rw [xenEventSend, hrel]
      rfl
    have habs (code : UInt16) : x.2.isAbs code = false := by
      rw [InputEvent.isAbs, hrel]
      rfl
    apply h.motion
    · apply isReport_of_type
      rw [hrel]
      decide
    · exact isMotion_rel hrel
    · rw [hsend]
      exact h.counted.addRelative _ _
    · intro hsame
      rw [hsend, hsend]
      exact hsame.addRelative _ _
    · rw [hsend]
      intro hmoved
      left
      revert hmoved
      unfold XenEventStatics.addRelative
      grind
    · intro u
      rw [hsend, habs]
      unfold XenEventStatics.addRelative
      grind
    · intro u
      rw [hsend, habs]
      unfold XenEventStatics.addRelative
      grind
  | abs habs =>
    have hsend (u : XenEventStatics) :
        (xenEventSend u x.2).1 = u.addAbsolute x.2.code x.2.value := by
      rw [xenEventSend, habs]
      rfl
    have hcode (code : UInt16) : x.2.isAbs code = decide (x.2.code = code) := by
      rw [InputEvent.isAbs, habs]
      simp
    apply h.motion
    · apply isReport_of_type
      rw [habs]
      decide
    · exact isMotion_abs habs
    · rw [hsend]
      exact h.counted.addAbsolute _ _
    · intro hsame
      rw [hsend, hsend]
      exact hsame.addAbsolute _ _
    · exact fun _ => .inr habs
    · intro u
      rw [hsend, hcode]
      unfold XenEventStatics.addAbsolute
      grind
    · intro u
      have hxy : ABS_X ≠ ABS_Y := by decide
      rw [hsend, hcode]
      unfold XenEventStatics.addAbsolute
      grind
  | report hsyn hcode => exact h.report hwhole hsyn hcode
  | other hkey hrel habs hreport =>
    apply h.still hreport
    · exact decide_eq_false fun hmotion => hmotion.elim hrel habs
    · intro u
      rw [xenEventSend, if_neg hkey, if_neg hrel, if_neg habs, hreport]
      rfl

/-- What `d` gets of its own event is what it gets in its own run. -/
theorem Apart.written (h : Apart d es s t) (hwhole : WholePacket es x) (hd : x.1 = d) :
    (xenEventSend s x.2).2 = (xenEventSend t x.2).2 := by
  cases eventKind x.2 with
  | key hkey => rw [xenEventSend, xenEventSend, if_pos hkey, if_pos hkey]
  | rel hrel =>
    rw [xenEventSend, xenEventSend, hrel]
    rfl
  | abs habs =>
    rw [xenEventSend, xenEventSend, habs]
    rfl
  | report hsyn hcode =>
    have hreport : x.2.isReport = true := decide_eq_true ⟨hsyn, hcode⟩
    obtain ⟨hown, hposition⟩ := hwhole hreport
    rw [xenEventSend_report hsyn hcode, xenEventSend_report hsyn hcode]
    apply (h.own fun y hy => (hown y hy).trans hd).report
    intro hmoved
    have howner := hposition (h.moved hmoved)
    constructor
    · apply h.absoluteX
      intro g hg
      exact (howner ABS_X (by simp) g hg).trans hd
    · apply h.absoluteY
      intro g hg
      exact (howner ABS_Y (by simp) g hg).trans hd
  | other hkey hrel habs hreport =>
    rw [xenEventSend, xenEventSend, if_neg hkey, if_neg hkey, if_neg hrel, if_neg hrel,
      if_neg habs, if_neg habs, hreport]
    rfl

end

theorem apart_of_whole {es : Sendings} (h : Throughout WholePacket es) (d : DomPtr) :
    Apart d es (staticsAfter es) (staticsAfter (only d es)) := by
  induction es using List.reverseRecOn with
  | nil => exact .start d
  | append_singleton es x ih =>
    obtain ⟨hinit, hlast⟩ := h.of_snoc
    have hstep := (ih hinit).snoc hlast
    have hown : staticsAfter (only d (es ++ [x])) = ownStep d x (staticsAfter (only d es)) := by
      rw [only_snoc, ownStep]
      split
      · rw [staticsAfter_snoc]
      · rfl
    rw [staticsAfter_snoc, hown]
    exact hstep

/-- What is written for a domain does not depend on the others' events, where packets are whole. -/
theorem writtenTo_only {es : Sendings} (h : Throughout WholePacket es) (d : DomPtr) :
    writtenTo d es = writtenTo d (only d es) := by
  induction es using List.reverseRecOn with
  | nil => rfl
  | append_singleton es x ih =>
    obtain ⟨hinit, hlast⟩ := h.of_snoc
    rw [only_snoc, writtenTo_snoc]
    split
    · rename_i hd
      rw [writtenTo_snoc, if_pos hd, ih hinit, (apart_of_whole hinit d).written hlast hd]
    · exact ih hinit

/-- The events of a domain left out. -/
def without (d : DomPtr) (es : Sendings) : Sendings :=
  es.filter fun x => x.1 ≠ d

theorem without_eq_only {es : Sendings} (hdiff : a ≠ b) (h : ∀ x ∈ es, x.1 = a ∨ x.1 = b) :
    without a es = only b es := by
  apply List.filter_congr
  intro x hx
  cases h x hx with
  | inl ha =>
    rw [ha]
    simp [hdiff]
  | inr hb =>
    rw [hb]
    simp [hdiff.symm]

/-- Two PV domains do not see each other's events, where packets are whole. -/
theorem vkbd_isolation (a b : DomPtr) (hdiff : a ≠ b) (es : Sendings)
    (htwo : ∀ x ∈ es, x.1 = a ∨ x.1 = b) (hwhole : Throughout WholePacket es) :
    writtenTo b es = writtenTo b (without a es) ∧ writtenTo a es = writtenTo a (without b es) := by
  constructor
  · rw [without_eq_only hdiff htwo]
    exact writtenTo_only hwhole b
  · rw [without_eq_only hdiff.symm fun x hx => (htwo x hx).symm]
    exact writtenTo_only hwhole a

/-- A packet of a touch screen for one domain, and one of a mouse for another. -/
def twoPackets : Sendings :=
  [(firstEntry, ⟨EV_ABS, ABS_X, 5⟩), (firstEntry, synReport),
    (secondEntry, ⟨EV_REL, REL_X, 7⟩), (secondEntry, synReport)]

theorem twoPackets_whole : Throughout WholePacket twoPackets := by
  have howner : ∀ code ∈ [ABS_X, ABS_Y],
      ∀ d ∈ axisOwner code [(firstEntry, ⟨EV_ABS, ABS_X, 5⟩)], d = firstEntry := by
    intro code hcode
    cases List.mem_pair.mp hcode with
    | inl hx =>
      rw [hx]
      decide
    | inr hy =>
      rw [hy]
      decide
  have h₁ := Throughout.nil.snoc (P := WholePacket) (a := (firstEntry, ⟨EV_ABS, ABS_X, 5⟩)) nofun
  have h₂ := h₁.snoc (a := (firstEntry, synReport)) fun _ => ⟨by decide, fun _ => howner⟩
  have h₃ := h₂.snoc (a := (secondEntry, ⟨EV_REL, REL_X, 7⟩)) nofun
  exact h₃.snoc (a := (secondEntry, synReport)) fun _ =>
    ⟨by decide, fun h => absurd h (by decide)⟩

theorem vkbd_isolation_twoPackets :
    writtenTo secondEntry twoPackets = writtenTo secondEntry (without firstEntry twoPackets) ∧
      writtenTo firstEntry twoPackets = writtenTo firstEntry (without secondEntry twoPackets) :=
  vkbd_isolation firstEntry secondEntry (by decide) twoPackets (by decide) twoPackets_whole

/-- The other domain's coordinate is reported. -/
theorem vkbd_isolation_fails : ¬∀ (a b : DomPtr) (es : Sendings), a ≠ b →
    (∀ x ∈ es, x.1 = a ∨ x.1 = b) → writtenTo b es = writtenTo b (without a es) := by
  intro h
  have hleak := h firstEntry secondEntry
    [(firstEntry, ⟨EV_ABS, ABS_X, 5⟩), (secondEntry, synReport)] (by decide) (by decide)
  revert hleak
  decide

end InputServer
