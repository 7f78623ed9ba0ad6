import InputServer.Deliver
import InputServer.Library.Run
import InputServer.Library.Trace

namespace InputServer
set_option autoImplicit true

def TIP_SWITCH : UInt8 := 0x01
def IN_RANGE : UInt8 := 0x02
def DATA_VALID : UInt8 := 0x04
def REPORT_ID_MULTITOUCH : UInt8 := 0x04
def MAX_FINGERS : Nat := 10

structure SuperhidReport where
  reportId : UInt8
  misc : UInt8
  x : UInt16
  y : UInt16
deriving DecidableEq

/-- The place and the tip switch are the same. -/
structure SameTouch (r r' : SuperhidReport) : Prop where
  x : r.x = r'.x
  y : r.y = r'.y
  tip : r.misc &&& TIP_SWITCH = r'.misc &&& TIP_SWITCH

/-- The statics of `process_absolute_event`. -/
structure HidStatics where
  report : Fin MAX_FINGERS → SuperhidReport
  finger : Int
  justSyned : Bool

namespace HidStatics

/-- The report array is initialised when the finger's report has not been. -/
def initReports (s : HidStatics) (finger : Fin MAX_FINGERS) : HidStatics :=
  if (s.report finger).reportId = 0 then
    { s with report := fun i => { s.report i with
        reportId := REPORT_ID_MULTITOUCH
        misc := IN_RANGE ||| DATA_VALID ||| (UInt8.ofNat i.val <<< 3 &&& 0xF8) } }
  else s

def setReport (s : HidStatics) (finger : Fin MAX_FINGERS) (r : SuperhidReport) : HidStatics :=
  { s with report := Function.update s.report finger r, justSyned := false }

end HidStatics

/-- `process_absolute_event`, with the reports that are written; nothing where `report[finger]` is
not one of the array. -/
def processAbsoluteEvent (s : HidStatics) (itype icode : UInt16) (ivalue : UInt32) :
    Option (HidStatics × List SuperhidReport) :=
  if h : 0 ≤ s.finger ∧ s.finger < MAX_FINGERS then
    let finger : Fin MAX_FINGERS := ⟨s.finger.toNat, (Int.toNat_lt h.1).2 h.2⟩
    let s := s.initReports finger
    let report := s.report finger
    if itype = EV_ABS then
      if icode = ABS_MT_POSITION_X then
        some (s.setReport finger { report with x := (ivalue >>> 3).toUInt16 }, [])
      else if icode = ABS_MT_POSITION_Y then
        some (s.setReport finger { report with y := (ivalue >>> 3).toUInt16 }, [])
      else if icode = ABS_MT_SLOT then
        some ({ s with finger := ivalue.toInt32.toInt, justSyned := false },
          if s.justSyned then [] else [report])
      else if icode = ABS_MT_TRACKING_ID then
        let misc :=
          if ivalue = 0xFFFFFFFF then report.misc &&& ~~~TIP_SWITCH else report.misc ||| TIP_SWITCH
        some (s.setReport finger { report with misc := misc }, [])
      else some ({ s with justSyned := false }, [])
    else if itype = EV_SYN ∧ icode = SYN_REPORT then
      some ({ s with justSyned := true }, [report])
    else some ({ s with justSyned := false }, [])
  else none

/-- The plugin as it starts. -/
def startHid : HidStatics := ⟨fun _ => ⟨0, 0, 0, 0⟩, 0, false⟩

/-- An event that the plugin gets, and what it makes of it. -/
structure HidMoment where
  record : EventRecord
  before : HidStatics
  after : HidStatics
  written : List SuperhidReport

namespace HidMoment

def Step (m : HidMoment) (s s' : HidStatics) : Prop :=
  m.before = s ∧ m.after = s' ∧
    processAbsoluteEvent s m.record.itype m.record.icode m.record.ivalue = some (s', m.written)

/-- The place and the tip switch of a finger are not what they were. -/
def Changes (m : HidMoment) (f : Fin MAX_FINGERS) : Prop :=
  ¬SameTouch (m.after.report f) (m.before.report f)

def isReport (m : HidMoment) : Bool :=
  m.record.itype = EV_SYN && m.record.icode = SYN_REPORT

end HidMoment

/-- The last change of a finger left its report so, and has not been written. -/
def UnwrittenReport (ms : List HidMoment) (f : Fin MAX_FINGERS) (r : SuperhidReport) : Prop :=
  ∃ past m later, ms = past ++ m :: later ∧ m.Changes f ∧ m.after.report f = r ∧
    ∀ m' ∈ later, ¬m'.Changes f ∧ r ∉ m'.written

def Unwritten (ms : List HidMoment) (f : Fin MAX_FINGERS) : Prop :=
  ∃ r, UnwrittenReport ms f r

/-- Every change of a finger has been written before another finger is changed, and with the
report that comes next. -/
def WritesChanges (ms : List HidMoment) : Prop :=
  Throughout (fun past m => (∀ f g, m.Changes g → f ≠ g → ¬Unwritten past f) ∧
    (m.isReport = true → ∀ f, ¬Unwritten (past ++ [m]) f)) ms

/-- An event that selects a finger for which there is no report. -/
def SelectsBeyond (r : EventRecord) : Prop :=
  r.itype = EV_ABS ∧ r.icode = ABS_MT_SLOT ∧ MAX_FINGERS ≤ r.ivalue.toNat

/-- The reports have been initialised. -/
def HidStatics.Ready (s : HidStatics) : Prop :=
  ∀ i, (s.report i).reportId ≠ 0

/-- What an event comes to, once the reports are initialised. -/
inductive HidOutcome (s : HidStatics) (finger : Fin MAX_FINGERS) (e : EventRecord) :
    HidStatics → List SuperhidReport → Prop where
  | update : ¬(e.itype = EV_ABS ∧ e.icode = ABS_MT_SLOT) →
      ¬(e.itype = EV_SYN ∧ e.icode = SYN_REPORT) →
      r.reportId = (s.report finger).reportId →
      (SameTouch r (s.report finger) → r = s.report finger) →
      HidOutcome s finger e (s.setReport finger r) []
  | select : e.itype = EV_ABS → e.icode = ABS_MT_SLOT →
      HidOutcome s finger e { s with finger := e.ivalue.toInt32.toInt, justSyned := false }
        (if s.justSyned then [] else [s.report finger])
  | report : e.itype = EV_SYN → e.icode = SYN_REPORT →
      HidOutcome s finger e { s with justSyned := true } [s.report finger]

section
variable {s s' : HidStatics} {e : EventRecord} {finger : Fin MAX_FINGERS} {ms : List HidMoment}
  {m : HidMoment}

theorem tip_set_twice (m : UInt8) (h : (m ||| TIP_SWITCH) &&& TIP_SWITCH = m &&& TIP_SWITCH) :
    m ||| TIP_SWITCH = m := by
  have hbits : ∀ b : BitVec 8, (b ||| 1) &&& 1 = b &&& 1 → b ||| 1 = b := by decide
  apply UInt8.toBitVec_inj.1
  exact hbits m.toBitVec (UInt8.toBitVec_inj.2 h)

theorem tip_cleared_twice (m : UInt8)
    (h : (m &&& ~~~TIP_SWITCH) &&& TIP_SWITCH = m &&& TIP_SWITCH) : m &&& ~~~TIP_SWITCH = m := by
  have hbits : ∀ b : BitVec 8, (b &&& ~~~1) &&& 1 = b &&& 1 → b &&& ~~~1 = b := by decide
  apply UInt8.toBitVec_inj.1
  exact hbits m.toBitVec (UInt8.toBitVec_inj.2 h)

theorem setReport_same (s : HidStatics) (finger : Fin MAX_FINGERS) :
    s.setReport finger (s.report finger) = { s with justSyned := false } := by
  unfold HidStatics.setReport
  rw [Function.update_eq_self]

@[simp] theorem setReport_self (s : HidStatics) :
    (s.setReport finger r).report finger = r := by
  unfold HidStatics.setReport
  exact Function.update_self ..

theorem setReport_other (s : HidStatics) (hi : i ≠ finger) :
    (s.setReport finger r).report i = s.report i := by
  unfold HidStatics.setReport
  exact Function.update_of_ne hi ..

theorem initReports_ready (h : s.Ready) (finger : Fin MAX_FINGERS) : s.initReports finger = s :=
  if_neg (h finger)

/-- An event that writes nothing and leaves the report as it is, if the touch is the same. -/
theorem HidOutcome.kept (hslot : ¬(e.itype = EV_ABS ∧ e.icode = ABS_MT_SLOT))
    (hreport : ¬(e.itype = EV_SYN ∧ e.icode = SYN_REPORT)) :
    HidOutcome s finger e { s with justSyned := false } [] := by
  rw [← setReport_same s finger]
  exact .update hslot hreport rfl fun _ => rfl

/-- An event is processed when the finger has a report, and comes to one of its outcomes. -/
theorem processAbsoluteEvent_outcome
    (h : processAbsoluteEvent s e.itype e.icode e.ivalue = some (s', w)) :
    ∃ finger : Fin MAX_FINGERS, s.finger = (finger : Nat) ∧
      HidOutcome (s.initReports finger) finger e s' w := by
  unfold processAbsoluteEvent at h
  split at h
  case isFalse => cases h
  case isTrue hrange =>
    dsimp only at h
    refine ⟨⟨s.finger.toNat, (Int.toNat_lt hrange.1).2 hrange.2⟩, ?_, ?_⟩
    · exact (Int.toNat_of_nonneg hrange.1).symm
    · generalize (⟨s.finger.toNat, (Int.toNat_lt hrange.1).2 hrange.2⟩ : Fin MAX_FINGERS) = f
        at h ⊢
      generalize s.initReports f = s₁ at h ⊢
      by_cases habs : e.itype = EV_ABS
      · have hsyn : ¬(e.itype = EV_SYN ∧ e.icode = SYN_REPORT) := by
          rw [habs]
          exact fun h => absurd h.1 (by decide)
        rw [if_pos habs] at h
        by_cases hx : e.icode = ABS_MT_POSITION_X
        · rw [if_pos hx] at h
          cases h
          refine .update (fun h => absurd (hx.symm.trans h.2) (by decide)) hsyn rfl fun hsame => ?_
          exact congrArg (fun x => { s₁.report f with x := x }) hsame.x
        rw [if_neg hx] at h
        by_cases hy : e.icode = ABS_MT_POSITION_Y
        · rw [if_pos hy] at h
          cases h
          refine .update (fun h => absurd (hy.symm.trans h.2) (by decide)) hsyn rfl fun hsame => ?_
          exact congrArg (fun y => { s₁.report f with y := y }) hsame.y
        rw [if_neg hy] at h
        by_cases hslot : e.icode = ABS_MT_SLOT
        · rw [if_pos hslot] at h
          cases h
          exact .select habs hslot
        rw [if_neg hslot] at h
        by_cases hid : e.icode = ABS_MT_TRACKING_ID
        · rw [if_pos hid] at h
          cases h
          refine .update (fun h => hslot h.2) hsyn rfl fun hsame => ?_
          refine congrArg (fun misc => { s₁.report f with misc := misc }) ?_
          have htip := hsame.tip
          dsimp only at htip ⊢
          split at htip
          · rw [if_pos ‹_›]
            exact tip_cleared_twice _ htip
          · rw [if_neg ‹_›]
            exact tip_set_twice _ htip
        rw [if_neg hid] at h
        cases h
        exact .kept (fun h => hslot h.2) hsyn
      · rw [if_neg habs] at h
        by_cases hsyn : e.itype = EV_SYN ∧ e.icode = SYN_REPORT
        · rw [if_pos hsyn] at h
          cases h
          exact .report hsyn.1 hsyn.2
        · rw [if_neg hsyn] at h
          cases h
          exact .kept (fun h => habs h.1) hsyn

theorem startHid_ready (finger : Fin MAX_FINGERS) : (startHid.initReports finger).Ready := by
  intro i
  have hfresh : (startHid.report finger).reportId = 0 := rfl
  unfold HidStatics.initReports
  rw [if_pos hfresh]
  exact (by decide : REPORT_ID_MULTITOUCH ≠ 0)

theorem startHid_same (finger i : Fin MAX_FINGERS) :
    SameTouch ((startHid.initReports finger).report i) (startHid.report i) := by
  have hfresh : (startHid.report finger).reportId = 0 := rfl
  have htip : ∀ i : Fin MAX_FINGERS, (IN_RANGE ||| DATA_VALID |||
      (UInt8.ofNat i.val <<< 3 &&& 0xF8)) &&& TIP_SWITCH = 0 &&& TIP_SWITCH := by decide
  unfold HidStatics.initReports
  rw [if_pos hfresh]
  exact ⟨rfl, rfl, htip i⟩

theorem moment_isReport_iff :
    m.isReport = true ↔ m.record.itype = EV_SYN ∧ m.record.icode = SYN_REPORT := by
  unfold HidMoment.isReport
  rw [Bool.and_eq_true, decide_eq_true_iff, decide_eq_true_iff]

@[simp] theorem initReports_finger : (s.initReports finger).finger = s.finger := by
  unfold HidStatics.initReports
  split <;> rfl

@[simp] theorem initReports_justSyned : (s.initReports finger).justSyned = s.justSyned := by
  unfold HidStatics.initReports
  split <;> rfl

/-- A change that is still unwritten after an event is the event's own or was so before. -/
theorem UnwrittenReport.snoc_cases (h : UnwrittenReport (ms ++ [m]) f r) :
    m.Changes f ∧ m.after.report f = r ∨
      UnwrittenReport ms f r ∧ ¬m.Changes f ∧ r ∉ m.written := by
  obtain ⟨past, n, later, heq, hchange, hafter, hlater⟩ := h
  cases later using List.reverseRecOn with
  | nil =>
    obtain ⟨_, hn⟩ := List.append_inj' heq rfl
    cases hn
    exact .inl ⟨hchange, hafter⟩
  | append_singleton later o =>
    rw [← List.cons_append, ← List.append_assoc] at heq
    obtain ⟨hms, ho⟩ := List.append_inj' heq rfl
    cases ho
    refine .inr ⟨⟨past, n, later, hms, hchange, hafter, ?_⟩, hlater m List.mem_concat_self⟩
    exact fun m' hm' => hlater m' (List.mem_append_left _ hm')

theorem UnwrittenReport.ne_nil (h : UnwrittenReport ms f r) : ms ≠ [] := by
  obtain ⟨past, m, later, heq, _⟩ := h
  rw [heq]
  exact List.append_ne_nil_of_right_ne_nil past (List.cons_ne_nil m later)

/-- What the events have left: only the selected finger has a change that has not been written, and
none has once a report has come. -/
structure HidKept (ms : List HidMoment) (s : HidStatics) : Prop where
  start : ms = [] → s = startHid
  ready : ms ≠ [] → s.Ready
  unwritten : ∀ f r, UnwrittenReport ms f r →
    s.finger = (f : Nat) ∧ s.justSyned = false ∧ s.report f = r

namespace HidKept

theorem start_kept : HidKept [] startHid := by
  refine ⟨fun _ => rfl, fun h => absurd rfl h, ?_⟩
  intro f r hun
  exact absurd rfl hun.ne_nil

theorem init_ready (h : HidKept ms s) (finger : Fin MAX_FINGERS) :
    (s.initReports finger).Ready := by
  by_cases hms : ms = []
  · rw [h.start hms]
    exact startHid_ready finger
  · rw [initReports_ready (h.ready hms)]
    exact h.ready hms

theorem init_same (h : HidKept ms s) (finger i : Fin MAX_FINGERS) :
    SameTouch ((s.initReports finger).report i) (s.report i) := by
  by_cases hms : ms = []
  · rw [h.start hms]
    exact startHid_same finger i
  · rw [initReports_ready (h.ready hms)]
    exact ⟨rfl, rfl, rfl⟩

theorem init_unwritten (h : HidKept ms s) (hun : UnwrittenReport ms f r) :
    (s.initReports finger).report f = r := by
  rw [initReports_ready (h.ready hun.ne_nil)]
  exact (h.unwritten f r hun).2.2

/-- The finger of an unwritten change is the one that the event is for. -/
theorem selected (h : HidKept ms s) (hfinger : s.finger = (finger : Nat))
    (hun : UnwrittenReport ms f r) : f = finger := by
  have hf := (h.unwritten f r hun).1
  rw [hfinger] at hf
  exact Fin.ext (Int.ofNat_inj.1 hf.symm)

theorem update_changes (h : HidKept ms s) (hbefore : m.before = s)
    (hafter : m.after = (s.initReports finger).setReport finger r) (hchange : m.Changes g) :
    g = finger := by
  by_contra hne
  apply hchange
  rw [hafter, hbefore, setReport_other _ hne]
  exact h.init_same finger g

/-- An event that changes the report of the selected finger. -/
theorem update (h : HidKept ms s) (hfinger : s.finger = (finger : Nat)) (hbefore : m.before = s)
    (hafter : m.after = (s.initReports finger).setReport finger r)
    (hid : r.reportId = ((s.initReports finger).report finger).reportId)
    (hsame : SameTouch r ((s.initReports finger).report finger) →
      r = (s.initReports finger).report finger) : HidKept (ms ++ [m]) m.after := by
  have hset : m.after.report finger = r := by
    rw [hafter, setReport_self]
  have hselected : m.after.finger = (finger : Nat) ∧ m.after.justSyned = false := by
    rw [hafter]
    exact ⟨initReports_finger.trans hfinger, rfl⟩
  refine ⟨fun hnil => absurd hnil (List.concat_ne_nil m ms), fun _ i => ?_, fun f r' hun => ?_⟩
  · by_cases hi : i = finger
    · rw [hi, hset, hid]
      exact h.init_ready finger finger
    · rw [hafter, setReport_other _ hi]
      exact h.init_ready finger i
  · obtain ⟨hchange, hr⟩ | ⟨hun, hchange, _⟩ := hun.snoc_cases
    · rw [h.update_changes hbefore hafter hchange] at hr ⊢
      exact ⟨hselected.1, hselected.2, hr⟩
    · have hf : f = finger := h.selected hfinger hun
      rw [hf] at hun hchange ⊢
      refine ⟨hselected.1, hselected.2, ?_⟩
      -- The report is no other than before, as the touch is not.
      have hkept := not_not.1 hchange
      have hinit : (s.initReports finger).report finger = s.report finger := by
        rw [initReports_ready (h.ready hun.ne_nil)]
      rw [hset, hbefore, ← hinit] at hkept
      rw [hset, hsame hkept]
      exact h.init_unwritten hun

/-- An event that changes no report, and writes that of the selected finger unless it has just been
written, leaves nothing unwritten. -/
theorem write (h : HidKept ms s) (hfinger : s.finger = (finger : Nat)) (hbefore : m.before = s)
    (hreport : m.after.report = (s.initReports finger).report)
    (hwritten : s.justSyned = false → (s.initReports finger).report finger ∈ m.written) :
    HidKept (ms ++ [m]) m.after ∧ (∀ f, ¬m.Changes f) ∧ ∀ f, ¬Unwritten (ms ++ [m]) f := by
  have hnone : ∀ f, ¬m.Changes f := by
    intro f
    apply not_not.2
    rw [hreport, hbefore]
    exact h.init_same finger f
  have hall : ∀ f, ¬Unwritten (ms ++ [m]) f := by
    rintro f ⟨r, hun⟩
    obtain ⟨hchange, _⟩ | ⟨hun, _, hnot⟩ := hun.snoc_cases
    · exact hnone f hchange
    · have hf : f = finger := h.selected hfinger hun
      apply hnot
      rw [← h.init_unwritten hun, hf]
      exact hwritten (h.unwritten f r hun).2.1
  refine ⟨⟨fun hnil => absurd hnil (List.concat_ne_nil m ms), fun _ i => ?_, ?_⟩, hnone, hall⟩
  · rw [hreport]
    exact h.init_ready finger i
  · exact fun f r hun => absurd ⟨r, hun⟩ (hall f)

/-- What an event keeps, and that no change gets lost by it. -/
theorem step (h : HidKept ms s) (hs : m.Step s s') : HidKept (ms ++ [m]) s' ∧
    (∀ f g, m.Changes g → f ≠ g → ¬Unwritten ms f) ∧
      (m.isReport = true → ∀ f, ¬Unwritten (ms ++ [m]) f) := by
  obtain ⟨hbefore, hafter, hprocess⟩ := hs
  obtain ⟨finger, hfinger, houtcome⟩ := processAbsoluteEvent_outcome hprocess
  generalize hw : m.written = w at houtcome
  cases houtcome with
  | update _ hsyn hid hsame =>
    have hkept := h.update hfinger hbefore hafter hid hsame
    rw [hafter] at hkept
    refine ⟨hkept, ?_, fun hreport => absurd (moment_isReport_iff.1 hreport) hsyn⟩
    rintro f g hchange hne ⟨r, hun⟩
    apply hne
    rw [h.selected hfinger hun, h.update_changes hbefore hafter hchange]
  | select _ _ =>
    have hreport : m.after.report = (s.initReports finger).report := by rw [hafter]
    obtain ⟨hkept, hnone, hall⟩ := h.write hfinger hbefore hreport fun hsyned => by
      rw [hw, initReports_justSyned, hsyned]
      exact List.mem_singleton_self _
    rw [hafter] at hkept
    exact ⟨hkept, fun f g hchange => absurd hchange (hnone g), fun _ => hall⟩
  | report _ _ =>
    have hreport : m.after.report = (s.initReports finger).report := by rw [hafter]
    obtain ⟨hkept, hnone, hall⟩ := h.write hfinger hbefore hreport fun _ => by
      rw [hw]
      exact List.mem_singleton_self _
    rw [hafter] at hkept
    exact ⟨hkept, fun f g hchange => absurd hchange (hnone g), fun _ => hall⟩

end HidKept

/-- The selected finger has a report. -/
def HidStatics.InReach (s : HidStatics) : Prop :=
  0 ≤ s.finger ∧ s.finger < MAX_FINGERS

theorem slot_in_reach (v : UInt32) :
    (0 ≤ v.toInt32.toInt ∧ v.toInt32.toInt < MAX_FINGERS) ↔ ¬MAX_FINGERS ≤ v.toNat := by
  have hint : v.toInt32.toInt = v.toBitVec.toInt := rfl
  have hnat : v.toNat = v.toBitVec.toNat := rfl
  have hlt := v.toBitVec.isLt
  rw [hint, hnat, BitVec.toInt_eq_toNat_cond]
  unfold MAX_FINGERS
  split <;> omega

/-- An event is processed while the selected finger has a report, and so will be the next one,
unless it selects a finger that has none. -/
theorem HidMoment.Step.reach (hs : HidMoment.Step m s s') :
    s.InReach ∧ (s'.InReach ↔ ¬SelectsBeyond m.record) := by
  obtain ⟨_, _, hprocess⟩ := hs
  obtain ⟨finger, hfinger, houtcome⟩ := processAbsoluteEvent_outcome hprocess
  have hreach : s.InReach := by
    have hlt := finger.isLt
    unfold HidStatics.InReach
    omega
  refine ⟨hreach, ?_⟩
  generalize m.written = w at houtcome
  cases houtcome with
  | @update r hslot _ _ _ =>
    have hin : ((s.initReports finger).setReport finger r).InReach := by
      unfold HidStatics.InReach HidStatics.setReport
      rw [initReports_finger]
      exact hreach
    exact iff_of_true hin fun h => hslot ⟨h.1, h.2.1⟩
  | select habs hslot =>
    refine (slot_in_reach m.record.ivalue).trans (not_congr ?_)
    exact ⟨fun h => ⟨habs, hslot, h⟩, fun h => h.2.2⟩
  | report hsyn _ =>
    have hin : { s.initReports finger with justSyned := true : HidStatics }.InReach := by
      unfold HidStatics.InReach
      rw [initReports_finger]
      exact hreach
    refine iff_of_true hin fun h => ?_
    exact absurd (hsyn.symm.trans h.1) (by decide)

/-- An event is processed if the selected finger has a report. -/
theorem step_of_reach (h : s.InReach) (e : EventRecord) :
    ∃ m s', m.record = e ∧ HidMoment.Step m s s' := by
  have hsome : (processAbsoluteEvent s e.itype e.icode e.ivalue).isSome := by
    unfold HidStatics.InReach at h
    unfold processAbsoluteEvent
    rw [dif_pos h]
    dsimp only
    repeat' split
    all_goals rfl
  obtain ⟨⟨s', w⟩, hprocess⟩ := Option.isSome_iff_exists.1 hsome
  exact ⟨⟨e, s, s', w⟩, s', rfl, rfl, rfl, hprocess⟩

/-- Only the last event can have selected a finger without a report. -/
theorem run_reach (h : Run HidMoment.Step startHid ms s) :
    (∀ m ∈ ms.dropLast, ¬SelectsBeyond m.record) ∧
      (s.InReach ↔ ∀ m ∈ ms, ¬SelectsBeyond m.record) := by
  induction h with
  | nil =>
    have hstart : startHid.InReach := ⟨Int.le_refl 0, by decide⟩
    exact ⟨fun m hm => absurd hm List.not_mem_nil,
      iff_of_true hstart fun m hm => absurd hm List.not_mem_nil⟩
  | @snoc ms s m s' hrun hs ih =>
    obtain ⟨hbefore, hafter⟩ := hs.reach
    have hall := ih.2.1 hbefore
    rw [List.dropLast_concat]
    refine ⟨hall, hafter.trans ⟨fun h n hn => ?_, fun h => h m List.mem_concat_self⟩⟩
    obtain hn | hn := List.mem_append.1 hn
    · exact hall n hn
    · rw [List.mem_singleton.1 hn]
      exact h

/-- Whatever the events, no change gets lost. -/
theorem run_writes (h : Run HidMoment.Step startHid ms s) : HidKept ms s ∧ WritesChanges ms := by
  refine h.invariant (I := fun ms s => HidKept ms s ∧ WritesChanges ms) ?_ ?_
  · exact ⟨.start_kept, Throughout.nil⟩
  · intro ms m s s' ⟨hkept, hwrites⟩ hs
    obtain ⟨hkept, hother, hreport⟩ := hkept.step hs
    exact ⟨hkept, hwrites.snoc ⟨hother, hreport⟩⟩

/-- Events are all processed if none but the last selects a finger without a report. -/
theorem run_of_records (h : ∀ r ∈ records.dropLast, ¬SelectsBeyond r) :
    ∃ ms s, Run HidMoment.Step startHid ms s ∧ ms.map HidMoment.record = records := by
  induction records using List.reverseRecOn with
  | nil => exact ⟨[], startHid, .nil, rfl⟩
  | append_singleton records r ih =>
    rw [List.dropLast_concat] at h
    obtain ⟨ms, s, hrun, hrecords⟩ := ih fun r hr => h r (List.mem_of_mem_dropLast hr)
    have hin : s.InReach := by
      apply (run_reach hrun).2.2
      intro m hm
      apply h
      rw [← hrecords]
      exact List.mem_map_of_mem hm
    obtain ⟨m, s', hr, hs⟩ := step_of_reach hin r
    refine ⟨ms ++ [m], s', hrun.snoc hs, ?_⟩
    rw [List.map_append, hrecords, List.map_singleton, hr]

end

/-- The plugin stays within its reports, and loses no change of a finger, exactly when no event but
the last selects a finger for which there is no report. -/
theorem no_touch_lost_iff (records : List EventRecord) :
    (∃ ms s, Run HidMoment.Step startHid ms s ∧ ms.map HidMoment.record = records ∧
      WritesChanges ms) ↔ ∀ r ∈ records.dropLast, ¬SelectsBeyond r := by
  constructor
  · rintro ⟨ms, s, hrun, hrecords, _⟩ r hr
    rw [← hrecords, ← List.map_dropLast] at hr
    obtain ⟨m, hm, hmr⟩ := List.mem_map.1 hr
    rw [← hmr]
    exact (run_reach hrun).1 m hm
  · intro h
    obtain ⟨ms, s, hrun, hrecords⟩ := run_of_records h
    exact ⟨ms, s, hrun, hrecords, (run_writes hrun).2⟩

/-- The eleventh finger is put down. -/
def eleventhFinger : List EventRecord :=
  [⟨MAGIC, EV_ABS, ABS_MT_SLOT, 10⟩, ⟨MAGIC, EV_ABS, ABS_MT_TRACKING_ID, 1⟩]

theorem eleventh_finger_faults : ¬∃ ms s, Run HidMoment.Step startHid ms s ∧
    ms.map HidMoment.record = eleventhFinger ∧ WritesChanges ms := by
  rintro ⟨ms, s, hrun, hrecords, _⟩
  have hfirst : (⟨MAGIC, EV_ABS, ABS_MT_SLOT, 10⟩ : EventRecord) ∈ eleventhFinger.dropLast := by
    decide
  rw [← hrecords, ← List.map_dropLast] at hfirst
  obtain ⟨m, hm, hmr⟩ := List.mem_map.1 hfirst
  apply (run_reach hrun).1 m hm
  rw [hmr]
  exact ⟨rfl, rfl, by decide⟩

end InputServer
