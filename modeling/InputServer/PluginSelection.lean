import InputServer.PluginOutput

namespace InputServer
open Program
set_option autoImplicit true

variable {F : Type} {w w' : World F} {o : Op} {r : EventRecord} {d : DomPtr} {guest : Int}

def renewedStep (d : DomPtr) (renewed : Bool) : Happening → Bool
  | .accepted => false
  | .selected _ => false
  | .client d' _ => d' = d || renewed
  | _ => renewed

/-- The entry was given to a client after the plugin chose the domain that it sends to. -/
def renewed (d : DomPtr) (log : List Happening) : Bool :=
  log.foldl (renewedStep d) false

@[simp] theorem renewed_snoc (d : DomPtr) (log : List Happening) (h : Happening) :
    renewed d (log ++ [h]) = renewedStep d (renewed d log) h := by
  simp only [renewed, List.foldl_append, List.foldl_cons, List.foldl_nil]

/-- A record of the plugin reached no client that came after the plugin's choice. -/
def MessageFresh (log : List Happening) : Happening → Prop
  | .message d _ .plugin _ => renewed d log = false
  | _ => True

/-- A record of the plugin reached the guest that the plugin chose, and none in its place. -/
structure MessageKept (log : List Happening) (h : Happening) : Prop where
  chosen : MessageChosen log h
  fresh : MessageFresh log h

/-- What the plugin sends reaches the domain that it named last, and no other once that is gone. -/
abbrev SelectionKept : List Happening → Prop :=
  Throughout MessageKept

/-- No record is sent to a client that came to the entry after the plugin chose it. -/
def Op.Fresh (w : World F) (o : Op) : Prop :=
  ∀ r, o = .pluginRecord r → ∀ d guest, ForwardsTo w r d guest → renewed d w.log = false

/-- The domid of the entries that were given none is not the name of a client. -/
def Op.NamesDomain (w : World F) (o : Op) : Prop :=
  ∀ r, o = .pluginRecord r → r.selects → r.ivalue.toInt32.toInt = -1 →
    ∀ d, w.domainWithDomid (-1) = some d → (w.domains d).client = none

/-- The client of the plugin's destination, if it is no later one, is the one that the plugin
named. -/
def DestChosen (w : World F) : Prop :=
  ∀ d guest, w.plug.dest = some d → (w.domains d).client = some guest → renewed d w.log = false →
    lastSelected w.log = some guest

theorem Happening.Beside.selectedStep {h : Happening} (hh : h.Beside) (domid : Option Int) :
    selectedStep domid h = domid := by
  cases h with
  | accepted => exact hh.elim
  | selected domid => exact hh.elim
  | _ => rfl

theorem Happening.Beside.kept {h : Happening} (hh : h.Beside) (log : List Happening) :
    MessageKept log h := by
  cases h with
  | message d guest source e =>
    cases source with
    | input slot => exact ⟨trivial, trivial⟩
    | plugin => exact hh.elim
  | _ => exact ⟨trivial, trivial⟩

theorem lastSelected_beside {log new : List Happening} (hnew : ∀ h ∈ new, Happening.Beside h) :
    lastSelected (log ++ new) = lastSelected log := by
  apply List.foldl_append_fixed
  exact fun h hh => (hnew h hh).selectedStep

theorem renewedStep_beside {h : Happening} (hh : h.Beside) {old : Bool}
    (hstep : renewedStep d old h = false) : old = false ∧ ∀ guest, h ≠ .client d guest := by
  cases h with
  | client d' guest =>
    obtain ⟨hother, hold⟩ := Bool.or_eq_false_iff.1 hstep
    refine ⟨hold, fun guest' heq => ?_⟩
    cases heq
    exact of_decide_eq_false hother rfl
  | accepted => exact hh.elim
  | selected domid => exact hh.elim
  | _ => exact ⟨hstep, nofun⟩

/-- Beside the plugin, an entry that was given to no client stays so. -/
theorem renewed_beside {log new : List Happening} (hnew : ∀ h ∈ new, Happening.Beside h)
    (hnot : renewed d (log ++ new) = false) :
    renewed d log = false ∧ ∀ guest, .client d guest ∉ new := by
  induction new using List.reverseRecOn with
  | nil =>
    rw [List.append_nil] at hnot
    exact ⟨hnot, fun _ => List.not_mem_nil⟩
  | append_singleton new h ih =>
    rw [← List.append_assoc, renewed_snoc] at hnot
    obtain ⟨hold, hlast⟩ := renewedStep_beside (hnew h List.mem_concat_self) hnot
    obtain ⟨hbefore, hinit⟩ := ih (fun a ha => hnew a (List.mem_append_left _ ha)) hold
    refine ⟨hbefore, fun guest hmem => ?_⟩
    obtain hmem | hmem := List.mem_append.1 hmem
    · exact hinit guest hmem
    · exact hlast guest (List.mem_singleton.1 hmem).symm

theorem DestChosen.beside (hw : DestChosen w) (h : Beside w w') : DestChosen w' := by
  obtain ⟨new, hlog, hnew, hclient⟩ := h.log
  intro d guest hdest hguest hnot
  rw [hlog] at hnot ⊢
  obtain ⟨hbefore, hnone⟩ := renewed_beside hnew hnot
  rw [lastSelected_beside hnew]
  refine hw d guest (h.plug.dest.symm.trans hdest) ?_ hbefore
  exact (hclient d guest hguest).resolve_right (hnone guest)

/-- The domain that a VM_SEND_TO record finds has the client that the record names. -/
theorem guest_of_selected (hw : Living .bare w) (hnames : (Op.pluginRecord r).NamesDomain w)
    (hselects : r.selects) (hfound : w.domainWithDomid r.ivalue.toInt32.toInt = some d)
    (hguest : (w.domains d).client = some guest) : r.ivalue.toInt32.toInt = guest := by
  have hdomid := domid_of_domainWithDomid hfound
  obtain hnamed | hunnamed := hw.named d guest hguest
  · exact hdomid.symm.trans hnamed
  · have hnone : r.ivalue.toInt32.toInt = -1 := hdomid.symm.trans hunnamed
    rw [hnone] at hfound
    have hlost := hnames r rfl hselects hnone d hfound
    rw [hguest] at hlost
    cases hlost

theorem DestChosen.record (hw : DestChosen w) (hliving : Living .bare w)
    (hnames : (Op.pluginRecord r).NamesDomain w)
    (hclient : ∀ d, (w'.domains d).client = (w.domains d).client) (hdone : RecordDone r w w') :
    DestChosen w' := by
  intro d guest hdest hguest hnot
  rw [hclient] at hguest
  cases hdone with
  | quiet unsent dest log =>
    rw [log, renewed_snoc] at hnot
    rw [log, lastSelected_snoc]
    obtain hnone | hsame := dest
    · cases hnone.symm.trans hdest
    · exact hw d guest (hsame.symm.trans hdest) hguest hnot
  | selected d' selects dest found log =>
    cases dest.symm.trans hdest
    have hchosen := guest_of_selected hliving hnames selects found hguest
    rw [← hchosen]
    obtain log | ⟨guest', slot, _, log⟩ := log
    · rw [log, List.append_cons, lastSelected_snoc, selectedStep]
    · rw [log, List.append_cons, List.append_cons, lastSelected_snoc, lastSelected_snoc]
      rfl
  | forwarded d' guest' sent dest log =>
    rw [log, List.append_cons, renewed_snoc, renewed_snoc] at hnot
    rw [log, List.append_cons, lastSelected_snoc, lastSelected_snoc]
    exact hw d guest (sent.dest.trans (dest.symm.trans hdest)) hguest hnot

/-- What the plugin sends stays with its choice where the record that a guest gets is fresh. -/
theorem record_kept_iff (hw : DestChosen w) (hliving : Living .bare w)
    (hnames : (Op.pluginRecord r).NamesDomain w) (hdone : RecordDone r w w') :
    SelectionKept w'.log ↔ SelectionKept w.log ∧ (Op.pluginRecord r).Fresh w := by
  have hunsent (h : ∀ d guest, ¬ForwardsTo w r d guest) : (Op.pluginRecord r).Fresh w := by
    intro r' heq d guest hsent
    cases heq
    exact absurd hsent (h d guest)
  have hrecord (h : SelectionKept w.log) : SelectionKept (w.log ++ [.record r]) := by
    have hone : MessageKept w.log (.record r) := ⟨trivial, trivial⟩
    exact h.snoc hone
  cases hdone with
  | quiet unsent dest log =>
    rw [log]
    exact ⟨fun h => ⟨h.of_append, hunsent unsent⟩, fun h => hrecord h.1⟩
  | selected d selects dest found log =>
    have hfresh : (Op.pluginRecord r).Fresh w := hunsent fun _ _ h => h.event selects.1
    have hselected (h : SelectionKept w.log) :
        SelectionKept (w.log ++ [.record r] ++ [.selected r.ivalue.toInt32.toInt]) := by
      have hone : MessageKept (w.log ++ [.record r]) (.selected r.ivalue.toInt32.toInt) :=
        ⟨trivial, trivial⟩
      exact (hrecord h).snoc hone
    obtain log | ⟨guest, slot, hguest, log⟩ := log
    · rw [log, List.append_cons]
      exact ⟨fun h => ⟨h.of_append.of_append, hfresh⟩, fun h => hselected h.1⟩
    · have hchosen := guest_of_selected hliving hnames selects found hguest
      rw [log, List.append_cons, List.append_cons]
      constructor
      · exact fun h => ⟨h.of_append.of_append.of_append, hfresh⟩
      · intro h
        apply (hselected h.1).snoc
        constructor
        · change lastSelected (_ ++ [_]) = some guest
          rw [lastSelected_snoc, ← hchosen]
          rfl
        · change renewed d (_ ++ [_]) = false
          rw [renewed_snoc]
          rfl
  | forwarded d guest sent dest log =>
    have hsame : lastSelected (w.log ++ [.record r]) = lastSelected w.log := lastSelected_snoc ..
    have hsame' : renewed d (w.log ++ [.record r]) = renewed d w.log := renewed_snoc ..
    rw [log, List.append_cons]
    constructor
    · intro h
      obtain ⟨hbefore, _, hnot⟩ := h.of_snoc
      refine ⟨hbefore.of_append, fun r' heq d' guest' hsent => ?_⟩
      cases heq
      cases sent.dest.symm.trans hsent.dest
      exact hsame'.symm.trans hnot
    · intro h
      have hnot : renewed d w.log = false := h.2 r rfl d guest sent
      apply (hrecord h.1).snoc
      exact ⟨hsame.trans (hw d guest sent.dest sent.client hnot), hsame'.trans hnot⟩

theorem op_kept_iff (hw : DestChosen w) (hliving : Living .bare w) (hnames : o.NamesDomain w)
    (hdone : OpDone w w' o) : SelectionKept w'.log ↔ SelectionKept w.log ∧ o.Fresh w := by
  cases hdone with
  | beside unplugged done =>
    obtain ⟨new, hlog, hnew, _⟩ := done.log
    rw [hlog]
    constructor
    · intro h
      refine ⟨h.of_append, fun r heq => ?_⟩
      rw [heq] at unplugged
      exact absurd trivial unplugged
    · exact fun h => h.1.append fun a ha past => (hnew a ha).kept past
  | accepted s2 dest log =>
    rw [log]
    have hone : MessageKept w.log .accepted := ⟨trivial, trivial⟩
    exact ⟨fun h => ⟨h.of_append, nofun⟩, fun h => h.1.snoc hone⟩
  | refused s2 same =>
    rw [same]
    exact ⟨fun h => ⟨h, nofun⟩, fun h => h.1⟩
  | processed r client done => exact record_kept_iff hw hliving hnames done

theorem DestChosen.op (hw : DestChosen w) (hliving : Living .bare w) (hnames : o.NamesDomain w)
    (hdone : OpDone w w' o) : DestChosen w' := by
  cases hdone with
  | beside unplugged done => exact hw.beside done
  | accepted s2 dest log =>
    intro d guest hdest
    cases dest.symm.trans hdest
  | refused s2 same =>
    rw [same]
    exact hw
  | processed r client done => exact hw.record hliving hnames client done

section
variable [Double F] {w₀ : World F} {ops : List Op}

/-- The plugin's output stays with the domain that it named last, in the runs where no record is
sent to a client that came to the entry later. -/
theorem selection_kept_iff (h₀ : w₀.Initial) :
    SelectionKept w.log ∧ Run (fun o u u' => o.Step u u' ∧ o.NamesDomain u) w₀ ops w ↔
      Run (fun o u u' => (o.Step u u' ∧ o.NamesDomain u) ∧ o.Fresh u) w₀ ops w := by
  have hstart : DestChosen w₀ := by
    intro d guest hdest
    cases h₀.closed.2.2.symm.trans hdest
  apply Run.and_iff (I := fun w => Living .bare w ∧ DestChosen w)
    (P := fun w => SelectionKept w.log) ⟨h₀.living, hstart⟩
  · rw [h₀.silent]
    exact .nil
  · rintro o u u' ⟨hu, hchosen⟩ ⟨hstep, hnames⟩
    exact ⟨hstep.living hu, hchosen.op hu hnames (hstep.done hu)⟩
  · rintro o u u' ⟨hu, hchosen⟩ ⟨hstep, hnames⟩
    exact op_kept_iff hchosen hu hnames (hstep.done hu)

end

/-- A plugin sends a key to the only domain. -/
def keptEntry : List Op :=
  [.pluginAccept 4, .rpcConnect 5 false, .pluginRecord (sendTo 5), .pluginRecord pressKey]

/-- That domain goes away, another one gets its entry, and another key comes. -/
def reusedEntry : List Op :=
  keptEntry ++ [.rpcDisconnect firstEntry, .rpcConnect 6 false, .pluginRecord pressKey]

def selectedLog : List Happening :=
  [.accepted, .client firstEntry 5, .switched 5,
    devSetMessage firstEntry 5 (.input INPUTSLOT_INVALID) INPUTSLOT_INVALID,
    .record (sendTo 5), .selected 5, .record pressKey]

theorem reusedEntry_valid (o : Op) (ho : o ∈ reusedEntry) (w : World F) : o.Valid w := by
  simp only [reusedEntry, keptEntry, List.cons_append, List.nil_append, List.mem_cons,
    List.not_mem_nil, or_false] at ho
  obtain rfl | rfl | rfl | rfl | rfl | rfl | rfl := ho <;> trivial

theorem keptEntry_named (o : Op) (ho : o ∈ keptEntry) (w : World F) : o.NamesDomain w := by
  intro r heq hselects hnone
  simp only [keptEntry, List.mem_cons, List.not_mem_nil, or_false] at ho
  obtain rfl | rfl | rfl | rfl := ho
  · cases heq
  · cases heq
  · cases heq
    exact absurd hnone (by decide)
  · cases heq
    exact absurd hselects.1 (by decide)

/-- The key reaches the domain that the plugin named. -/
theorem selection_kept_key :
    Run (fun o u u' => (o.Step u u' ∧ o.NamesDomain u) ∧ o.Fresh u)
      (startWorld (fun _ => told "1") []) keptEntry
      (Op.reached 5 keptEntry (startWorld (fun _ => told "1") [])) := by
  have hlog : (Op.reached 5 keptEntry (startWorld (fun _ => told "1") [])).log =
      selectedLog ++ [.message firstEntry 5 .plugin pressedKey] := by
    decide +kernel
  have hrun : Run Op.Step (startWorld (fun _ => told "1") []) keptEntry
      (Op.reached 5 keptEntry (startWorld (fun _ => told "1") [])) := by
    apply ops_reached
    · exact fun o ho => reusedEntry_valid o (List.mem_append_left _ ho)
    · decide +kernel
  apply (selection_kept_iff (startWorld_initial _ _)).1
  refine ⟨?_, hrun.and_of_mem keptEntry_named⟩
  rw [hlog]
  have hquiet : SelectionKept selectedLog := by
    refine Throughout.nil.append fun h (hh : h ∈ selectedLog) past => ?_
    simp only [selectedLog, List.mem_cons, List.not_mem_nil, or_false] at hh
    obtain rfl | rfl | rfl | rfl | rfl | rfl | rfl := hh <;> exact ⟨trivial, trivial⟩
  apply hquiet.snoc
  exact ⟨(by decide +kernel : lastSelected selectedLog = some 5),
    (by decide +kernel : renewed firstEntry selectedLog = false)⟩

/-- A key reaches another domain than the one that the plugin named. -/
theorem selection_outlived :
    Run Op.Step (startWorld (fun _ => told "1") []) reusedEntry
        (Op.reached 5 reusedEntry (startWorld (fun _ => told "1") [])) ∧
      ¬SelectionRespected
        (Op.reached 5 reusedEntry (startWorld (fun _ => told "1") [])).log := by
  refine ⟨ops_reached reusedEntry_valid (by decide +kernel), ?_⟩
  have hlog : (Op.reached 5 reusedEntry (startWorld (fun _ => told "1") [])).log =
      (selectedLog ++ [.message firstEntry 5 .plugin pressedKey, .client firstEntry 6,
        .switched 6, devSetMessage firstEntry 6 (.input INPUTSLOT_INVALID) INPUTSLOT_INVALID,
        .record pressKey]) ++ [.message firstEntry 6 .plugin pressedKey] := by
    decide +kernel
  rw [hlog]
  intro h
  have hlast : lastSelected _ = some 6 := h.of_snoc.2
  rw [lastSelected] at hlast
  exact absurd hlast (by decide +kernel)

end InputServer
