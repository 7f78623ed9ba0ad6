import InputServer.HidReports
import InputServer.HidWrites
import InputServer.ReceiveProofs
import InputServer.SocketStream

namespace InputServer
open Buffer Program
set_option autoImplicit true

/-- The device slot of the touch screen. -/
def TOUCHSCREEN_SLOT : Int32 := 6

/-- `report_length` of the HID function. -/
def hidReportLength : UInt16 := 8

/-- The packed bytes of `struct superhid_report`. -/
def SuperhidReport.bytes (r : SuperhidReport) : List UInt8 :=
  r.reportId :: r.misc :: (toBytes 2 r.x.toNat ++ toBytes 2 r.y.toNat)

/-- The statics of the HID plugin, and the reports that it writes, one after the other. -/
structure SuperhidPlugin where
  devSet : Int32
  hid : HidStatics
  stopped : Bool
  writes : List SuperhidReport

/-- `process_event` of the HID plugin. -/
def superhidProcessEvent (r : EventRecord) : Program Fault SuperhidPlugin Unit := do
  if r.itype = EV_DEV ∧ r.icode = DEV_SET then
    modify fun p => { p with devSet := r.ivalue.toInt32 }
  let p ← get
  if p.devSet ≠ TOUCHSCREEN_SLOT then pure ()
  else
    match processAbsoluteEvent p.hid r.itype r.icode r.ivalue with
    | none => throw .segv
    | some (hid, written) => set { p with hid := hid, writes := p.writes ++ written }

/-- `stop` of the HID plugin. -/
def superhidStop : Program Fault SuperhidPlugin Unit :=
  modify fun p => { p with stopped := true }

def startSuperhid : SuperhidPlugin where
  devSet := 0
  hid := startHid
  stopped := false
  writes := []

/-- What records make of the plugin. -/
def superhidRun (rs : List EventRecord) (p : SuperhidPlugin) : Except Fault SuperhidPlugin :=
  rs.foldlM (fun p r => (superhidProcessEvent r p).map Prod.snd) p

/-- The daemon's end of the plugin's connection, the plugin behind it, and the gadget that it writes
to. The daemon's socket took `accepted` records; `received` bytes of them have reached the plugin,
which made `written` of its writes. -/
structure HidPipeline where
  sock : SockPlugin
  accepted : List EventRecord
  received : Nat
  buf : RecvBuffer
  plugin : SuperhidPlugin
  written : Nat
  gadget : HidgSend

namespace HidPipeline

/-- The bytes that the plugin has yet to receive. -/
def incoming (s : HidPipeline) : List UInt8 :=
  s.sock.wire.drop s.received

/-- Something that one end of the pipeline does. -/
inductive Event where
  | send (itype icode : UInt16) (ivalue : UInt32) (sends : List SendOutcome)
  | recv (o : RecvOutcome)
  | write (wait : WaitEnd) (queued : Int)
  | take

/-- The daemon sends a record, with the answers that `send` gives. -/
def sendRecord (s : HidPipeline) (e : EventRecord) (sends : List SendOutcome) :
    Except Fault HidPipeline := do
  let (ok, sock) ← sendToPlugin e { s.sock with sends := sends }
  pure { s with sock := sock, accepted := if ok then s.accepted ++ [e] else s.accepted }

/-- The plugin's `recv_callback`. -/
def recvBytes (s : HidPipeline) (o : RecvOutcome) : Except Fault HidPipeline := do
  let ((buf, rest), plugin) ←
    recvCallback (fun r _ => superhidProcessEvent r) superhidStop o s.buf s.incoming s.plugin
  pure { s with buf := buf, plugin := plugin, received := s.sock.wire.length - rest.length }

/-- The next write of the plugin. -/
def writeReport (s : HidPipeline) (wait : WaitEnd) (queued : Int) : HidPipeline :=
  match s.plugin.writes[s.written]? with
  | none => s
  | some r => { s with
      gadget := s.gadget.fHidgWrite hidReportLength r.bytes true wait 0 queued
      written := s.written + 1 }

/-- The host takes a report; nobody but the gadget has its endpoint. -/
def takeReport (s : HidPipeline) : Except Fault HidPipeline :=
  match s.gadget.inDone with
  | .error _ => .error .segv
  | .ok gadget => .ok { s with gadget := gadget }

def Event.run : Event → HidPipeline → Except Fault HidPipeline
  | .send itype icode ivalue sends, s => s.sendRecord (.mk' itype icode ivalue) sends
  | .recv o, s => s.recvBytes o
  | .write wait queued, s => .ok (s.writeReport wait queued)
  | .take, s => s.takeReport

/-- The connection lasts, and no write fails. The plugin receives where there is something, after it
has made its writes, and a write waits until the one before was taken. -/
def Event.Valid (s : HidPipeline) : Event → Prop
  | .send _ _ _ sends => .fatal ∉ sends
  | .recv o => s.incoming ≠ [] ∧ s.written = s.plugin.writes.length ∧ o ≠ .closed
  | .write _ queued => s.written < s.plugin.writes.length ∧ s.gadget.writePending = false ∧ 0 ≤ queued
  | .take => s.gadget.inFlight ≠ none

def Event.Step (e : Event) (s s' : HidPipeline) : Prop :=
  e.Valid s ∧ e.run s = .ok s'

/-- The daemon has accepted the plugin's connection, and the host has configured the gadget. -/
structure Ready (s : HidPipeline) : Prop where
  connected : s.sock.Connected
  fresh : s.sock.stream = [] ∧ s.accepted = [] ∧ s.received = 0 ∧ s.written = 0
  buffer : s.buf.buffer.length = superhidBuffersize ∧ s.buf.bytesRemaining = 0 ∧ s.buf.position = 0
  plugin : s.plugin = startSuperhid
  gadget : s.gadget.Kept hidReportLength ∧ s.gadget.inEnabled = true ∧ s.gadget.inFlight = none
  unwritten : Fifo.given (s.gadget.log.filterMap SendHappening.event) = []

end HidPipeline

section
variable {rs : List EventRecord} {bytes : List UInt8}

theorem take_encoded (rs : List EventRecord) (n : Nat) :
    (rs.flatMap EventRecord.encode).take (EVENT_SIZE * n) =
      (rs.take n).flatMap EventRecord.encode := by
  induction rs generalizing n with
  | nil => rw [List.take_nil, List.flatMap_nil, List.take_nil]
  | cons r rs ih =>
    cases n with
    | zero => rfl
    | succ n =>
      have hsize : EVENT_SIZE * (n + 1) = r.encode.length + EVENT_SIZE * n := by
        rw [r.encode_length, Nat.mul_succ, Nat.add_comm]
      rw [List.flatMap_cons, hsize, List.take_length_add_append, ih, List.take_succ_cons,
        List.flatMap_cons]

/-- The first bytes of a stream of records are whole records and a part of the next one. -/
theorem decode_part (hmagic : ∀ r ∈ rs, r.magic = MAGIC)
    (h : bytes <+: rs.flatMap EventRecord.encode) :
    decodeRecords bytes = rs.take (bytes.length / EVENT_SIZE) := by
  generalize hn : bytes.length / EVENT_SIZE = n
  have hsize : 0 < EVENT_SIZE := by decide
  have hle : EVENT_SIZE * n ≤ bytes.length := by
    rw [← hn]
    exact Nat.mul_div_le _ _
  have hwhole : bytes.take (EVENT_SIZE * n) = (rs.take n).flatMap EventRecord.encode := by
    obtain ⟨more, hmore⟩ := h
    rw [← take_encoded, ← hmore, List.take_append_of_le_length hle]
  have hshort : (bytes.drop (EVENT_SIZE * n)).length < recordFraming.width := by
    rw [List.length_drop, ← hn]
    have hmod := Nat.mod_lt bytes.length hsize
    have hdiv := Nat.div_add_mod bytes.length EVENT_SIZE
    change _ < EVENT_SIZE
    omega
  have hdecode := recordFraming.decode_append (bytes.take (EVENT_SIZE * n))
    (bytes.drop (EVENT_SIZE * n))
  rw [List.take_append_drop, hwhole,
    decode_encode fun r hr => hmagic r (List.mem_of_mem_take hr), List.nil_append,
    recordFraming.decode_short hshort] at hdecode
  rw [decodeRecords, hdecode, List.append_nil]

theorem Line.send_delayed {l : Line} (h : l.send.1 = false) : l.send.2.delayed ≤ l.delayed := by
  have hoffer (os : List SendOutcome) (h : (Line.offer os).1 = false) :
      (Line.offer os).2.delayed = 0 := by
    fun_induction Line.offer os with
    | case1 => rfl
    | case2 os ih => exact ih h
    | case3 os => rfl
    | case4 os => cases h
    | case5 k os hlt => cases h
    | case6 k os hlt => cases h
  rw [Line.send] at h ⊢
  by_cases hdelayed : l.delayed ≠ 0
  · rw [if_pos hdelayed] at h ⊢
    by_cases hdrained : (Line.drain l.sends l.delayed).1 = true
    · rw [if_pos hdrained] at h ⊢
      rw [hoffer _ h]
      exact Nat.zero_le _
    · rw [if_neg hdrained] at h ⊢
      exact Line.drain_delayed_le _ _
  · rw [if_neg hdelayed] at h ⊢
    rw [hoffer _ h]
    exact Nat.zero_le _

theorem stream_length {p : SockPlugin} (h : p.Connected) :
    p.stream.length = p.wire.length + p.delayed := by
  have hshort := h.short
  have hsize := h.size
  rw [SockPlugin.stream, List.length_append, slice_length (by omega)]

/-- The bytes that the socket has taken stay taken. -/
theorem SockPlugin.Sent.wire_prefix {p p' : SockPlugin} {r : EventRecord}
    (h : SockPlugin.Sent r ok p p') (hp : p.Connected) : p.wire <+: p'.wire := by
  have hlength := congrArg List.length h.stream
  rw [List.length_append, stream_length hp, stream_length h.still.toConnected] at hlength
  have hshort := h.still.short
  have hwire : p.wire.length ≤ p'.wire.length := by
    have hdelayed : p'.delayed = p.line.send.2.delayed := congrArg Line.delayed h.line
    cases ok with
    | true =>
      simp only [if_true, r.encode_length] at hlength
      omega
    | false =>
      have hless := Line.send_delayed h.answer.symm
      change _ ≤ p.delayed at hless
      simp only [Bool.false_eq_true, if_false, List.length_nil] at hlength
      omega
  have hin : p.wire <+: p'.stream := by
    rw [h.stream, SockPlugin.stream, List.append_assoc]
    exact List.prefix_append _ _
  exact List.prefix_of_prefix_length_le hin (List.prefix_append _ _) hwire

end

section
variable {p p' : SuperhidPlugin} {s s' s₀ : HidPipeline} {es : List HidPipeline.Event}

theorem superhidProcessEvent_writes {r : EventRecord}
    (h : superhidProcessEvent r p = .ok ((), p')) : p.writes <+: p'.writes := by
  have hwrites : wlp (superhidProcessEvent r) (fun _ p' => p.writes <+: p'.writes) p := by
    have hrest {p₁ : SuperhidPlugin} (hp₁ : p₁.writes = p.writes) :
        wlp (do
          let p ← get
          if p.devSet ≠ TOUCHSCREEN_SLOT then pure ()
          else
            match processAbsoluteEvent p.hid r.itype r.icode r.ivalue with
            | none => throw .segv
            | some (hid, written) => set { p with hid := hid, writes := p.writes ++ written } :
          Program Fault SuperhidPlugin Unit) (fun _ p' => p.writes <+: p'.writes) p₁ := by
      rw [wlp_bind, wlp_get]
      by_cases hslot : p₁.devSet ≠ TOUCHSCREEN_SLOT
      · rw [if_pos hslot, wlp_pure, hp₁]
      · rw [if_neg hslot]
        cases processAbsoluteEvent p₁.hid r.itype r.icode r.ivalue with
        | none => exact fun _ _ hno => by cases hno
        | some made =>
          dsimp only
          rw [wlp_set]
          dsimp only
          rw [hp₁]
          exact List.prefix_append _ _
    rw [superhidProcessEvent]
    by_cases hset : r.itype = EV_DEV ∧ r.icode = DEV_SET
    · rw [if_pos hset, wlp_bind, wlp_modify]
      exact hrest rfl
    · rw [if_neg hset]
      exact hrest rfl
  exact hwrites () p' h

theorem superhidRun_writes {rs : List EventRecord} (h : superhidRun rs p = .ok p') :
    p.writes <+: p'.writes := by
  induction rs generalizing p with
  | nil =>
    cases h
    exact List.prefix_refl _
  | cons r rs ih =>
    rw [superhidRun, List.foldlM_cons] at h
    cases hone : superhidProcessEvent r p with
    | error e =>
      rw [hone] at h
      cases h
    | ok done =>
      rw [hone] at h
      exact (superhidProcessEvent_writes hone).trans (ih h)

theorem handEach_superhid {calls : List (EventRecord × RecvBuffer)}
    (h : handEach (fun r _ => superhidProcessEvent r) calls p = .ok ((), p')) :
    superhidRun (calls.map Prod.fst) p = .ok p' := by
  induction calls generalizing p with
  | nil =>
    cases h
    rfl
  | cons c calls ih =>
    rw [handEach, List.forM_eq_forM, List.forM_cons] at h
    obtain ⟨_, p₁, hone, hrest⟩ := run_bind h
    rw [List.map_cons, superhidRun, List.foldlM_cons, hone]
    exact ih hrest

/-- What one call of `recv_callback` reads, while the connection lasts. -/
theorem recvCallback_reads {o : RecvOutcome} (ho : o ≠ .closed) {b : RecvBuffer}
    (hb : b.Bounded superhidBuffersize) (hshort : b.bytesRemaining < EVENT_SIZE)
    (hin : incoming ≠ []) :
    ∃ consumed rest, incoming = consumed ++ rest ∧
      ReadsWhole (fun r _ => superhidProcessEvent r) superhidBuffersize
        (recvCallback (fun r _ => superhidProcessEvent r) superhidStop o b incoming) b.carry
        consumed rest := by
  obtain ⟨hcompact, hcarry⟩ := compact_spec hb
  have hnothing : ReadsWhole (fun r _ => superhidProcessEvent r) superhidBuffersize
      (pure (compact b, incoming)) b.carry [] incoming := by
    rw [← hcarry]
    exact .refl _ hcompact hshort incoming
  cases o with
  | eintr retry => exact ⟨[], incoming, rfl, hnothing⟩
  | error => exact ⟨[], incoming, rfl, hnothing⟩
  | closed => exact absurd rfl ho
  | got k =>
    obtain ⟨consumed, rest, -, heq, hreads⟩ :=
      receive_spec (fun r _ => superhidProcessEvent r) superhidStop k hb hshort (by decide) hin
    exact ⟨consumed, rest, heq, hreads⟩

namespace HidPipeline

/-- The reports that the gadget accepted, and the host took. -/
def events (s : HidPipeline) : List (FifoEvent (List UInt8)) :=
  s.gadget.log.filterMap SendHappening.event

/-- The invariant of the pipeline: what one end has done is what the next one works on. -/
structure Flows (s : HidPipeline) : Prop where
  connected : s.sock.Connected
  stream : s.sock.stream = s.accepted.flatMap EventRecord.encode
  magic : ∀ r ∈ s.accepted, r.magic = MAGIC
  received : s.received ≤ s.sock.wire.length
  buffer : s.buf.Bounded superhidBuffersize
  carry : s.buf.carry = (recordFraming.decode (s.sock.wire.take s.received)).2
  short : s.buf.bytesRemaining < EVENT_SIZE
  ran : superhidRun (decodeRecords (s.sock.wire.take s.received)) startSuperhid = .ok s.plugin
  writing : s.written ≤ s.plugin.writes.length
  gadget : s.gadget.Kept hidReportLength
  enabled : s.gadget.inEnabled = true
  given : Fifo.given s.events = (s.plugin.writes.take s.written).map SuperhidReport.bytes

theorem Flows.sendRecord (h : s.Flows) {e : EventRecord} (he : e.magic = MAGIC)
    {sends : List SendOutcome} (hsends : .fatal ∉ sends)
    (hrun : s.sendRecord e sends = .ok s') : s'.Flows := by
  obtain ⟨ok, sock, hsend, hsent⟩ := sendToPlugin_spec e _ (h.connected.withSends hsends)
  rw [HidPipeline.sendRecord, hsend] at hrun
  cases hrun
  have hprefix : s.sock.wire <+: sock.wire := hsent.wire_prefix
    ⟨h.connected.connected, h.connected.size, h.connected.short⟩
  have htake : sock.wire.take s.received = s.sock.wire.take s.received := by
    obtain ⟨more, hmore⟩ := hprefix
    rw [← hmore, List.take_append_of_le_length h.received]
  have hcarry := h.carry
  have hran := h.ran
  rw [← htake] at hcarry hran
  refine ⟨hsent.still.toConnected, ?_, ?_, h.received.trans hprefix.length_le, h.buffer, hcarry,
    h.short, hran, h.writing, h.gadget, h.enabled, h.given⟩
  · have hstream := hsent.stream
    change sock.stream = s.sock.stream ++ _ at hstream
    rw [h.stream] at hstream
    cases ok with
    | true =>
      simp only [if_true] at hstream ⊢
      rw [hstream, List.flatMap_append, List.flatMap_singleton]
    | false =>
      simp only [Bool.false_eq_true, if_false, List.append_nil] at hstream ⊢
      exact hstream
  · intro r hr
    cases ok with
    | true =>
      rcases List.mem_append.1 hr with hr | hr
      · exact h.magic r hr
      · rw [List.mem_singleton.1 hr]
        exact he
    | false => exact h.magic r hr

theorem Flows.recvBytes (h : s.Flows) {o : RecvOutcome} (hin : s.incoming ≠ [])
    (hdone : s.written = s.plugin.writes.length) (ho : o ≠ .closed)
    (hrun : s.recvBytes o = .ok s') : s'.Flows := by
  obtain ⟨consumed, rest, heq, calls, b, hread, hcalls, -, hbounded, hcarry, hshort⟩ :=
    recvCallback_reads ho h.buffer h.short hin
  rw [HidPipeline.recvBytes, hread] at hrun
  cases hhand : handEach (fun r _ => superhidProcessEvent r) calls s.plugin with
  | error e =>
    rw [bind_apply, hhand] at hrun
    cases hrun
  | ok done =>
    obtain ⟨_, plugin⟩ := done
    rw [bind_ok hhand] at hrun
    cases hrun
    have hnew := handEach_superhid hhand
    have hwrites := superhidRun_writes hnew
    have hle := h.received
    have hlength : s.sock.wire.length - s.received = consumed.length + rest.length := by
      rw [← List.length_append, ← heq, incoming, List.length_drop]
    have hupto : s.sock.wire.take (s.sock.wire.length - rest.length) =
        s.sock.wire.take s.received ++ consumed := by
      have hsplit : s.sock.wire = s.sock.wire.take s.received ++ consumed ++ rest := by
        rw [List.append_assoc, ← heq, incoming, List.take_append_drop]
      have hat : s.sock.wire.length - rest.length =
          (s.sock.wire.take s.received ++ consumed).length := by
        rw [List.length_append, List.length_take]
        omega
      rw [hat]
      exact (congrArg (List.take _) hsplit).trans List.take_left
    have hdecode := recordFraming.decode_append (s.sock.wire.take s.received) consumed
    rw [← h.carry] at hdecode
    refine ⟨h.connected, h.stream, h.magic, Nat.sub_le _ _, hbounded, ?_, hshort, ?_, ?_, h.gadget,
      h.enabled, ?_⟩
    · dsimp only
      rw [hupto, hdecode]
      exact hcarry
    · have hfirst := h.ran
      rw [decodeRecords, superhidRun] at hfirst
      rw [hcalls, decodeRecords, superhidRun] at hnew
      dsimp only
      rw [hupto, decodeRecords, hdecode, superhidRun, List.foldlM_append, hfirst]
      exact hnew
    · exact h.writing.trans hwrites.length_le
    · obtain ⟨more, hmore⟩ := hwrites
      have hgiven := h.given
      rw [hdone, List.take_length] at hgiven
      dsimp only
      rw [hdone, ← hmore, List.take_left]
      exact hgiven

theorem Flows.writeReport (h : s.Flows) {wait : WaitEnd} {queued : Int}
    (hmore : s.written < s.plugin.writes.length) (hopen : s.gadget.writePending = false)
    (hqueued : 0 ≤ queued) : (s.writeReport wait queued).Flows := by
  rw [HidPipeline.writeReport, List.getElem?_eq_getElem hmore]
  generalize hr : s.plugin.writes[s.written] = r
  have hkept : HidgSend.Kept hidReportLength
      (s.gadget.fHidgWrite hidReportLength r.bytes true wait 0 queued) :=
    h.gadget.write fun _ => h.enabled
  have hwrite : s.gadget.fHidgWrite hidReportLength r.bytes true wait 0 queued =
      { s.gadget with
        reqBuf := blit s.gadget.reqBuf 0 r.bytes
        writePending := true
        inFlight := some 6 }.happens (.wrote 6 r.bytes) := by
    rw [HidgSend.fHidgWrite, hopen]
    simp only [Bool.not_true, Bool.false_eq_true, if_false, ne_eq, not_true]
    rw [if_neg (Int.not_lt.2 hqueued)]
    rfl
  dsimp only
  rw [hwrite] at hkept ⊢
  refine ⟨h.connected, h.stream, h.magic, h.received, h.buffer, h.carry, h.short, h.ran, hmore,
    hkept, h.enabled, ?_⟩
  rw [List.take_add_one, List.getElem?_eq_getElem hmore, hr, Option.toList_some, List.map_append,
    ← h.given, events, HidgSend.filterMap_snoc]
  exact Fifo.given_push _ [r.bytes]

theorem Flows.takeReport (h : s.Flows) (hrun : s.takeReport = .ok s') : s'.Flows := by
  obtain ⟨gadget, hdone, hkept⟩ := h.gadget.inDone
  rw [HidPipeline.takeReport, hdone] at hrun
  cases hrun
  have hsame : gadget.inEnabled = s.gadget.inEnabled ∧
      Fifo.given (gadget.log.filterMap SendHappening.event) = Fifo.given s.events := by
    rw [HidgSend.inDone] at hdone
    cases hn : s.gadget.inFlight with
    | none =>
      rw [hn] at hdone
      cases hdone
      exact ⟨rfl, rfl⟩
    | some n =>
      have howner : s.gadget.inOwner = .hidg := h.gadget.owned h.enabled
      have hcomplete : ({ s.gadget with inFlight := none }.happens
          (.sent (s.gadget.reqBuf.take n))).fHidgReqComplete = .ok _ := if_pos howner
      rw [hn] at hdone
      cases hcomplete.symm.trans hdone
      refine ⟨rfl, ?_⟩
      change Fifo.given ((s.gadget.happens (.sent (s.gadget.reqBuf.take n))).log.filterMap
        SendHappening.event) = _
      rw [HidgSend.filterMap_snoc]
      exact Fifo.given_pop _ _
  exact ⟨h.connected, h.stream, h.magic, h.received, h.buffer, h.carry, h.short, h.ran, h.writing,
    hkept, hsame.1.trans h.enabled, hsame.2.trans h.given⟩

theorem Event.Step.flows {e : Event} (hstep : e.Step s s') (h : s.Flows) : s'.Flows := by
  obtain ⟨hvalid, hrun⟩ := hstep
  cases e with
  | send itype icode ivalue sends => exact h.sendRecord rfl hvalid hrun
  | recv o => exact h.recvBytes hvalid.1 hvalid.2.1 hvalid.2.2 hrun
  | write wait queued =>
    cases hrun
    exact h.writeReport hvalid.1 hvalid.2.1 hvalid.2.2
  | take => exact h.takeReport hrun

theorem Ready.flows (h : s.Ready) : s.Flows := by
  obtain ⟨hstream, haccepted, hreceived, hwritten⟩ := h.fresh
  obtain ⟨hsize, hremaining, hposition⟩ := h.buffer
  have hcarry : s.buf.carry = [] := by
    rw [RecvBuffer.carry, hremaining, slice_zero]
  constructor
  · exact h.connected
  · rw [hstream, haccepted]
    rfl
  · rw [haccepted]
    exact fun r hr => absurd hr List.not_mem_nil
  · rw [hreceived]
    exact Nat.zero_le _
  · exact ⟨hsize, by rw [hposition, hremaining]; exact Nat.zero_le _⟩
  · rw [hcarry, hreceived]
    rfl
  · rw [hremaining]
    decide
  · rw [hreceived, h.plugin]
    rfl
  · rw [hwritten]
    exact Nat.zero_le _
  · exact h.gadget.1
  · exact h.gadget.2.1
  · rw [events, h.unwritten, hwritten]
    rfl

/-- The records that the daemon's socket accepts come out at the host as the reports that the plugin
makes of them, however `send` and `recv` cut the stream and whatever the four parties do in turn:
what the host took, what the gadget holds and what the plugin has yet to write are together, in
order, the reports of the records that were received whole. -/
theorem hid_pipeline (h₀ : s₀.Ready) (hrun : Run Event.Step s₀ es s) :
    superhidRun (s.accepted.take (s.received / EVENT_SIZE)) startSuperhid = .ok s.plugin ∧
      Fifo.taken s.events ++ s.gadget.pending ++
        (s.plugin.writes.drop s.written).map SuperhidReport.bytes =
          s.plugin.writes.map SuperhidReport.bytes ∧
      s.sock.wire ++ slice s.sock.partialBuffer 0 s.sock.delayed =
        s.accepted.flatMap EventRecord.encode := by
  have hflows : s.Flows := hrun.invariant (I := fun _ s => s.Flows) h₀.flows
    fun _ _ _ _ hs hstep => hstep.flows hs
  refine ⟨?_, ?_, hflows.stream⟩
  · have hprefix : s.sock.wire.take s.received <+: s.accepted.flatMap EventRecord.encode := by
      rw [← hflows.stream]
      exact (List.take_prefix _ _).trans (List.prefix_append _ _)
    have hran := hflows.ran
    rw [decode_part hflows.magic hprefix, List.length_take,
      Nat.min_eq_left hflows.received] at hran
    exact hran
  · have hconserved := hflows.gadget.fifo.conserved
    change Fifo.given s.events = Fifo.taken s.events ++ s.gadget.pending at hconserved
    rw [← hconserved, hflows.given, ← List.map_append, List.take_append_drop]

/-- The state after an event, or the one before where it fails. -/
def Event.next (e : Event) (s : HidPipeline) : HidPipeline :=
  (e.run s).toOption.getD s

def reached (es : List Event) (s : HidPipeline) : HidPipeline :=
  es.foldl (fun s e => e.next s) s

theorem step_next {e : Event} (hvalid : e.Valid s) (hok : (e.run s).isOk = true) :
    e.Step s (e.next s) := by
  refine ⟨hvalid, ?_⟩
  rw [Event.next]
  cases hrun : e.run s with
  | error fault =>
    rw [hrun] at hok
    cases hok
  | ok s' => rfl

/-- A connection that was accepted just now, and a gadget that the host has just configured. -/
def start : HidPipeline where
  sock := acceptedPlugin idlePlugin 5
  accepted := []
  received := 0
  buf := freshBuffer (List.replicate superhidBuffersize 0)
  plugin := startSuperhid
  written := 0
  gadget := { boundHidg.send with
    reqBuf := List.replicate 8 0, inEnabled := true, inOwner := .hidg }

theorem start_ready : start.Ready where
  connected := acceptedPlugin_connected (by decide) rfl
  fresh := ⟨acceptedPlugin_stream idlePlugin 5, rfl, rfl, rfl⟩
  buffer := ⟨List.length_replicate, rfl, rfl⟩
  plugin := rfl
  gadget := ⟨⟨rfl, fun h => absurd rfl h, fun _ => rfl, rfl, .nil⟩, rfl, rfl⟩
  unwritten := rfl

/-- The touch screen is selected and reports; the records are cut where neither ends. -/
def touch : List Event :=
  [.send EV_DEV DEV_SET 6 [.took 20], .send EV_SYN SYN_REPORT 0 [.took 3, .took 20],
    .recv (.got 15), .recv (.got 20), .write .nonblock 0, .take]

theorem hid_pipeline_touch :
    superhidRun ((reached touch start).accepted.take ((reached touch start).received / EVENT_SIZE))
        startSuperhid = .ok (reached touch start).plugin ∧
      Fifo.taken (reached touch start).events ++ (reached touch start).gadget.pending ++
        ((reached touch start).plugin.writes.drop (reached touch start).written).map
          SuperhidReport.bytes = (reached touch start).plugin.writes.map SuperhidReport.bytes ∧
      (reached touch start).sock.wire ++
          slice (reached touch start).sock.partialBuffer 0 (reached touch start).sock.delayed =
        (reached touch start).accepted.flatMap EventRecord.encode := by
  apply hid_pipeline start_ready
  have h₁ : Run Event.Step start (touch.take 1) (reached (touch.take 1) start) :=
    .snoc .nil (step_next (by unfold Event.Valid; decide) (by decide +kernel))
  have h₂ : Run Event.Step start (touch.take 2) (reached (touch.take 2) start) :=
    .snoc h₁ (step_next (by unfold Event.Valid; decide) (by decide +kernel))
  have h₃ : Run Event.Step start (touch.take 3) (reached (touch.take 3) start) :=
    .snoc h₂ (step_next ⟨by decide +kernel, by decide +kernel, fun h => by cases h⟩
      (by decide +kernel))
  have h₄ : Run Event.Step start (touch.take 4) (reached (touch.take 4) start) :=
    .snoc h₃ (step_next ⟨by decide +kernel, by decide +kernel, fun h => by cases h⟩
      (by decide +kernel))
  have h₅ : Run Event.Step start (touch.take 5) (reached (touch.take 5) start) :=
    .snoc h₄ (step_next ⟨by decide +kernel, by decide +kernel, by decide⟩ (by decide +kernel))
  have hlast : Event.Step .take (reached (touch.take 5) start) (reached touch start) :=
    step_next (by unfold Event.Valid; decide +kernel) (by decide +kernel)
  exact h₅.snoc hlast

end HidPipeline

end

end InputServer
