import InputServer.Library.Run
import InputServer.SocketStream

namespace InputServer
open Program SockPlugin
set_option autoImplicit true

namespace Line

/-- The line after `n` more records were offered. -/
def after : Line → Nat → Line
  | l, 0 => l
  | l, n + 1 => after l.send.2 n

/-- No record is taken after one was refused. -/
def Steady (l : Line) : Prop :=
  ∀ n, (l.after n).send.1 = false → (l.after (n + 1)).send.1 = false

theorem Steady.next {l : Line} (h : l.Steady) : l.send.2.Steady :=
  fun n => h (n + 1)

theorem Steady.refused {l : Line} (h : l.Steady) (hr : l.send.1 = false) :
    l.send.2.send.1 = false :=
  h 0 hr

theorem Steady.of_next {l : Line} (h : l.send.1 = true) (hs : l.send.2.Steady) : l.Steady := by
  intro n hn
  cases n with
  | zero => exact absurd (h.symm.trans hn) (by decide)
  | succ n => exact hs n hn

/-- A socket with no answer left refuses everything. -/
theorem steady_nil (delayed : Nat) : Steady { delayed := delayed, sends := [] } := by
  have hsend : Line.send { delayed := delayed, sends := [] } =
      (false, { delayed := delayed, sends := [] }) := by
    cases delayed with
    | zero => rfl
    | succ delayed => rfl
  have hafter : ∀ n, Line.after { delayed := delayed, sends := [] } n =
      { delayed := delayed, sends := [] } := by
    intro n
    induction n with
    | zero => rfl
    | succ n ih => rw [after, hsend, ih]
  intro n _
  rw [hafter, hsend]

end Line

namespace SockPlugin

/-- The connection is open and its queue is allocated. -/
structure Live (p : SockPlugin) : Prop extends Open p where
  queue : p.devFreed = false

/-- From `p` to `p'` the socket has taken exactly `rs`. -/
structure Emits (p p' : SockPlugin) (rs : List EventRecord) : Prop where
  live : p'.Live
  steady : p.line.Steady → p'.line.Steady
  magic : ∀ r ∈ rs, r.magic = MAGIC
  stream : p'.stream = p.stream ++ rs.flatMap EventRecord.encode

/-- The fields that tell the client's slot and what it has missed are as they were. -/
structure SameSlots (p p' : SockPlugin) : Prop where
  slot : p'.slot = p.slot
  dropped : p'.dropped = p.dropped
  slotDropped : p'.slotDropped = p.slotDropped

/-- What the socket and the queue's memory look like is as it was. -/
structure SameConnection (p p' : SockPlugin) : Prop where
  s : p'.s = p.s
  delayed : p'.delayed = p.delayed
  partialBuffer : p'.partialBuffer = p.partialBuffer
  sends : p'.sends = p.sends
  wire : p'.wire = p.wire
  devFreed : p'.devFreed = p.devFreed

theorem Live.update (h : Live p) (hc : SameConnection p p') : Live p' :=
  ⟨⟨⟨hc.s ▸ h.connected, hc.partialBuffer ▸ h.size, hc.delayed ▸ h.short⟩, hc.sends ▸ h.alive⟩,
    hc.devFreed.trans h.queue⟩

theorem Emits.refl {p : SockPlugin} (h : p.Live) : Emits p p [] := by
  refine ⟨h, id, ?_, (List.append_nil _).symm⟩
  intro r hr
  cases hr

theorem Emits.trans (h : Emits p p' rs) (h' : Emits p' p'' rs') : Emits p p'' (rs ++ rs') := by
  refine ⟨h'.live, fun hs => h'.steady (h.steady hs), ?_, ?_⟩
  · intro r hr
    cases List.mem_append.mp hr with
    | inl hr => exact h.magic r hr
    | inr hr => exact h'.magic r hr
  · rw [h'.stream, h.stream, List.flatMap_append, List.append_assoc]

theorem Emits.update (h : Emits p p' rs) (hc : SameConnection p' p'') : Emits p p'' rs := by
  refine ⟨h.live.update hc, ?_, h.magic, ?_⟩
  · have hline : p''.line = p'.line := by rw [line, hc.delayed, hc.sends, line]
    rw [hline]
    exact h.steady
  · have hstream : p''.stream = p'.stream := by
      rw [SockPlugin.stream, hc.wire, hc.partialBuffer, hc.delayed, SockPlugin.stream]
    rw [hstream]
    exact h.stream

theorem SameSlots.refl (p : SockPlugin) : SameSlots p p :=
  ⟨rfl, rfl, rfl⟩

theorem SameSlots.trans (h : SameSlots p p') (h' : SameSlots p' p'') : SameSlots p p'' :=
  ⟨h'.slot.trans h.slot, h'.dropped.trans h.dropped, h'.slotDropped.trans h.slotDropped⟩

theorem Sent.emits (h : Sent r ok p p') (hp : p.Live) (hr : r.magic = MAGIC) :
    Emits p p' (if ok then [r] else []) := by
  have hfreed : p'.devFreed = p.devFreed := h.field _ fun _ _ _ _ => rfl
  refine ⟨⟨h.still, hfreed.trans hp.queue⟩, ?_, ?_, ?_⟩
  · intro hs
    rw [h.line]
    exact hs.next
  · intro r' hr'
    cases ok with
    | true =>
      obtain rfl := List.mem_singleton.mp hr'
      exact hr
    | false => cases hr'
  · rw [h.stream]
    cases ok with
    | true => simp only [if_true, List.flatMap_cons, List.flatMap_nil, List.append_nil]
    | false => rfl

theorem Sent.sameSlots (h : Sent r ok p p') : SameSlots p p' :=
  ⟨h.field _ fun _ _ _ _ => rfl, h.field _ fun _ _ _ _ => rfl, h.field _ fun _ _ _ _ => rfl⟩

theorem Sent.refused (h : Sent r ok p p') (hok : ok = false) (hs : p.line.Steady) :
    p'.line.send.1 = false := by
  rw [h.line]
  exact hs.refused (h.answer.symm.trans hok)

end SockPlugin

/-- A record that neither selects a slot nor announces a loss. -/
structure Quiet (r : EventRecord) : Prop where
  magic : r.magic = MAGIC
  slot : ¬(r.itype = EV_DEV ∧ r.icode = DEV_SET)
  loss : ¬(r.itype = EV_SYN ∧ r.icode = SYN_DROPPED)

/-- Only quiet records were taken and the slots are as they were. -/
def Pends (p p' : SockPlugin) : Prop :=
  ∃ rs, (∀ r ∈ rs, Quiet r) ∧ Emits p p' rs ∧ SameSlots p p'

theorem Pends.refl (h : p.Live) : Pends p p := by
  refine ⟨[], ?_, .refl h, .refl p⟩
  intro r hr
  cases hr

theorem Pends.trans (h : Pends p p') (h' : Pends p' p'') : Pends p p'' := by
  obtain ⟨rs, hq, he, hs⟩ := h
  obtain ⟨rs', hq', he', hs'⟩ := h'
  refine ⟨rs ++ rs', ?_, he.trans he', hs.trans hs'⟩
  intro r hr
  cases List.mem_append.mp hr with
  | inl hr => exact hq r hr
  | inr hr => exact hq' r hr

theorem Pends.live (h : Pends p p') : p'.Live := by
  obtain ⟨rs, _, he, _⟩ := h
  exact he.live

theorem Pends.update (h : Pends p p') (hc : SameConnection p' p'') (hs : SameSlots p' p'') :
    Pends p p'' := by
  obtain ⟨rs, hq, he, hs'⟩ := h
  exact ⟨rs, hq, he.update hc, hs'.trans hs⟩

theorem sent_pends (h : Sent r ok p p') (hp : p.Live) (hr : Quiet r) : Pends p p' := by
  refine ⟨if ok then [r] else [], ?_, h.emits hp hr.magic, h.sameSlots⟩
  intro r' hr'
  cases ok with
  | true =>
    obtain rfl := List.mem_singleton.mp hr'
    exact hr
  | false => cases hr'

theorem quiet_dev (hc : icode ≠ DEV_SET) (v : UInt32) : Quiet (.mk' EV_DEV icode v) :=
  ⟨rfl, fun h => hc h.2, fun h => absurd h.1 (by change ¬EV_DEV = EV_SYN; decide)⟩

theorem quiet_error (v : UInt32) : Quiet (.mk' EV_VM VM_ERROR v) :=
  ⟨rfl, fun h => absurd h.1 (by change ¬EV_VM = EV_DEV; decide),
    fun h => absurd h.1 (by change ¬EV_VM = EV_SYN; decide)⟩

theorem useQueue_spec (hp : p.devFreed = false) (Q : List DevEvent → SockPlugin → Prop) :
    wp useQueue Q p ↔ Q p.devEvents p := by
  rw [useQueue, wp_bind, wp_get]
  simp only [hp, Bool.false_eq_true, if_false, wp_pure]

/-- One flag of one entry: nothing where it is not set, else its record, and the flag cleared where
the record was taken. -/
theorem flushFlag_spec (hp : p.Live) (hdv : p.devEvents[i]? = some dv) (flag : DevEvent → Bool)
    (icode : UInt16) (clear : DevEvent → DevEvent) :
    wp (flushFlag i flag icode clear) (fun ok p' =>
      (flag dv = false ∧ ok = true ∧ p' = p) ∨
      (flag dv = true ∧ ∃ q, Sent (.mk' EV_DEV icode dv.slot.toUInt32) ok p q ∧
        p' = if ok then { q with devEvents := q.devEvents.modify i clear } else q)) p := by
  rw [flushFlag, wp_bind, useQueue_spec hp.queue]
  simp only [hdv]
  cases hf : flag dv with
  | false =>
    simp only [Bool.false_eq_true, if_false, wp_pure]
    exact .inl ⟨trivial, trivial, trivial⟩
  | true =>
    rw [if_pos rfl, wp_bind]
    refine wp_mono (sendToPlugin_spec _ p hp.toOpen) ?_
    intro ok q hsent
    have hfreed : q.devFreed = false := (hsent.field _ fun _ _ _ _ => rfl).trans hp.queue
    cases ok with
    | true =>
      rw [if_pos rfl, wp_bind, setDevEvent, wp_bind, useQueue_spec hfreed, wp_modify, wp_pure]
      exact .inr ⟨rfl, q, hsent, rfl⟩
    | false =>
      simp only [Bool.false_eq_true, if_false, wp_pure]
      exact .inr ⟨trivial, q, hsent, rfl⟩

theorem flushFlag_pends (hp : p.Live) (hi : i < p.devEvents.length) (flag : DevEvent → Bool)
    (hc : icode ≠ DEV_SET) (clear : DevEvent → DevEvent) :
    wp (flushFlag i flag icode clear) (fun _ p' => Pends p p' ∧ p'.resetall = p.resetall ∧
      p'.devEvents.length = p.devEvents.length) p := by
  refine wp_mono (flushFlag_spec hp (List.getElem?_eq_getElem hi) flag icode clear) ?_
  rintro ok p' (⟨_, _, rfl⟩ | ⟨_, q, hsent, rfl⟩)
  · exact ⟨.refl hp, rfl, rfl⟩
  · have hpends := sent_pends hsent hp (quiet_dev hc _)
    have hreset : q.resetall = p.resetall := hsent.field _ fun _ _ _ _ => rfl
    have hqueue : q.devEvents = p.devEvents := hsent.field _ fun _ _ _ _ => rfl
    cases ok with
    | true =>
      refine ⟨hpends.update ⟨rfl, rfl, rfl, rfl, rfl, rfl⟩ ⟨rfl, rfl, rfl⟩, hreset, ?_⟩
      simp only [if_true, List.length_modify, hqueue]
    | false => exact ⟨hpends, hreset, congrArg List.length hqueue⟩

theorem flushFrom_pends (hp : p.Live) (hi : i ≤ p.devEvents.length) :
    wp (flushFrom i) (fun _ p' => Pends p p' ∧ p'.resetall = p.resetall) p := by
  induction i generalizing p with
  | zero =>
    rw [flushFrom, wp_pure]
    exact ⟨.refl hp, rfl⟩
  | succ i ih =>
    rw [flushFrom, wp_bind]
    refine wp_mono (flushFlag_pends hp hi _ (by decide) _) ?_
    rintro ok q ⟨hq, hr, hlen⟩
    cases ok with
    | false =>
      simp only [Bool.false_eq_true, if_false, wp_pure]
      exact ⟨hq, hr⟩
    | true =>
      rw [if_pos rfl, wp_bind]
      refine wp_mono (flushFlag_pends hq.live (hlen ▸ hi) _ (by decide) _) ?_
      rintro ok q' ⟨hq', hr', hlen'⟩
      cases ok with
      | false =>
        simp only [Bool.false_eq_true, if_false, wp_pure]
        exact ⟨hq.trans hq', hr'.trans hr⟩
      | true =>
        rw [if_pos rfl, wp_bind, useQueue_spec hq'.live.queue, wp_bind, wp_modify]
        have htake : Pends p { q' with devEvents := q'.devEvents.take i } :=
          (hq.trans hq').update ⟨rfl, rfl, rfl, rfl, rfl, rfl⟩ ⟨rfl, rfl, rfl⟩
        have hi' : i ≤ (q'.devEvents.take i).length := by
          rw [List.length_take]
          omega
        refine wp_mono (ih htake.live hi') ?_
        rintro ok p' ⟨hp', hr''⟩
        exact ⟨htake.trans hp', (hr''.trans hr').trans hr⟩

theorem flushQueuedDevEvents_pends (hp : p.Live) :
    wp flushQueuedDevEvents (fun _ p' => Pends p p' ∧ p'.resetall = p.resetall) p := by
  rw [flushQueuedDevEvents, wp_bind, wp_get]
  exact flushFrom_pends hp (Nat.le_refl _)

theorem sendMarked_pends (hp : p.Live) (hr : Quiet r) (mark : SockPlugin → SockPlugin)
    (hc : ∀ q, SameConnection q (mark q)) (hs : ∀ q, SameSlots q (mark q)) :
    wp (sendMarked r mark) (fun _ p' => Pends p p') p := by
  rw [sendMarked, wp_bind]
  refine wp_mono (sendToPlugin_spec r p hp.toOpen) ?_
  intro ok q hsent
  have hq := sent_pends hsent hp hr
  cases ok with
  | true =>
    simp only [if_true, wp_bind, wp_modify, wp_pure]
    exact hq.update (hc q) (hs q)
  | false =>
    simp only [Bool.false_eq_true, if_false, wp_pure]
    exact hq

theorem sendPending_pends (hp : p.Live) : wp sendPending (fun _ p' => Pends p p') p := by
  have herror : wp sendPendingError (fun _ p' => Pends p p') p := by
    rw [sendPendingError, wp_bind, wp_get]
    refine wp_ite (fun _ => ?_) (fun _ => (wp_pure ..).mpr (.refl hp))
    exact sendMarked_pends hp (quiet_error _) _ (fun _ => ⟨rfl, rfl, rfl, rfl, rfl, rfl⟩)
      (fun _ => ⟨rfl, rfl, rfl⟩)
  have hreset : ∀ q, q.Live → wp sendPendingReset (fun _ p' => Pends q p') q := by
    intro q hq
    rw [sendPendingReset, wp_bind, wp_get]
    refine wp_ite (fun _ => ?_) (fun _ => (wp_pure ..).mpr (.refl hq))
    exact sendMarked_pends hq (quiet_dev (by decide) _) _
      (fun _ => ⟨rfl, rfl, rfl, rfl, rfl, rfl⟩) (fun _ => ⟨rfl, rfl, rfl⟩)
  have hqueue : ∀ q, q.Live → wp sendPendingQueue (fun _ p' => Pends q p') q := by
    intro q hq
    rw [sendPendingQueue, wp_bind, wp_get]
    refine wp_ite (fun _ => ?_) (fun _ => (wp_pure ..).mpr (.refl hq))
    exact wp_mono (flushQueuedDevEvents_pends hq) fun _ _ h => h.1
  rw [sendPending, wp_bind]
  refine wp_mono herror ?_
  intro ok q hq
  refine wp_ite (fun _ => ?_) (fun _ => (wp_pure ..).mpr hq)
  rw [wp_bind]
  refine wp_mono (hreset q hq.live) ?_
  intro ok q' hq'
  refine wp_ite (fun _ => ?_) (fun _ => (wp_pure ..).mpr (hq.trans hq'))
  exact wp_mono (hqueue q' hq'.live) fun _ _ h => (hq.trans hq').trans h

theorem prepareQueue_pends (hp : p.Live) (code : UInt16) (value : Int32) :
    wp (prepareQueue code value) (fun _ p' => Pends p p' ∧ p'.resetall = p.resetall) p := by
  rw [prepareQueue, wp_bind, wp_get]
  refine wp_ite (fun _ => ?_) (fun _ => wp_ite (fun _ => ?_) (fun _ => ?_))
  · simp only [hp.queue, Bool.false_eq_true, if_false, wp_bind, wp_modify, wp_pure]
    exact ⟨(Pends.refl hp).update ⟨rfl, rfl, rfl, rfl, rfl, hp.queue.symm⟩ ⟨rfl, rfl, rfl⟩, trivial⟩
  · exact flushQueuedDevEvents_pends hp
  · rw [wp_pure]
    exact ⟨.refl hp, rfl⟩

/-- Changing the queue is no traffic. -/
theorem queue_pends (hp : p.Live) (q : List DevEvent) : Pends p { p with devEvents := q } :=
  (Pends.refl hp).update ⟨rfl, rfl, rfl, rfl, rfl, rfl⟩ ⟨rfl, rfl, rfl⟩

theorem queueDevEvent_pends (hp : p.Live) (code : UInt16) (value : Int32) :
    wp (queueDevEvent code value) (fun _ p' => Pends p p') p := by
  rw [queueDevEvent]
  refine wp_ite (fun _ => ?_) (fun _ => wp_ite (fun _ => ?_) (fun _ => ?_))
  · rw [addQueueDevEventConf, wp_bind, useQueue_spec hp.queue, wp_modify]
    exact queue_pends hp _
  · rw [addQueueDevEventReset]
    refine wp_ite (fun _ => ?_) (fun _ => ?_)
    · rw [wp_modify]
      exact (Pends.refl hp).update ⟨rfl, rfl, rfl, rfl, rfl, rfl⟩ ⟨rfl, rfl, rfl⟩
    · rw [wp_bind, useQueue_spec hp.queue, wp_modify]
      exact queue_pends hp _
  · rw [wp_pure]
    exact .refl hp

theorem quiet_request (hc : code ≠ DEV_SET) (resetall : Bool) (value : Int32) :
    Quiet (requestRecord resetall code value) := by
  cases resetall with
  | true => exact quiet_dev (by decide) _
  | false => exact quiet_dev hc _

theorem sendRequest_pends (hp : p.Live) (hc : code ≠ DEV_SET) (value : Int32) :
    wp (sendRequest code value) (fun _ p' => Pends p p' ∧ p'.resetall = p.resetall) p := by
  rw [sendRequest, wp_bind, wp_get, wp_bind]
  refine wp_mono (prepareQueue_pends hp code value) ?_
  rintro ready q ⟨hq, hr⟩
  refine wp_ite (fun _ => ?_) (fun _ => (wp_pure ..).mpr ⟨hq, hr⟩)
  refine wp_mono (sendToPlugin_spec _ q hq.live.toOpen) ?_
  intro ok p' hsent
  have hr' : p'.resetall = q.resetall := hsent.field _ fun _ _ _ _ => rfl
  exact ⟨hq.trans (sent_pends hsent hq.live (quiet_request hc _ _)), hr'.trans hr⟩

theorem sendPluginDevEventAt_pends (depth : Nat) (hp : p.Live) (hc : code ≠ DEV_SET)
    (value : Int32) (hdepth : depth = 0 → p.resetall = false) :
    wp (sendPluginDevEventAt depth code value) (fun _ p' => Pends p p') p := by
  induction depth generalizing p with
  | zero =>
    rw [sendPluginDevEventAt, wp_bind]
    refine wp_mono (sendRequest_pends hp hc value) ?_
    rintro sent q ⟨hq, hr⟩
    refine wp_ite (fun _ => ?_) (fun _ => ?_)
    · simp only [wp_bind, wp_get, hr.trans (hdepth rfl), Bool.false_eq_true, if_false, wp_pure]
      exact hq
    · exact wp_mono (queueDevEvent_pends hq.live code value) fun _ _ h => hq.trans h
  | succ depth ih =>
    rw [sendPluginDevEventAt, wp_bind]
    refine wp_mono (sendRequest_pends hp hc value) ?_
    rintro sent q ⟨hq, hr⟩
    refine wp_ite (fun _ => ?_) (fun _ => ?_)
    · rw [wp_bind, wp_get]
      refine wp_ite (fun _ => ?_) (fun _ => (wp_pure ..).mpr hq)
      rw [wp_bind, wp_modify]
      have hreset : Pends p { q with resetall := false } :=
        hq.update ⟨rfl, rfl, rfl, rfl, rfl, rfl⟩ ⟨rfl, rfl, rfl⟩
      exact wp_mono (ih hreset.live fun _ => rfl) fun _ _ h => hreset.trans h
    · exact wp_mono (queueDevEvent_pends hq.live code value) fun _ _ h => hq.trans h

theorem sendError_pends (hp : p.Live) (code : UInt32) (type domain : UInt8) :
    wp (sendError code type domain) (fun _ p' => Pends p p') p := by
  rw [sendError, wp_bind]
  refine wp_mono (sendToPlugin_spec _ p hp.toOpen) ?_
  intro ok q hsent
  have hq := sent_pends hsent hp (quiet_error _)
  refine wp_ite (fun _ => (wp_pure ..).mpr hq) (fun _ => ?_)
  rw [wp_modify]
  by_cases he : q.error = 0
  · rw [if_pos he]
    exact hq.update ⟨rfl, rfl, rfl, rfl, rfl, rfl⟩ ⟨rfl, rfl, rfl⟩
  · rw [if_neg he]
    exact hq

/-- The record an event is sent as. -/
def eventRecord (e : InputEvent) : EventRecord :=
  .mk' e.type e.code e.value.toUInt32

def devSet (slot : Int32) : EventRecord :=
  .mk' EV_DEV DEV_SET slot.toUInt32

def synIf (dropped : Bool) : List EventRecord :=
  if dropped then [synDropped] else []

/-- How the end of `send_plugin_event` goes, from `dropped` before it to `dropped` after it. -/
inductive Tail : Bool → Bool → List EventRecord → Bool → Prop where
  | delivered (dropped : Bool) : Tail dropped true (synIf dropped) false
  | refused (dropped : Bool) : Tail dropped false (synIf dropped) true
  | blocked : Tail true false [] true

theorem sendEventRecord_spec (hp : p.Live) (e : InputEvent) :
    wp (sendEventRecord e) (fun out p' =>
      Emits p p' (if out then [eventRecord e] else []) ∧ p'.slot = p.slot ∧
      p'.slotDropped = p.slotDropped ∧ p'.dropped = (if out then p.dropped else true) ∧
      out = p.line.send.1) p := by
  rw [sendEventRecord, wp_bind]
  refine wp_mono (sendToPlugin_spec _ p hp.toOpen) ?_
  intro ok q hsent
  have hemits := hsent.emits hp rfl
  have hs := hsent.sameSlots
  cases ok with
  | true =>
    simp only [if_true, wp_pure]
    exact ⟨hemits, hs.slot, hs.slotDropped, hs.dropped, hsent.answer⟩
  | false =>
    simp only [Bool.false_eq_true, if_false, wp_bind, wp_modify, wp_pure]
    exact ⟨hemits.update ⟨rfl, rfl, rfl, rfl, rfl, rfl⟩, hs.slot, hs.slotDropped, trivial,
      hsent.answer⟩

theorem sendDroppedAndEvent_spec (hp : p.Live) (e : InputEvent) :
    wp (sendDroppedAndEvent e) (fun out p' => ∃ rs,
      Emits p p' (rs ++ if out then [eventRecord e] else []) ∧ Tail p.dropped out rs p'.dropped ∧
      p'.slot = p.slot ∧ p'.slotDropped = p.slotDropped ∧
      (p.line.send.1 = false → out = false ∧ rs = [])) p := by
  rw [sendDroppedAndEvent, wp_bind, wp_get]
  cases hd : p.dropped with
  | true =>
    rw [if_pos rfl, wp_bind]
    refine wp_mono (sendToPlugin_spec synDropped p hp.toOpen) ?_
    intro ok q hsent
    have hemits := hsent.emits hp rfl
    have hs := hsent.sameSlots
    cases ok with
    | true =>
      rw [if_pos rfl, wp_bind, wp_modify]
      have hq : Emits p { q with dropped := false } [synDropped] :=
        hemits.update ⟨rfl, rfl, rfl, rfl, rfl, rfl⟩
      refine wp_mono (sendEventRecord_spec hq.live e) ?_
      rintro out p' ⟨hev, hslot, hslotDropped, hdropped, -⟩
      refine ⟨[synDropped], hq.trans hev, ?_, hslot.trans hs.slot,
        hslotDropped.trans hs.slotDropped, ?_⟩
      · rw [hdropped]
        cases out with
        | true => exact .delivered true
        | false => exact .refused true
      · intro hr
        rw [← hsent.answer] at hr
        cases hr
    | false =>
      simp only [Bool.false_eq_true, if_false, wp_pure]
      refine ⟨[], hemits, ?_, hs.slot, hs.slotDropped, fun _ => ⟨trivial, rfl⟩⟩
      rw [hs.dropped, hd]
      exact .blocked
  | false =>
    simp only [Bool.false_eq_true, if_false]
    refine wp_mono (sendEventRecord_spec hp e) ?_
    rintro out p' ⟨hev, hslot, hslotDropped, hdropped, hans⟩
    refine ⟨[], hev, ?_, hslot, hslotDropped, fun hr => ⟨hans.trans hr, rfl⟩⟩
    rw [hdropped, hd]
    cases out with
    | true => exact .delivered false
    | false => exact .refused false

theorem sendDevSet_spec (hp : p.Live) (slot : Int32) :
    wp (sendDevSet slot) (fun _ p' =>
      (Emits p p' [devSet slot] ∧ p'.slot = slot ∧ p'.dropped = p.slotDropped ∧
        p'.slotDropped = false) ∨
      (Emits p p' [] ∧ p'.slot = p.slot ∧ p'.dropped = p.dropped ∧ p'.slotDropped = true ∧
        (p.line.Steady → p'.line.send.1 = false))) p := by
  rw [sendDevSet, wp_bind]
  refine wp_mono (sendToPlugin_spec _ p hp.toOpen) ?_
  intro ok q hsent
  have hemits := hsent.emits hp rfl
  have hs := hsent.sameSlots
  cases ok with
  | true =>
    simp only [if_true, wp_modify]
    exact .inl ⟨hemits.update ⟨rfl, rfl, rfl, rfl, rfl, rfl⟩, trivial, hs.slotDropped, trivial⟩
  | false =>
    simp only [Bool.false_eq_true, if_false, wp_modify]
    exact .inr ⟨hemits.update ⟨rfl, rfl, rfl, rfl, rfl, rfl⟩, hs.slot, hs.dropped, trivial,
      hsent.refused rfl⟩

/-- `send_slot` selects the slot, or it is refused and leaves a line that refuses. -/
theorem sendSlot_spec (hp : p.Live) (slot : Int32) :
    wp (sendSlot slot) (fun _ p' =>
      (Emits p p' (synIf p.dropped ++ [devSet slot]) ∧ p'.slot = slot ∧
        p'.dropped = p.slotDropped ∧ p'.slotDropped = false) ∨
      ∃ rs, (rs = [] ∨ rs = synIf p.dropped) ∧ Emits p p' rs ∧ p'.slot = p.slot ∧
        p'.slotDropped = true ∧ (p.line.Steady → p'.line.send.1 = false)) p := by
  rw [sendSlot, wp_bind, wp_get]
  cases hd : p.dropped with
  | true =>
    rw [if_pos rfl, wp_bind]
    refine wp_mono (sendToPlugin_spec synDropped p hp.toOpen) ?_
    intro ok q hsent
    have hemits := hsent.emits hp rfl
    have hs := hsent.sameSlots
    cases ok with
    | true =>
      rw [if_pos rfl, wp_bind, wp_modify]
      have hq : Emits p { q with dropped := false } [synDropped] :=
        hemits.update ⟨rfl, rfl, rfl, rfl, rfl, rfl⟩
      refine wp_mono (sendDevSet_spec hq.live slot) ?_
      rintro _ p' (⟨hset, hslot, hdropped, hslotDropped⟩ | ⟨hset, hslot, -, hslotDropped, href⟩)
      · exact .inl ⟨hq.trans hset, hslot, hdropped.trans hs.slotDropped, hslotDropped⟩
      · exact .inr ⟨_, .inr rfl, hq.trans hset, hslot.trans hs.slot, hslotDropped,
          fun h => href (hq.steady h)⟩
    | false =>
      simp only [Bool.false_eq_true, if_false, wp_modify]
      exact .inr ⟨[], .inl rfl, hemits.update ⟨rfl, rfl, rfl, rfl, rfl, rfl⟩, hs.slot, trivial,
        hsent.refused rfl⟩
  | false =>
    simp only [Bool.false_eq_true, if_false]
    refine wp_mono (sendDevSet_spec hp slot) ?_
    rintro _ p' (⟨hset, hslot, hdropped, hslotDropped⟩ | ⟨hset, hslot, -, hslotDropped, href⟩)
    · exact .inl ⟨hset, hslot, hdropped, hslotDropped⟩
    · exact .inr ⟨[], .inl rfl, hset, hslot, hslotDropped, href⟩

/-- What one call of `send_plugin_event` can do, by the records it sends before the event. -/
inductive EventOutcome (slot : Int32) (p p' : SockPlugin) : Bool → List EventRecord → Prop where
  | pending (hq : ∀ r ∈ qs, Quiet r) (hslot : p'.slot = p.slot)
      (hdropped : p'.dropped = if p.slot = slot then true else p.dropped)
      (hslotDropped : p'.slotDropped = if p.slot = slot then p.slotDropped else true) :
      EventOutcome slot p p' false qs
  | current (hq : ∀ r ∈ qs, Quiet r) (heq : p.slot = slot) (hslot : p'.slot = slot)
      (htail : Tail p.dropped out rs p'.dropped) (hslotDropped : p'.slotDropped = p.slotDropped) :
      EventOutcome slot p p' out (qs ++ rs)
  | switched (hq : ∀ r ∈ qs, Quiet r) (hne : p.slot ≠ slot) (hslot : p'.slot = slot)
      (htail : Tail p.slotDropped out rs p'.dropped) (hslotDropped : p'.slotDropped = false) :
      EventOutcome slot p p' out (qs ++ (synIf p.dropped ++ [devSet slot] ++ rs))
  | missed (hq : ∀ r ∈ qs, Quiet r) (hne : p.slot ≠ slot) (hslot : p'.slot = p.slot)
      (hrs : rs = [] ∨ rs = synIf p.dropped) (hdropped : p'.dropped = true)
      (hslotDropped : p'.slotDropped = true) : EventOutcome slot p p' false (qs ++ rs)

theorem Tail.dropped_of_refused (h : Tail d out rs d') (ho : out = false) : d' = true := by
  cases h with
  | delivered => cases ho
  | refused => rfl
  | blocked => rfl

theorem sendPluginEvent_spec (hp : p.Live) (slot : Int32) (e : InputEvent)
    (hsteady : p.slot = slot ∨ p.line.Steady) :
    wp (sendPluginEvent slot e) (fun out p' => ∃ rs,
      Emits p p' (rs ++ if out then [eventRecord e] else []) ∧
      EventOutcome slot p p' out rs) p := by
  rw [sendPluginEvent, wp_bind]
  refine wp_mono (sendPending_pends hp) ?_
  rintro ok q ⟨qs, hq, hemits, hs⟩
  cases ok with
  | false =>
    simp only [Bool.false_eq_true, if_false, wp_bind, wp_modify, wp_pure]
    refine ⟨qs, ?_, ?_⟩
    · rw [List.append_nil]
      refine hemits.update ?_
      by_cases h : q.slot ≠ slot
      · rw [if_pos h]
        exact ⟨rfl, rfl, rfl, rfl, rfl, rfl⟩
      · rw [if_neg h]
        exact ⟨rfl, rfl, rfl, rfl, rfl, rfl⟩
    · by_cases h : q.slot = slot
      · rw [if_neg (not_not.mpr h)]
        have hp' : p.slot = slot := hs.slot ▸ h
        exact .pending hq hs.slot (if_pos hp').symm (hs.slotDropped.trans (if_pos hp').symm)
      · rw [if_pos h]
        have hp' : ¬p.slot = slot := hs.slot ▸ h
        exact .pending hq hs.slot (hs.dropped.trans (if_neg hp').symm) (if_neg hp').symm
  | true =>
    rw [if_pos rfl, wp_bind, selectSlot, wp_bind, wp_get]
    by_cases h : q.slot = slot
    · rw [if_neg (not_not.mpr h), wp_pure]
      refine wp_mono (sendDroppedAndEvent_spec hemits.live e) ?_
      rintro out p' ⟨rs, hev, htail, hslot, hslotDropped, -⟩
      refine ⟨qs ++ rs, ?_, .current hq (hs.slot ▸ h) (hslot.trans h) (hs.dropped ▸ htail)
        (hslotDropped.trans hs.slotDropped)⟩
      rw [List.append_assoc]
      exact hemits.trans hev
    · rw [if_pos h]
      have hne : p.slot ≠ slot := hs.slot ▸ h
      refine wp_mono (sendSlot_spec hemits.live slot) ?_
      rintro _ q' (⟨hsel, hslot, hdropped, hslotDropped⟩ |
        ⟨rs', hrs', hsel, hslot, hslotDropped, href⟩)
      · refine wp_mono (sendDroppedAndEvent_spec hsel.live e) ?_
        rintro out p' ⟨rs, hev, htail, hslot', hslotDropped', -⟩
        rw [hdropped, hs.slotDropped] at htail
        refine ⟨_, ?_, .switched hq hne (hslot'.trans hslot) htail
          (hslotDropped'.trans hslotDropped)⟩
        have hall := (hemits.trans hsel).trans hev
        rw [hs.dropped] at hall
        simpa only [List.append_assoc] using hall
      · have hst : p.line.Steady := hsteady.resolve_left hne
        refine wp_mono (sendDroppedAndEvent_spec hsel.live e) ?_
        rintro out p' ⟨rs, hev, htail, hslot', hslotDropped', hblocked⟩
        obtain ⟨hout, hnil⟩ := hblocked (href (hemits.steady hst))
        subst hout hnil
        refine ⟨qs ++ rs', ?_, .missed hq hne ((hslot'.trans hslot).trans hs.slot)
          (hs.dropped ▸ hrs') (htail.dropped_of_refused rfl) (hslotDropped'.trans hslotDropped)⟩
        have hall := (hemits.trans hsel).trans hev
        rw [List.nil_append] at hall
        exact hall

end InputServer
