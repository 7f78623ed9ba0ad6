import InputServer.Socket

namespace InputServer
open Buffer Program
set_option autoImplicit true

/-- What decides whether the socket takes a record: the bytes still delayed and the answers left. -/
structure Line where
  delayed : Nat
  sends : List SendOutcome

namespace Line

/-- Draining `delayed` bytes; `true` where all of them go out. -/
def drain : List SendOutcome → Nat → Bool × Line
  | [], delayed => (false, ⟨delayed, []⟩)
  | .eintr :: os, delayed => drain os delayed
  | .again :: os, delayed => (false, ⟨delayed, os⟩)
  | .fatal :: os, delayed => (false, ⟨delayed, os⟩)
  | .took k :: os, delayed =>
    if delayed - min (k + 1) delayed ≠ 0 then drain os (delayed - min (k + 1) delayed)
    else (true, ⟨0, os⟩)

/-- Offering a record when nothing is delayed; `true` where it is taken. -/
def offer : List SendOutcome → Bool × Line
  | [] => (false, ⟨0, []⟩)
  | .eintr :: os => offer os
  | .again :: os => (false, ⟨0, os⟩)
  | .fatal :: os => (true, ⟨0, os⟩)
  | .took k :: os =>
    if min (k + 1) EVENT_SIZE < EVENT_SIZE then
      (true, (drain os (EVENT_SIZE - min (k + 1) EVENT_SIZE)).2)
    else (true, ⟨0, os⟩)

/-- The answer to the next record. -/
def send (l : Line) : Bool × Line :=
  if l.delayed ≠ 0 then
    if (drain l.sends l.delayed).1 then offer (drain l.sends l.delayed).2.sends
    else (false, (drain l.sends l.delayed).2)
  else offer l.sends

theorem drain_delayed_le (os : List SendOutcome) (delayed : Nat) :
    (drain os delayed).2.delayed ≤ delayed := by
  fun_induction drain os delayed with
  | case1 delayed => exact Nat.le_refl _
  | case2 os delayed ih => exact ih
  | case3 os delayed => exact Nat.le_refl _
  | case4 os delayed => exact Nat.le_refl _
  | case5 k os delayed h ih => exact ih.trans (Nat.sub_le _ _)
  | case6 k os delayed h => exact Nat.zero_le _

theorem drain_true {os : List SendOutcome} {delayed : Nat} (h : (drain os delayed).1) :
    (drain os delayed).2.delayed = 0 := by
  fun_induction drain os delayed with
  | case1 delayed => cases h
  | case2 os delayed ih => exact ih h
  | case3 os delayed => cases h
  | case4 os delayed => cases h
  | case5 k os delayed hne ih => exact ih h
  | case6 k os delayed hne => rfl

theorem drain_sends (os : List SendOutcome) (delayed : Nat) :
    (drain os delayed).2.sends <:+ os := by
  fun_induction drain os delayed with
  | case1 delayed => exact List.suffix_refl _
  | case2 os delayed ih => exact ih.trans (List.suffix_cons _ _)
  | case3 os delayed => exact List.suffix_cons _ _
  | case4 os delayed => exact List.suffix_cons _ _
  | case5 k os delayed h ih => exact ih.trans (List.suffix_cons _ _)
  | case6 k os delayed h => exact List.suffix_cons _ _

end Line

namespace SockPlugin

def line (p : SockPlugin) : Line :=
  { delayed := p.delayed, sends := p.sends }

/-- The bytes accepted by the socket and those it will be given first. -/
def stream (p : SockPlugin) : List UInt8 :=
  p.wire ++ slice p.partialBuffer 0 p.delayed

/-- `p` with the fields that sending a record may change. -/
def withLine (p : SockPlugin) (delayed : Nat) (partialBuffer : List UInt8)
    (sends : List SendOutcome) (wire : List UInt8) : SockPlugin :=
  { p with delayed := delayed, partialBuffer := partialBuffer, sends := sends, wire := wire }

/-- A connection that is not closed, with less than a record delayed. -/
structure Connected (p : SockPlugin) : Prop where
  connected : p.s ≠ -1
  size : p.partialBuffer.length = EVENT_SIZE
  short : p.delayed < EVENT_SIZE

/-- A connection whose remaining answers are not fatal. -/
structure Open (p : SockPlugin) : Prop extends Connected p where
  alive : .fatal ∉ p.sends

theorem Connected.withSends {p : SockPlugin} {os : List SendOutcome} (h : p.Connected)
    (hs : .fatal ∉ os) : Open { p with sends := os } :=
  ⟨⟨h.connected, h.size, h.short⟩, hs⟩

/-- A record was offered and, where `ok`, taken whole: nothing but the line has changed. -/
structure Sent (r : EventRecord) (ok : Bool) (p p' : SockPlugin) : Prop where
  same : p' = p.withLine p'.delayed p'.partialBuffer p'.sends p'.wire
  answer : ok = p.line.send.1
  line : p'.line = p.line.send.2
  still : p'.Open
  stream : p'.stream = p.stream ++ if ok then r.encode else []

/-- A field outside the line is not touched. -/
theorem Sent.field {β : Type} (h : Sent r ok p p') (f : SockPlugin → β)
    (hf : ∀ d b os w, f (p.withLine d b os w) = f p) : f p' = f p := by
  rw [h.same]
  exact hf _ _ _ _

end SockPlugin

open SockPlugin

theorem sendDelayedLoop_spec (os : List SendOutcome) (p : SockPlugin) (hos : .fatal ∉ os)
    (hpos : 0 < p.delayed) (hle : p.delayed ≤ p.partialBuffer.length) :
    ∃ r p', sendDelayedLoop os p = (r, p') ∧
      p' = p.withLine p'.delayed p'.partialBuffer p'.sends p'.wire ∧
      p'.line = (Line.drain os p.delayed).2 ∧
      p'.partialBuffer.length = p.partialBuffer.length ∧ p'.stream = p.stream ∧
      (((Line.drain os p.delayed).1 = true ∧ ∃ n, r = .sent n) ∨
        ((Line.drain os p.delayed).1 = false ∧ r = .again)) := by
  induction os generalizing p with
  | nil => exact ⟨_, _, rfl, rfl, rfl, rfl, rfl, .inr ⟨rfl, rfl⟩⟩
  | cons o os ih =>
    have hos' : .fatal ∉ os := fun h => hos (List.mem_cons_of_mem _ h)
    cases o with
    | eintr => exact ih p hos' hpos hle
    | again => exact ⟨_, _, rfl, rfl, rfl, rfl, rfl, .inr ⟨rfl, rfl⟩⟩
    | fatal => exact (hos List.mem_cons_self).elim
    | took k =>
      have hr : min (k + 1) p.delayed ≤ p.delayed := Nat.min_le_right _ _
      simp only [sendDelayedLoop, Line.drain]
      generalize min (k + 1) p.delayed = n at hr
      have hstream : p.wire ++ slice p.partialBuffer 0 n ++
          slice p.partialBuffer n (p.delayed - n) = p.stream := by
        rw [SockPlugin.stream, List.append_assoc]
        congr 1
        simp only [slice, List.drop_zero]
        rw [← List.take_add, Nat.add_sub_cancel' hr]
      by_cases hn : p.delayed - n ≠ 0
      · rw [if_pos hn, if_pos hn, if_pos hn]
        have hmove : (slice p.partialBuffer n (p.delayed - n)).length = p.delayed - n :=
          slice_length (by omega)
        have hsize : (blit p.partialBuffer 0 (slice p.partialBuffer n (p.delayed - n))).length =
            p.partialBuffer.length := blit_length (by omega)
        obtain ⟨r, p', hrun, hsame, hline, hlen, hs, hans⟩ := ih { p with
          wire := p.wire ++ slice p.partialBuffer 0 n
          delayed := p.delayed - n
          partialBuffer := blit p.partialBuffer 0 (slice p.partialBuffer n (p.delayed - n)) }
          hos' (Nat.pos_of_ne_zero hn) (by dsimp only; omega)
        refine ⟨r, p', hrun, hsame, hline, hlen.trans hsize, ?_, hans⟩
        rw [hs, ← hstream, SockPlugin.stream]
        have hfront := slice_blit_zero p.partialBuffer (slice p.partialBuffer n (p.delayed - n))
        rw [hmove] at hfront
        rw [hfront]
      · have hn0 : p.delayed - n = 0 := not_not.mp hn
        rw [if_neg hn, if_neg hn, if_neg hn, hn0]
        refine ⟨_, _, rfl, rfl, rfl, rfl, ?_, .inl ⟨rfl, _, rfl⟩⟩
        rw [← hstream, hn0, SockPlugin.stream, slice_zero, slice_zero]

theorem sendDelayedToPlugin_spec (p : SockPlugin) (ho : p.Open) (hpos : 0 < p.delayed) :
    wp sendDelayedToPlugin (fun ok p' =>
      p' = p.withLine p'.delayed p'.partialBuffer p'.sends p'.wire ∧
      ok = (Line.drain p.sends p.delayed).1 ∧ p'.line = (Line.drain p.sends p.delayed).2 ∧
      p'.Open ∧ p'.stream = p.stream) p := by
  have hsize := ho.size
  have hshort := ho.short
  obtain ⟨r, p', hrun, hsame, hline, hlen, hs, hans⟩ :=
    sendDelayedLoop_spec p.sends p ho.alive hpos (by omega)
  have hopen : p'.Open := by
    have hd : p'.delayed = (Line.drain p.sends p.delayed).2.delayed := congrArg Line.delayed hline
    have hos : p'.sends = (Line.drain p.sends p.delayed).2.sends := congrArg Line.sends hline
    refine ⟨⟨?_, hlen.trans hsize, ?_⟩, ?_⟩
    · rw [hsame]
      exact ho.connected
    · rw [hd]
      exact (Line.drain_delayed_le _ _).trans_lt hshort
    · rw [hos]
      exact fun h => ho.alive ((Line.drain_sends _ _).subset h)
  refine ⟨(Line.drain p.sends p.delayed).1, p', ?_, hsame, rfl, hline, hopen, hs⟩
  rw [sendDelayedToPlugin, bind_ok (get_apply p), if_neg ho.connected, hrun]
  rcases hans with ⟨ht, n, rfl⟩ | ⟨hf, rfl⟩
  · rw [ht]
    rfl
  · rw [hf]
    rfl

theorem sendRecordLoop_spec (bytes : List UInt8) (os : List SendOutcome) (p : SockPlugin)
    (hos : .fatal ∉ os) :
    ((sendRecordLoop bytes os p).1 = .again ∧ (Line.offer os).1 = false ∧
        ∃ os', (sendRecordLoop bytes os p).2 = { p with sends := os' } ∧
          (Line.offer os).2 = ⟨0, os'⟩ ∧ os' <:+ os) ∨
      ∃ k os', (sendRecordLoop bytes os p).1 = .sent (min (k + 1) bytes.length) ∧
        (sendRecordLoop bytes os p).2 = { p with
          sends := os', wire := p.wire ++ bytes.take (min (k + 1) bytes.length) } ∧
        Line.offer os = Line.offer (.took k :: os') ∧ os' <:+ os := by
  induction os with
  | nil => exact .inl ⟨rfl, rfl, [], rfl, rfl, List.suffix_refl _⟩
  | cons o os ih =>
    have hos' : .fatal ∉ os := fun h => hos (List.mem_cons_of_mem _ h)
    cases o with
    | eintr =>
      rcases ih hos' with ⟨h, hoff, os', hp, hl, hs⟩ | ⟨k, os', h, hp, hl, hs⟩
      · exact .inl ⟨h, hoff, os', hp, hl, hs.trans (List.suffix_cons _ _)⟩
      · exact .inr ⟨k, os', h, hp, hl, hs.trans (List.suffix_cons _ _)⟩
    | again => exact .inl ⟨rfl, rfl, os, rfl, rfl, List.suffix_cons _ _⟩
    | fatal => exact (hos List.mem_cons_self).elim
    | took k => exact .inr ⟨k, os, rfl, rfl, rfl, List.suffix_cons _ _⟩

theorem sendRecord_spec (e : EventRecord) (p : SockPlugin) (ho : p.Open) (hd : p.delayed = 0) :
    wp (sendRecord e) (fun ok p' =>
      p' = p.withLine p'.delayed p'.partialBuffer p'.sends p'.wire ∧
      ok = (Line.offer p.sends).1 ∧ p'.line = (Line.offer p.sends).2 ∧
      p'.Open ∧ p'.stream = p.stream ++ if ok then e.encode else []) p := by
  have hwire : p.stream = p.wire := by
    rw [SockPlugin.stream, hd, slice_zero, List.append_nil]
  have halive : ∀ {os' : List SendOutcome}, os' <:+ p.sends → .fatal ∉ os' :=
    fun hs h => ho.alive (hs.subset h)
  rw [sendRecord, wp_bind, wp_get]
  simp only [if_neg ho.connected]
  rcases sendRecordLoop_spec e.encode p.sends p ho.alive with
    ⟨hr, hoff, os', hp, hl, hs⟩ | ⟨k, os', hr, hp, hl, hs⟩
  · refine ⟨false, { p with sends := os' }, ?_, ?_, hoff.symm, ?_, ?_, ?_⟩
    · rw [hp, hr]
      rfl
    · rfl
    · rw [hl, SockPlugin.line, hd]
    · exact ⟨⟨ho.connected, ho.size, ho.short⟩, halive hs⟩
    · exact (List.append_nil _).symm
  · rw [e.encode_length] at hr hp
    simp only [hr, hp, wp_bind, wp_set, hl, Line.offer]
    by_cases hlt : min (k + 1) EVENT_SIZE < EVENT_SIZE
    · have hn : 0 < min (k + 1) EVENT_SIZE := by
        have : 0 < EVENT_SIZE := by decide
        omega
      rw [if_pos hlt, if_pos hlt, wp_bind, wp_modify, wp_bind]
      generalize min (k + 1) EVENT_SIZE = n at hlt hn
      let q : SockPlugin := { p with
        sends := os', wire := p.wire ++ e.encode.take n, delayed := EVENT_SIZE - n
        partialBuffer := blit p.partialBuffer 0 (slice e.encode n (EVENT_SIZE - n)) }
      have hrest : (slice e.encode n (EVENT_SIZE - n)).length = EVENT_SIZE - n :=
        slice_length (by rw [e.encode_length]; omega)
      have hsize := ho.size
      have hq : q.Open :=
        ⟨⟨ho.connected, by rw [blit_length (by omega), hsize], Nat.sub_lt (by decide) hn⟩, halive hs⟩
      have hstream : q.stream = p.stream ++ e.encode := by
        have hfront := slice_blit_zero p.partialBuffer (slice e.encode n (EVENT_SIZE - n))
        rw [hrest] at hfront
        have hall : e.encode.take n ++ slice e.encode n (EVENT_SIZE - n) = e.encode := by
          rw [slice, ← e.encode_length, ← List.length_drop, List.take_length,
            List.take_append_drop]
        rw [hwire, SockPlugin.stream]
        change p.wire ++ e.encode.take n ++ slice q.partialBuffer 0 (EVENT_SIZE - n) = _
        rw [hfront, List.append_assoc, hall]
      refine wp_mono (sendDelayedToPlugin_spec q hq (Nat.sub_pos_of_lt hlt)) ?_
      rintro ok p' ⟨hsame, -, hline, hopen, hs'⟩
      rw [wp_pure]
      exact ⟨hsame, rfl, hline, hopen, hs'.trans hstream⟩
    · have hfull : e.encode.take (min (k + 1) EVENT_SIZE) = e.encode :=
        List.take_of_length_le (by rw [e.encode_length]; exact Nat.not_lt.mp hlt)
      rw [if_neg hlt, if_neg hlt, wp_pure, hfull]
      refine ⟨rfl, rfl, ?_, ⟨⟨ho.connected, ho.size, ho.short⟩, halive hs⟩, ?_⟩
      · simp only [SockPlugin.line, hd]
      · rw [hwire]
        simp only [SockPlugin.stream, hd, slice_zero, List.append_nil, if_true]

/-- The contract of `send_to_plugin` while the connection lasts: it returns, the answer and the line
afterwards depend on the line alone, and the record is taken whole or not at all. -/
theorem sendToPlugin_spec (e : EventRecord) (p : SockPlugin) (ho : p.Open) :
    wp (sendToPlugin e) (fun ok p' => Sent e ok p p') p := by
  rw [sendToPlugin, wp_bind, wp_get]
  by_cases hd : p.delayed ≠ 0
  · rw [if_pos hd, wp_bind]
    refine wp_mono (sendDelayedToPlugin_spec p ho (Nat.pos_of_ne_zero hd)) ?_
    rintro ready p' ⟨hsame, rfl, hline, hopen, hs⟩
    have hdel : p'.delayed = (Line.drain p.sends p.delayed).2.delayed := congrArg Line.delayed hline
    have hsnd : p'.sends = (Line.drain p.sends p.delayed).2.sends := congrArg Line.sends hline
    cases hready : (Line.drain p.sends p.delayed).1 with
    | true =>
      simp only [if_true]
      refine wp_mono (sendRecord_spec e p' hopen (hdel.trans (Line.drain_true hready))) ?_
      rintro ok p'' ⟨hsame', hans, hline', hopen', hs'⟩
      refine ⟨?_, ?_, ?_, hopen', hs ▸ hs'⟩
      · rw [hsame', hsame]
        rfl
      · rw [hans, hsnd, Line.send]
        simp only [SockPlugin.line, if_pos hd, hready, if_true]
      · rw [hline', hsnd, Line.send]
        simp only [SockPlugin.line, if_pos hd, hready, if_true]
    | false =>
      simp only [Bool.false_eq_true, if_false, wp_pure]
      refine ⟨hsame, ?_, ?_, hopen, ?_⟩
      · simp only [Line.send, SockPlugin.line, if_pos hd, hready, Bool.false_eq_true, if_false]
      · rw [hline, Line.send]
        simp only [SockPlugin.line, if_pos hd, hready, Bool.false_eq_true, if_false]
      · rw [hs]
        exact (List.append_nil _).symm
  · have hd0 : p.delayed = 0 := not_not.mp hd
    simp only [if_neg hd, wp_bind, wp_pure, if_true]
    refine wp_mono (sendRecord_spec e p ho hd0) ?_
    rintro ok p' ⟨hsame, hans, hline, hopen, hs⟩
    refine ⟨hsame, ?_, ?_, hopen, hs⟩
    · rw [hans, Line.send, SockPlugin.line, if_neg hd]
    · rw [hline, Line.send, SockPlugin.line, if_neg hd]

/-- `send_to_plugin` over a list of records, each with the answers `send` gives during its call;
returns the records it accepted. -/
def sendAll : List (EventRecord × List SendOutcome) → SockM (List EventRecord)
  | [] => pure []
  | (e, sends) :: es => do
    modify fun p => { p with sends := sends }
    let ok ← sendToPlugin e
    let accepted ← sendAll es
    pure (if ok then e :: accepted else accepted)

theorem sendAll_spec (es : List (EventRecord × List SendOutcome)) (hes : ∀ c ∈ es, .fatal ∉ c.2)
    (p : SockPlugin) (ho : p.Connected) :
    wp (sendAll es) (fun accepted p' =>
      p'.Connected ∧ p'.stream = p.stream ++ accepted.flatMap EventRecord.encode) p := by
  induction es generalizing p with
  | nil =>
    rw [sendAll, wp_pure]
    exact ⟨ho, (List.append_nil _).symm⟩
  | cons c es ih =>
    obtain ⟨e, sends⟩ := c
    rw [sendAll, wp_bind, wp_modify, wp_bind]
    refine wp_mono (sendToPlugin_spec e _ (ho.withSends (hes _ List.mem_cons_self))) ?_
    intro ok p' hsent
    rw [wp_bind]
    have hes' : ∀ c ∈ es, .fatal ∉ c.2 := fun c hc => hes c (List.mem_cons_of_mem _ hc)
    refine wp_mono (ih hes' p' hsent.still.toConnected) ?_
    rintro accepted p'' ⟨hopen, hs⟩
    rw [wp_pure, hs, hsent.stream]
    refine ⟨hopen, ?_⟩
    cases ok with
    | true =>
      simp only [if_true, List.flatMap_cons, List.append_assoc]
      rfl
    | false =>
      simp only [Bool.false_eq_true, if_false, List.append_nil]
      rfl

theorem acceptedPlugin_connected {p : SockPlugin} (hs : s2 ≠ -1)
    (hp : p.partialBuffer.length = EVENT_SIZE) : (acceptedPlugin p s2).Connected :=
  ⟨hs, hp, by change 0 < 12; decide⟩

theorem acceptedPlugin_stream (p : SockPlugin) (s2 : Int) : (acceptedPlugin p s2).stream = [] :=
  slice_zero p.partialBuffer 0

/-- On an accepted connection the bytes the socket has taken, then the delayed ones, are the
accepted records in order; less than a record is delayed. -/
theorem outgoing_stream_integrity (es : List (EventRecord × List SendOutcome))
    (hes : ∀ c ∈ es, .fatal ∉ c.2) (p : SockPlugin) (hp : p.partialBuffer.length = EVENT_SIZE)
    (s2 : Int) (hs : s2 ≠ -1) :
    ∃ accepted p', sendAll es (acceptedPlugin p s2) = .ok (accepted, p') ∧
      p'.wire ++ slice p'.partialBuffer 0 p'.delayed = accepted.flatMap EventRecord.encode ∧
      p'.delayed < EVENT_SIZE ∧ p'.wire <+: accepted.flatMap EventRecord.encode := by
  obtain ⟨accepted, p', hrun, hopen, hstream⟩ :=
    sendAll_spec es hes _ (acceptedPlugin_connected hs hp)
  rw [acceptedPlugin_stream, List.nil_append] at hstream
  exact ⟨accepted, p', hrun, hstream, hopen.short, ⟨_, hstream⟩⟩

/-- A plugin before any connection. -/
def idlePlugin : SockPlugin where
  src := none
  dest := none
  s := -1
  slot := 0
  recivedSlot := 0
  dropped := false
  slotDropped := false
  delayed := 0
  partialBuffer := List.replicate EVENT_SIZE 0
  resetall := false
  devEvents := []
  devFreed := false
  error := 0
  plugin := fun _ => false
  sends := []
  wire := []

/-- Three records: the first is cut twice, the second refused, the third taken behind the first. -/
theorem outgoing_stream_integrity_cut :
    ∃ accepted p', sendAll
        [(.mk' EV_KEY 30 1, [.eintr, .took 4, .took 2, .again]), (.mk' EV_KEY 30 0, [.again]),
          (.mk' EV_KEY 31 1, [.took 20, .eintr, .took 20])] (acceptedPlugin idlePlugin 5) =
          .ok (accepted, p') ∧
      p'.wire ++ slice p'.partialBuffer 0 p'.delayed = accepted.flatMap EventRecord.encode ∧
      p'.delayed < EVENT_SIZE ∧ p'.wire <+: accepted.flatMap EventRecord.encode :=
  outgoing_stream_integrity _ (by decide) idlePlugin (by decide) 5 (by decide)

end InputServer
