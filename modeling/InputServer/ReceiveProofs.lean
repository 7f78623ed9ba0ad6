import InputServer.Receive

namespace InputServer
open Buffer
set_option autoImplicit true

theorem RecvBuffer.carry_length {b : RecvBuffer} (h : b.Bounded cap) :
    b.carry.length = b.bytesRemaining :=
  slice_length (by have := h.size; have := h.within; omega)

/-- Skipping junk changes neither the end of the unread bytes nor what they decode to. -/
theorem skipJunk_spec (buffer : List UInt8) (n position : Nat)
    (hp : position + n ≤ buffer.length) :
    (skipJunk buffer n position).1 ≤ n ∧
      (skipJunk buffer n position).2 + (skipJunk buffer n position).1 = position + n ∧
      recordFraming.decode (slice buffer position n) = recordFraming.decode
        (slice buffer (skipJunk buffer n position).2 (skipJunk buffer n position).1) ∧
      (EVENT_SIZE ≤ (skipJunk buffer n position).1 → (EventRecord.read
        (slice buffer (skipJunk buffer n position).2 EVENT_SIZE)).magic = MAGIC) := by
  induction n generalizing position with
  | zero =>
    refine ⟨Nat.le_refl 0, rfl, rfl, ?_⟩
    intro h
    simp [skipJunk, EVENT_SIZE] at h
  | succ n ih =>
    rw [skipJunk]
    by_cases hj : EVENT_SIZE ≤ n + 1 ∧
        (EventRecord.read (slice buffer position EVENT_SIZE)).magic ≠ MAGIC
    · obtain ⟨hle, hend, hdec, hmagic⟩ := ih (position + 1) (by omega)
      rw [if_pos hj]
      refine ⟨by omega, by omega, ?_, hmagic⟩
      have hlen : ¬(slice buffer position (n + 1)).length < recordFraming.width := by
        rw [slice_length hp]
        exact Nat.not_lt.mpr hj.1
      have htake : (slice buffer position (n + 1)).take recordFraming.width =
          slice buffer position EVENT_SIZE :=
        slice_take _ _ hj.1
      have hdrop : (slice buffer position (n + 1)).drop 1 = slice buffer (position + 1) n :=
        slice_drop _ _ _ _
      rw [recordFraming.decode_skip hlen, hdrop, hdec]
      rw [htake]
      simpa [recordFraming] using hj.2
    · rw [if_neg hj]
      refine ⟨Nat.le_refl _, rfl, rfl, ?_⟩
      intro h
      by_contra hm
      exact hj ⟨h, hm⟩

theorem findnext_none {b b' : RecvBuffer} (hb : b.Bounded cap) (h : findnext b = (none, b')) :
    b'.Bounded cap ∧ recordFraming.decode b.carry = ([], b'.carry) := by
  obtain ⟨_, hend, hdec, _⟩ := skipJunk_spec b.buffer b.bytesRemaining b.position
    (by have := hb.size; have := hb.within; omega)
  simp only [findnext] at h
  by_cases hlen : EVENT_SIZE ≤ (skipJunk b.buffer b.bytesRemaining b.position).1
  · rw [if_pos hlen] at h
    cases h
  · rw [if_neg hlen] at h
    cases h
    refine ⟨⟨hb.size, by rw [hend]; exact hb.within⟩, ?_⟩
    rw [RecvBuffer.carry, hdec]
    refine recordFraming.decode_short ?_
    rw [slice_length (by have := hb.size; have := hb.within; omega)]
    exact Nat.not_le.mp hlen

theorem findnext_some {b b' : RecvBuffer} (hb : b.Bounded cap) (h : findnext b = (some r, b')) :
    b'.Bounded cap ∧ b'.bytesRemaining < b.bytesRemaining ∧
      recordFraming.decode b.carry = (r :: (recordFraming.decode b'.carry).1,
        (recordFraming.decode b'.carry).2) := by
  obtain ⟨hle, hend, hdec, hmagic⟩ := skipJunk_spec b.buffer b.bytesRemaining b.position
    (by have := hb.size; have := hb.within; omega)
  simp only [findnext] at h
  generalize hj : skipJunk b.buffer b.bytesRemaining b.position = j at h hle hend hdec hmagic
  obtain ⟨n, p⟩ := j
  dsimp only at h hle hend hdec hmagic
  have hsize := hb.size
  have hwithin := hb.within
  by_cases hlen : EVENT_SIZE ≤ n
  · rw [if_pos hlen] at h
    simp only [Prod.mk.injEq, Option.some.injEq] at h
    obtain ⟨rfl, rfl⟩ := h
    have hE : EVENT_SIZE = 12 := rfl
    refine ⟨⟨hsize, by dsimp only; omega⟩, by dsimp only; omega, ?_⟩
    have htake : (slice b.buffer p n).take recordFraming.width = slice b.buffer p EVENT_SIZE :=
      slice_take _ _ hlen
    have hdrop : (slice b.buffer p n).drop recordFraming.width =
        slice b.buffer (p + EVENT_SIZE) (n - EVENT_SIZE) :=
      slice_drop _ _ _ _
    rw [RecvBuffer.carry, hdec, recordFraming.decode_accept, htake, hdrop]
    · rfl
    · rw [slice_length (by omega)]
      exact Nat.not_lt.mpr hlen
    · rw [htake]
      simpa [recordFraming] using hmagic hlen
  · rw [if_neg hlen] at h
    cases h

section Loop

variable {ε σ : Type} (process : EventRecord → RecvBuffer → Program ε σ Unit)

/-- The records handed to `process_event`, each with the buffer it is handed with. -/
def handEach (calls : List (EventRecord × RecvBuffer)) : Program ε σ Unit :=
  calls.forM fun c => process c.1 c.2

/-- `m` reads `consumed` behind the bytes in `b` and hands over exactly the records of the whole;
what it returns keeps the buffer's invariant and carries the incomplete rest. -/
def ReadsWhole (cap : Nat) (m : Program ε σ (RecvBuffer × List UInt8)) (carried consumed rest :
    List UInt8) : Prop :=
  ∃ calls b, m = (do handEach process calls; pure (b, rest)) ∧
    calls.map Prod.fst = decodeRecords (carried ++ consumed) ∧
    (∀ c ∈ calls, c.2.Bounded cap) ∧ b.Bounded cap ∧
    b.carry = (recordFraming.decode (carried ++ consumed)).2 ∧
    b.bytesRemaining < EVENT_SIZE

theorem processAll_spec (fuel : Nat) {b : RecvBuffer} (hb : b.Bounded cap)
    (hf : b.bytesRemaining ≤ fuel) (rest : List UInt8) :
    ReadsWhole process cap (do let b ← processAll process fuel b; pure (b, rest)) b.carry [] rest := by
  induction fuel generalizing b with
  | zero =>
    have hlen : b.carry.length = 0 := by
      rw [RecvBuffer.carry_length hb]
      exact Nat.le_zero.mp hf
    have hcarry : b.carry = [] := List.length_eq_zero_iff.mp hlen
    refine ⟨[], b, rfl, ?_, ?_, hb, ?_, ?_⟩
    · rw [hcarry, List.append_nil, decodeRecords, recordFraming.decode_nil]
      rfl
    · intro c hc
      cases hc
    · rw [hcarry, List.append_nil, recordFraming.decode_nil]
    · rw [Nat.le_zero.mp hf]
      decide
  | succ fuel ih =>
    cases hfind : findnext b with
    | mk next b' =>
      cases next with
      | none =>
        obtain ⟨hb', hdec⟩ := findnext_none hb hfind
        refine ⟨[], b', ?_, ?_, ?_, hb', ?_, ?_⟩
        · simp only [processAll, hfind]
          rfl
        · rw [List.append_nil, decodeRecords, hdec]
          rfl
        · intro c hc
          cases hc
        · rw [List.append_nil, hdec]
        · have hlt := recordFraming.decode_rest_lt b.carry
          rw [hdec, RecvBuffer.carry_length hb'] at hlt
          exact hlt
      | some r =>
        obtain ⟨hb', hlt, hdec⟩ := findnext_some hb hfind
        obtain ⟨calls, b'', hrun, hcalls, hbounded, hb'', hcarry, hshort⟩ := ih hb' (by omega)
        rw [List.append_nil] at hcalls hcarry
        refine ⟨(r, b') :: calls, b'', ?_, ?_, ?_, hb'', ?_, hshort⟩
        · simp only [processAll, hfind, bind_assoc, hrun]
          simp only [handEach, List.forM_eq_forM, List.forM_cons, bind_assoc]
        · rw [List.append_nil, decodeRecords, hdec, List.map_cons, hcalls]
          rfl
        · intro c hc
          cases hc with
          | head => exact hb'
          | tail _ hc => exact hbounded c hc
        · rw [List.append_nil, hdec, hcarry]

theorem compact_spec {b : RecvBuffer} (hb : b.Bounded cap) :
    (compact b).Bounded cap ∧ (compact b).carry = b.carry := by
  have hlen := RecvBuffer.carry_length hb
  have hsize := hb.size
  have hwithin := hb.within
  refine ⟨⟨?_, by simp only [compact]; omega⟩, ?_⟩
  · simp only [compact]
    rw [blit_length (by omega), hsize]
  · have hfront := slice_blit_zero b.buffer b.carry
    rw [hlen] at hfront
    exact hfront

theorem store_spec {b : RecvBuffer} {chunk : List UInt8} (hb : b.Bounded cap) (hp : b.position = 0)
    (hc : b.bytesRemaining + chunk.length ≤ cap) :
    (store b chunk).Bounded cap ∧ (store b chunk).carry = b.carry ++ chunk := by
  have hsize := hb.size
  refine ⟨⟨?_, by simp only [store, hp]; omega⟩, ?_⟩
  · simp only [store]
    rw [blit_length (by omega), hsize]
  · simp only [store, RecvBuffer.carry, hp]
    exact slice_blit (by omega)

/-- One successful `recv`: there is room, so at least one byte is taken, and never a disconnect. -/
theorem receive_spec (closed : Program ε σ Unit) (k : Nat) {b : RecvBuffer} (hb : b.Bounded cap)
    (hshort : b.bytesRemaining < EVENT_SIZE) (hcap : EVENT_SIZE ≤ cap) (hin : incoming ≠ []) :
    ∃ consumed rest, consumed ≠ [] ∧ incoming = consumed ++ rest ∧
      ReadsWhole process cap (receive cap process closed k b incoming) b.carry consumed rest := by
  obtain ⟨hcompact, hcarry⟩ := compact_spec hb
  have hrem : (compact b).bytesRemaining = b.bytesRemaining := rfl
  let room := cap - b.bytesRemaining
  let chunk := incoming.take (min (k + 1) room)
  let rest := incoming.drop (min (k + 1) room)
  have hroom : 0 < min (k + 1) room := by
    have : 0 < room := Nat.sub_pos_of_lt (by omega)
    omega
  have hpos : 0 < chunk.length := by
    have : 0 < incoming.length := List.length_pos_iff.mpr hin
    simp only [chunk, List.length_take]
    omega
  have hfits : b.bytesRemaining + chunk.length ≤ cap := by
    simp only [chunk, List.length_take, room]
    omega
  refine ⟨chunk, rest, List.length_pos_iff.mp hpos, (List.take_append_drop _ _).symm, ?_⟩
  obtain ⟨hstore, hstored⟩ := store_spec hcompact rfl hfits
  obtain ⟨calls, b', hrun, hcalls, hbounded, hb', hrest, hlt⟩ :=
    processAll_spec process (store (compact b) chunk).bytesRemaining hstore (Nat.le_refl _) rest
  rw [List.append_nil, hstored, hcarry] at hcalls hrest
  refine ⟨calls, b', ?_, hcalls, hbounded, hb', hrest, hlt⟩
  rw [← hrun]
  simp only [receive, recvBytes, hrem]
  exact if_pos hpos

/-- Calls of a receive handler, one for each outcome, while there is something to read. -/
def readAll (read : RecvOutcome → RecvBuffer → List UInt8 → Program ε σ (RecvBuffer × List UInt8)) :
    List RecvOutcome → RecvBuffer → List UInt8 → Program ε σ (RecvBuffer × List UInt8)
  | [], b, incoming => pure (b, incoming)
  | o :: os, b, incoming =>
    if incoming = [] then pure (b, incoming)
    else do
      let (b, incoming) ← read o b incoming
      readAll read os b incoming

/-- The outcome, once interruptions are over, brings bytes. -/
def RecvOutcome.Delivers : RecvOutcome → Prop
  | .eintr retry => retry.Delivers
  | .got _ => True
  | .closed => False
  | .error => False

theorem wrapperServerRecv_spec (kill : Program ε σ Unit) {o : RecvOutcome} (ho : o.Delivers)
    {b : RecvBuffer} (hb : b.Bounded buffersize) (hshort : b.bytesRemaining < EVENT_SIZE)
    (hin : incoming ≠ []) :
    ∃ consumed rest, consumed ≠ [] ∧ incoming = consumed ++ rest ∧ ReadsWhole process buffersize
      (wrapperServerRecv process kill o b incoming) b.carry consumed rest := by
  induction o with
  | eintr retry ih => exact ih ho
  | got k => exact receive_spec process kill k hb hshort (by decide) hin
  | closed => exact ho.elim
  | error => exact ho.elim

theorem ReadsWhole.refl {b : RecvBuffer} (hb : b.Bounded cap)
    (hshort : b.bytesRemaining < EVENT_SIZE) (rest : List UInt8) :
    ReadsWhole process cap (pure (b, rest)) b.carry [] rest := by
  have hlt : b.carry.length < recordFraming.width := by
    rw [RecvBuffer.carry_length hb]
    exact hshort
  refine ⟨[], b, rfl, ?_, ?_, hb, ?_, hshort⟩
  · rw [List.append_nil, decodeRecords, recordFraming.decode_short hlt]
    rfl
  · intro c hc
    cases hc
  · rw [List.append_nil, recordFraming.decode_short hlt]

/-- Reading on from where a first read stopped is one read of both parts. -/
theorem ReadsWhole.trans {P : List UInt8 → Prop} {m : Program ε σ (RecvBuffer × List UInt8)}
    {k : RecvBuffer → List UInt8 → Program ε σ (RecvBuffer × List UInt8)}
    (h : ReadsWhole process cap m carried consumed rest)
    (hk : ∀ b, RecvBuffer.Bounded cap b → b.bytesRemaining < EVENT_SIZE →
      ∃ consumed' rest', P rest' ∧ rest = consumed' ++ rest' ∧
        ReadsWhole process cap (k b rest) b.carry consumed' rest') :
    ∃ consumed' rest', P rest' ∧ rest = consumed' ++ rest' ∧
      ReadsWhole process cap (m >>= fun r => k r.1 r.2) carried (consumed ++ consumed') rest' := by
  obtain ⟨calls, b, hrun, hcalls, hbounded, hb, hcarry, hshort⟩ := h
  obtain ⟨consumed', rest', hP, heq, calls', b', hrun', hcalls', hbounded', hb', hcarry', hshort'⟩ :=
    hk b hb hshort
  have hdec := recordFraming.decode_append (carried ++ consumed) consumed'
  rw [hcarry] at hcalls' hcarry'
  refine ⟨consumed', rest', hP, heq, calls ++ calls', b', ?_, ?_, ?_, hb', ?_, hshort'⟩
  · simp only [hrun, bind_assoc, pure_bind, hrun', handEach, List.forM_eq_forM, List.forM_append]
  · rw [List.map_append, hcalls, hcalls', ← List.append_assoc, decodeRecords, decodeRecords,
      decodeRecords, hdec]
  · intro c hc
    cases List.mem_append.mp hc with
    | inl hc => exact hbounded c hc
    | inr hc => exact hbounded' c hc
  · rw [hcarry', ← List.append_assoc, hdec]

theorem readAll_spec
    (read : RecvOutcome → RecvBuffer → List UInt8 → Program ε σ (RecvBuffer × List UInt8))
    (Good : RecvOutcome → Prop)
    (hread : ∀ o b incoming, Good o → RecvBuffer.Bounded cap b → b.bytesRemaining < EVENT_SIZE →
      incoming ≠ [] → ∃ consumed rest, consumed ≠ [] ∧ incoming = consumed ++ rest ∧
        ReadsWhole process cap (read o b incoming) b.carry consumed rest)
    {os : List RecvOutcome} (hos : ∀ o ∈ os, Good o) {b : RecvBuffer} (hb : b.Bounded cap)
    (hshort : b.bytesRemaining < EVENT_SIZE) (incoming : List UInt8) :
    ∃ consumed rest, (incoming.length ≤ os.length → rest = []) ∧ incoming = consumed ++ rest ∧
      ReadsWhole process cap (readAll read os b incoming) b.carry consumed rest := by
  induction os generalizing b incoming with
  | nil =>
    refine ⟨[], incoming, ?_, rfl, .refl process hb hshort incoming⟩
    intro h
    exact List.length_eq_zero_iff.mp (Nat.le_zero.mp h)
  | cons o os ih =>
    by_cases hin : incoming = []
    · refine ⟨[], incoming, fun _ => hin, rfl, ?_⟩
      rw [readAll, if_pos hin]
      exact .refl process hb hshort incoming
    · obtain ⟨consumed, rest, hne, heq, hfirst⟩ :=
        hread o b incoming (hos o List.mem_cons_self) hb hshort hin
      obtain ⟨consumed', rest', hall, hrest, hwhole⟩ := hfirst.trans process
        (k := readAll read os) (fun b' hb' hshort' =>
          ih (fun o ho => hos o (List.mem_cons_of_mem _ ho)) hb' hshort' rest)
      refine ⟨consumed ++ consumed', rest', ?_, ?_, ?_⟩
      · intro h
        have hpos := List.length_pos_iff.mpr hne
        rw [heq, List.length_append, List.length_cons] at h
        exact hall (by omega)
      · rw [heq, hrest, List.append_assoc]
      · rw [readAll, if_neg hin]
        exact hwhole

end Loop

/-- A buffer as `server_accept` leaves it: the counters are 0, the bytes are whatever they were. -/
def freshBuffer (bytes : List UInt8) : RecvBuffer :=
  { buffer := bytes, bytesRemaining := 0, position := 0 }

theorem freshBuffer_short (bytes : List UInt8) :
    (freshBuffer bytes).bytesRemaining < EVENT_SIZE := by
  change 0 < 12
  decide

/-- However the stream is cut, the records handed over by `m` are those of
the bytes read so far, decoded at once, and the buffer never has to be read with no room. -/
def FramingIndependent {ε σ : Type} (cap : Nat)
    (process : EventRecord → RecvBuffer → Program ε σ Unit)
    (m : Program ε σ (RecvBuffer × List UInt8)) (stream : List UInt8) (reads : Nat) : Prop :=
  ∃ consumed rest calls b, stream = consumed ++ rest ∧ (stream.length ≤ reads → rest = []) ∧
    m = (do handEach process calls; pure (b, rest)) ∧
    calls.map Prod.fst = decodeRecords consumed ∧
    (∀ c ∈ calls, c.2.position + c.2.bytesRemaining ≤ cap) ∧
    b.position + b.bytesRemaining ≤ cap ∧ b.bytesRemaining < EVENT_SIZE ∧
    0 < cap - b.bytesRemaining

theorem ReadsWhole.framingIndependent {ε σ : Type}
    {process : EventRecord → RecvBuffer → Program ε σ Unit}
    {m : Program ε σ (RecvBuffer × List UInt8)} (hcap : EVENT_SIZE ≤ cap)
    (hall : stream.length ≤ reads → rest = []) (heq : stream = consumed ++ rest)
    (h : ReadsWhole process cap m [] consumed rest) :
    FramingIndependent cap process m stream reads := by
  obtain ⟨calls, b, hrun, hcalls, hbounded, hb, hcarry, hshort⟩ := h
  exact ⟨consumed, rest, calls, b, heq, hall, hrun, hcalls, fun c hc => (hbounded c hc).within,
    hb.within, hshort, by omega⟩

/-- Framing does not depend on how the stream is cut, in the daemon and in the HID plugin; a stream
of encoded records decodes to those records. -/
theorem socket_framing {ε σ : Type} (process : EventRecord → RecvBuffer → Program ε σ Unit)
    (kill : Program ε σ Unit) (os : List RecvOutcome) (hos : ∀ o ∈ os, o.Delivers)
    (stream : List UInt8) :
    (∀ bytes : List UInt8, bytes.length = buffersize → FramingIndependent buffersize process
      (readAll (wrapperServerRecv process kill) os (freshBuffer bytes) stream) stream os.length) ∧
    (∀ bytes : List UInt8, bytes.length = superhidBuffersize →
      ∀ cuts : List Nat, FramingIndependent superhidBuffersize process
        (readAll (recvCallback process kill) (cuts.map .got) (freshBuffer bytes) stream) stream
        cuts.length) ∧
    (∀ rs : List EventRecord, (∀ r ∈ rs, r.magic = MAGIC) →
      decodeRecords (rs.flatMap EventRecord.encode) = rs) := by
  refine ⟨?_, ?_, ?_⟩
  · intro bytes hbytes
    have hb : (freshBuffer bytes).Bounded buffersize := ⟨hbytes, Nat.zero_le _⟩
    obtain ⟨consumed, rest, hall, heq, hwhole⟩ := readAll_spec process
      (wrapperServerRecv process kill) RecvOutcome.Delivers
      (fun o b incoming ho hb hshort hin => wrapperServerRecv_spec process kill ho hb hshort hin)
      hos hb (freshBuffer_short bytes) stream
    exact ReadsWhole.framingIndependent (by decide) hall heq hwhole
  · intro bytes hbytes cuts
    have hb : (freshBuffer bytes).Bounded superhidBuffersize := ⟨hbytes, Nat.zero_le _⟩
    have hcuts : ∀ o ∈ cuts.map RecvOutcome.got, ∃ k, o = .got k := by
      intro o ho
      obtain ⟨k, _, rfl⟩ := List.mem_map.mp ho
      exact ⟨k, rfl⟩
    obtain ⟨consumed, rest, hall, heq, hwhole⟩ := readAll_spec process
      (recvCallback process kill) (fun o => ∃ k, o = .got k)
      (by
        rintro o b incoming ⟨k, rfl⟩ hb hshort hin
        exact receive_spec process kill k hb hshort (by decide) hin)
      hcuts hb (freshBuffer_short bytes) stream
    rw [List.length_map] at hall
    exact ReadsWhole.framingIndependent (by decide) hall heq hwhole
  · intro rs hrs
    rw [decodeRecords, decode_encode hrs]

/-- A record with junk around it, in three pieces that cut through the magic. -/
theorem socket_framing_cut :
    FramingIndependent buffersize (fun _ _ => (pure () : Program Unit Unit Unit))
      (readAll (wrapperServerRecv (fun _ _ => pure ()) (pure ())) [.got 2, .eintr (.got 3), .got 20]
        (freshBuffer (List.replicate buffersize 0))
        (7 :: (EventRecord.mk' EV_KEY 30 1).encode ++ [9]))
      (7 :: (EventRecord.mk' EV_KEY 30 1).encode ++ [9]) 3 :=
  (socket_framing (fun _ _ => pure ()) (pure ()) [.got 2, .eintr (.got 3), .got 20]
    (by
      intro o ho
      simp only [List.mem_cons, List.not_mem_nil, or_false] at ho
      rcases ho with rfl | rfl | rfl <;> trivial) _).1 _ List.length_replicate

end InputServer
