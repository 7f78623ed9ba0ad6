import InputServer.HidGadget

namespace InputServer
open Buffer
set_option autoImplicit true

/-- What an event on the way to the host is for the queue of accepted reports. -/
def SendHappening.event : SendHappening → Option (FifoEvent (List UInt8))
  | .wrote ret data => if 0 ≤ ret then some (.push [data.take ret.toNat]) else none
  | .sent report => some (.pop [report])
  | .aborted => some .clear

namespace HidgSend

/-- The report that the controller has. -/
def pending (g : HidgSend) : List (List UInt8) :=
  (g.inFlight.map fun n => g.reqBuf.take n).toList

/-- The invariant of the send half. -/
structure Kept (len : UInt16) (g : HidgSend) : Prop where
  gated : g.writePending = g.inFlight.isSome
  enabled : g.inFlight ≠ none → g.inEnabled = true
  owned : g.inEnabled = true → g.inOwner = .hidg
  within : g.reqBuf.length = len.toNat
  fifo : Fifo (g.log.filterMap SendHappening.event) g.pending

/-- What one event does to the send half. -/
inductive Move (len : UInt16) : HidgSend → HidgSend → Prop where
  | still : Move len g g
  | write : (0 ≤ queued → g.inEnabled = true) →
      Move len g (g.fHidgWrite len data accessOk wait uncopied queued)
  | done : g.inDone = .ok g' → Move len g g'
  | disable : g.disableIn = .ok g' → Move len g { g' with inOwner := .nobody }
  | restart : g.disableIn = .ok g' → Move len g g'
  | enable : g.disableIn = .ok g' ∨ (g.inOwner = .nobody ∧ g' = g) →
      Move len g { g' with inEnabled := true, inOwner := .hidg }

section
variable {len : UInt16} {g g' : HidgSend}

theorem filterMap_snoc {h : SendHappening} (g : HidgSend) :
    (g.happens h).log.filterMap SendHappening.event =
      g.log.filterMap SendHappening.event ++ h.event.toList := by
  rw [happens, List.filterMap_append]
  congr 1

/-- A write that is refused leaves everything as it was, except for bytes that nobody has. -/
theorem Kept.refused (h : g.Kept len) (data : List UInt8) (hret : ret < 0) :
    Kept len (g.happens (.wrote ret data)) := by
  have hnone : (SendHappening.wrote ret data).event = none := by
    rw [SendHappening.event, if_neg (by omega)]
  refine ⟨h.gated, h.enabled, h.owned, h.within, ?_⟩
  rw [filterMap_snoc, hnone, Option.toList_none, List.append_nil]
  exact h.fifo

theorem Kept.fill (h : g.Kept len) (hidle : g.inFlight = none) {bytes : List UInt8}
    (hbytes : bytes.length ≤ len.toNat) :
    Kept len { g with writePending := false, reqBuf := blit g.reqBuf 0 bytes } := by
  have hlength : (blit g.reqBuf 0 bytes).length = len.toNat := by
    rw [blit_length (by rw [h.within]; omega)]
    exact h.within
  have hfifo := h.fifo
  rw [pending, hidle] at hfifo
  refine ⟨?_, h.enabled, h.owned, hlength, ?_⟩
  · rw [hidle]
    rfl
  · rw [pending, hidle]
    exact hfifo

theorem Kept.write (h : g.Kept len) (hqueue : 0 ≤ queued → g.inEnabled = true) :
    Kept len (g.fHidgWrite len data accessOk wait uncopied queued) := by
  rw [fHidgWrite]
  cases accessOk with
  | false => exact h.refused data (Int.negSucc_lt_zero 13)
  | true =>
    cases hpending : g.writePending with
    | true => exact h.refused data wait.ret_neg
    | false =>
      have hidle : g.inFlight = none := by
        rw [h.gated, Option.isSome_eq_false_iff, Option.isNone_iff_eq_none] at hpending
        exact hpending
      have hcount : min (UInt32.ofNat data.length).toNat len.toNat ≤ len.toNat :=
        Nat.min_le_right _ _
      have hlen : min (UInt32.ofNat data.length).toNat len.toNat ≤ data.length := by
        apply (Nat.min_le_left _ _).trans
        rw [UInt32.toNat_ofNat']
        exact Nat.mod_le _ _
      dsimp only
      generalize min (UInt32.ofNat data.length).toNat len.toNat = count at hcount hlen
      have hbytes : (data.take (count - uncopied)).length ≤ len.toNat := by
        rw [List.length_take]
        omega
      have hfilled := h.fill hidle hbytes
      simp only [Bool.not_true, Bool.false_eq_true, if_false]
      by_cases hcopied : uncopied ≠ 0
      · rw [if_pos hcopied]
        exact hfilled.refused data (Int.negSucc_lt_zero 21)
      · rw [if_neg hcopied]
        by_cases hrefused : queued < 0
        · rw [if_pos hrefused]
          exact hfilled.refused data hrefused
        · rw [if_neg hrefused]
          have hall : data.take (count - uncopied) = data.take count := by
            rw [not_not.1 hcopied, Nat.sub_zero]
          have htake : (blit g.reqBuf 0 (data.take count)).take count = data.take count := by
            have hfront := slice_blit_zero g.reqBuf (data.take count)
            rw [List.length_take, Nat.min_eq_left hlen, slice, List.drop_zero] at hfront
            exact hfront
          refine ⟨rfl, fun _ => hqueue (by omega), h.owned, hfilled.within, ?_⟩
          have hpushed := h.fifo.push [data.take count]
          rw [pending, hidle] at hpushed
          have hevent : (SendHappening.wrote (count : Int) data).event =
              some (.push [data.take count]) := by
            rw [SendHappening.event, if_pos (Int.natCast_nonneg _), Int.toNat_natCast]
          rw [filterMap_snoc, hevent, Option.toList_some, hall]
          change Fifo _ [(blit g.reqBuf 0 (data.take count)).take count]
          rw [htake]
          exact hpushed

/-- The request in flight is done: the host has its report, or it is taken back. -/
theorem Kept.completed (h : g.Kept len) (hn : g.inFlight = some n) (happening : SendHappening)
    (hevent : happening.event = some (.pop [g.reqBuf.take n]) ∨ happening.event = some .clear) :
    ∃ g', ({ g with inFlight := none }.happens happening).fHidgReqComplete = .ok g' ∧
      g'.Kept len ∧ g'.inFlight = none := by
  have howner : g.inOwner = .hidg := h.owned (h.enabled (by rw [hn]; exact Option.some_ne_none n))
  refine ⟨_, if_pos howner, ⟨rfl, fun hno => absurd rfl hno, h.owned, h.within, ?_⟩, rfl⟩
  have hfifo := h.fifo
  rw [pending, hn] at hfifo
  change Fifo (({ g with inFlight := none }.happens happening).log.filterMap _) []
  rw [filterMap_snoc]
  cases hevent with
  | inl hsent =>
    rw [hsent]
    exact Fifo.pop hfifo
  | inr haborted =>
    rw [haborted]
    exact Fifo.clear hfifo

theorem Kept.inDone (h : g.Kept len) : ∃ g', g.inDone = .ok g' ∧ g'.Kept len := by
  rw [HidgSend.inDone]
  cases hn : g.inFlight with
  | none => exact ⟨g, rfl, h⟩
  | some n =>
    obtain ⟨g', hrun, hkept, -⟩ := h.completed hn (.sent (g.reqBuf.take n)) (.inl rfl)
    exact ⟨g', hrun, hkept⟩

/-- A disabled endpoint has no request, and no completion finds it without the gadget. -/
theorem Kept.disableIn (h : g.Kept len) :
    ∃ g', g.disableIn = .ok g' ∧ g'.Kept len ∧ g'.inFlight = none ∧ g'.inEnabled = false := by
  rw [HidgSend.disableIn]
  cases hn : g.inFlight with
  | none =>
    refine ⟨{ g with inFlight := none, inEnabled := false }, rfl, ?_, rfl, rfl⟩
    have hgated := h.gated
    have hfifo := h.fifo
    rw [hn] at hgated
    rw [pending, hn] at hfifo
    exact ⟨hgated, fun hno => absurd rfl hno, Bool.noConfusion, h.within, hfifo⟩
  | some n =>
    have howner : g.inOwner = .hidg := h.owned (h.enabled (by rw [hn]; exact Option.some_ne_none n))
    obtain ⟨g', hrun, hkept, hnone⟩ := h.completed hn .aborted (.inr rfl)
    refine ⟨{ g' with inEnabled := false }, ?_, ?_, hnone, rfl⟩
    · rw [fHidgReqComplete, happens, if_pos howner] at hrun ⊢
      cases hrun
      rfl
    · exact ⟨hkept.gated, fun hno => absurd hnone hno, Bool.noConfusion, hkept.within, hkept.fifo⟩

theorem Kept.disown (h : g.Kept len) (hnone : g.inFlight = none) (hoff : g.inEnabled = false) :
    Kept len { g with inOwner := .nobody } :=
  ⟨h.gated, fun hno => absurd hnone hno, fun hon => absurd hon (by rw [hoff]; decide), h.within,
    h.fifo⟩

theorem Kept.enable (h : g.Kept len) : Kept len { g with inEnabled := true, inOwner := .hidg } :=
  ⟨h.gated, fun _ => rfl, fun _ => rfl, h.within, h.fifo⟩

theorem Move.kept (hm : Move len g g') (h : g.Kept len) : g'.Kept len := by
  cases hm with
  | still => exact h
  | write hqueue => exact h.write hqueue
  | done hrun =>
    obtain ⟨g₁, hrun₁, hkept⟩ := h.inDone
    rw [hrun] at hrun₁
    cases hrun₁
    exact hkept
  | disable hrun =>
    obtain ⟨g₁, hrun₁, hkept, hnone, hoff⟩ := h.disableIn
    rw [hrun] at hrun₁
    cases hrun₁
    exact hkept.disown hnone hoff
  | restart hrun =>
    obtain ⟨g₁, hrun₁, hkept, -⟩ := h.disableIn
    rw [hrun] at hrun₁
    cases hrun₁
    exact hkept
  | enable hbefore =>
    cases hbefore with
    | inl hrun =>
      obtain ⟨g₁, hrun₁, hkept, -⟩ := h.disableIn
      rw [hrun] at hrun₁
      cases hrun₁
      exact hkept.enable
    | inr hfree =>
      rw [hfree.2]
      exact h.enable

end

end HidgSend

open HidgSend

section
variable {g g' g₀ : Hidg} {es : List HidEvent}

theorem setAltOut_send (g : Hidg) (s : SetAlt) :
    (g.setAltOut s).send = g.send ∧ (g.setAltOut s).reportLength = g.reportLength := by
  rw [Hidg.setAltOut]
  dsimp only
  by_cases howned : g.outOwner ≠ .nobody
  · rw [if_pos howned]
    by_cases hon : (s.outConfigured && s.outEnabled) = true
    · rw [if_pos hon]
      exact ⟨rfl, rfl⟩
    · rw [if_neg hon]
      exact ⟨rfl, rfl⟩
  · rw [if_neg howned]
    by_cases hon : (s.outConfigured && s.outEnabled) = true
    · rw [if_pos hon]
      exact ⟨rfl, rfl⟩
    · rw [if_neg hon]
      exact ⟨rfl, rfl⟩

theorem hidgSetAlt_send {s : SetAlt} (h : g.hidgSetAlt s = .ok g') :
    Move g.reportLength g.send g'.send ∧ g'.reportLength = g.reportLength := by
  rw [Hidg.hidgSetAlt] at h
  by_cases howned : g.send.inOwner ≠ .nobody
  · rw [if_pos howned] at h
    cases hoff : g.send.disableIn with
    | error e =>
      rw [hoff] at h
      cases h
    | ok send =>
      rw [hoff] at h
      by_cases hon : (s.inConfigured && s.inEnabled) = true
      · change (if _ then pure _ else pure _) = _ at h
        rw [if_pos hon] at h
        cases h
        rw [(setAltOut_send _ s).1, (setAltOut_send _ s).2]
        exact ⟨.enable (.inl hoff), rfl⟩
      · change (if _ then pure _ else pure _) = _ at h
        rw [if_neg hon] at h
        cases h
        exact ⟨.restart hoff, rfl⟩
  · rw [if_neg howned] at h
    by_cases hon : (s.inConfigured && s.inEnabled) = true
    · change (if _ then pure _ else pure _) = _ at h
      rw [if_pos hon] at h
      cases h
      rw [(setAltOut_send _ s).1, (setAltOut_send _ s).2]
      exact ⟨.enable (.inr ⟨not_not.1 howned, rfl⟩), rfl⟩
    · change (if _ then pure _ else pure _) = _ at h
      rw [if_neg hon] at h
      cases h
      exact ⟨.still, rfl⟩

/-- Nothing but a write, the end of one and the two calls of the composite device has to do with the
send half. -/
theorem HidEvent.Step.send {e : HidEvent} (h : e.Step g g') :
    Move g.reportLength g.send g'.send ∧ g'.reportLength = g.reportLength := by
  obtain ⟨hvalid, hrun⟩ := h
  have hrecv {m : Except HidFault HidgRecv}
      (h : (do pure { g with recv := ← m }) = Except.ok g') :
      Move g.reportLength g.send g'.send ∧ g'.reportLength = g.reportLength := by
    cases m with
    | error e => cases h
    | ok recv =>
      cases h
      exact ⟨.still, rfl⟩
  cases e with
  | read t count accessOk wait => exact hrecv hrun
  | copy t uncopied =>
    rw [HidEvent.run] at hrun
    cases hstage : g.recv.readers t with
    | picked list req count =>
      rw [hstage] at hrun
      exact hrecv hrun
    | _ =>
      rw [hstage] at hrun
      cases hrun
      exact ⟨.still, rfl⟩
  | advance t =>
    rw [HidEvent.run] at hrun
    cases hstage : g.recv.readers t with
    | copied list req bytes =>
      rw [hstage] at hrun
      exact hrecv hrun
    | _ =>
      rw [hstage] at hrun
      cases hrun
      exact ⟨.still, rfl⟩
  | requeue t queued =>
    rw [HidEvent.run] at hrun
    cases hstage : g.recv.readers t with
    | _ =>
      rw [hstage] at hrun
      cases hrun
      exact ⟨.still, rfl⟩
  | write data accessOk wait uncopied queued =>
    cases hrun
    exact ⟨.write hvalid, rfl⟩
  | outDone req data kzalloc =>
    cases hrun
    exact ⟨.still, rfl⟩
  | inDone =>
    rw [HidEvent.run] at hrun
    cases hdone : g.send.inDone with
    | error e =>
      rw [hdone] at hrun
      cases hrun
    | ok send =>
      rw [hdone] at hrun
      cases hrun
      exact ⟨.done hdone, rfl⟩
  | disable kzalloc =>
    rw [HidEvent.run, Hidg.hidgDisable] at hrun
    cases hoff : g.send.disableIn with
    | error e =>
      rw [hoff] at hrun
      cases hrun
    | ok send =>
      rw [hoff] at hrun
      cases hrun
      exact ⟨.disable hoff, rfl⟩
  | setAlt s => exact hidgSetAlt_send hrun

theorem Hidg.Bound.sendKept (h : g.Bound) : g.send.Kept g.reportLength where
  gated := by
    rw [h.notPending.1, h.notPending.2]
    rfl
  enabled hno := absurd h.notPending.2 hno
  owned hon := by
    rw [h.disabled] at hon
    cases hon
  within := h.buffer
  fifo := by
    rw [h.silent.2, pending, h.notPending.2]
    exact .nil

theorem sendKept_run (h₀ : g₀.Bound) (hrun : Run HidEvent.Step g₀ es g) :
    g.send.Kept g₀.reportLength ∧ g.reportLength = g₀.reportLength := by
  apply hrun.invariant
    (I := fun _ g => g.send.Kept g₀.reportLength ∧ g.reportLength = g₀.reportLength)
    ⟨h₀.sendKept, rfl⟩
  intro _ e g g' hg hstep
  obtain ⟨hmove, hlength⟩ := hstep.send
  rw [hg.2] at hmove
  exact ⟨hmove.kept hg.1, hlength.trans hg.2⟩

/-- Whatever the threads, the controller and the composite device do, and in any order, the host
gets the reports that writes accepted, whole and in order, and the controller has at most the last
one; a write has to wait exactly while it does, and no completion finds another owner. -/
theorem hid_writes (h₀ : g₀.Bound) (hrun : Run HidEvent.Step g₀ es g) :
    Fifo (g.send.log.filterMap SendHappening.event) g.send.pending ∧
      g.send.writePending = g.send.inFlight.isSome ∧
      g.send.reqBuf.length = g₀.reportLength.toNat ∧
      (∃ send, g.send.inDone = .ok send) ∧ ∃ send, g.send.disableIn = .ok send := by
  obtain ⟨hkept, -⟩ := sendKept_run h₀ hrun
  obtain ⟨done, hdone, -⟩ := hkept.inDone
  obtain ⟨disabled, hdisabled, -⟩ := hkept.disableIn
  exact ⟨hkept.fifo, hkept.gated, hkept.within, ⟨done, hdone⟩, disabled, hdisabled⟩

theorem hid_writes_session :
    Fifo ((HidEvent.reached hidSession boundHidg).send.log.filterMap SendHappening.event)
        (HidEvent.reached hidSession boundHidg).send.pending ∧
      (HidEvent.reached hidSession boundHidg).send.writePending =
        (HidEvent.reached hidSession boundHidg).send.inFlight.isSome ∧
      (HidEvent.reached hidSession boundHidg).send.reqBuf.length =
        boundHidg.reportLength.toNat ∧
      (∃ send, (HidEvent.reached hidSession boundHidg).send.inDone = .ok send) ∧
      ∃ send, (HidEvent.reached hidSession boundHidg).send.disableIn = .ok send :=
  hid_writes boundHidg_bound (hidSession_run.mono fun _ _ _ hstep => hstep.1)

end

end InputServer
