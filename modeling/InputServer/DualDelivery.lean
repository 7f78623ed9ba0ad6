import InputServer.Deliveries
import InputServer.DivertedMotion
import InputServer.VkbdForward

namespace InputServer
open Program
set_option autoImplicit true

/-- The loop of `input_send` leaves the event as it finds it. -/
def MultiTouch.Spares (m : MultiTouch) (e : InputEvent) : Prop :=
  if m.slot ≠ 0 ∨ m.draining then
    match m.deferpressed with
    | .nope => True
    | .sendSync => e = synReport
    | .sendLeft => e = if m.draining then synReport else btnLeft 1
    | .sendLeftUp => e = if m.draining then synReport else btnLeft 0
  else
    ¬(e.type = EV_SYN ∧ e.code = SYN_MT_REPORT) ∧
    ¬(e.type = EV_SYN ∧ e.code = SYN_REPORT ∧ e.value ≠ 0 ∧ m.deferpressed ≠ .nope) ∧
    ¬(e.type = EV_ABS ∧ (e.code = ABS_MT_POSITION_X ∨ e.code = ABS_MT_POSITION_Y)) ∧
    ¬(e.type = EV_ABS ∧ e.code = ABS_MT_SLOT ∧ e.value ≠ 0 ∧ m.hadSlot0)

/-- `scale_pointer_event`, in the frame of the mouse's parent. -/
def scaleForFrame {F : Type} (e : InputEvent) : WorldM F InputEvent :=
  if e.type = EV_ABS then do
    let w ← get
    let p ← deref w.routing.mouseParent
    let dv ← derefDivert p
    scalePointerEvent dv e
  else pure e

namespace Delivery

variable {F : Type}

/-- The one that gets the event does not change it: it is nobody, or has a plugin, or is not a PV
domain, or has nothing to make of the event. -/
def Spares (a : Delivery F) : Prop :=
  ∀ d, a.dest = some d → a.before.plug.plugin d = false →
    (a.before.domains d).isPvDomain = true → a.before.multitouch.Spares a.event

/-- What is delivered next is the event as it was delivered before; behind a copy for the parent it
is scaled for the child. -/
def Repeats (a b : Delivery F) : Prop :=
  match a.call with
  | .copied => scaleForFrame a.event a.before = .ok (b.event, a.before)
  | _ => b.event = a.event

end Delivery

/-- The event as the loop of `input_send` leaves it. -/
def MultiTouch.leaves (m : MultiTouch) (e : InputEvent) : InputEvent :=
  if m.slot ≠ 0 ∨ m.draining then
    match m.deferpressed with
    | .nope => e
    | .sendSync => synReport
    | .sendLeft => if m.draining then synReport else btnLeft 1
    | .sendLeftUp => if m.draining then synReport else btnLeft 0
  else if e.type = EV_SYN ∧ e.code = SYN_REPORT ∧ m.deferpressed ≠ .nope then synReport
  else (demultitouch m e).event

/-- The event behind the loop of `input_send`. -/
def MultiTouch.settle : Nat → MultiTouch → InputEvent → InputEvent
  | 0, _, e => e
  | fuel + 1, m, e =>
    let r := demultitouch m e
    if r.action = .eventsQueued then r.statics.settle fuel r.event else r.event

section
variable {F : Type} {w : World F}

theorem sendToVkbd_settles (d : DomPtr) (fuel : Nat) (e : InputEvent) (w : World F) :
    wlp (sendToVkbd d fuel e) (fun e' _ => e' = w.multitouch.settle fuel e) w := by
  induction fuel generalizing e w with
  | zero => exact wlp_throw _ _ w
  | succ fuel ih =>
    rw [sendToVkbd, wlp_bind, wlp_get, MultiTouch.settle]
    dsimp only
    rw [wlp_bind, wlp_set]
    apply wlp_ite
    · intro hdiscarded
      rw [wlp_pure, hdiscarded, if_neg (by decide)]
    · intro _
      rw [wlp_bind]
      refine wlp_mono (xenVkbdSendEvent_multitouch d _ _) ?_
      intro _ w₁ h₁
      apply wlp_ite
      · intro hqueued
        have hstatics : w₁.multitouch = (demultitouch w.multitouch e).statics := h₁
        rw [if_pos hqueued, ← hstatics]
        exact ih _ w₁
      · intro hlast
        rw [if_neg hlast, wlp_pure]

end

section
variable {m : MultiTouch} {e : InputEvent}

theorem demultitouch_deferred (h : m.slot ≠ 0 ∨ m.draining = true) :
    ∃ n : MultiTouch, demultitouch m e = n.deferred e ∧ n.deferpressed = m.deferpressed ∧
      n.draining = m.draining := by
  unfold demultitouch
  rw [if_pos h]
  dsimp only
  by_cases hdraining : m.draining = true
  · rw [if_pos hdraining]
    exact ⟨m, rfl, rfl, rfl⟩
  · rw [if_neg hdraining]
    exact ⟨m.follow e, rfl, follow_deferpressed, follow_draining⟩

/-- A press that was put off is on its way: behind it there is a SYN_REPORT. -/
theorem settle_syncs (hsync : m.deferpressed = .sendSync) (h : m.slot ≠ 0 ∨ m.draining = true)
    (fuel : Nat) : m.settle (fuel + 1) e = synReport := by
  obtain ⟨n, hdeferred, hn, _⟩ := demultitouch_deferred (e := e) h
  unfold MultiTouch.settle MultiTouch.deferred at *
  rw [hdeferred]
  simp [hn, hsync]

theorem settle_drains (h : m.draining = true) (hpressed : m.deferpressed ≠ .nope) (fuel : Nat) :
    m.settle (fuel + 2) e = synReport := by
  obtain ⟨n, hdeferred, hn, hdraining⟩ := demultitouch_deferred (e := e) (.inr h)
  have hnext (e' : InputEvent) :
      ({ n with deferpressed := .sendSync } : MultiTouch).settle (fuel + 1) e' = synReport :=
    settle_syncs (m := { n with deferpressed := .sendSync }) rfl (.inr (hdraining.trans h)) fuel
  cases hpress : m.deferpressed with
  | nope => exact absurd hpress hpressed
  | sendSync => exact settle_syncs hpress (.inr h) (fuel + 1)
  | sendLeft =>
    have hqueued : n.deferred e =
        ⟨.eventsQueued, btnLeft 1, { n with deferpressed := .sendSync }⟩ := by
      simp [MultiTouch.deferred, hn, hpress, hdraining, h]
    rw [MultiTouch.settle, hdeferred, hqueued]
    exact hnext _
  | sendLeftUp =>
    have hqueued : n.deferred e =
        ⟨.eventsQueued, btnLeft 0, { n with deferpressed := .sendSync }⟩ := by
      simp [MultiTouch.deferred, hn, hpress, hdraining, h]
    rw [MultiTouch.settle, hdeferred, hqueued]
    exact hnext _

/-- Only a SYN_REPORT is queued that is no press that was put off. -/
theorem demultitouch_queues (h : ¬(m.slot ≠ 0 ∨ m.draining = true))
    (hqueued : (demultitouch m e).action = .eventsQueued) :
    e.type = EV_SYN ∧ e.code = SYN_REPORT ∧ m.deferpressed ≠ .nope := by
  unfold demultitouch at hqueued
  rw [if_neg h] at hqueued
  by_cases hsyn : e.type = EV_SYN
  · rw [if_pos hsyn] at hqueued
    unfold MultiTouch.syn at hqueued
    split_ifs at hqueued with hmt hreport hpressed
    exact ⟨hsyn, hreport, hpressed⟩
  · rw [if_neg hsyn] at hqueued
    by_cases habs : e.type = EV_ABS
    · rw [if_pos habs] at hqueued
      exact absurd hqueued abs_not_queued
    · rw [if_neg habs] at hqueued
      cases hqueued

theorem settle_leaves (m : MultiTouch) (e : InputEvent) : m.settle 3 e = m.leaves e := by
  unfold MultiTouch.leaves
  by_cases h : m.slot ≠ 0 ∨ m.draining = true
  · rw [if_pos h]
    by_cases hdraining : m.draining = true
    · cases hpress : m.deferpressed with
      | nope =>
        obtain ⟨n, hdeferred, hn, _⟩ := demultitouch_deferred (e := e) h
        rw [MultiTouch.settle, hdeferred, MultiTouch.deferred, hn, hpress]
        rfl
      | sendSync => exact settle_syncs hpress h 2
      | sendLeft =>
        dsimp only
        rw [if_pos hdraining]
        exact settle_drains hdraining (by simp [hpress]) 1
      | sendLeftUp =>
        dsimp only
        rw [if_pos hdraining]
        exact settle_drains hdraining (by simp [hpress]) 1
    · obtain ⟨n, hdeferred, hn, hidle⟩ := demultitouch_deferred (e := e) h
      rw [Bool.not_eq_true] at hdraining
      rw [MultiTouch.settle, hdeferred, MultiTouch.deferred, hn, hidle, hdraining]
      cases m.deferpressed <;> rfl
  · rw [if_neg h]
    by_cases hqueued : e.type = EV_SYN ∧ e.code = SYN_REPORT ∧ m.deferpressed ≠ .nope
    · rw [if_pos hqueued]
      have hsyn : demultitouch m e = ⟨.eventsQueued, e, { m with
          hadSlot0 := false, draining := true }⟩ := by
        unfold demultitouch MultiTouch.syn
        rw [if_neg h, if_pos hqueued.1, if_neg (by rw [hqueued.2.1]; decide), if_pos hqueued.2.1,
          if_pos hqueued.2.2]
      rw [MultiTouch.settle, hsyn]
      exact settle_drains (m := { m with hadSlot0 := false, draining := true }) rfl hqueued.2.2 0
    · rw [if_neg hqueued, MultiTouch.settle, if_neg fun h' => hqueued (demultitouch_queues h h')]

theorem absDone_event (m : MultiTouch) (e : InputEvent) : (m.absDone e).event = e := rfl

theorem abs_event : (m.abs e).event =
    if e.code = ABS_MT_POSITION_X then { e with code := ABS_X }
    else if e.code = ABS_MT_POSITION_Y then { e with code := ABS_Y }
    else if e.code = ABS_MT_SLOT ∧ e.value ≠ 0 ∧ m.hadSlot0 then synReport
    else e := by
  unfold MultiTouch.abs
  by_cases hx : e.code = ABS_MT_POSITION_X
  · rw [if_pos hx, if_pos hx, absDone_event]
  rw [if_neg hx, if_neg hx]
  by_cases hy : e.code = ABS_MT_POSITION_Y
  · rw [if_pos hy, if_pos hy, absDone_event]
  rw [if_neg hy, if_neg hy]
  by_cases hid : e.code = ABS_MT_TRACKING_ID
  · have hslot : ¬(e.code = ABS_MT_SLOT ∧ e.value ≠ 0 ∧ m.hadSlot0 = true) := by
      rw [hid]
      exact fun h => absurd h.1 (by decide)
    rw [if_pos hid, if_neg hslot]
    unfold MultiTouch.trackingId
    dsimp only
    by_cases hchanged : m.slot = 0 ∧ m.pressed ≠ decide (e.value ≠ -1)
    · rw [if_pos hchanged]
    · rw [if_neg hchanged, absDone_event]
  rw [if_neg hid]
  by_cases hslot : e.code = ABS_MT_SLOT
  · rw [if_pos hslot]
    by_cases hvalue : e.value ≠ 0
    · by_cases hhad : m.hadSlot0 = true
      · simp [hslot, hvalue, hhad]
      · simp [hvalue, hhad]
    · simp [hvalue, absDone_event]
  · have hkept : ¬(e.code = ABS_MT_SLOT ∧ e.value ≠ 0 ∧ m.hadSlot0 = true) := fun h => hslot h.1
    rw [if_neg hslot, if_neg hkept]
    by_cases hdetail : e.code ∈ contactDetails
    · rw [if_pos hdetail]
    · rw [if_neg hdetail, absDone_event]

/-- At the first contact, and with nothing left to drain, few events are changed. -/
theorem leaves_own (h : ¬(m.slot ≠ 0 ∨ m.draining = true)) : m.leaves e =
    if e.type = EV_SYN ∧ e.code = SYN_MT_REPORT then { e with code := SYN_REPORT }
    else if e.type = EV_SYN ∧ e.code = SYN_REPORT ∧ m.deferpressed ≠ .nope then synReport
    else if e.type = EV_ABS ∧ e.code = ABS_MT_POSITION_X then { e with code := ABS_X }
    else if e.type = EV_ABS ∧ e.code = ABS_MT_POSITION_Y then { e with code := ABS_Y }
    else if e.type = EV_ABS ∧ e.code = ABS_MT_SLOT ∧ e.value ≠ 0 ∧ m.hadSlot0 then synReport
    else e := by
  unfold MultiTouch.leaves demultitouch
  rw [if_neg h, if_neg h]
  by_cases hsyn : e.type = EV_SYN
  · have habs : ∀ p, ¬(e.type = EV_ABS ∧ p) := by
      rw [hsyn]
      exact fun _ h => absurd h.1 (by decide)
    rw [if_neg (habs _), if_neg (habs _), if_neg (habs _), if_pos hsyn]
    unfold MultiTouch.syn
    by_cases hmt : e.code = SYN_MT_REPORT
    · have hreport : ¬(e.type = EV_SYN ∧ e.code = SYN_REPORT ∧ m.deferpressed ≠ .nope) := by
        rw [hmt]
        exact fun h => absurd h.2.1 (by decide)
      rw [if_neg hreport, if_pos hmt, if_pos ⟨hsyn, hmt⟩]
    · have hother : ¬(e.type = EV_SYN ∧ e.code = SYN_MT_REPORT) := fun h => hmt h.2
      rw [if_neg hother, if_neg hmt]
      by_cases hreport : e.type = EV_SYN ∧ e.code = SYN_REPORT ∧ m.deferpressed ≠ .nope
      · rw [if_pos hreport, if_pos hreport]
      · rw [if_neg hreport, if_neg hreport]
        by_cases hcode : e.code = SYN_REPORT
        · have hnope : m.deferpressed = .nope := not_not.mp fun h => hreport ⟨hsyn, hcode, h⟩
          rw [if_pos hcode, if_neg (not_not.mpr hnope)]
        · rw [if_neg hcode]
  · have hnot : ∀ p, ¬(e.type = EV_SYN ∧ p) := fun _ h => hsyn h.1
    rw [if_neg (hnot _), if_neg (hnot _), if_neg (hnot _), if_neg hsyn]
    by_cases habs : e.type = EV_ABS
    · rw [if_pos habs, abs_event]
      simp only [habs, true_and]
    · simp only [habs, false_and, ↓reduceIte]

/-- The loop leaves the event alone, or makes it one that is not scaled, or renames its axis. -/
theorem leaves_changed (h : m.leaves e ≠ e) :
    (m.leaves e).type ≠ EV_ABS ∨ e.type = EV_ABS ∧ (m.leaves e).code ≠ e.code := by
  have hreport : synReport.type ≠ EV_ABS := by decide
  have hleft (value : Int32) : (btnLeft value).type ≠ EV_ABS := by
    change EV_KEY ≠ EV_ABS
    decide
  by_cases hown : m.slot ≠ 0 ∨ m.draining = true
  · unfold MultiTouch.leaves at h ⊢
    rw [if_pos hown] at h ⊢
    cases hpress : m.deferpressed with
    | nope =>
      rw [hpress] at h
      exact absurd rfl h
    | sendSync => exact .inl hreport
    | sendLeft =>
      dsimp only
      split_ifs
      · exact .inl hreport
      · exact .inl (hleft 1)
    | sendLeftUp =>
      dsimp only
      split_ifs
      · exact .inl hreport
      · exact .inl (hleft 0)
  · rw [leaves_own hown] at h ⊢
    split_ifs at h ⊢ with hmt hpress hx hy hslot
    · left
      change e.type ≠ EV_ABS
      rw [hmt.1]
      decide
    · exact .inl hreport
    · right
      refine ⟨hx.1, ?_⟩
      change ABS_X ≠ e.code
      rw [hx.2]
      decide
    · right
      refine ⟨hy.1, ?_⟩
      change ABS_Y ≠ e.code
      rw [hy.2]
      decide
    · exact .inl hreport
    · exact absurd rfl h

theorem leaves_eq_iff : m.leaves e = e ↔ m.Spares e := by
  unfold MultiTouch.Spares
  by_cases hown : m.slot ≠ 0 ∨ m.draining = true
  · unfold MultiTouch.leaves
    rw [if_pos hown, if_pos hown]
    cases m.deferpressed with
    | nope => exact iff_of_true rfl trivial
    | sendSync => exact eq_comm
    | sendLeft => exact eq_comm
    | sendLeftUp => exact eq_comm
  · rw [leaves_own hown, if_neg hown]
    split_ifs with hmt hpress hx hy hslot
    · refine iff_of_false ?_ fun h => h.1 hmt
      intro heq
      have hcode : SYN_REPORT = e.code := congrArg InputEvent.code heq
      rw [hmt.2] at hcode
      exact absurd hcode (by decide)
    · constructor
      · intro heq
        have hvalue : 0 = e.value := congrArg InputEvent.value heq
        have habs : e.type ≠ EV_ABS := by
          rw [hpress.1]
          decide
        exact ⟨hmt, fun h => h.2.2.1 hvalue.symm, fun h => habs h.1, fun h => habs h.1⟩
      · intro h
        have hvalue : e.value = 0 := by
          by_contra hne
          exact h.2.1 ⟨hpress.1, hpress.2.1, hne, hpress.2.2⟩
        rw [synReport, ← hpress.1, ← hpress.2.1, ← hvalue]
    · refine iff_of_false ?_ fun h => h.2.2.1 ⟨hx.1, .inl hx.2⟩
      intro heq
      have hcode : ABS_X = e.code := congrArg InputEvent.code heq
      rw [hx.2] at hcode
      exact absurd hcode (by decide)
    · refine iff_of_false ?_ fun h => h.2.2.1 ⟨hy.1, .inr hy.2⟩
      intro heq
      have hcode : ABS_Y = e.code := congrArg InputEvent.code heq
      rw [hy.2] at hcode
      exact absurd hcode (by decide)
    · refine iff_of_false ?_ fun h => h.2.2.2 hslot
      intro heq
      have htype : EV_SYN = e.type := congrArg InputEvent.type heq
      rw [hslot.1] at htype
      exact absurd htype (by decide)
    · refine iff_of_true rfl ⟨hmt, fun h => hpress ⟨h.1, h.2.1, h.2.2.2⟩, ?_, hslot⟩
      rintro ⟨htype, hcode⟩
      exact hcode.elim (fun h => hx ⟨htype, h⟩) fun h => hy ⟨htype, h⟩

end

section
variable {F : Type} {w w' : World F}

/-- What `input_send` leaves of an event, whoever it is for. -/
theorem inputSend_leaves (call : CallSite) (d : Option DomPtr) (slot : Int32) (e : InputEvent)
    (w : World F) :
    wlp (inputSend d slot e) (fun e' _ => (e' = e ↔ (Delivery.mk call d e w).Spares) ∧
      (e' = e ∨ e'.type ≠ EV_ABS ∨ e.type = EV_ABS ∧ e'.code ≠ e.code)) w := by
  have hkept {d : DomPtr} (h : w.plug.plugin d = true ∨ ¬(w.domains d).isPvDomain = true) :
      (Delivery.mk call (some d) e w).Spares := by
    intro a ha hplugin hpv
    cases ha
    obtain hplugged | hplain := h
    · change w.plug.plugin d = false at hplugin
      rw [hplugged] at hplugin
      cases hplugin
    · exact absurd hpv hplain
  rw [inputSend, wlp_bind, wlp_get]
  cases d with
  | none =>
    rw [wlp_pure]
    exact ⟨iff_of_true rfl (fun _ h => by cases h), .inl rfl⟩
  | some d =>
    apply wlp_ite
    · intro hplugin
      rw [wlp_bind]
      intro _ _ _
      rw [wlp_pure]
      exact ⟨iff_of_true rfl (hkept (.inl hplugin)), .inl rfl⟩
    intro hplugin
    apply wlp_ite
    · intro hpv
      refine wlp_mono (sendToVkbd_settles d 3 e w) ?_
      rintro e' _ rfl
      rw [settle_leaves]
      constructor
      · rw [leaves_eq_iff]
        constructor
        · intro hspares a ha _ _
          cases ha
          exact hspares
        · intro hspares
          exact hspares d rfl (Bool.eq_false_iff.mpr hplugin) hpv
      · by_cases hsame : w.multitouch.leaves e = e
        · exact .inl hsame
        · exact .inr (leaves_changed hsame)
    · intro hpv
      rw [wlp_bind]
      intro _ _ _
      rw [wlp_bind]
      intro _ _ _
      rw [wlp_pure]
      exact ⟨iff_of_true rfl (hkept (.inr hpv)), .inl rfl⟩

/-- Scaling keeps the type and the code, and all of what is no position. -/
theorem scaleForFrame_keeps (h : scaleForFrame e w = .ok (e', w')) :
    e'.type = e.type ∧ e'.code = e.code ∧ (e.type ≠ EV_ABS → e' = e) := by
  have hpointer {dv : DivertInfo} {w w' : World F} (h : scalePointerEvent dv e w = .ok (e', w')) :
      e'.type = e.type ∧ e'.code = e.code := by
    unfold scalePointerEvent at h
    split at h
    · obtain ⟨v, _, _, hpure⟩ := run_bind h
      cases hpure
      exact ⟨rfl, rfl⟩
    split at h
    · obtain ⟨v, _, _, hpure⟩ := run_bind h
      cases hpure
      exact ⟨rfl, rfl⟩
    · cases h
      exact ⟨rfl, rfl⟩
  unfold scaleForFrame at h
  by_cases habs : e.type = EV_ABS
  · rw [if_pos habs] at h
    obtain ⟨_, _, _, h⟩ := run_bind h
    obtain ⟨_, _, _, h⟩ := run_bind h
    obtain ⟨_, _, _, h⟩ := run_bind h
    obtain ⟨htype, hcode⟩ := hpointer h
    exact ⟨htype, hcode, fun hne => absurd habs hne⟩
  · rw [if_neg habs] at h
    cases h
    exact ⟨rfl, rfl, fun _ => rfl⟩

/-- The frame is the same before a delivery. -/
theorem scaleForFrame_sent (hsent : SendFrame w w₁) (h : scaleForFrame e w₁ = .ok (e', w')) :
    scaleForFrame e w = .ok (e', w) := by
  unfold scaleForFrame at h ⊢
  by_cases habs : e.type = EV_ABS
  · rw [if_pos habs] at h ⊢
    obtain ⟨_, _, hget, h⟩ := run_bind h
    cases hget
    rw [bind_ok (get_apply w)]
    cases hparent : w₁.routing.mouseParent with
    | none =>
      rw [hparent] at h
      cases h
    | some p =>
      rw [← hsent.routing, hparent]
      rw [hparent] at h
      obtain ⟨_, _, hderef, h⟩ := run_bind h
      cases hderef
      obtain ⟨dv, w₂, hdivert, hscale⟩ := run_bind h
      have hbefore : derefDivert p w = .ok (dv, w) ∧ w₂ = w₁ := by
        cases hdv : (w₁.domains p).divertInfo with
        | none =>
          unfold derefDivert at hdivert
          rw [bind_ok (get_apply w₁), hdv] at hdivert
          cases hdivert
        | some dv' =>
          rw [derefDivert_apply hdv] at hdivert
          cases hdivert
          exact ⟨derefDivert_apply ((hsent.divertInfo p).symm.trans hdv), rfl⟩
      obtain ⟨hbefore, rfl⟩ := hbefore
      change (derefDivert p >>= fun dv => scalePointerEvent dv e) w = _
      rw [bind_ok hbefore]
      exact (scalePointerEvent_scales dv e w w₂ e' w' hscale).2.2
  · rw [if_neg habs] at h ⊢
    cases h
    rfl

end

/-- Each delivery repeats the one before exactly if that spares the event. -/
def Delivery.Linked {F : Type} (ds : List (Delivery F)) : Prop :=
  ds.IsChain fun a b => a.Repeats b ↔ a.Spares

/-- Of the event that has been delivered so far, the next delivery repeats it or not as it should. -/
def Delivery.Awaits {F : Type} (ds : List (Delivery F)) (e : InputEvent) : Prop :=
  Delivery.Linked ds ∧
    ∀ a ∈ ds.getLast?, ∀ b : Delivery F, b.event = e → (a.Repeats b ↔ a.Spares)

section
variable {F : Type} {w : World F} {ds : List (Delivery F)}

/-- The list continues rightly, whatever comes of the delivery. -/
theorem send_links (call : CallSite) (d : Option DomPtr) (slot : Int32)
    (h : Delivery.Awaits ds e) :
    ends (Delivering.send call d slot e) Delivery.Linked
      (fun e' w' ds' => ds' = ds ++ [⟨call, d, e, w⟩] ∧
        Delivery.Linked ds' ∧ SendFrame w w' ∧
        (e' = e ↔ (Delivery.mk call d e w).Spares) ∧
        (e' = e ∨ e'.type ≠ EV_ABS ∨ e.type = EV_ABS ∧ e'.code ≠ e.code)) w ds := by
  have hchain : Delivery.Linked (ds ++ [⟨call, d, e, w⟩]) := by
    apply List.IsChain.append h.1 (List.isChain_singleton _)
    intro a ha b hb
    cases hb
    exact h.2 a ha _ rfl
  apply ends_bind
  apply ends_get
  apply ends_bind
  apply ends_note
  apply ends_beside hchain
  intro e' w' hrun
  exact ⟨rfl, hchain, (frames_inputSend d slot e w trivial e' w' hrun).2.1,
    inputSend_leaves call d slot e w e' w' hrun⟩

theorem awaits_nil (e : InputEvent) : Delivery.Awaits ([] : List (Delivery F)) e := by
  refine ⟨List.IsChain.nil, ?_⟩
  intro a ha
  cases ha

theorem awaits_last {b : Delivery F} (hchain : Delivery.Linked (ds ++ [b]))
    (h : ∀ c : Delivery F, c.event = e → (b.Repeats c ↔ b.Spares)) :
    Delivery.Awaits (ds ++ [b]) e := by
  refine ⟨hchain, ?_⟩
  intro a ha
  rw [List.getLast?_concat] at ha
  cases ha
  exact h

/-- The keyboard's domain gets the event first, the mouse's then. -/
theorem deliver_awaits (d : Option DomPtr) (slot : Int32) (h : Delivery.Awaits ds e) :
    ends (Delivering.deliver d e slot) Delivery.Linked
      (fun _ _ ds' => Delivery.Linked ds') w ds := by
  have hmouse {e : InputEvent} {w : World F} {ds : List (Delivery F)} (h : Delivery.Awaits ds e) :
      ends (do
        let w ← beside get
        if inputInjectSeamlessMouse w.keyStatus e then
          Delivering.send .mouse w.routing.mouseDest slot e else pure e : Delivering F InputEvent)
        Delivery.Linked
        (fun _ _ ds' => Delivery.Linked ds') w ds := by
    apply ends_bind
    apply ends_get
    apply ends_ite
    · intro _
      refine ends_mono (send_links .mouse _ slot h) ?_
      intro _ _ _ hsent
      exact hsent.2.1
    · intro _
      exact ends_pure _ h.1
  apply ends_bind
  apply ends_get
  apply ends_ite
  · intro _
    apply ends_bind
    apply ends_get
    apply ends_ite
    · intro _
      apply ends_bind
      refine ends_mono (send_links .keyboard _ slot h) ?_
      rintro e' w' ds' ⟨rfl, hchain, _, hspares, _⟩
      apply hmouse
      apply awaits_last hchain
      intro c hc
      change c.event = e ↔ _
      rw [hc]
      exact hspares
    · intro _
      apply ends_bind
      apply ends_pure
      exact hmouse h
  · intro _
    refine ends_mono (send_links .destination d slot h) ?_
    intro _ _ _ hsent
    exact hsent.2.1

theorem beside_scaleForFrame (e : InputEvent) :
    (if e.type = EV_ABS then beside (do
        let w ← get
        let p ← deref w.routing.mouseParent
        let dv ← derefDivert p
        scalePointerEvent dv e) else pure e : Delivering F InputEvent) =
      beside (scaleForFrame e) := by
  unfold scaleForFrame
  split_ifs
  · rfl
  · rfl

/-- Behind a copy for the parent, the child awaits the event scaled. -/
theorem scaleForChild_awaits (parent : DomPtr) (slot : Int32) (e : InputEvent) (w : World F) :
    ends (Delivering.scaleForChild parent slot e)
      Delivery.Linked
      (fun e' _ ds' => Delivery.Awaits ds' e') w [] := by
  unfold Delivering.scaleForChild
  simp only [beside_scaleForFrame]
  apply ends_bind
  apply ends_beside List.IsChain.nil
  intro dv w₁ _
  apply ends_bind
  apply ends_get
  apply ends_ite
  · intro _
    apply ends_bind
    refine ends_mono (send_links .copied _ slot (awaits_nil e)) ?_
    rintro e' w₂ ds' ⟨rfl, hchain, hsent, hspares, hchanged⟩
    apply ends_beside hchain
    intro e'' w₃ hscale
    apply awaits_last hchain
    intro c hc
    change scaleForFrame e w₁ = .ok (c.event, w₁) ↔ _
    rw [hc, ← hspares]
    constructor
    · intro hrepeats
      obtain ⟨htype, hcode, hplain⟩ := scaleForFrame_keeps hrepeats
      obtain ⟨htype', hcode', hplain'⟩ := scaleForFrame_keeps hscale
      obtain hsame | hother | ⟨_, haxis⟩ := hchanged
      · exact hsame
      · rw [← hplain' hother]
        apply hplain
        rw [← htype, htype']
        exact hother
      · exact absurd (hcode'.symm.trans hcode) haxis
    · rintro rfl
      exact scaleForFrame_sent hsent hscale
  · intro _
    apply ends_bind
    apply ends_pure
    apply ends_beside List.IsChain.nil
    intro e' w₂ _
    exact awaits_nil e'

/-- The release of a button goes to one domain only. -/
theorem checkClick_awaits [Double F] (d : DomPtr) (slot : Int32) (e : InputEvent) (w : World F) :
    ends (Delivering.checkClick d slot e) Delivery.Linked
      (fun sent _ ds' => Delivery.Linked ds' ∧ (sent = false → ds' = [])) w [] := by
  have hnil : Delivery.Linked ([] : List (Delivery F)) := .nil
  apply ends_ite
  · intro _
    apply ends_ite
    · intro _
      apply ends_bind
      apply ends_get
      cases takePressed e.code slot w.routing.mousePressed with
      | none => exact ends_pure _ ⟨hnil, fun _ => rfl⟩
      | some found =>
        apply ends_ite
        · intro _
          apply ends_bind
          refine ends_mono (send_links .redirected _ slot (awaits_nil e)) ?_
          rintro _ w₁ ds' ⟨rfl, hlinked, _⟩
          apply ends_bind
          apply ends_beside hlinked
          intro _ w₂ _
          exact ends_pure _ ⟨hlinked, nofun⟩
        · intro _
          apply ends_bind
          apply ends_beside hnil
          intro _ w₂ _
          exact ends_pure _ ⟨hnil, fun _ => rfl⟩
    · intro _
      apply ends_beside hnil
      intro _ _ _
      exact ⟨hnil, fun _ => rfl⟩
  · intro _
    exact ends_pure _ ⟨hnil, fun _ => rfl⟩

section
variable [Double F] (inject : Inject F)

/-- The domain that gets the event in the end awaits it. -/
theorem routeDiverted_awaits (d parent : DomPtr) (dv : DivertInfo) (e : InputEvent) (slot : Int32)
    (click : Bool) (val : Int32) (w : World F) :
    ends (Delivering.routeDiverted inject d parent dv e slot click val) Delivery.Linked
      (fun dest _ ds' => Delivery.Linked ds' ∧ (dest.1 ≠ none → Delivery.Awaits ds' dest.2))
      w [] := by
  have hnil : Delivery.Linked ([] : List (Delivery F)) := .nil
  apply ends_bind
  apply ends_beside hnil
  intro _ w₁ _
  apply ends_bind
  apply ends_get
  apply ends_ite
  · intro _
    apply ends_bind
    refine ends_mono (checkClick_awaits parent slot e w₁) ?_
    rintro sent w₂ ds' ⟨hlinked, hsent⟩
    apply ends_ite
    · intro _
      exact ends_pure _ ⟨hlinked, fun h => absurd rfl h⟩
    · intro hnot
      rw [hsent (Bool.eq_false_iff.mpr hnot)]
      apply ends_bind
      apply ends_beside hnil
      intro _ w₃ _
      apply ends_bind
      apply ends_beside hnil
      intro _ w₄ _
      exact ends_pure _ ⟨hnil, fun _ => awaits_nil e⟩
  · intro _
    apply ends_bind
    apply ends_beside hnil
    intro _ w₂ _
    apply ends_bind
    refine ends_mono (checkClick_awaits d slot e w₂) ?_
    rintro sent w₃ ds' ⟨hlinked, hsent⟩
    apply ends_ite
    · intro _
      exact ends_pure _ ⟨hlinked, fun h => absurd rfl h⟩
    · intro hnot
      rw [hsent (Bool.eq_false_iff.mpr hnot)]
      apply ends_bind
      apply ends_beside hnil
      intro _ w₄ _
      apply ends_bind
      refine ends_mono (scaleForChild_awaits parent slot e w₄) ?_
      intro e' w₅ ds' hawaits
      exact ends_pure _ ⟨hawaits.1, fun _ => hawaits⟩

theorem routeEvent_awaits (d : Option DomPtr) (e : InputEvent) (slot : Int32) (type : HidType)
    (w : World F) :
    ends (Delivering.routeEvent inject d e slot type) Delivery.Linked
      (fun dest _ ds' => Delivery.Linked ds' ∧ (dest.1 ≠ none → Delivery.Awaits ds' dest.2))
      w [] := by
  have hnil : Delivery.Linked ([] : List (Delivery F)) := .nil
  apply ends_bind
  apply ends_beside hnil
  intro isKey w₁ _
  apply ends_ite
  · intro _
    apply ends_beside hnil
    intro dest _ _
    exact ⟨hnil, fun _ => awaits_nil dest.2⟩
  · intro _
    apply ends_bind
    apply ends_beside hnil
    intro _ w₂ _
    apply ends_bind
    apply ends_get
    cases d with
    | none => exact ends_pure _ ⟨hnil, fun h => absurd rfl h⟩
    | some d =>
      apply ends_bind
      apply ends_get
      cases w₂.routing.mouseParent with
      | none =>
        apply ends_beside hnil
        intro dest _ _
        exact ⟨hnil, fun _ => awaits_nil dest.2⟩
      | some parent =>
        apply ends_bind
        apply ends_beside hnil
        intro dv w₃ _
        exact routeDiverted_awaits inject d parent dv _ slot _ _ w₃

theorem inputInjectWith_linked (e : InputEvent) (slot : Int32) (type : HidType) (w : World F) :
    ends (Delivering.inputInjectWith inject e slot type) Delivery.Linked
      (fun _ _ ds' => Delivery.Linked ds') w [] := by
  have hnil : Delivery.Linked ([] : List (Delivery F)) := .nil
  apply ends_bind
  apply ends_get
  apply ends_bind
  apply ends_beside hnil
  intro _ w₁ _
  apply ends_bind
  refine ends_mono (routeEvent_awaits inject _ e slot type w₁) ?_
  rintro ⟨dest, e'⟩ w₂ ds' ⟨hlinked, hawaits⟩
  cases dest with
  | none => exact ends_pure _ hlinked
  | some d => exact deliver_awaits d slot (hawaits (Option.some_ne_none d))

end

end

/-- Where `input_inject` delivers its event to one domain after another, each is given it as it was
before the delivery to the other (the child: scaled), exactly if that delivery spared it. -/
theorem dual_delivery_iff {F : Type} [Double F] (depth : Nat) (e : InputEvent) (slot : Int32)
    (type : HidType) (w : World F) :
    Annotates (Delivering.inputInject depth e slot type)
        (inputInject depth e slot type : WorldM F InputEvent) ∧
      ends (Delivering.inputInject depth e slot type) Delivery.Linked
        (fun _ _ ds => Delivery.Linked ds) w [] := by
  refine ⟨delivering_inputInject depth e slot type, ?_⟩
  cases depth with
  | zero => exact List.IsChain.nil
  | succ depth => exact inputInjectWith_linked _ e slot type w

theorem Delivery.Repeats.code {F : Type} {a b : Delivery F} (h : a.Repeats b) :
    b.event.code = a.event.code := by
  unfold Delivery.Repeats at h
  split at h
  · exact (scaleForFrame_keeps h).2.1
  · rw [h]

/-- Each domain has a name and a slot of its own, and the second one is paravirtualised. -/
def namedAnswers : Answers :=
  { told "1" with
    xenstore := fun path => some path
    db := fun path => some (if path = "/vm//local/domain/6/vm/uuid/slot" then "2" else "1")
    domInfo := fun domid =>
      some { domid := domid, hvm := domid ≠ 6, lapicOnly := false, dying := false } }

/-- A PV domain diverts the mouse, and asks for copies. -/
def copiedFocus : List Activity :=
  [.op (.rpcConnect 5 false), .op (.rpcConnect 6 false), .op (.switchFocus 6),
    .op (.focusMode 6 4),
    .op (.divertMouseFocus 6 "/local/domain/5/vm/uuid" 0 0 40000 40000 0 0 1000 1000)]

@[irreducible] def copiedWorld : World ℚ :=
  Activity.reached 5 copiedFocus (startWorld (fun _ => namedAnswers) [])

theorem copiedWorld_run :
    Run Activity.Step (startWorld (fun _ => namedAnswers) []) copiedFocus copiedWorld := by
  unfold copiedWorld
  apply run_reached
  · intro a ha w
    simp only [copiedFocus, List.mem_cons, List.not_mem_nil, or_false] at ha
    obtain rfl | rfl | rfl | rfl | rfl := ha <;> trivial
  · decide +kernel

/-- A finger on a touchpad. -/
def touchX : InputEvent := { type := EV_ABS, code := ABS_MT_POSITION_X, value := 800 }

/-- The copy for the parent turns the finger's position into a mouse's, for the child too. -/
theorem copy_changes_event :
    ¬∀ (w₀ w : World ℚ) (acts : List Activity) (depth : Nat) (e : InputEvent) (slot : Int32)
      (type : HidType), w₀.Initial → Run Activity.Step w₀ acts w →
      ends (Delivering.inputInject depth e slot type) (fun _ => True)
        (fun _ _ ds => ds.IsChain fun a b => a.Repeats b) w [] := by
  intro h
  have hends := h (startWorld (fun _ => namedAnswers) []) copiedWorld copiedFocus 6 touchX 0
    .touchpad (startWorld_initial _ _) copiedWorld_run
  have hcodes : ((Delivering.inputInject 6 touchX 0 .touchpad (copiedWorld, [])).toOption.map
      fun r => r.2.2.map fun a => a.event.code) = some [ABS_MT_POSITION_X, ABS_X] := by
    decide +kernel
  unfold ends at hends
  cases hrun : Delivering.inputInject 6 touchX 0 .touchpad (copiedWorld, []) with
  | error f =>
    rw [hrun] at hcodes
    cases hcodes
  | ok r =>
    rw [hrun] at hends hcodes
    have hlist := Option.some.inj hcodes
    obtain ⟨a, as, hds, ha, has⟩ := List.map_eq_cons_iff.mp hlist
    obtain ⟨b, bs, hbs, hb, _⟩ := List.map_eq_cons_iff.mp has
    have hchain : r.2.2.IsChain fun a b => a.Repeats b := hends
    rw [hds, hbs] at hchain
    have hcode := (List.isChain_cons_cons.mp hchain).1.code
    rw [ha, hb] at hcode
    exact absurd hcode (by decide)

end InputServer
