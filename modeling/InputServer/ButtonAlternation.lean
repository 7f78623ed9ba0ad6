import InputServer.SingleTouch

namespace InputServer
open Program
set_option autoImplicit true

/-- A call of `demultitouch`. -/
structure Call where
  statics : MultiTouch
  event : InputEvent

/-- The calls that the loop of `input_send` makes for an event. -/
def MultiTouch.calls : Nat → MultiTouch → InputEvent → List Call
  | 0, _, _ => []
  | fuel + 1, m, e =>
    let r := demultitouch m e
    ⟨m, e⟩ :: if r.action = .eventsQueued then r.statics.calls fuel r.event else []

/-- What a call leaves for the domain. -/
def Call.passes (c : Call) : Option InputEvent :=
  let r := demultitouch c.statics c.event
  if r.action = .discardedEvent then none else some r.event

/-- The value of the left button that a call puts in place of its event. -/
def Call.button (c : Call) : Option Int32 :=
  if c.statics.slot ≠ 0 ∨ c.statics.draining then
    (c.passes.filter fun e => e.type = EV_KEY ∧ e.code = BTN_LEFT).map InputEvent.value
  else none

/-- Where the loop drains, a press is put off. -/
def Call.Owed (c : Call) : Prop :=
  c.statics.draining = true → c.statics.deferpressed ≠ .nope

namespace MultiTouch

/-- The statics behind an event. -/
def sent (m : MultiTouch) (e : InputEvent) : MultiTouch :=
  ((m.drain 3 e).map Prod.snd).getD m

def sentAll (m : MultiTouch) (es : List InputEvent) : MultiTouch :=
  es.foldl sent m

/-- The values of the left button that are synthesised for an event. -/
def buttons (m : MultiTouch) (e : InputEvent) : List Int32 :=
  (m.calls 3 e).filterMap Call.button

def allButtons : MultiTouch → List InputEvent → List Int32
  | _, [] => []
  | m, e :: es => m.buttons e ++ (m.sent e).allButtons es

/-- The contact that is taken as slot 0 begins or ends. -/
def contactChanges (m : MultiTouch) (e : InputEvent) : Prop :=
  m.slot = 0 ∧ e.type = EV_ABS ∧ e.code = ABS_MT_TRACKING_ID ∧ m.pressed ≠ decide (e.value ≠ -1)

end MultiTouch

def InputEvent.endsPacket (e : InputEvent) : Prop :=
  e.type = EV_SYN ∧ e.code = SYN_REPORT

instance (e : InputEvent) : Decidable e.endsPacket :=
  inferInstanceAs (Decidable (_ ∧ _))

/-- Between two changes of the contact there is a SYN_REPORT. -/
def OncePerReport (m : MultiTouch) (es : List InputEvent) : Prop :=
  ∀ before x between y after, es = before ++ x :: between ++ y :: after →
    (m.sentAll before).contactChanges x →
    (m.sentAll (before ++ x :: between)).contactChanges y → ∃ e ∈ between, e.endsPacket

/-- The values go to and fro, from `held` on. -/
def Alternates : Bool → List Int32 → Prop
  | _, [] => True
  | held, value :: values => value = (if held then 0 else 1) ∧ Alternates (!held) values

/-- Whether the button is down behind these values: as the last of them says. -/
def downAfter (held : Bool) (values : List Int32) : Bool :=
  values.foldl (fun _ value => decide (value = 1)) held

/-- The value of the button that a press that was put off stands for. -/
def SimPress.button : SimPress → List Int32
  | .nope => []
  | .sendSync => []
  | .sendLeft => [1]
  | .sendLeftUp => [0]

section
variable {m : MultiTouch} {e : InputEvent}

theorem sent_eq (h : m.drain 3 e = some (out, m')) : m.sent e = m' := by
  rw [MultiTouch.sent, h]
  rfl

theorem sentAll_append (es es' : List InputEvent) :
    m.sentAll (es ++ es') = (m.sentAll es).sentAll es' :=
  List.foldl_append

theorem allButtons_append (es es' : List InputEvent) :
    m.allButtons (es ++ es') = m.allButtons es ++ (m.sentAll es).allButtons es' := by
  induction es generalizing m with
  | nil => rfl
  | cons e es ih =>
    change m.buttons e ++ (m.sent e).allButtons (es ++ es') = _
    rw [ih, ← List.append_assoc]
    rfl

/-- An event that is not replaced goes through one call. -/
theorem calls_once (h : (demultitouch m e).action ≠ .eventsQueued) : m.calls 3 e = [⟨m, e⟩] := by
  rw [MultiTouch.calls, if_neg h]

theorem button_own (hidle : m.draining = false) (hslot : m.slot = 0) :
    (Call.mk m e).button = none := by
  have hown : ¬(m.slot ≠ 0 ∨ m.draining = true) := by simp [hidle, hslot]
  exact if_neg hown

theorem own_not_queued (hidle : m.draining = false) (hslot : m.slot = 0) (hreport : ¬e.endsPacket) :
    (demultitouch m e).action ≠ .eventsQueued := by
  rw [demultitouch, if_neg (by simp [hidle, hslot])]
  by_cases hsyn : e.type = EV_SYN
  · rw [if_pos hsyn, MultiTouch.syn, if_neg (fun h => hreport ⟨hsyn, h⟩)]
    split <;> simp
  · rw [if_neg hsyn]
    by_cases habs : e.type = EV_ABS
    · rw [if_pos habs]
      exact abs_not_queued
    · rw [if_neg habs]
      simp

theorem calls_other (hidle : m.draining = false) (hslot : m.slot ≠ 0) :
    m.calls 3 e = [⟨m, e⟩] ∧ m.buttons e = m.deferpressed.button := by
  have hfollow : demultitouch m e = (m.follow e).deferred e := by
    rw [demultitouch, if_pos (.inl hslot), hidle]
    rfl
  have hdefer : (m.follow e).deferpressed = m.deferpressed := follow_deferpressed
  have hsame : (m.follow e).draining = false := by rw [follow_draining, hidle]
  have hcalls : m.calls 3 e = [⟨m, e⟩] := by
    apply calls_once
    rw [hfollow, MultiTouch.deferred, hsame]
    cases (m.follow e).deferpressed <;> simp
  refine ⟨hcalls, ?_⟩
  have hbutton : (Call.mk m e).button = m.deferpressed.button.head? := by
    rw [Call.button, if_pos (.inl hslot), Call.passes, hfollow, MultiTouch.deferred, hdefer, hsame]
    cases m.deferpressed <;> rfl
  rw [MultiTouch.buttons, hcalls, List.filterMap_cons, hbutton]
  cases m.deferpressed <;> rfl

/-- A SYN_REPORT under slot 0 makes the loop go round until nothing is put off. -/
theorem calls_report (hidle : m.draining = false) (hslot : m.slot = 0) (hreport : e.endsPacket) :
    (∀ c ∈ m.calls 3 e, c.Owed) ∧ m.buttons e = m.deferpressed.button := by
  obtain ⟨type, code, value⟩ := e
  obtain ⟨htype, hcode⟩ := hreport
  cases m with
  | mk deferpressed draining slot pressed hadSlot0 =>
    cases hidle
    cases hslot
    cases htype
    cases hcode
    cases deferpressed with
    | nope => exact ⟨List.forall_mem_singleton.mpr nofun, rfl⟩
    | sendSync =>
      refine ⟨?_, rfl⟩
      exact List.forall_mem_cons.mpr ⟨nofun, List.forall_mem_singleton.mpr nofun⟩
    | sendLeft =>
      refine ⟨?_, rfl⟩
      exact List.forall_mem_cons.mpr ⟨nofun, List.forall_mem_cons.mpr
        ⟨nofun, List.forall_mem_singleton.mpr nofun⟩⟩
    | sendLeftUp =>
      refine ⟨?_, rfl⟩
      exact List.forall_mem_cons.mpr ⟨nofun, List.forall_mem_cons.mpr
        ⟨nofun, List.forall_mem_singleton.mpr nofun⟩⟩

/-- What is put off comes under another slot, or behind a SYN_REPORT. -/
theorem buttons_eq (hidle : m.draining = false) :
    (∀ c ∈ m.calls 3 e, c.Owed) ∧
      m.buttons e = if m.slot ≠ 0 ∨ e.endsPacket then m.deferpressed.button else [] := by
  have hone : ∀ c ∈ [Call.mk m e], c.Owed := by
    intro c hc
    rw [List.mem_singleton.mp hc]
    intro hdraining
    rw [hidle] at hdraining
    cases hdraining
  by_cases hslot : m.slot = 0
  · by_cases hreport : e.endsPacket
    · rw [if_pos (.inr hreport)]
      exact calls_report hidle hslot hreport
    · have hcalls := calls_once (own_not_queued hidle hslot hreport)
      rw [if_neg (by simp [hslot, hreport]), MultiTouch.buttons, hcalls]
      refine ⟨hone, ?_⟩
      rw [List.filterMap_cons, button_own hidle hslot]
      rfl
  · have hcalls := calls_other (e := e) hidle hslot
    rw [if_pos (.inl hslot), hcalls.1]
    exact ⟨hone, hcalls.2⟩

/-- The contact's change is what puts a press off. -/
theorem sent_changes (hidle : m.draining = false) (h : m.contactChanges e) :
    (m.sent e).draining = false ∧ (m.sent e).pressed = !m.pressed ∧
      (m.sent e).deferpressed = if m.pressed then .sendLeftUp else .sendLeft := by
  obtain ⟨hslot, htype, hcode, hchange⟩ := h
  have habs : m.abs e = m.trackingId e := by
    rw [MultiTouch.abs, hcode, if_neg (by decide), if_neg (by decide), if_pos rfl]
  rw [sent_eq (drain_abs hidle hslot htype), habs, MultiTouch.trackingId, if_pos ⟨hslot, hchange⟩]
  have hnow : decide (e.value ≠ -1) = !m.pressed := by
    cases hpressed : m.pressed <;> rw [hpressed] at hchange <;> simpa using hchange
  refine ⟨hidle, hnow, ?_⟩
  dsimp only
  cases hpressed : m.pressed with
  | false =>
    rw [hpressed] at hnow
    exact if_pos (of_decide_eq_true hnow)
  | true =>
    rw [hpressed] at hnow
    exact if_neg (of_decide_eq_false hnow)

theorem abs_keeps (hslot : m.slot = 0) (htype : e.type = EV_ABS) (h : ¬m.contactChanges e) :
    (m.abs e).statics.pressed = m.pressed ∧ (m.abs e).statics.deferpressed = m.deferpressed := by
  unfold MultiTouch.abs
  split
  · exact ⟨rfl, rfl⟩
  split
  · exact ⟨rfl, rfl⟩
  split
  · rename_i hcode
    rw [MultiTouch.trackingId, if_neg]
    · exact ⟨rfl, rfl⟩
    · rintro ⟨_, hchange⟩
      exact h ⟨hslot, htype, hcode, hchange⟩
  split
  · dsimp only
    split
    · split <;> exact ⟨rfl, rfl⟩
    · exact ⟨rfl, rfl⟩
  split
  · exact ⟨rfl, rfl⟩
  · exact ⟨rfl, rfl⟩

/-- What any other event leaves. -/
theorem sent_keeps (hidle : m.draining = false) (h : ¬m.contactChanges e) :
    (m.sent e).draining = false ∧ (m.sent e).pressed = m.pressed ∧
      (m.sent e).deferpressed = if m.slot ≠ 0 then m.deferpressed.replaced
        else if e.endsPacket then .nope else m.deferpressed := by
  by_cases hslot : m.slot = 0
  · rw [if_neg (fun h => h hslot)]
    by_cases hreport : e.endsPacket
    · rw [if_pos hreport, sent_eq (drain_report hidle hslot hreport.1 hreport.2)]
      exact ⟨hidle, rfl, rfl⟩
    · rw [if_neg hreport]
      by_cases hsyn : e.type = EV_SYN
      · by_cases hmt : e.code = SYN_MT_REPORT
        · rw [sent_eq (drain_mtReport hidle hslot hsyn hmt)]
          exact ⟨hidle, rfl, rfl⟩
        · rw [sent_eq (drain_syn hidle hslot hsyn hmt fun hcode => hreport ⟨hsyn, hcode⟩)]
          exact ⟨hidle, rfl, rfl⟩
      · by_cases habs : e.type = EV_ABS
        · rw [sent_eq (drain_abs hidle hslot habs)]
          exact ⟨(abs_statics habs).1.trans hidle, abs_keeps hslot habs h⟩
        · rw [sent_eq (drain_plain hidle hslot hsyn habs)]
          exact ⟨hidle, rfl, rfl⟩
  · rw [if_pos hslot, sent_eq (drain_other hidle hslot)]
    exact ⟨rfl, follow_pressed, rfl⟩

end

/-- The button is as the contact, or the contact has changed since and the button is put off. -/
def SimPress.Pends (owed : SimPress) (pressed held : Bool) : Prop :=
  match owed with
  | .sendLeft => pressed = true ∧ held = false
  | .sendLeftUp => pressed = false ∧ held = true
  | _ => held = pressed

theorem settled_pends {owed : SimPress} {held : Bool} (hsettled : owed.settled = true) :
    owed.Pends pressed held ↔ held = pressed := by
  cases owed with
  | nope => exact Iff.rfl
  | sendSync => exact Iff.rfl
  | sendLeft => cases hsettled
  | sendLeftUp => cases hsettled

/-- A press that comes at last goes on with the alternation. -/
theorem pends_comes {owed : SimPress} {held : Bool} (h : owed.Pends pressed held) :
    Alternates held owed.button ∧ downAfter held owed.button = pressed := by
  cases owed with
  | nope => exact ⟨trivial, h⟩
  | sendSync => exact ⟨trivial, h⟩
  | sendLeft =>
    rw [h.1, h.2]
    exact ⟨⟨rfl, trivial⟩, rfl⟩
  | sendLeftUp =>
    rw [h.1, h.2]
    exact ⟨⟨rfl, trivial⟩, rfl⟩

theorem replaced_settled (owed : SimPress) : owed.replaced.settled = true := by
  cases owed <;> rfl

theorem Alternates.append {held : Bool} (h : Alternates held values)
    (hnext : Alternates (downAfter held values) values') : Alternates held (values ++ values') := by
  induction values generalizing held with
  | nil => exact hnext
  | cons value values ih =>
    obtain ⟨hvalue, hrest⟩ := h
    refine ⟨hvalue, ih hrest ?_⟩
    have hdown : decide (value = 1) = !held := by
      rw [hvalue]
      cases held <;> rfl
    rw [← hdown]
    exact hnext

theorem OncePerReport.append (h : OncePerReport m (es ++ es')) : OncePerReport m es := by
  intro before x between y after hes hx hy
  apply h before x between y (after ++ es') _ hx hy
  rw [hes]
  simp

/-- The values synthesised so far alternate, and where the button is not as the contact the change
of the contact is of the same packet. -/
structure Alternation (m : MultiTouch) (es : List InputEvent) : Prop where
  idle : (m.sentAll es).draining = false
  alternates : Alternates false (m.allButtons es)
  pends : (m.sentAll es).deferpressed.Pends (m.sentAll es).pressed
    (downAfter false (m.allButtons es))
  changed : (m.sentAll es).deferpressed.settled = false → ∃ before x between,
    es = before ++ x :: between ∧ (m.sentAll before).contactChanges x ∧
      ∀ e ∈ between, ¬e.endsPacket

theorem changes_not_report {m : MultiTouch} {e : InputEvent} (h : m.contactChanges e) :
    ¬e.endsPacket := by
  intro hreport
  have heq := h.2.1.symm.trans hreport.1
  exact absurd heq (by decide)

section
variable {m : MultiTouch} {es : List InputEvent} {e : InputEvent}

theorem allButtons_snoc :
    m.allButtons (es ++ [e]) = m.allButtons es ++ (m.sentAll es).buttons e := by
  rw [allButtons_append, MultiTouch.allButtons, MultiTouch.allButtons, List.append_nil]

theorem sentAll_snoc : m.sentAll (es ++ [e]) = (m.sentAll es).sent e :=
  sentAll_append es [e]

theorem Alternation.change (h : Alternation m es) (honce : OncePerReport m (es ++ [e]))
    (hchange : (m.sentAll es).contactChanges e) : Alternation m (es ++ [e]) := by
  have hsettled : (m.sentAll es).deferpressed.settled = true := by
    by_contra hpending
    obtain ⟨before, x, between, hes, hx, hbetween⟩ := h.changed (Bool.eq_false_iff.mpr hpending)
    obtain ⟨report, hmem, hreport⟩ := honce before x between e [] (by simp [hes]) hx
      (by rw [← hes]; exact hchange)
    exact hbetween report hmem hreport
  have hheld := (settled_pends hsettled).mp h.pends
  obtain ⟨hidle, hpressed, hdefer⟩ := sent_changes h.idle hchange
  have hnone : (m.sentAll es).buttons e = [] := by
    rw [(buttons_eq h.idle).2, if_neg]
    rintro (hslot | hreport)
    · exact hslot hchange.1
    · exact changes_not_report hchange hreport
  have hbuttons : m.allButtons (es ++ [e]) = m.allButtons es := by
    rw [allButtons_snoc, hnone, List.append_nil]
  refine ⟨?_, ?_, ?_, ?_⟩
  · rw [sentAll_snoc]
    exact hidle
  · rw [hbuttons]
    exact h.alternates
  · rw [sentAll_snoc, hbuttons, hheld, hpressed, hdefer]
    cases (m.sentAll es).pressed <;> exact ⟨rfl, rfl⟩
  · intro _
    exact ⟨es, e, [], rfl, hchange, nofun⟩

theorem Alternation.keep (h : Alternation m es) (hchange : ¬(m.sentAll es).contactChanges e) :
    Alternation m (es ++ [e]) := by
  obtain ⟨hidle, hpressed, hdefer⟩ := sent_keeps h.idle hchange
  obtain ⟨_, hbuttons⟩ := buttons_eq (e := e) h.idle
  obtain ⟨hnext, hdown⟩ := pends_comes h.pends
  by_cases hcomes : (m.sentAll es).slot ≠ 0 ∨ e.endsPacket
  · rw [if_pos hcomes] at hbuttons
    have hsettled : ((m.sentAll es).sent e).deferpressed.settled = true := by
      rw [hdefer]
      by_cases hslot : (m.sentAll es).slot ≠ 0
      · rw [if_pos hslot]
        exact replaced_settled _
      · rw [if_neg hslot, if_pos (hcomes.resolve_left hslot)]
        rfl
    refine ⟨?_, ?_, ?_, ?_⟩
    · rw [sentAll_snoc]
      exact hidle
    · rw [allButtons_snoc, hbuttons]
      exact h.alternates.append hnext
    · rw [sentAll_snoc, settled_pends hsettled, allButtons_snoc, hbuttons, hpressed, downAfter,
        List.foldl_append]
      exact hdown
    · intro hpending
      rw [sentAll_snoc, hsettled] at hpending
      cases hpending
  · rw [if_neg hcomes] at hbuttons
    rw [not_or] at hcomes
    rw [if_neg hcomes.1, if_neg hcomes.2] at hdefer
    have hsame : m.allButtons (es ++ [e]) = m.allButtons es := by
      rw [allButtons_snoc, hbuttons, List.append_nil]
    refine ⟨?_, ?_, ?_, ?_⟩
    · rw [sentAll_snoc]
      exact hidle
    · rw [hsame]
      exact h.alternates
    · rw [sentAll_snoc, hsame, hpressed, hdefer]
      exact h.pends
    · intro hpending
      rw [sentAll_snoc, hdefer] at hpending
      obtain ⟨before, x, between, hes, hx, hbetween⟩ := h.changed hpending
      refine ⟨before, x, between ++ [e], by rw [hes]; simp, hx, ?_⟩
      intro f hf
      obtain hf | hf := List.mem_append.mp hf
      · exact hbetween f hf
      · rw [List.mem_singleton.mp hf]
        exact hcomes.2

theorem alternation (es : List InputEvent) (honce : OncePerReport .start es) :
    Alternation .start es := by
  induction es using List.reverseRecOn with
  | nil => exact ⟨rfl, trivial, rfl, nofun⟩
  | append_singleton es e ih =>
    have h := ih honce.append
    by_cases hchange : (MultiTouch.start.sentAll es).contactChanges e
    · exact h.change honce hchange
    · exact h.keep hchange

/-- Behind a SYN_REPORT the button is as the contact. -/
theorem Alternation.reported (h : Alternation m es) (h' : Alternation m (es ++ [e]))
    (hreport : e.endsPacket) :
    downAfter false (m.allButtons (es ++ [e])) = (m.sentAll (es ++ [e])).pressed := by
  have hchange : ¬(m.sentAll es).contactChanges e := fun hchange =>
    changes_not_report hchange hreport
  obtain ⟨_, _, hdefer⟩ := sent_keeps h.idle hchange
  rw [← settled_pends _]
  · exact h'.pends
  · rw [sentAll_snoc, hdefer]
    split
    · exact replaced_settled _
    · rfl

end

section
variable {F : Type}

/-- What the loop of `input_send` passes on is what its calls leave of the event. -/
theorem calls_passes (fuel : Nat) (m : MultiTouch) (e : InputEvent)
    (h : m.drain fuel e = some (out, m')) : (m.calls fuel e).filterMap Call.passes = out := by
  induction fuel generalizing m e out m' with
  | zero => cases h
  | succ fuel ih =>
    rw [MultiTouch.drain] at h
    rw [MultiTouch.calls, List.filterMap_cons, Call.passes]
    dsimp only
    cases haction : (demultitouch m e).action with
    | discardedEvent =>
      rw [haction] at h
      cases h
      rfl
    | sendEvent =>
      rw [haction] at h
      cases h
      rfl
    | eventsQueued =>
      rw [haction] at h
      obtain ⟨⟨rest, m''⟩, hrest, heq⟩ := Option.map_eq_some_iff.mp h
      cases heq
      rw [if_neg (fun h => by cases h), if_pos rfl, ih _ _ hrest]

theorem sends_reach {w : World F} (h : ToVkbds (before ++ sends) w) :
    ∃ w₁, inputSendAll before w = .ok ((), w₁) ∧ ToVkbds sends w₁ ∧
      w₁.multitouch = w.multitouch.sentAll (before.map Send.event) := by
  induction before generalizing w with
  | nil => exact ⟨w, rfl, h, rfl⟩
  | cons s before ih =>
    obtain ⟨out, m, hdrain, _, _, w', hsend, hforwarded, hready⟩ := h.cons
    obtain ⟨w₁, hrest, hreached, hstatics⟩ := ih hready
    refine ⟨w₁, ?_, hreached, ?_⟩
    · change (discard (inputSend (some s.domain) s.slot s.event) >>= fun _ =>
        inputSendAll before) w = _
      rw [bind_ok hsend, hrest]
    · rw [hstatics, hforwarded.multitouch, ← sent_eq hdrain]
      rfl

/-- What one call of `input_send` does for a PV domain: its loop ends, it drains only what is put
off, and the domain gets what the calls of `demultitouch` leave. -/
theorem send_ends {w : World F} (h : ToVkbds (s :: sends) w) :
    ∃ e w', inputSend (some s.domain) s.slot s.event w = .ok (e, w') ∧
      w'.multitouch.draining = false ∧
      (∀ c ∈ w.multitouch.calls 3 s.event, c.Owed) ∧
      w'.log = w.log ++ ((w.multitouch.calls 3 s.event).filterMap Call.passes).map
        (.vkbd s.domain) := by
  obtain ⟨out, m, hdrain, hidle, _⟩ := drain_ends (e := s.event) h.idle
  obtain ⟨e, w', hsend, hforwarded⟩ := inputSend_forwards s.slot
    (h.plug s List.mem_cons_self) (h.pv s List.mem_cons_self) hdrain
  refine ⟨e, w', hsend, ?_, (buttons_eq h.idle).1, ?_⟩
  · rw [hforwarded.multitouch]
    exact hidle
  · rw [hforwarded.log, calls_passes 3 _ _ hdrain]

/-- Of all that is sent to PV domains, if the contact of slot 0 changes at most once in a packet:
every event ends its loop, the left button goes to and fro, and behind a SYN_REPORT it is as the
contact. -/
theorem buttons_alternate (w : World F) (sends : List Send) (h : ToVkbds sends w)
    (hstart : w.multitouch = .start) (honce : OncePerReport .start (sends.map Send.event))
    (before after : List Send) (hs : sends = before ++ after) :
    ∃ w₁, inputSendAll before w = .ok ((), w₁) ∧ w₁.multitouch.draining = false ∧
      Alternates false (MultiTouch.start.allButtons (before.map Send.event)) ∧
      (∀ earlier s, before = earlier ++ [s] → s.event.endsPacket →
        downAfter false (MultiTouch.start.allButtons (before.map Send.event)) =
          w₁.multitouch.pressed) ∧
      ∀ s later, after = s :: later →
        ∃ e w₂, inputSend (some s.domain) s.slot s.event w₁ = .ok (e, w₂) ∧
          w₂.multitouch.draining = false ∧
          (∀ c ∈ w₁.multitouch.calls 3 s.event, c.Owed) ∧
          w₂.log = w₁.log ++ ((w₁.multitouch.calls 3 s.event).filterMap Call.passes).map
            (.vkbd s.domain) := by
  subst hs
  obtain ⟨w₁, hrun, hready, hstatics⟩ := sends_reach h
  rw [hstart] at hstatics
  rw [List.map_append] at honce
  have hall := alternation _ honce.append
  refine ⟨w₁, hrun, ?_, hall.alternates, ?_, ?_⟩
  · rw [hstatics]
    exact hall.idle
  · rintro earlier s rfl hreport
    rw [hstatics]
    rw [List.map_append] at honce hall ⊢
    exact (alternation _ honce.append.append).reported hall hreport
  · rintro s later rfl
    exact send_ends hready

end

/-- The first contact touches and leaves, each in a packet of its own. -/
def tapOnce : List InputEvent :=
  [touchEvent ABS_MT_TRACKING_ID 5, synReport, touchEvent ABS_MT_TRACKING_ID (-1), synReport]

theorem synReport_changes_not (m : MultiTouch) : ¬m.contactChanges synReport := fun h =>
  changes_not_report h ⟨rfl, rfl⟩

theorem tapOnce_once : OncePerReport .start tapOnce := by
  intro before x between y after hes hx hy
  rcases before with _ | ⟨first, _ | ⟨second, _ | ⟨third, _ | ⟨fourth, before⟩⟩⟩⟩
  · rcases between with _ | ⟨report, between⟩
    · cases hes
      exact absurd hy (synReport_changes_not _)
    · obtain ⟨_, hrest⟩ := List.cons.inj hes
      obtain ⟨hreport, _⟩ := List.cons.inj hrest
      exact ⟨report, List.mem_cons_self, hreport ▸ ⟨rfl, rfl⟩⟩
  · obtain ⟨_, hrest⟩ := List.cons.inj hes
    obtain ⟨hreport, _⟩ := List.cons.inj hrest
    rw [← hreport] at hx
    exact absurd hx (synReport_changes_not _)
  · rcases between with _ | ⟨report, between⟩
    · cases hes
      exact absurd hy (synReport_changes_not _)
    · simp [tapOnce] at hes
  · simp [tapOnce] at hes
  · simp [tapOnce] at hes

theorem buttons_alternate_tapOnce :
    ToVkbds (sendsOf firstEntry 7 tapOnce) pvWorld ∧ pvWorld.multitouch = .start ∧
    OncePerReport .start ((sendsOf firstEntry 7 tapOnce).map Send.event) ∧
    ∃ w₁, inputSendAll (sendsOf firstEntry 7 tapOnce) pvWorld = .ok ((), w₁) ∧
      MultiTouch.start.allButtons tapOnce = [1, 0] ∧ w₁.multitouch.pressed = false := by
  refine ⟨pvWorld_toVkbds _, rfl, tapOnce_once, ?_⟩
  obtain ⟨w₁, hrun, _, _, hreported, _⟩ := buttons_alternate pvWorld (sendsOf firstEntry 7 tapOnce)
    (pvWorld_toVkbds _) rfl tapOnce_once _ [] (List.append_nil _).symm
  have hpressed := hreported (sendsOf firstEntry 7 (tapOnce.take 3)) ⟨firstEntry, 7, synReport⟩ rfl
    ⟨rfl, rfl⟩
  exact ⟨w₁, hrun, rfl, hpressed.symm⟩

end InputServer
