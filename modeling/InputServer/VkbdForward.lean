import InputServer.Deliver

namespace InputServer
open Program
set_option autoImplicit true

/-- What the loop of `input_send` passes on in place of an event, and the statics it leaves. -/
def MultiTouch.drain : Nat → MultiTouch → InputEvent → Option (List InputEvent × MultiTouch)
  | 0, _, _ => none
  | fuel + 1, m, e =>
    let r := demultitouch m e
    match r.action with
    | .discardedEvent => some ([], r.statics)
    | .sendEvent => some ([r.event], r.statics)
    | .eventsQueued =>
      (r.statics.drain fuel r.event).map fun rest => (r.event :: rest.1, rest.2)

/-- What is passed on where the loop of `input_send` does not go round. -/
def Demultitouched.passed (r : Demultitouched) : List InputEvent :=
  if r.action = .sendEvent then [r.event] else []

/-- The events of a press that was put off, behind the SYN_REPORT that ends its packet. -/
def SimPress.events : SimPress → List InputEvent
  | .nope => []
  | .sendSync => [synReport]
  | .sendLeft => [btnLeft 1, synReport]
  | .sendLeftUp => [btnLeft 0, synReport]

/-- What a press that was put off puts in place of an event of another slot. -/
def SimPress.replaces : SimPress → List InputEvent
  | .nope => []
  | .sendSync => [synReport]
  | .sendLeft => [btnLeft 1]
  | .sendLeftUp => [btnLeft 0]

def SimPress.replaced : SimPress → SimPress
  | .nope => .nope
  | .sendSync => .nope
  | .sendLeft => .sendSync
  | .sendLeftUp => .sendSync

section
variable {m : MultiTouch} {e : InputEvent}

@[simp] theorem follow_deferpressed : (m.follow e).deferpressed = m.deferpressed := by
  simp only [MultiTouch.follow]
  split <;> split <;> rfl

@[simp] theorem follow_draining : (m.follow e).draining = m.draining := by
  simp only [MultiTouch.follow]
  split <;> split <;> rfl

@[simp] theorem follow_pressed : (m.follow e).pressed = m.pressed := by
  simp only [MultiTouch.follow]
  split <;> split <;> rfl

/-- Under another slot no event is passed on as itself. -/
theorem drain_other (hdraining : m.draining = false) (hslot : m.slot ≠ 0) :
    m.drain 3 e = some (m.deferpressed.replaces,
      { m.follow e with deferpressed := m.deferpressed.replaced, draining := false }) := by
  have hfollow : demultitouch m e = (m.follow e).deferred e := by
    rw [demultitouch, if_pos (.inl hslot), hdraining]
    rfl
  have hdefer : m.deferpressed = (m.follow e).deferpressed := follow_deferpressed.symm
  have hsame : (m.follow e).draining = false := by rw [follow_draining, hdraining]
  rw [MultiTouch.drain, hfollow, hdefer]
  generalize m.follow e = n at hsame
  cases n with
  | mk deferpressed draining slot pressed hadSlot0 =>
    cases hsame
    cases deferpressed <;> rfl

theorem drain_report (hdraining : m.draining = false) (hslot : m.slot = 0)
    (htype : e.type = EV_SYN) (hcode : e.code = SYN_REPORT) :
    m.drain 3 e = some (e :: m.deferpressed.events,
      { m with deferpressed := .nope, hadSlot0 := false }) := by
  have hsyn : demultitouch m e = m.syn e := by
    rw [demultitouch, if_neg (by simp [hdraining, hslot]), if_pos htype]
  rw [MultiTouch.drain, hsyn, MultiTouch.syn, hcode, if_neg (by decide), if_pos rfl]
  cases m with
  | mk deferpressed draining slot pressed hadSlot0 =>
    cases hdraining
    cases hslot
    cases deferpressed <;> rfl

theorem absDone_not_queued : (m.absDone e).action ≠ .eventsQueued := by
  unfold MultiTouch.absDone
  split <;> simp

/-- Only a SYN_REPORT makes the loop of `input_send` go round. -/
theorem abs_not_queued : (m.abs e).action ≠ .eventsQueued := by
  unfold MultiTouch.abs
  split
  · exact absDone_not_queued
  split
  · exact absDone_not_queued
  split
  · simp only [MultiTouch.trackingId]
    split
    · simp
    · exact absDone_not_queued
  split
  · dsimp only
    split
    · split <;> simp
    · exact absDone_not_queued
  split
  · simp
  · exact absDone_not_queued

theorem drain_abs (hdraining : m.draining = false) (hslot : m.slot = 0)
    (htype : e.type = EV_ABS) :
    m.drain 3 e = some ((m.abs e).passed, (m.abs e).statics) := by
  have habs : demultitouch m e = m.abs e := by
    rw [demultitouch, if_neg (by simp [hdraining, hslot]), if_neg (by rw [htype]; decide),
      if_pos htype]
  rw [MultiTouch.drain, habs]
  have hnot := abs_not_queued (m := m) (e := e)
  rw [Demultitouched.passed]
  cases h : (m.abs e).action with
  | discardedEvent => rfl
  | sendEvent => rfl
  | eventsQueued => exact absurd h hnot

theorem drain_plain (hdraining : m.draining = false) (hslot : m.slot = 0)
    (hsyn : e.type ≠ EV_SYN) (habs : e.type ≠ EV_ABS) :
    m.drain 3 e = some ([e], { m with hadSlot0 := true }) := by
  rw [MultiTouch.drain, demultitouch, if_neg (by simp [hdraining, hslot]), if_neg hsyn,
    if_neg habs]

end

section
variable {m : MultiTouch} {e : InputEvent}

theorem drain_mtReport (hdraining : m.draining = false) (hslot : m.slot = 0)
    (htype : e.type = EV_SYN) (hcode : e.code = SYN_MT_REPORT) :
    m.drain 3 e = some ([{ e with code := SYN_REPORT }], { m with slot := 1 }) := by
  have hsyn : demultitouch m e = m.syn e := by
    rw [demultitouch, if_neg (by simp [hdraining, hslot]), if_pos htype]
  rw [MultiTouch.drain, hsyn, MultiTouch.syn, if_pos hcode]

theorem drain_syn (hdraining : m.draining = false) (hslot : m.slot = 0) (htype : e.type = EV_SYN)
    (hmt : e.code ≠ SYN_MT_REPORT) (hcode : e.code ≠ SYN_REPORT) :
    m.drain 3 e = some ([e], m) := by
  have hsyn : demultitouch m e = m.syn e := by
    rw [demultitouch, if_neg (by simp [hdraining, hslot]), if_pos htype]
  rw [MultiTouch.drain, hsyn, MultiTouch.syn, if_neg hmt, if_neg hcode]

/-- The slot that an event selects; `demultitouch` goes back to slot 0 behind a SYN_REPORT. -/
def followedSlot (slot : Int32) (e : InputEvent) : Int32 :=
  if e.type = EV_ABS ∧ e.code = ABS_MT_SLOT then e.value
  else if e.type = EV_SYN ∧ e.code = SYN_REPORT then 0
  else if e.type = EV_SYN ∧ e.code = SYN_MT_REPORT ∧ slot = 0 then 1
  else slot

theorem follow_slot (hslot : m.slot ≠ 0) : (m.follow e).slot = followedSlot m.slot e := by
  unfold followedSlot
  simp only [MultiTouch.follow]
  by_cases hselect : e.type = EV_ABS ∧ e.code = ABS_MT_SLOT
  · rw [if_pos hselect, if_pos hselect]
  · rw [if_neg hselect, if_neg hselect]
    split
    · rfl
    · rw [if_neg fun h => hslot h.2.2]

theorem abs_statics (htype : e.type = EV_ABS) :
    (m.abs e).statics.draining = m.draining ∧ (m.abs e).statics.slot = followedSlot m.slot e := by
  have hselect (h : e.code ≠ ABS_MT_SLOT) : followedSlot m.slot e = m.slot := by
    have hsyn : ¬e.type = EV_SYN := by rw [htype]; decide
    simp [followedSlot, h, hsyn]
  unfold MultiTouch.abs
  split
  · rename_i hcode
    exact ⟨rfl, (hselect (by rw [hcode]; decide)).symm⟩
  split
  · rename_i hcode
    exact ⟨rfl, (hselect (by rw [hcode]; decide)).symm⟩
  split
  · rename_i hcode
    simp only [MultiTouch.trackingId]
    split
    · exact ⟨rfl, (hselect (by rw [hcode]; decide)).symm⟩
    · exact ⟨rfl, (hselect (by rw [hcode]; decide)).symm⟩
  split
  · rename_i hcode
    have hvalue : followedSlot m.slot e = e.value := if_pos ⟨htype, hcode⟩
    rw [hvalue]
    dsimp only
    split
    · split <;> exact ⟨rfl, rfl⟩
    · exact ⟨rfl, rfl⟩
  · rename_i hcode
    split
    · exact ⟨rfl, (hselect hcode).symm⟩
    · exact ⟨rfl, (hselect hcode).symm⟩

/-- Whatever the event, the loop ends, and with it the draining. -/
theorem drain_ends (hdraining : m.draining = false) : ∃ out m', m.drain 3 e = some (out, m') ∧
    m'.draining = false ∧ m'.slot = followedSlot m.slot e := by
  by_cases hslot : m.slot = 0
  · by_cases hsyn : e.type = EV_SYN
    · have habs : ¬e.type = EV_ABS := by rw [hsyn]; decide
      by_cases hcode : e.code = SYN_REPORT
      · refine ⟨_, _, drain_report hdraining hslot hsyn hcode, hdraining, ?_⟩
        rw [followedSlot, if_neg (fun h => habs h.1), if_pos ⟨hsyn, hcode⟩]
        exact hslot
      · by_cases hmt : e.code = SYN_MT_REPORT
        · refine ⟨_, _, drain_mtReport hdraining hslot hsyn hmt, hdraining, ?_⟩
          rw [followedSlot, if_neg (fun h => habs h.1), if_neg (fun h => hcode h.2),
            if_pos ⟨hsyn, hmt, hslot⟩]
        · refine ⟨_, _, drain_syn hdraining hslot hsyn hmt hcode, hdraining, ?_⟩
          rw [followedSlot, if_neg (fun h => habs h.1), if_neg (fun h => hcode h.2),
            if_neg (fun h => hmt h.2.1)]
    · by_cases habs : e.type = EV_ABS
      · have hstatics := abs_statics (m := m) habs
        exact ⟨_, _, drain_abs hdraining hslot habs, hstatics.1.trans hdraining, hstatics.2⟩
      · refine ⟨_, _, drain_plain hdraining hslot hsyn habs, hdraining, ?_⟩
        simp [followedSlot, hsyn, habs]
  · exact ⟨_, _, drain_other hdraining hslot, rfl, follow_slot hslot⟩

end

/-- An event that is sent to a domain, from a device slot. -/
structure Send where
  domain : DomPtr
  slot : Int32
  event : InputEvent

section
variable {F : Type}

/-- The vkbd of a domain got `out`, and of what decides about later events only the statics of
`demultitouch` changed. -/
structure Forwarded (d : DomPtr) (out : List InputEvent) (m : MultiTouch) (w w' : World F) :
    Prop where
  log : w'.log = w.log ++ out.map (.vkbd d)
  multitouch : w'.multitouch = m
  plug : w'.plug = w.plug
  pv : ∀ d', (w'.domains d').isPvDomain = (w.domains d').isPvDomain

theorem Forwarded.trans (h : Forwarded d out m w w') (h' : Forwarded d out' m' w' w'') :
    Forwarded d (out ++ out') m' w w'' where
  log := by rw [h'.log, h.log, List.map_append, List.append_assoc]
  multitouch := h'.multitouch
  plug := h'.plug.trans h.plug
  pv d' := (h'.pv d').trans (h.pv d')

theorem xenVkbdHandleLed_forwards (e : InputEvent) (d : DomPtr) (w : World F) :
    wp (xenVkbdHandleLed e d) (fun _ => Forwarded d [] w.multitouch w) w := by
  unfold xenVkbdHandleLed modifyDomain
  apply wp_ite
  · intro _
    rw [wp_pure]
    exact ⟨(List.append_nil _).symm, rfl, rfl, fun _ => rfl⟩
  · intro _
    rw [wp_modify]
    refine ⟨(List.append_nil _).symm, rfl, rfl, ?_⟩
    intro d'
    by_cases hd : d' = d
    · rw [hd]
      dsimp only
      rw [Function.update_self]
    · dsimp only
      rw [Function.update_of_ne hd]

theorem xenVkbdSendEvent_forwards (d : DomPtr) (e : InputEvent) (w : World F) :
    wp (xenVkbdSendEvent d e) (fun _ => Forwarded d [e] w.multitouch w) w := by
  unfold xenVkbdSendEvent
  rw [wp_bind]
  refine wp_mono (xenVkbdHandleLed_forwards e d w) ?_
  intro _ w' hled
  unfold happens
  rw [wp_modify]
  exact hled.trans ⟨rfl, hled.multitouch, rfl, fun _ => rfl⟩

theorem sendToVkbd_forwards (d : DomPtr) {w : World F}
    (h : w.multitouch.drain fuel e = some (out, m)) :
    wp (sendToVkbd d fuel e) (fun _ => Forwarded d out m w) w := by
  induction fuel generalizing w e out m with
  | zero => cases h
  | succ fuel ih =>
    rw [MultiTouch.drain] at h
    unfold sendToVkbd
    rw [wp_bind, wp_get, wp_bind, wp_set]
    generalize demultitouch w.multitouch e = r at h
    let w₁ : World F := { w with multitouch := r.statics }
    have hstatics : Forwarded d [] r.statics w w₁ :=
      ⟨(List.append_nil _).symm, rfl, rfl, fun _ => rfl⟩
    cases hr : r.action with
    | discardedEvent =>
      rw [hr] at h
      cases h
      rw [if_pos rfl, wp_pure]
      exact hstatics
    | sendEvent =>
      rw [hr] at h
      cases h
      rw [if_neg nofun, wp_bind]
      refine wp_mono (xenVkbdSendEvent_forwards d r.event w₁) ?_
      intro _ w' hsent
      rw [if_neg nofun, wp_pure]
      exact hstatics.trans hsent
    | eventsQueued =>
      rw [hr] at h
      obtain ⟨⟨rest, m'⟩, hrest, heq⟩ := Option.map_eq_some_iff.mp h
      cases heq
      rw [if_neg nofun, wp_bind]
      refine wp_mono (xenVkbdSendEvent_forwards d r.event w₁) ?_
      intro _ w' hsent
      rw [if_pos rfl]
      have hnext : w'.multitouch.drain fuel r.event = some (rest, m') := by
        rw [hsent.multitouch]
        exact hrest
      refine wp_mono (ih hnext) ?_
      intro _ w'' hforwarded
      exact (hstatics.trans hsent).trans hforwarded

theorem inputSend_forwards {w : World F} (slot : Int32) (hplug : w.plug.plugin d = false)
    (hpv : (w.domains d).isPvDomain = true) (h : w.multitouch.drain 3 e = some (out, m)) :
    wp (inputSend (some d) slot e) (fun _ => Forwarded d out m w) w := by
  unfold inputSend
  rw [wp_bind, wp_get]
  change wp (if w.plug.plugin d = true then _ else _) _ w
  rw [if_neg (by simp [hplug]), if_pos hpv]
  exact sendToVkbd_forwards d h

/-- `input_send` of one event after the other. -/
def inputSendAll : List Send → WorldM F Unit
  | [] => pure ()
  | s :: sends => do
    discard (inputSend (some s.domain) s.slot s.event)
    inputSendAll sends

/-- The events go to PV domains that no plugin has, and no call of `input_send` is under way. -/
structure ToVkbds (sends : List Send) (w : World F) : Prop where
  plug : ∀ s ∈ sends, w.plug.plugin s.domain = false
  pv : ∀ s ∈ sends, (w.domains s.domain).isPvDomain = true
  idle : w.multitouch.draining = false

theorem ToVkbds.cons (h : ToVkbds (s :: sends) w) :
    ∃ out m, w.multitouch.drain 3 s.event = some (out, m) ∧
      m.slot = followedSlot w.multitouch.slot s.event ∧
      wp (discard (inputSend (some s.domain) s.slot s.event))
        (fun _ w' => Forwarded s.domain out m w w' ∧ ToVkbds sends w') w := by
  obtain ⟨out, m, hdrain, hidle, hslot⟩ := drain_ends (e := s.event) h.idle
  refine ⟨out, m, hdrain, hslot, ?_⟩
  change wp (inputSend (some s.domain) s.slot s.event >>= fun _ => pure ()) _ w
  rw [wp_bind]
  refine wp_mono (inputSend_forwards s.slot (h.plug s List.mem_cons_self)
    (h.pv s List.mem_cons_self) hdrain) ?_
  intro _ w' hw'
  rw [wp_pure]
  refine ⟨hw', ?_, ?_, ?_⟩
  · intro t ht
    rw [hw'.plug]
    exact h.plug t (List.mem_cons_of_mem _ ht)
  · intro t ht
    rw [hw'.pv]
    exact h.pv t (List.mem_cons_of_mem _ ht)
  · rw [hw'.multitouch]
    exact hidle

end

end InputServer
