import InputServer.Socket

namespace InputServer
open Program
set_option autoImplicit true

/-- Where the plugin's records go, which nothing that is sent to the plugin changes. -/
structure SameDest (p p' : SockPlugin) : Prop where
  dest : p'.dest = p.dest
  recivedSlot : p'.recivedSlot = p.recivedSlot

instance : IsPreorder SockPlugin SameDest where
  refl _ := ⟨rfl, rfl⟩
  trans _ _ _ h h' := ⟨h'.dest.trans h.dest, h'.recivedSlot.trans h.recivedSlot⟩

/-- Only the domain that `src` points to is captured. -/
def Tied (p : SockPlugin) : Prop :=
  ∀ d, p.plugin d = true → p.src = some d

/-- A captured domain is the one that `src` points to, and the connection is open. -/
def Captured (p : SockPlugin) : Prop :=
  ∀ d, p.plugin d = true → p.src = some d ∧ p.s ≠ -1

/-- A step that leaves both ends of the plugin's traffic as they are. -/
structure SameEnds (p p' : SockPlugin) : Prop extends SameDest p p' where
  plugin : p'.plugin = p.plugin
  src : p'.src = p.src
  s : p'.s = p.s

theorem SameEnds.captured {p p' : SockPlugin} (h : SameEnds p p') (hp : Captured p) :
    Captured p' := by
  intro d hd
  rw [h.plugin] at hd
  rw [h.src, h.s]
  exact hp d hd

theorem SameEnds.tied {p p' : SockPlugin} (h : SameEnds p p') (hp : Tied p) : Tied p' := by
  intro d hd
  rw [h.plugin] at hd
  rw [h.src]
  exact hp d hd

theorem Captured.tied {p : SockPlugin} (h : Captured p) : Tied p :=
  fun d hd => (h d hd).1

theorem forgetPlugin_src {p : SockPlugin} (h : Tied p) (d : DomPtr) :
    forgetPlugin p.plugin p.src d = false := by
  by_cases hd : p.plugin d = true
  · have hsrc := h d hd
    rw [hsrc, forgetPlugin, Function.update_self]
  · cases hsrc : p.src with
    | none => exact Bool.eq_false_iff.mpr hd
    | some a =>
      rw [forgetPlugin]
      by_cases ha : d = a
      · rw [ha, Function.update_self]
      · rw [Function.update_of_ne ha]
        exact Bool.eq_false_iff.mpr hd

theorem captured_of_none {p : SockPlugin} (h : ∀ d, p.plugin d = false) : Captured p := by
  intro d hd
  rw [h d] at hd
  cases hd

abbrev KeepsDest (m : SockM α) (p : SockPlugin) : Prop :=
  Moves Captured SameDest m p

theorem keepsDest_modify {f : SockPlugin → SockPlugin} {p : SockPlugin}
    (h : SameEnds p (f p)) : KeepsDest (modify f) p :=
  moves_modify fun hp => ⟨h.captured hp, h.toSameDest⟩

/-- A connection that is killed captures nothing. -/
theorem killConnection_frees (p : SockPlugin) (h : Tied p) :
    wlp killConnection (fun _ p' => SameDest p p' ∧ Captured p') p := by
  have hnone := forgetPlugin_src h
  rw [killConnection, wlp_bind, wlp_modify, wlp_bind, wlp_get]
  apply wlp_ite
  · intro _
    exact wlp_throw _ _ _
  · intro _
    rw [wlp_modify]
    exact ⟨⟨rfl, rfl⟩, captured_of_none hnone⟩

theorem killConnection_keepsDest (p : SockPlugin) : KeepsDest killConnection p := by
  intro hp
  refine wlp_mono (killConnection_frees p hp.tied) ?_
  intro _ p' h
  exact ⟨h.2, h.1, trivial⟩

theorem sendDelayedLoop_sameEnds (os : List SendOutcome) (p : SockPlugin) :
    SameEnds p (sendDelayedLoop os p).2 := by
  induction os generalizing p with
  | nil => exact ⟨⟨rfl, rfl⟩, rfl, rfl, rfl⟩
  | cons o os ih =>
    cases o with
    | eintr => exact ih p
    | again => exact ⟨⟨rfl, rfl⟩, rfl, rfl, rfl⟩
    | fatal => exact ⟨⟨rfl, rfl⟩, rfl, rfl, rfl⟩
    | took k =>
      simp only [sendDelayedLoop]
      split
      · obtain ⟨⟨hdest, hslot⟩, hplugin, hsrc, hs⟩ := ih _
        exact ⟨⟨hdest, hslot⟩, hplugin, hsrc, hs⟩
      · exact ⟨⟨rfl, rfl⟩, rfl, rfl, rfl⟩

theorem sendRecordLoop_sameEnds (bytes : List UInt8) (os : List SendOutcome) (p : SockPlugin) :
    SameEnds p (sendRecordLoop bytes os p).2 := by
  induction os with
  | nil => exact ⟨⟨rfl, rfl⟩, rfl, rfl, rfl⟩
  | cons o os ih =>
    cases o with
    | eintr => exact ih
    | again => exact ⟨⟨rfl, rfl⟩, rfl, rfl, rfl⟩
    | fatal => exact ⟨⟨rfl, rfl⟩, rfl, rfl, rfl⟩
    | took k => exact ⟨⟨rfl, rfl⟩, rfl, rfl, rfl⟩

theorem keepsDest_set {p p' : SockPlugin} (h : SameEnds p p') :
    KeepsDest (set p' : SockM PUnit) p :=
  fun hp => (wlp_set p' _ p).mpr ⟨h.captured hp, h.toSameDest, trivial⟩

theorem sendDelayedToPlugin_keepsDest (p : SockPlugin) : KeepsDest sendDelayedToPlugin p := by
  apply yields_get
  intro _
  have hloop : SameEnds p
      (if p.s = -1 then (SendResult.fatal, p) else sendDelayedLoop p.sends p).2 := by
    split
    · exact ⟨⟨rfl, rfl⟩, rfl, rfl, rfl⟩
    · exact sendDelayedLoop_sameEnds p.sends p
  apply yields_bind (keepsDest_set hloop)
  intro _ p' _ _
  split
  · exact moves_pure _
  · exact moves_pure _
  · apply yields_bind (killConnection_keepsDest p')
    intro _ p'' _ _
    exact moves_pure _

theorem sendRecord_keepsDest (e : EventRecord) (p : SockPlugin) : KeepsDest (sendRecord e) p := by
  apply yields_get
  intro _
  have hloop : SameEnds p
      (if p.s = -1 then (SendResult.fatal, p) else sendRecordLoop e.encode p.sends p).2 := by
    split
    · exact ⟨⟨rfl, rfl⟩, rfl, rfl, rfl⟩
    · exact sendRecordLoop_sameEnds e.encode p.sends p
  apply yields_bind (keepsDest_set hloop)
  intro _ p' _ _
  split
  · exact moves_pure _
  · apply yields_bind (killConnection_keepsDest p')
    intro _ p'' _ _
    exact moves_pure _
  · apply yields_ite
    · intro _
      apply yields_bind (keepsDest_modify ⟨⟨rfl, rfl⟩, rfl, rfl, rfl⟩)
      intro _ p'' _ _
      apply yields_bind (sendDelayedToPlugin_keepsDest p'')
      intro _ q _ _
      exact moves_pure _
    · intro _
      exact moves_pure _

theorem sendToPlugin_keepsDest (e : EventRecord) (p : SockPlugin) :
    KeepsDest (sendToPlugin e) p := by
  apply yields_get
  intro _
  have hready (ready : Bool) (p' : SockPlugin) :
      KeepsDest (if ready then sendRecord e else pure false) p' := by
    apply yields_ite
    · intro _
      exact sendRecord_keepsDest e p'
    · intro _
      exact moves_pure _
  apply yields_ite
  · intro _
    apply yields_bind (sendDelayedToPlugin_keepsDest p)
    intro ready p' _ _
    exact hready ready p'
  · intro _
    exact hready true p

/-- A record sent, and then what its fate calls for. -/
theorem sent_keepsDest {e : EventRecord} {k : Bool → SockM α} {p : SockPlugin}
    (hk : ∀ ok p', KeepsDest (k ok) p') : KeepsDest (sendToPlugin e >>= k) p :=
  yields_bind (sendToPlugin_keepsDest e p) fun ok p' _ _ => hk ok p'

theorem sendError_keepsDest (code : UInt32) (type domain : UInt8) (p : SockPlugin) :
    KeepsDest (sendError code type domain) p := by
  apply sent_keepsDest
  intro ok p'
  apply yields_ite
  · intro _
    exact moves_pure _
  · intro _
    apply keepsDest_modify
    split
    · exact ⟨⟨rfl, rfl⟩, rfl, rfl, rfl⟩
    · exact ⟨⟨rfl, rfl⟩, rfl, rfl, rfl⟩

theorem sendDevSet_keepsDest (slot : Int32) (p : SockPlugin) : KeepsDest (sendDevSet slot) p := by
  apply sent_keepsDest
  intro ok p'
  apply yields_ite
  · intro _
    exact keepsDest_modify ⟨⟨rfl, rfl⟩, rfl, rfl, rfl⟩
  · intro _
    exact keepsDest_modify ⟨⟨rfl, rfl⟩, rfl, rfl, rfl⟩

theorem sendSlot_keepsDest (slot : Int32) (p : SockPlugin) : KeepsDest (sendSlot slot) p := by
  apply yields_get
  intro _
  apply yields_ite
  · intro _
    apply sent_keepsDest
    intro ok p'
    apply yields_ite
    · intro _
      apply yields_bind (keepsDest_modify ⟨⟨rfl, rfl⟩, rfl, rfl, rfl⟩)
      intro _ p'' _ _
      exact sendDevSet_keepsDest slot p''
    · intro _
      exact keepsDest_modify ⟨⟨rfl, rfl⟩, rfl, rfl, rfl⟩
  · intro _
    exact sendDevSet_keepsDest slot p

theorem useQueue_keepsDest (p : SockPlugin) : KeepsDest useQueue p := by
  apply yields_get
  intro _
  apply yields_ite
  · intro _
    exact yields_throw _
  · intro _
    exact moves_pure _

theorem setDevEvent_keepsDest (i : Nat) (f : DevEvent → DevEvent) (p : SockPlugin) :
    KeepsDest (setDevEvent i f) p := by
  apply yields_bind (useQueue_keepsDest p)
  intro _ p' _ _
  exact keepsDest_modify ⟨⟨rfl, rfl⟩, rfl, rfl, rfl⟩

theorem flushFlag_keepsDest (i : Nat) (flag : DevEvent → Bool) (icode : UInt16)
    (clear : DevEvent → DevEvent) (p : SockPlugin) :
    KeepsDest (flushFlag i flag icode clear) p := by
  apply yields_bind (useQueue_keepsDest p)
  intro devEvents p' _ _
  split
  · exact yields_throw _
  · apply yields_ite
    · intro _
      apply sent_keepsDest
      intro ok p''
      apply yields_ite
      · intro _
        apply yields_bind (setDevEvent_keepsDest i clear p'')
        intro _ q _ _
        exact moves_pure _
      · intro _
        exact moves_pure _
    · intro _
      exact moves_pure _

theorem flushFrom_keepsDest (i : Nat) (p : SockPlugin) : KeepsDest (flushFrom i) p := by
  induction i generalizing p with
  | zero => exact moves_pure _
  | succ i ih =>
    apply yields_bind (flushFlag_keepsDest i _ _ _ p)
    intro removed p₁ _ _
    apply yields_ite
    · intro _
      apply yields_bind (flushFlag_keepsDest i _ _ _ p₁)
      intro added p₂ _ _
      apply yields_ite
      · intro _
        apply yields_bind (useQueue_keepsDest p₂)
        intro devEvents p₃ _ _
        apply yields_bind (keepsDest_modify ⟨⟨rfl, rfl⟩, rfl, rfl, rfl⟩)
        intro _ p₄ _ _
        exact ih p₄
      · intro _
        exact moves_pure _
    · intro _
      exact moves_pure _

theorem flushQueuedDevEvents_keepsDest (p : SockPlugin) : KeepsDest flushQueuedDevEvents p := by
  apply yields_get
  intro _
  exact flushFrom_keepsDest _ p

theorem queueDevEvent_keepsDest (code : UInt16) (value : Int32) (p : SockPlugin) :
    KeepsDest (queueDevEvent code value) p := by
  apply yields_ite
  · intro _
    apply yields_bind (useQueue_keepsDest p)
    intro _ p' _ _
    exact keepsDest_modify ⟨⟨rfl, rfl⟩, rfl, rfl, rfl⟩
  · intro _
    apply yields_ite
    · intro _
      apply yields_ite
      · intro _
        exact keepsDest_modify ⟨⟨rfl, rfl⟩, rfl, rfl, rfl⟩
      · intro _
        apply yields_bind (useQueue_keepsDest p)
        intro _ p' _ _
        exact keepsDest_modify ⟨⟨rfl, rfl⟩, rfl, rfl, rfl⟩
    · intro _
      exact moves_pure _

theorem prepareQueue_keepsDest (code : UInt16) (value : Int32) (p : SockPlugin) :
    KeepsDest (prepareQueue code value) p := by
  apply yields_get
  intro _
  apply yields_ite
  · intro _
    apply yields_ite
    · intro _
      exact yields_throw _
    · intro _
      apply yields_bind (keepsDest_modify ⟨⟨rfl, rfl⟩, rfl, rfl, rfl⟩)
      intro _ p' _ _
      exact moves_pure _
  · intro _
    apply yields_ite
    · intro _
      exact flushQueuedDevEvents_keepsDest p
    · intro _
      exact moves_pure _

theorem sendRequest_keepsDest (code : UInt16) (value : Int32) (p : SockPlugin) :
    KeepsDest (sendRequest code value) p := by
  apply yields_get
  intro _
  apply yields_bind (prepareQueue_keepsDest code value p)
  intro ready p' _ _
  apply yields_ite
  · intro _
    exact sendToPlugin_keepsDest _ p'
  · intro _
    exact moves_pure _

theorem sendPluginDevEventAt_keepsDest (depth : Nat) (code : UInt16) (value : Int32)
    (p : SockPlugin) : KeepsDest (sendPluginDevEventAt depth code value) p := by
  induction depth generalizing p with
  | zero =>
    unfold sendPluginDevEventAt
    apply yields_bind (sendRequest_keepsDest code value p)
    intro ok p' _ _
    apply yields_ite
    · intro _
      apply yields_get
      intro _
      apply yields_ite
      · intro _
        apply yields_bind (keepsDest_modify ⟨⟨rfl, rfl⟩, rfl, rfl, rfl⟩)
        intro _ p'' _ _
        exact yields_throw _
      · intro _
        exact moves_pure _
    · intro _
      exact queueDevEvent_keepsDest code value p'
  | succ depth ih =>
    unfold sendPluginDevEventAt
    apply yields_bind (sendRequest_keepsDest code value p)
    intro ok p' _ _
    apply yields_ite
    · intro _
      apply yields_get
      intro _
      apply yields_ite
      · intro _
        apply yields_bind (keepsDest_modify ⟨⟨rfl, rfl⟩, rfl, rfl, rfl⟩)
        intro _ p'' _ _
        exact ih p''
      · intro _
        exact moves_pure _
    · intro _
      exact queueDevEvent_keepsDest code value p'

theorem sendPluginDevEvent_keepsDest (code : UInt16) (value : Int32) (p : SockPlugin) :
    KeepsDest (sendPluginDevEvent code value) p :=
  sendPluginDevEventAt_keepsDest 1 code value p

theorem sendMarked_keepsDest (r : EventRecord) {mark : SockPlugin → SockPlugin} (p : SockPlugin)
    (hmark : ∀ p, SameEnds p (mark p)) : KeepsDest (sendMarked r mark) p := by
  apply sent_keepsDest
  intro ok p'
  apply yields_ite
  · intro _
    apply yields_bind (keepsDest_modify (hmark p'))
    intro _ p'' _ _
    exact moves_pure _
  · intro _
    exact moves_pure _

theorem sendPendingError_keepsDest (p : SockPlugin) : KeepsDest sendPendingError p := by
  apply yields_get
  intro _
  apply yields_ite
  · intro _
    exact sendMarked_keepsDest _ p fun _ => ⟨⟨rfl, rfl⟩, rfl, rfl, rfl⟩
  · intro _
    exact moves_pure _

theorem sendPendingReset_keepsDest (p : SockPlugin) : KeepsDest sendPendingReset p := by
  apply yields_get
  intro _
  apply yields_ite
  · intro _
    exact sendMarked_keepsDest _ p fun _ => ⟨⟨rfl, rfl⟩, rfl, rfl, rfl⟩
  · intro _
    exact moves_pure _

theorem sendPendingQueue_keepsDest (p : SockPlugin) : KeepsDest sendPendingQueue p := by
  apply yields_get
  intro _
  apply yields_ite
  · intro _
    exact flushQueuedDevEvents_keepsDest p
  · intro _
    exact moves_pure _

theorem sendPending_keepsDest (p : SockPlugin) : KeepsDest sendPending p := by
  apply yields_bind (sendPendingError_keepsDest p)
  intro ok p' _ _
  apply yields_ite
  · intro _
    apply yields_bind (sendPendingReset_keepsDest p')
    intro ok p'' _ _
    apply yields_ite
    · intro _
      exact sendPendingQueue_keepsDest p''
    · intro _
      exact moves_pure _
  · intro _
    exact moves_pure _

theorem selectSlot_keepsDest (slot : Int32) (p : SockPlugin) : KeepsDest (selectSlot slot) p := by
  apply yields_get
  intro _
  apply yields_ite
  · intro _
    exact sendSlot_keepsDest slot p
  · intro _
    exact moves_pure _

theorem sendEventRecord_keepsDest (e : InputEvent) (p : SockPlugin) :
    KeepsDest (sendEventRecord e) p := by
  apply sent_keepsDest
  intro ok p'
  apply yields_ite
  · intro _
    exact moves_pure _
  · intro _
    apply yields_bind (keepsDest_modify ⟨⟨rfl, rfl⟩, rfl, rfl, rfl⟩)
    intro _ p'' _ _
    exact moves_pure _

theorem sendDroppedAndEvent_keepsDest (e : InputEvent) (p : SockPlugin) :
    KeepsDest (sendDroppedAndEvent e) p := by
  apply yields_get
  intro _
  apply yields_ite
  · intro _
    apply sent_keepsDest
    intro ok p'
    apply yields_ite
    · intro _
      apply yields_bind (keepsDest_modify ⟨⟨rfl, rfl⟩, rfl, rfl, rfl⟩)
      intro _ p'' _ _
      exact sendEventRecord_keepsDest e p''
    · intro _
      exact moves_pure _
  · intro _
    exact sendEventRecord_keepsDest e p

theorem sendPluginEvent_keepsDest (slot : Int32) (e : InputEvent) (p : SockPlugin) :
    KeepsDest (sendPluginEvent slot e) p := by
  apply yields_bind (sendPending_keepsDest p)
  intro ok p' _ _
  apply yields_ite
  · intro _
    apply yields_bind (selectSlot_keepsDest slot p')
    intro _ p'' _ _
    exact sendDroppedAndEvent_keepsDest e p''
  · intro _
    have hmark : KeepsDest (modify fun p : SockPlugin =>
        if p.slot ≠ slot then { p with slotDropped := true } else { p with dropped := true }) p' := by
      apply keepsDest_modify
      split
      · exact ⟨⟨rfl, rfl⟩, rfl, rfl, rfl⟩
      · exact ⟨⟨rfl, rfl⟩, rfl, rfl, rfl⟩
    apply yields_bind hmark
    intro _ p'' _ _
    exact moves_pure _

/-- Whatever is sent on a closed connection ends it once more. -/
theorem sendToPlugin_captured (e : EventRecord) (p : SockPlugin) (hp : Tied p) :
    wlp (sendToPlugin e) (fun _ p' => SameDest p p' ∧ Captured p') p := by
  by_cases hs : p.s = -1
  · rw [sendToPlugin, wlp_bind, wlp_get]
    apply wlp_ite
    · intro _
      rw [sendDelayedToPlugin, wlp_bind, wlp_bind, wlp_get, if_pos hs, wlp_bind, wlp_set, wlp_bind]
      refine wlp_mono (killConnection_frees p hp) ?_
      intro _ p' h
      rw [wlp_pure]
      exact (wlp_pure _ _ _).mpr h
    · intro _
      change wlp (sendRecord e) _ p
      rw [sendRecord, wlp_bind, wlp_get, if_pos hs, wlp_bind, wlp_set, wlp_bind]
      refine wlp_mono (killConnection_frees p hp) ?_
      intro _ p' h
      exact (wlp_pure _ _ _).mpr h
  · have hcaptured : Captured p := fun d hd => ⟨hp d hd, hs⟩
    refine wlp_mono (sendToPlugin_keepsDest e p hcaptured) ?_
    intro _ p' h
    exact ⟨h.2.1, h.1⟩

/-- The reset that begins a configuration ends what was left of a closed connection. -/
theorem sendReset_captured (p : SockPlugin) (hp : Tied p) :
    wlp (sendPluginDevEvent DEV_RESET 0xFF) (fun _ p' => SameDest p p' ∧ Captured p') p := by
  have hrequest : wlp (sendRequest DEV_RESET 0xFF) (fun _ p' => SameDest p p' ∧ Captured p') p := by
    have hreset : (DEV_RESET, (0xFF : Int32)) = resetAll := rfl
    rw [sendRequest, wlp_bind, wlp_get, wlp_bind, prepareQueue, wlp_bind, wlp_get, if_pos hreset]
    apply wlp_ite
    · intro _
      exact wlp_throw _ _ _
    · intro _
      rw [wlp_bind, wlp_modify, wlp_pure, if_pos rfl]
      have hends : SameEnds p { p with devEvents := [] } := ⟨⟨rfl, rfl⟩, rfl, rfl, rfl⟩
      refine wlp_mono (sendToPlugin_captured _ _ (hends.tied hp)) ?_
      intro _ p' h
      exact ⟨IsTrans.trans _ _ _ hends.toSameDest h.1, h.2⟩
  rw [sendPluginDevEvent, sendPluginDevEventAt, wlp_bind]
  refine wlp_mono hrequest ?_
  intro ok p' h
  have hrest : KeepsDest (if ok = true then do
      let p ← get
      if p.resetall then do
        modify fun p => { p with resetall := false }
        sendPluginDevEventAt 0 DEV_RESET 0xFF
      else pure ()
    else queueDevEvent DEV_RESET 0xFF) p' := by
    apply yields_ite
    · intro _
      apply yields_get
      intro _
      apply yields_ite
      · intro _
        apply yields_bind (keepsDest_modify ⟨⟨rfl, rfl⟩, rfl, rfl, rfl⟩)
        intro _ p'' _ _
        exact sendPluginDevEventAt_keepsDest 0 DEV_RESET 0xFF p''
      · intro _
        exact moves_pure _
    · intro _
      exact queueDevEvent_keepsDest DEV_RESET 0xFF p'
  refine wlp_mono (hrest h.2) ?_
  intro _ p'' h'
  exact ⟨IsTrans.trans _ _ _ h.1 h'.2.1, h'.1⟩

end InputServer
