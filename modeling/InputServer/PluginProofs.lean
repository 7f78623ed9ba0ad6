import InputServer.LivingSteps

namespace InputServer
open Program
set_option autoImplicit true

variable {F : Type} {L : Regime F} {T : Turnover} {w : World F} {d : DomPtr}

instance : IsPreorder (World F) World.Later where
  refl _ := ⟨⟨[], (List.append_nil _).symm⟩, Nat.le_refl _⟩
  trans _ _ _ := World.Later.trans

/-- The steps of the daemon: they keep its invariant, and what happened stays logged. -/
abbrev Lives (L : Regime F) (m : WorldM F α) (w : World F) : Prop :=
  Moves (Living L) World.Later m w

theorem lives_of_evolves {m : WorldM F α} (h : Evolves L T m w) : Lives L m w :=
  h.imp id fun _ _ hw' hevolved => ⟨hw', hevolved.later⟩

theorem lives_of_routes {m : WorldM F α} (h : Routes w.scope m w) : Lives L m w :=
  lives_of_evolves (T := .none) (evolves_of_routes h)

theorem Living.setPlug (hw : Living L w) {p : SockPlugin} (hp : Captured p) :
    Living L { w with plug := p } := by
  have hlater : w.Later { w with plug := p } := ⟨⟨[], (List.append_nil _).symm⟩, Nat.le_refl _⟩
  exact {
    tracked := { hw.tracked with diverting := { hw.tracked.diverting with } }
    captured := hp
    unique := { hw.unique with }
    pvm := hw.pvm
    named := hw.named
    idle := hw.idle
    sound := fun hs => { hw.sound (L.sound_before w _ hlater hs) with }
    focus := fun hf => { hw.focus (L.focused_before w _ hlater hf) with } }

/-- What the plugin's end of the connection does, where it ends with what it captures. -/
theorem onPlug_lives {m : SockM α} (h : Captured w.plug → wlp m (fun _ p => Captured p) w.plug) :
    Lives L (onPlug m) w := by
  intro hw
  rw [onPlug, wlp_zoom]
  refine wlp_mono (h hw.captured) ?_
  intro _ p hp
  exact ⟨hw.setPlug hp, ⟨⟨[], (List.append_nil _).symm⟩, Nat.le_refl _⟩, trivial⟩

/-- Something happened that is no message about a device slot and moves no focus. -/
theorem happens_lives {h : Happening} (hslot : ∀ d slot, devslotStep d slot h = slot)
    (hswitched : ∀ domid, switchedStep domid h = domid) : Lives L (happens h) w := by
  have hlater : w.Later { w with log := w.log ++ [h] } := ⟨⟨[h], rfl⟩, Nat.le_refl _⟩
  apply moves_modify
  intro hw
  refine ⟨?_, hlater⟩
  constructor
  · refine ⟨?_, hw.tracked.pressed, { hw.tracked.diverting with }⟩
    intro d hd
    rw [devslot_snoc, hslot]
    exact hw.tracked.devslot d hd
  · exact hw.captured
  · exact { hw.unique with }
  · exact hw.pvm
  · exact hw.named
  · exact hw.idle
  · exact fun hs => { hw.sound (L.sound_before w _ hlater hs) with }
  · intro hf
    have hlive := hw.focus (L.focused_before w _ hlater hf)
    refine { hlive with focused := ?_ }
    intro c hc
    rw [lastSwitched_snoc, hswitched]
    exact hlive.focused c hc

theorem dom0InputEvent_some (hguest : (w.domains d).client = some guest) (source : Source)
    (e : InputEvent) (Q : Unit → World F → Prop) :
    wlp (dom0InputEvent d source e) Q w ↔
      Q ⟨⟩ { w with log := w.log ++ [.message d guest source e] } := by
  rw [dom0InputEvent, wlp_bind, wlp_get, hguest]
  dsimp only
  rw [happens, wlp_modify]

/-- A guest is told the slot that its entry now has. -/
theorem sendDevSet_lives (v : Int32) (hd : (w.domains d).client ≠ none) :
    Yields (Living L) World.Later (fun _ w' => (w'.domains d).lastDevslot = v) (do
      modifyDomain d fun x => { x with lastDevslot := v }
      dom0InputEvent d .plugin { type := EV_DEV, code := DEV_SET, value := v }) w := by
  obtain ⟨guest, hguest⟩ := Option.ne_none_iff_exists'.mp hd
  have hself : (w.setDomain d { w.domains d with lastDevslot := v }).domains d =
      { w.domains d with lastDevslot := v } := setDomain_self
  have hunaltered : Unaltered (w.domains d) { w.domains d with lastDevslot := v } :=
    ⟨rfl, rfl, rfl, rfl, rfl, rfl, rfl, rfl⟩
  have hid (a : DomPtr) :
      ((w.setDomain d { w.domains d with lastDevslot := v }).domains a).identity =
        (w.domains a).identity := setDomain_congr Domain.identity hunaltered.identity a
  intro hw
  rw [wlp_bind, modifyDomain, wlp_modify]
  change wlp _ _ (w.setDomain d { w.domains d with lastDevslot := v })
  have hguest' : ((w.setDomain d { w.domains d with lastDevslot := v }).domains d).client =
      some guest := (congrArg Identity.client (hid d)).trans hguest
  rw [dom0InputEvent_some hguest']
  have hlater : w.Later { w.setDomain d { w.domains d with lastDevslot := v } with
      log := w.log ++
        [.message d guest .plugin { type := EV_DEV, code := DEV_SET, value := v }] } :=
    ⟨⟨_, rfl⟩, Nat.le_refl _⟩
  refine ⟨?_, hlater, ?_⟩
  · constructor
    · have hdiverting := hw.tracked.diverting.setDomain
        (x := { w.domains d with lastDevslot := v })
        (congrArg Identity.initialised hunaltered.identity)
        (iff_of_eq (congrArg (· = none) hunaltered.divertInfo))
      refine ⟨?_, hw.tracked.pressed, { hdiverting with }⟩
      intro a ha
      change devslot a (w.log ++ [_]) = _ ∨ devslot a (w.log ++ [_]) = _ ∧ _
      rw [devslot_snoc, devslotStep]
      by_cases had : d = a
      · rw [if_pos ⟨had, rfl, rfl⟩, ← had]
        exact .inl (congrArg (fun x : Domain F => some x.lastDevslot) hself.symm)
      · rw [if_neg fun h => had h.1]
        have hsame : (w.setDomain d { w.domains d with lastDevslot := v }).domains a =
            w.domains a := setDomain_of_ne (Ne.symm had)
        have hold := hw.tracked.devslot a
        rw [← hsame] at hold
        exact hold ha
    · exact hw.captured
    · exact hw.unique.of_identity hid
    · intro a ha
      have hpvm : (w.domains a).isPvm = true := (congrArg Identity.isPvm (hid a)).symm.trans ha
      exact (congrArg Identity.initialised (hid a)).trans (hw.pvm a hpvm)
    · intro a guest' ha
      have hclient : (w.domains a).client = some guest' :=
        (congrArg Identity.client (hid a)).symm.trans ha
      have hdomid := congrArg Identity.domid (hid a)
      exact (hw.named a guest' hclient).imp hdomid.trans hdomid.trans
    · exact hw.idle
    · intro hs
      have hsound := hw.sound (L.sound_before w _ hlater hs)
      exact { hunaltered.sound hsound with }
    · intro hf
      have hlive : FocusLive (w.setDomain d { w.domains d with lastDevslot := v }) :=
        (hw.focus (L.focused_before w _ hlater hf)).of_identity hid rfl rfl
      refine { hlive with focused := ?_ }
      intro c hc
      rw [lastSwitched_snoc]
      exact hlive.focused c hc
  · exact congrArg Domain.lastDevslot hself

/-- A record of the plugin that is no message about the device slot. -/
theorem sendPlain_lives (d : DomPtr) {e : InputEvent} (he : e.type ≠ EV_DEV) (w : World F) :
    Lives L (dom0InputEvent d .plugin e) w := by
  apply yields_get
  intro _
  split
  · exact moves_pure _
  · apply happens_lives
    · intro a slot
      rw [devslotStep, if_neg fun h => he h.2.1]
    · exact fun _ => rfl

/-- The event records of the plugin; a DEV_SET leaves the slot with the guest that gets it. -/
theorem sendEvent_lives (t c : UInt16) (v : Int32) (w : World F) :
    Yields (Living L) World.Later (fun _ w' => t = EV_DEV → c = DEV_SET → ∀ d,
      w.plug.dest = some d → (w'.domains d).client = none ∨ (w'.domains d).lastDevslot = v)
      (sendEvent t c v) w := by
  apply yields_get
  intro _
  cases hdest : w.plug.dest with
  | none => exact yields_pure _ fun _ _ _ _ => nofun
  | some d =>
    apply yields_ite
    · intro hclient
      apply yields_pure
      intro _ _ _ d' hd'
      cases hd'
      exact .inl hclient
    intro hclient
    apply yields_ite
    · intro htype
      apply yields_ite
      · intro hcode
        subst htype
        subst hcode
        have hplug : wlp (onPlug (F := F) (modify fun p => { p with recivedSlot := v }))
            (fun _ w' => w'.domains = w.domains) w := by
          rw [onPlug, wlp_zoom, wlp_modify]
        have hlives : Lives L (onPlug (modify fun p => { p with recivedSlot := v })) w := by
          apply onPlug_lives
          intro hcaptured
          rw [wlp_modify]
          exact hcaptured
        apply yields_bind_of (hlives.of_moves hplug)
        intro _ w₁ _ _ hsame
        have hclient₁ : (w₁.domains d).client ≠ none := by
          rw [hsame]
          exact hclient
        apply (sendDevSet_lives v hclient₁).mono
        intro _ w₂ _ _ hslot _ _ d' hd'
        cases hd'
        exact .inr hslot
      · intro hcode
        exact yields_pure _ fun _ _ hset => absurd hset hcode
    · intro htype
      apply (sendPlain_lives d htype w).mono
      intro _ w' _ _ _ hdev
      exact absurd hdev htype

/-- The slot of an entry is set to what it is, or no client has it. -/
theorem setDevslot_lives (v : Int32)
    (h : (w.domains d).client = none ∨ (w.domains d).lastDevslot = v) :
    Lives L (modifyDomain d fun x => { x with lastDevslot := v }) w := by
  have hunaltered : Unaltered (w.domains d) { w.domains d with lastDevslot := v } :=
    ⟨rfl, rfl, rfl, rfl, rfl, rfl, rfl, rfl⟩
  apply moves_modify
  intro hw
  have hremap := living_remap (T := .none)
    (f := (w.setDomain d { w.domains d with lastDevslot := v }).domains) hw
    (setDomain_congr Domain.identity hunaltered.identity)
    (by
      intro a ha
      by_cases had : a = d
      · rw [had] at ha
        rw [had, setDomain_self]
        exact (h.resolve_left ha).symm
      · rw [setDomain_of_ne had])
    (fun hdiverting => hdiverting.setDomain (congrArg Identity.initialised hunaltered.identity)
      (iff_of_eq (congrArg (· = none) hunaltered.divertInfo)))
    (fun a => (setDomain_congr Domain.prevKeybDomainPtr hunaltered.prevPtr a).trans)
    fun _ hsound => hunaltered.sound hsound
  exact ⟨hremap.1, hremap.2.later⟩

theorem checkDevslot_lives (hdest : w.plug.dest = some d) : Lives L (checkDevslot d) w := by
  apply yields_get
  intro _
  apply yields_ite
  · intro _
    apply yields_bind_of (sendEvent_lives EV_DEV DEV_SET w.plug.recivedSlot w)
    intro _ w₁ _ _ hset
    exact setDevslot_lives _ (hset rfl rfl d hdest)
  · intro _
    exact moves_pure _

theorem sockPluginSendconfigFrom_keepsDest (types : Nat → Option HidType) (slots : List Nat)
    (p : SockPlugin) : KeepsDest (sockPluginSendconfigFrom types slots) p := by
  induction slots generalizing p with
  | nil => exact moves_pure _
  | cons slot slots ih =>
    rw [sockPluginSendconfigFrom]
    apply yields_ite
    · intro _
      apply yields_bind (sendPluginDevEvent_keepsDest _ _ p)
      intro _ p' _ _
      exact ih p'
    · intro _
      exact ih p

/-- A configuration ends with what is captured tied to an open connection. -/
theorem sockPluginSendconfig_captured (types : Nat → Option HidType) (p : SockPlugin)
    (hp : Tied p) : wlp (sockPluginSendconfig types) (fun _ p' => Captured p') p := by
  rw [sockPluginSendconfig, wlp_bind]
  refine wlp_mono (sendReset_captured p hp) ?_
  intro _ p' h
  refine wlp_mono (sockPluginSendconfigFrom_keepsDest types _ p' h.2) ?_
  exact fun _ _ h' => h'.1

theorem sendError_lives (code : UInt32) (type domain : UInt8) (w : World F) :
    Lives L (onPlug (sendError code type domain)) w :=
  lives_of_routes (onPlug_routes fun p => sendError_keepsDest code type domain p)

theorem setDest_lives (dest : Option DomPtr) (w : World F) :
    Lives L (onPlug (modify fun p => { p with dest := dest })) w := by
  apply onPlug_lives
  intro hcaptured
  rw [wlp_modify]
  exact hcaptured

theorem processSendTo_lives (r : EventRecord) (w : World F) : Lives L (processSendTo r) w := by
  apply yields_get
  intro _
  have hdest : wlp (onPlug (F := F) (modify fun p => { p with
      dest := w.domainWithDomid r.ivalue.toInt32.toInt }))
      (fun _ w' => w'.plug.dest = w.domainWithDomid r.ivalue.toInt32.toInt) w := by
    rw [onPlug, wlp_zoom, wlp_modify]
  apply yields_bind_of ((setDest_lives _ w).of_moves hdest)
  intro _ w₁ _ _ hdest₁
  cases hfound : w.domainWithDomid r.ivalue.toInt32.toInt with
  | none => exact sendError_lives _ _ _ w₁
  | some d =>
    apply yields_ite
    · intro _
      apply yields_bind (sendError_lives _ _ _ w₁)
      intro _ w₂ _ _
      exact setDest_lives _ w₂
    · intro _
      have hsame : wlp (happens (F := F) (.selected r.ivalue.toInt32.toInt))
          (fun _ w' => w'.plug = w₁.plug) w₁ := by
        rw [happens, wlp_modify]
      have hselected : Lives L (happens (.selected r.ivalue.toInt32.toInt)) w₁ := by
        apply happens_lives
        · exact fun _ _ => rfl
        · exact fun _ => rfl
      apply yields_bind_of (hselected.of_moves hsame)
      intro _ w₂ _ _ hplug
      apply checkDevslot_lives
      rw [hplug, hdest₁, hfound]

/-- A capture is complete once its configuration is sent. -/
theorem capture_lives (d : DomPtr) (types : Nat → Option HidType)
    (hnone : ∀ a, w.plug.plugin a = false) : Lives L (do
      onPlug (modify fun p => { p with plugin := Function.update p.plugin d true, src := some d })
      onPlug (sockPluginSendconfig types)) w := by
  intro hw
  have htied : Tied { w.plug with
      plugin := Function.update w.plug.plugin d true, src := some d } := by
    intro a ha
    by_cases had : a = d
    · rw [had]
    · change Function.update w.plug.plugin d true a = true at ha
      rw [Function.update_of_ne had, hnone a] at ha
      cases ha
  rw [wlp_bind, onPlug, wlp_zoom, wlp_modify, onPlug, wlp_zoom]
  refine wlp_mono (sockPluginSendconfig_captured types _ htied) ?_
  intro _ p hp
  exact ⟨hw.setPlug hp, ⟨⟨[], (List.append_nil _).symm⟩, Nat.le_refl _⟩, trivial⟩

theorem processTakeFrom_lives (r : EventRecord) (w : World F) : Lives L (processTakeFrom r) w := by
  have hforget : Lives L (onPlug (modify fun p =>
      { p with plugin := forgetPlugin p.plugin p.src })) w := by
    apply onPlug_lives
    intro hcaptured
    rw [wlp_modify]
    exact captured_of_none (forgetPlugin_src hcaptured.tied)
  intro hw
  have hfree : wlp (onPlug (F := F) (modify fun p =>
      { p with plugin := forgetPlugin p.plugin p.src }))
      (fun _ w' => ∀ d, w'.plug.plugin d = false) w := by
    rw [onPlug, wlp_zoom, wlp_modify]
    exact forgetPlugin_src hw.captured.tied
  have hall : Lives L (processTakeFrom r) w := by
    apply yields_bind_of (hforget.of_moves hfree)
    intro _ w₁ _ _ hnone
    apply yields_get
    intro _
    split
    · exact sendError_lives _ _ _ w₁
    · exact capture_lives _ _ hnone
  exact hall hw

theorem processEvent_lives (r : EventRecord) (w : World F) : Lives L (processEvent r) w := by
  have hrecord : Lives L (happens (.record r)) w := by
    apply happens_lives
    · exact fun _ _ => rfl
    · exact fun _ => rfl
  apply yields_bind hrecord
  intro _ w₁ _ _
  apply yields_get
  intro _
  apply yields_ite
  · intro _
    apply yields_ite
    · intro _
      exact processSendTo_lives r w₁
    · intro _
      apply yields_ite
      · intro _
        exact processTakeFrom_lives r w₁
      · intro _
        exact sendError_lives _ _ _ w₁
  · intro _
    apply yields_ite
    · intro _
      exact (sendEvent_lives _ _ _ w₁).moves
    · intro _
      exact sendError_lives _ _ _ w₁

theorem serverAccept_lives (s2 : Int) (w : World F) : Lives L (serverAccept s2) w := by
  apply yields_get
  intro hw
  apply yields_ite
  · intro hs
    have haccept : Lives L (onPlug (modify fun p => acceptedPlugin p s2)) w := by
      apply onPlug_lives
      intro hcaptured
      rw [wlp_modify]
      apply captured_of_none
      intro d
      by_contra hd
      exact (hcaptured d (Bool.not_eq_false _ ▸ hd)).2 hs
    apply yields_bind haccept
    intro _ w₁ _ _
    have hrecv : Lives L (modify fun w : World F => { w with
        recv := { w.recv with bytesRemaining := 0, position := 0 } }) w₁ := by
      apply lives_of_routes
      apply modify_unmoved ⟨rfl, rfl, rfl, rfl, rfl, Nat.le_refl _, rfl, rfl⟩
      exact rfl
    apply yields_bind hrecv
    intro _ w₂ _ _
    apply happens_lives
    · exact fun _ _ => rfl
    · exact fun _ => rfl
  · intro _
    exact moves_pure _

theorem killConnection_lives (w : World F) : Lives L (onPlug killConnection) w :=
  lives_of_routes (onPlug_routes killConnection_keepsDest)

section
variable {ε σ : Type} {I : σ → Prop} {R : σ → σ → Prop} [IsPreorder σ R]
  {process : EventRecord → RecvBuffer → Program ε σ Unit} {closed : Program ε σ Unit}

/-- What every record keeps, the loop over the records of a buffer keeps. -/
theorem processAll_moves (hprocess : ∀ r b s, Moves I R (process r b) s) (fuel : Nat)
    (b : RecvBuffer) (s : σ) : Moves I R (processAll process fuel b) s := by
  induction fuel generalizing b s with
  | zero => exact moves_pure _
  | succ fuel ih =>
    rw [processAll]
    split
    · exact moves_pure _
    · apply yields_bind (hprocess _ _ s)
      intro _ s' _ _
      exact ih _ s'

theorem receive_moves (hprocess : ∀ r b s, Moves I R (process r b) s)
    (hclosed : ∀ s, Moves I R closed s) (cap k : Nat) (b : RecvBuffer) (incoming : List UInt8)
    (s : σ) : Moves I R (receive cap process closed k b incoming) s := by
  rw [receive]
  apply yields_ite
  · intro _
    apply yields_bind (processAll_moves hprocess _ _ s)
    intro _ s' _ _
    exact moves_pure _
  · intro _
    apply yields_bind (hclosed s)
    intro _ s' _ _
    exact moves_pure _

theorem wrapperServerRecv_moves (hprocess : ∀ r b s, Moves I R (process r b) s)
    (hclosed : ∀ s, Moves I R closed s) (o : RecvOutcome) (b : RecvBuffer)
    (incoming : List UInt8) (s : σ) : Moves I R (wrapperServerRecv process closed o b incoming) s := by
  induction o with
  | eintr retry ih => exact ih
  | got k => exact receive_moves hprocess hclosed _ k b incoming s
  | closed =>
    apply yields_bind (hclosed s)
    intro _ s' _ _
    exact moves_pure _
  | error =>
    apply yields_bind (hclosed s)
    intro _ s' _ _
    exact moves_pure _

end

/-- One receive on the plugin's connection, with all the records that it completes. -/
theorem serverRecv_lives (o : RecvOutcome) (incoming : List UInt8) (w : World F) :
    Lives L (serverRecv o incoming) w := by
  apply yields_get
  intro _
  apply yields_bind (wrapperServerRecv_moves (fun r _ w' => processEvent_lives r w')
    killConnection_lives o w.recv incoming w)
  intro b w₁ _ _
  apply lives_of_routes
  apply modify_unmoved ⟨rfl, rfl, rfl, rfl, rfl, Nat.le_refl _, rfl, rfl⟩
  exact rfl

end InputServer
