import InputServer.BesidePlugin

namespace InputServer
open Program
set_option autoImplicit true

variable {F : Type} {w w' : World F} {r : EventRecord} {d : DomPtr}

/-- A message of the plugin that a guest gets: the domain that the plugin's records go to has a
client, and of the messages about devices it is a DEV_SET. -/
structure Reaches (w : World F) (type code : UInt16) (d : DomPtr) (guest : Int) : Prop where
  devSet : type = EV_DEV → code = DEV_SET
  dest : w.plug.dest = some d
  client : (w.domains d).client = some guest

/-- An event record that a guest gets. -/
structure ForwardsTo (w : World F) (r : EventRecord) (d : DomPtr) (guest : Int) : Prop
    extends Reaches w r.itype r.icode d guest where
  event : r.itype ≠ EV_VM

def EventRecord.selects (r : EventRecord) : Prop :=
  r.itype = EV_VM ∧ r.icode = VM_SEND_TO

/-- What has happened once a record is processed, and where the next ones go. -/
inductive RecordDone (r : EventRecord) (w w' : World F) : Prop where
  | quiet (unsent : ∀ d guest, ¬ForwardsTo w r d guest)
      (dest : w'.plug.dest = none ∨ w'.plug.dest = w.plug.dest)
      (log : w'.log = w.log ++ [.record r])
  | selected (d : DomPtr) (selects : r.selects) (dest : w'.plug.dest = some d)
      (found : w.domainWithDomid r.ivalue.toInt32.toInt = some d)
      (log : w'.log = w.log ++ [.record r, .selected r.ivalue.toInt32.toInt] ∨
        ∃ guest slot, (w.domains d).client = some guest ∧ w'.log = w.log ++
          [.record r, .selected r.ivalue.toInt32.toInt, devSetMessage d guest .plugin slot])
  | forwarded (d : DomPtr) (guest : Int) (sent : ForwardsTo w r d guest)
      (dest : w'.plug.dest = some d)
      (log : w'.log = w.log ++ [.record r,
        .message d guest .plugin { type := r.itype, code := r.icode, value := r.ivalue.toInt32 }])

/-- Nothing but the plugin's end of the connection changes, and the destination stays. -/
structure PlugOnly (w w' : World F) : Prop where
  plug : SameDest w.plug w'.plug
  log : w'.log = w.log
  domains : w'.domains = w.domains

theorem onPlug_only {m : SockM α} (h : wlp m (fun _ p => SameDest w.plug p) w.plug) :
    wlp (onPlug m) (fun _ w' => PlugOnly w w') w := by
  rw [onPlug, wlp_zoom]
  exact wlp_mono h fun _ _ hp => ⟨hp, rfl, rfl⟩

theorem sendError_only (w : World F) (hw : Captured w.plug) (code : UInt32) (type domain : UInt8) :
    wlp (onPlug (sendError code type domain)) (fun _ w' => PlugOnly w w') w := by
  apply onPlug_only
  exact wlp_mono (sendError_keepsDest code type domain w.plug hw) fun _ _ h => h.2.1

theorem sockPluginSendconfig_sameDest (types : Nat → Option HidType) {p : SockPlugin}
    (hp : Tied p) : wlp (sockPluginSendconfig types) (fun _ p' => SameDest p p') p := by
  rw [sockPluginSendconfig, wlp_bind]
  refine wlp_mono (sendReset_captured p hp) ?_
  intro _ p' h
  refine wlp_mono (sockPluginSendconfigFrom_keepsDest types _ p' h.2) ?_
  exact fun _ _ h' => IsTrans.trans _ _ _ h.1 h'.2.1

/-- The records that the plugin sends to take a domain. -/
theorem processTakeFrom_only (w : World F) (hw : Captured w.plug) (r : EventRecord) :
    wlp (processTakeFrom r) (fun _ w' => PlugOnly w w') w := by
  rw [processTakeFrom, wlp_bind, onPlug, wlp_zoom, wlp_modify, wlp_bind, wlp_get]
  split
  · refine wlp_mono (sendError_only _ ?_ _ _ _) fun _ _ h =>
      ⟨⟨h.plug.dest, h.plug.recivedSlot⟩, h.log, h.domains⟩
    exact captured_of_none (forgetPlugin_src hw.tied)
  · rename_i d hfound
    rw [wlp_bind, onPlug, wlp_zoom, wlp_modify]
    refine wlp_mono (onPlug_only (sockPluginSendconfig_sameDest _ ?_)) fun _ _ h =>
      ⟨⟨h.plug.dest, h.plug.recivedSlot⟩, h.log, h.domains⟩
    intro a ha
    by_cases had : a = d
    · rw [had]
    · change Function.update (forgetPlugin w.plug.plugin w.plug.src) d true a = true at ha
      rw [Function.update_of_ne had, forgetPlugin_src hw.tied] at ha
      cases ha

theorem sendEvent_sends (t c : UInt16) (v : Int32) (w : World F) :
    wlp (sendEvent t c v) (fun _ w' =>
      (∀ d, (w'.domains d).client = (w.domains d).client) ∧ w'.plug.dest = w.plug.dest ∧
        ((∀ d guest, ¬Reaches w t c d guest) ∧ w'.log = w.log ∨
          ∃ d guest, Reaches w t c d guest ∧ w'.log = w.log ++
            [.message d guest .plugin { type := t, code := c, value := v }])) w := by
  rw [sendEvent, wlp_bind, wlp_get]
  cases hdest : w.plug.dest with
  | none =>
    rw [wlp_pure]
    refine ⟨fun _ => rfl, hdest, .inl ⟨fun d guest h => ?_, rfl⟩⟩
    cases hdest.symm.trans h.dest
  | some d =>
    refine wlp_ite (fun hclient => ?_) fun hclient => ?_
    · rw [wlp_pure]
      refine ⟨fun _ => rfl, hdest, .inl ⟨fun d' guest h => ?_, rfl⟩⟩
      cases hdest.symm.trans h.dest
      cases hclient.symm.trans h.client
    · obtain ⟨guest, hguest⟩ := Option.ne_none_iff_exists'.1 hclient
      refine wlp_ite (fun htype => ?_) fun htype => ?_
      · refine wlp_ite (fun hcode => ?_) fun hcode => ?_
        · rw [wlp_bind, onPlug, wlp_zoom, wlp_modify, wlp_bind, modifyDomain, wlp_modify]
          change wlp _ _ (World.setDomain { w with plug := { w.plug with recivedSlot := v } } d
            { w.domains d with lastDevslot := v })
          have hclients (a : DomPtr) : ((World.setDomain { w with
              plug := { w.plug with recivedSlot := v } } d
              { w.domains d with lastDevslot := v }).domains a).client = (w.domains a).client := by
            apply setDomain_congr Domain.client
            rfl
          rw [dom0InputEvent_some ((hclients d).trans hguest)]
          exact ⟨hclients, hdest, .inr ⟨d, guest, ⟨fun _ => hcode, hdest, hguest⟩, rfl⟩⟩
        · rw [wlp_pure]
          exact ⟨fun _ => rfl, hdest, .inl ⟨fun _ _ h => hcode (h.devSet htype), rfl⟩⟩
      · rw [dom0InputEvent_some hguest]
        exact ⟨fun _ => rfl, hdest, .inr ⟨d, guest, ⟨fun heq => absurd heq htype, hdest, hguest⟩,
          rfl⟩⟩

/-- The domain that was selected is told the plugin's slot, where it has another one. -/
theorem checkDevslot_sends (d : DomPtr) (w : World F) (hdest : w.plug.dest = some d) :
    wlp (checkDevslot d) (fun _ w' =>
      (∀ d, (w'.domains d).client = (w.domains d).client) ∧ w'.plug.dest = some d ∧
        (w'.log = w.log ∨ ∃ guest slot, (w.domains d).client = some guest ∧
          w'.log = w.log ++ [devSetMessage d guest .plugin slot])) w := by
  rw [checkDevslot, wlp_bind, wlp_get]
  refine wlp_ite (fun _ => ?_) fun _ => ?_
  · rw [wlp_bind]
    refine wlp_mono (sendEvent_sends EV_DEV DEV_SET w.plug.recivedSlot w) ?_
    rintro _ w₁ ⟨hclients, hdest₁, hsent⟩
    rw [modifyDomain, wlp_modify]
    have hsame (a : DomPtr) : ((w₁.setDomain d
        { w₁.domains d with lastDevslot := w.plug.recivedSlot }).domains a).client =
        (w₁.domains a).client := by
      apply setDomain_congr Domain.client
      rfl
    refine ⟨fun a => (hsame a).trans (hclients a), hdest₁.trans hdest, ?_⟩
    obtain ⟨-, hlog⟩ | ⟨a, guest, hreaches, hlog⟩ := hsent
    · exact .inl hlog
    · cases hdest.symm.trans hreaches.dest
      exact .inr ⟨guest, w.plug.recivedSlot, hreaches.client, hlog⟩
  · rw [wlp_pure]
    exact ⟨fun _ => rfl, hdest, .inl rfl⟩

/-- The records that the plugin sends to select a domain. -/
theorem processSendTo_done (hw : Captured w.plug) (hselects : r.selects) :
    wlp (processSendTo r) (fun _ w' =>
      (∀ d, (w'.domains d).client = (w.domains d).client) ∧ RecordDone r w w')
      { w with log := w.log ++ [.record r] } := by
  have hunsent (d : DomPtr) (guest : Int) : ¬ForwardsTo w r d guest :=
    fun h => h.event hselects.1
  rw [processSendTo, wlp_bind, wlp_get, wlp_bind, onPlug, wlp_zoom, wlp_modify]
  split
  · rename_i hfound
    refine wlp_mono (sendError_only _ ?_ _ _ _) fun _ _ h => ?_
    · exact hw
    · exact ⟨fun d => congrArg (fun f => (f d).client) h.domains,
        .quiet hunsent (.inl (h.plug.dest.trans hfound)) h.log⟩
  · rename_i d hfound
    refine wlp_ite (fun _ => ?_) fun _ => ?_
    · rw [wlp_bind]
      refine wlp_mono (sendError_only _ ?_ _ _ _) fun _ w₁ h => ?_
      · exact hw
      · rw [onPlug, wlp_zoom, wlp_modify]
        exact ⟨fun d => congrArg (fun f => (f d).client) h.domains,
          .quiet hunsent (.inl rfl) h.log⟩
    · rw [wlp_bind, happens, wlp_modify]
      refine wlp_mono (checkDevslot_sends d _ hfound) ?_
      rintro _ w₁ ⟨hclients, hdest, hlog⟩
      refine ⟨hclients, .selected d hselects hdest hfound ?_⟩
      obtain hlog | ⟨guest, slot, hguest, hlog⟩ := hlog
      · refine .inl ?_
        rw [hlog]
        exact List.append_assoc ..
      · refine .inr ⟨guest, slot, hguest, ?_⟩
        rw [hlog]
        exact (List.append_assoc ..).trans (List.append_assoc ..)

/-- A record is processed: every client stays. -/
theorem processEvent_done (hw : Captured w.plug) (r : EventRecord) :
    wlp (processEvent r) (fun _ w' =>
      (∀ d, (w'.domains d).client = (w.domains d).client) ∧ RecordDone r w w') w := by
  rw [processEvent, wlp_bind, happens, wlp_modify, wlp_bind, wlp_get]
  have hrecorded : Captured (World.plug { w with log := w.log ++ [.record r] }) := hw
  have hquiet {w₁ : World F} (hunsent : ∀ d guest, ¬ForwardsTo w r d guest)
      (h : PlugOnly { w with log := w.log ++ [.record r] } w₁) :
      (∀ d, (w₁.domains d).client = (w.domains d).client) ∧ RecordDone r w w₁ := by
    refine ⟨fun d => congrArg (fun f => (f d).client) h.domains, .quiet hunsent ?_ h.log⟩
    exact .inr h.plug.dest
  refine wlp_ite (fun hvm => ?_) fun hevent => ?_
  · have hunsent (d : DomPtr) (guest : Int) : ¬ForwardsTo w r d guest := fun h => h.event hvm
    refine wlp_ite (fun hselect => ?_) fun _ => ?_
    · exact processSendTo_done hw ⟨hvm, hselect⟩
    · refine wlp_ite (fun _ => ?_) fun _ => ?_
      · exact wlp_mono (processTakeFrom_only _ hrecorded r) fun _ _ h => hquiet hunsent h
      · exact wlp_mono (sendError_only _ hrecorded _ _ _) fun _ _ h => hquiet hunsent h
  · refine wlp_ite (fun _ => ?_) fun hnone => ?_
    · refine wlp_mono (sendEvent_sends _ _ _ _) ?_
      rintro _ w₁ ⟨hclients, hdest, ⟨hnot, hlog⟩ | ⟨d, guest, hreaches, hlog⟩⟩
      · have hunsent (d : DomPtr) (guest : Int) : ¬ForwardsTo w r d guest :=
          fun h => hnot d guest { h.toReaches with }
        exact ⟨hclients, .quiet hunsent (.inr hdest) hlog⟩
      · have hsent : ForwardsTo w r d guest := { hreaches with event := hevent }
        refine ⟨hclients, .forwarded d guest hsent (hdest.trans hsent.dest) ?_⟩
        rw [hlog, List.append_assoc]
        rfl
    · have hunsent (d : DomPtr) (guest : Int) : ¬ForwardsTo w r d guest := by
        intro h
        apply hnone
        change w.plug.dest ≠ none
        rw [h.dest]
        exact Option.some_ne_none d
      exact wlp_mono (sendError_only _ hrecorded _ _ _) fun _ _ h => hquiet hunsent h

/-- What an operation may have done to what the plugin and the guests see. -/
inductive OpDone (w w' : World F) : Op → Prop where
  | beside {o : Op} (unplugged : ¬o.OfPlugin) (done : Beside w w') : OpDone w w' o
  | accepted (s2 : Int) (dest : w'.plug.dest = none) (log : w'.log = w.log ++ [.accepted]) :
      OpDone w w' (.pluginAccept s2)
  | refused (s2 : Int) (same : w' = w) : OpDone w w' (.pluginAccept s2)
  | processed (r : EventRecord) (client : ∀ d, (w'.domains d).client = (w.domains d).client)
      (done : RecordDone r w w') : OpDone w w' (.pluginRecord r)

theorem serverAccept_done (s2 : Int) (w : World F) :
    wlp (serverAccept s2) (fun _ w' => OpDone w w' (.pluginAccept s2)) w := by
  rw [serverAccept, wlp_bind, wlp_get]
  refine wlp_ite (fun _ => ?_) fun _ => ?_
  · rw [wlp_bind, onPlug, wlp_zoom, wlp_modify, wlp_bind, wlp_modify, happens, wlp_modify]
    exact .accepted s2 rfl rfl
  · rw [wlp_pure]
    exact .refused s2 rfl

/-- One operation, as the callers of the daemon may start it. -/
def Op.Step [Double F] (o : Op) (w w' : World F) : Prop :=
  (Activity.op o).Step w w'

section
variable [Double F] {o : Op}

theorem Op.Step.living (hw : Living .bare w) (h : o.Step w w') : Living .bare w' := by
  obtain ⟨hvalid, depth, hok⟩ := h
  have hlives := o.lives (L := .bare) (inputInject_routes depth) hvalid
    (fun _ _ => ⟨False.elim, False.elim⟩)
  exact (hlives hw () w' hok).1

theorem Op.Step.done (hw : Living .bare w) (h : o.Step w w') : OpDone w w' o := by
  obtain ⟨hvalid, depth, hok⟩ := h
  by_cases hplugin : o.OfPlugin
  · cases o with
    | pluginAccept s2 => exact serverAccept_done s2 w () w' hok
    | pluginRecord r =>
      obtain ⟨hclient, hdone⟩ := processEvent_done hw.captured r () w' hok
      exact .processed r hclient hdone
    | _ => exact hplugin.elim
  · have hbystands := o.bystands (L := .bare) (R := Beside) (inputInject_routes depth)
      hvalid (fun _ _ => ⟨False.elim, False.elim⟩) hplugin
    exact .beside hplugin (hbystands hw () w' hok).2.1

/-- The state that a list of operations leads to. -/
abbrev Op.reached (depth : Nat) (ops : List Op) (w : World F) : World F :=
  Activity.reached depth (ops.map .op) w

theorem ops_reached {depth : Nat} {ops : List Op} {w₀ : World F}
    (hvalid : ∀ o ∈ ops, ∀ w : World F, o.Valid w)
    (hok : (Activity.runAll depth (ops.map .op) w₀).isOk = true) :
    Run Op.Step w₀ ops (Op.reached depth ops w₀) := by
  change Run (fun o => Activity.Step (.op o)) _ _ _
  apply Run.of_map
  apply run_reached ?_ hok
  rintro a ha w
  obtain ⟨o, ho, rfl⟩ := List.mem_map.1 ha
  exact hvalid o ho w

end

def sendTo (domid : UInt32) : EventRecord :=
  { magic := MAGIC, itype := EV_VM, icode := VM_SEND_TO, ivalue := domid }

def pressKey : EventRecord :=
  { magic := MAGIC, itype := EV_KEY, icode := 30, ivalue := 1 }

def pressedKey : InputEvent :=
  { type := EV_KEY, code := 30, value := 1 }

end InputServer
