import InputServer.SocketEvents

namespace InputServer
open Program
open SockPlugin (Emits Live SameConnection)
set_option autoImplicit true

/-- A call that sends to the plugin, with the answers `send` gives during it. -/
inductive PluginCall where
  | event (slot : Int32) (e : InputEvent) (sends : List SendOutcome)
  | device (code : UInt16) (value : Int32) (sends : List SendOutcome)
  | error (code : UInt32) (type domain : UInt8) (sends : List SendOutcome)

/-- What happened to the plugin's client: a record that is no event, an event passed for a slot, or
an event passed for a slot that was not sent. -/
inductive Item where
  | control (r : EventRecord)
  | event (slot : Int32) (r : EventRecord)
  | lost (slot : Int32)
deriving DecidableEq

structure Session where
  plugin : SockPlugin
  history : List Item

namespace PluginCall

def sends : PluginCall → List SendOutcome
  | event _ _ sends => sends
  | device _ _ sends => sends
  | error _ _ _ sends => sends

/-- The call itself, and whether its event went out. -/
def run : PluginCall → SockM Bool
  | event slot e _ => sendPluginEvent slot e
  | device code value _ => do
    sendPluginDevEvent code value
    pure true
  | error code type domain _ => do
    sendError code type domain
    pure true

/-- The items of a call in which the socket took `rs`; a sent event is the last record. -/
def items : PluginCall → Bool → List EventRecord → List Item
  | event slot _ _, true, rs => rs.dropLast.map .control ++ rs.getLast?.toList.map (.event slot)
  | event slot _ _, false, rs => rs.map .control ++ [.lost slot]
  | _, _, rs => rs.map .control

/-- Answers that do not end the connection, an event of a kernel device and its slot, or a device
request. -/
def Valid (c : PluginCall) : Prop :=
  .fatal ∉ c.sends ∧ match c with
    | event slot e _ => slot ≠ INPUTSLOT_INVALID ∧ e.type ≠ EV_DEV
    | device code _ _ => code = DEV_CONF ∨ code = DEV_RESET
    | error .. => True

end PluginCall

/-- The records taken from `p` to `p'`, read off the stream. -/
def recordsBetween (p p' : SockPlugin) : List EventRecord :=
  decodeRecords (p'.stream.drop p.stream.length)

/-- The plugin as a call finds it. -/
abbrev PluginCall.start (c : PluginCall) (σ : Session) : SockPlugin :=
  { σ.plugin with sends := c.sends }

def callStep (σ : Session) (c : PluginCall) : Except Fault Session := do
  let (out, p') ← c.run (c.start σ)
  pure { plugin := p', history := σ.history ++ c.items out (recordsBetween (c.start σ) p') }

/-- A session on a connection that was just accepted. -/
def acceptedSession (p : SockPlugin) (s2 : Int) : Session :=
  { plugin := acceptedPlugin p s2, history := [] }

/-- Runs of valid calls, each made in a state that satisfies `C`. -/
def CallRun (C : PluginCall → Session → Prop) (σ₀ : Session) : List PluginCall → Session → Prop :=
  Run (fun c σ σ' => c.Valid ∧ C c σ ∧ callStep σ c = .ok σ') σ₀

/-- What the client knows: the slot last named by a DEV_SET, and for the proofs the slots that have
lost an event without a SYN_DROPPED since. -/
structure View where
  current : Option UInt32
  owed : List Int32

namespace View

def receive (v : View) (r : EventRecord) : View :=
  if r.itype = EV_DEV ∧ r.icode = DEV_SET then { v with current := some r.ivalue }
  else if r.itype = EV_SYN ∧ r.icode = SYN_DROPPED then
    { v with owed := v.owed.filter fun s => v.current ≠ some s.toUInt32 }
  else v

def item (v : View) : Item → View
  | .control r => v.receive r
  | .event _ r => v.receive r
  | .lost slot => { v with owed := slot :: v.owed }

def ofHistory (h : List Item) : View :=
  h.foldl item { current := none, owed := [] }

theorem ofHistory_append (h : List Item) (items : List Item) :
    ofHistory (h ++ items) = items.foldl item (ofHistory h) := by
  rw [ofHistory, List.foldl_append, ofHistory]

theorem foldl_control (v : View) (rs : List EventRecord) :
    (rs.map Item.control).foldl item v = rs.foldl receive v := by
  rw [List.foldl_map]
  rfl

theorem foldl_quiet {rs : List EventRecord} (v : View) (hrs : ∀ r ∈ rs, Quiet r) :
    rs.foldl receive v = v := by
  induction rs generalizing v with
  | nil => rfl
  | cons r rs ih =>
    have hr := hrs r List.mem_cons_self
    rw [List.foldl_cons, receive, if_neg hr.slot, if_neg hr.loss]
    exact ih v fun r hr => hrs r (List.mem_cons_of_mem _ hr)

end View

/-- The client's slot is the daemon's. -/
def View.Selects (v : View) (p : SockPlugin) : Prop :=
  v.current = if p.slot = INPUTSLOT_INVALID then none else some p.slot.toUInt32

/-- A loss of the slot will be announced before its next event. -/
def Remembered (p : SockPlugin) (s : Int32) : Prop :=
  (s = p.slot ∧ p.dropped = true) ∨ (s ≠ p.slot ∧ p.slotDropped = true)

def View.Owes (v : View) (p : SockPlugin) : Prop :=
  ∀ s ∈ v.owed, s ≠ INPUTSLOT_INVALID ∧ Remembered p s

theorem toUInt32_inj {a b : Int32} (h : a.toUInt32 = b.toUInt32) : a = b :=
  congrArg UInt32.toInt32 h

theorem View.receive_devSet (v : View) (slot : Int32) :
    v.receive (devSet slot) = { v with current := some slot.toUInt32 } :=
  if_pos ⟨rfl, rfl⟩

theorem View.receive_synDropped (v : View) :
    v.receive synDropped =
      { v with owed := v.owed.filter fun s => v.current ≠ some s.toUInt32 } := by
  rw [View.receive, if_neg, if_pos]
  · exact ⟨rfl, rfl⟩
  · intro h
    exact absurd h.1 (by decide)

theorem View.foldl_synIf (v : View) (d : Bool) :
    ((synIf d).foldl View.receive v).current = v.current ∧
      (∀ s ∈ ((synIf d).foldl View.receive v).owed, s ∈ v.owed) ∧
      (d = true → ∀ s ∈ ((synIf d).foldl View.receive v).owed, v.current ≠ some s.toUInt32) := by
  cases d with
  | false => exact ⟨rfl, fun s hs => hs, fun h => by cases h⟩
  | true =>
    have hfold : (synIf true).foldl View.receive v = v.receive synDropped := rfl
    rw [hfold, View.receive_synDropped]
    refine ⟨rfl, ?_, ?_⟩
    · intro s hs
      exact (List.mem_filter.mp hs).1
    · intro _ s hs
      exact of_decide_eq_true (List.mem_filter.mp hs).2

theorem View.Selects.current {v : View} (h : v.Selects p) (hs : p.slot ≠ INPUTSLOT_INVALID) :
    v.current = some p.slot.toUInt32 := by
  rw [h, if_neg hs]

theorem View.Selects.of_eq {v v' : View} (h : v.Selects p) (hv : v'.current = v.current)
    (hp : p'.slot = p.slot) : v'.Selects p' := by
  rw [View.Selects, hv, hp]
  exact h

theorem Tail.current (h : Tail d out rs d') (v : View) :
    (rs.foldl View.receive v).current = v.current := by
  cases h with
  | delivered => exact (v.foldl_synIf d).1
  | refused => exact (v.foldl_synIf d).1
  | blocked => rfl

/-- The tail of a call for the selected slot: the losses it leaves are remembered. -/
theorem Tail.owed {slot : Int32} {v : View} (h : Tail d out rs d')
    (hcur : v.current = some slot.toUInt32) (howed : slot ∈ v.owed → d = true) :
    (∀ s ∈ (rs.foldl View.receive v).owed, s ∈ v.owed) ∧
      (slot ∈ (rs.foldl View.receive v).owed → d' = true) ∧
      (out = true → slot ∉ (rs.foldl View.receive v).owed) := by
  have hsyn : slot ∉ ((synIf d).foldl View.receive v).owed := by
    intro hmem
    obtain ⟨_, hsub, hclear⟩ := v.foldl_synIf d
    exact hclear (howed (hsub slot hmem)) slot hmem hcur
  cases h with
  | delivered =>
    obtain ⟨_, hsub, _⟩ := v.foldl_synIf d
    exact ⟨hsub, fun hmem => absurd hmem hsyn, fun _ => hsyn⟩
  | refused =>
    obtain ⟨_, hsub, _⟩ := v.foldl_synIf d
    exact ⟨hsub, fun _ => rfl, nofun⟩
  | blocked => exact ⟨fun s hs => hs, fun _ => rfl, nofun⟩

/-- One call keeps the client's slot in step, and its event goes out under its own slot. -/
theorem EventOutcome.selects {v : View} (h : EventOutcome slot p p' out rs) (hv : v.Selects p)
    (hslot : slot ≠ INPUTSLOT_INVALID) :
    (rs.foldl View.receive v).Selects p' ∧ (out = true → p'.slot = slot) := by
  cases h with
  | pending hq hs hd hsd =>
    rw [View.foldl_quiet v hq]
    exact ⟨hv.of_eq rfl hs, nofun⟩
  | current hq heq hs htail hsd =>
    rw [List.foldl_append, View.foldl_quiet v hq]
    exact ⟨hv.of_eq (htail.current v) (hs.trans heq.symm), fun _ => hs⟩
  | switched hq hne hs htail hsd =>
    rw [List.foldl_append, View.foldl_quiet v hq, List.foldl_append, List.foldl_append]
    refine ⟨?_, fun _ => hs⟩
    rw [View.Selects, htail.current, hs, if_neg hslot]
    exact congrArg View.current (View.receive_devSet _ slot)
  | missed hq hne hs hrs hd hsd =>
    rw [List.foldl_append, View.foldl_quiet v hq]
    refine ⟨?_, nofun⟩
    rcases hrs with rfl | rfl
    · exact hv.of_eq rfl hs
    · exact hv.of_eq (v.foldl_synIf p.dropped).1 hs

/-- Where no third slot is owed a SYN_DROPPED, one call announces the losses of its slot before the
event and remembers the others. -/
theorem EventOutcome.owes {v : View} (h : EventOutcome slot p p' out rs) (hv : v.Selects p)
    (hslot : slot ≠ INPUTSLOT_INVALID) (howes : v.Owes p)
    (hthird : ∀ s ∈ v.owed, s = slot ∨ s = p.slot) :
    (rs.foldl View.receive v).Owes p' ∧
      (out = true → slot ∉ (rs.foldl View.receive v).owed) ∧
      (out = false → Remembered p' slot) := by
  cases h with
  | pending hq hs hd hsd =>
    rw [View.foldl_quiet v hq]
    have keep : ∀ s, Remembered p s → Remembered p' s := by
      rintro s (⟨hsp, hdr⟩ | ⟨hsp, hsdr⟩)
      · refine .inl ⟨hsp.trans hs.symm, ?_⟩
        rw [hd, hdr, ite_self]
      · refine .inr ⟨hs ▸ hsp, ?_⟩
        rw [hsd, hsdr, ite_self]
    refine ⟨fun s hmem => ⟨(howes s hmem).1, keep s (howes s hmem).2⟩, nofun, fun _ => ?_⟩
    by_cases heq : p.slot = slot
    · exact .inl ⟨(hs.trans heq).symm, hd.trans (if_pos heq)⟩
    · exact .inr ⟨fun h => heq (hs ▸ h.symm), hsd.trans (if_neg heq)⟩
  | current hq heq hs htail hsd =>
    rw [List.foldl_append, View.foldl_quiet v hq]
    have hcur : v.current = some slot.toUInt32 := heq ▸ hv.current (heq ▸ hslot)
    have howed : slot ∈ v.owed → p.dropped = true := by
      intro hmem
      rcases (howes slot hmem).2 with ⟨_, hdr⟩ | ⟨hne, _⟩
      · exact hdr
      · exact absurd heq.symm hne
    obtain ⟨hsub, hd, hout⟩ := htail.owed hcur howed
    refine ⟨?_, hout, fun ho => .inl ⟨hs.symm, htail.dropped_of_refused ho⟩⟩
    intro s hmem
    obtain ⟨hvalid, hrem⟩ := howes s (hsub s hmem)
    refine ⟨hvalid, ?_⟩
    by_cases hsl : s = slot
    · exact .inl ⟨hsl.trans hs.symm, hd (hsl ▸ hmem)⟩
    · rcases hrem with ⟨hsp, _⟩ | ⟨_, hsdr⟩
      · exact absurd (hsp.trans heq) hsl
      · exact .inr ⟨hs ▸ hsl, hsd.trans hsdr⟩
  | switched hq hne hs htail hsd =>
    rw [List.foldl_append, View.foldl_quiet v hq, List.foldl_append, List.foldl_append]
    obtain ⟨_, hsub, hclear⟩ := v.foldl_synIf p.dropped
    generalize hv' : (synIf p.dropped).foldl View.receive v = v' at hsub hclear
    -- the losses of the slot left behind are announced before the new one is named
    have honly : ∀ s ∈ v'.owed, s = slot := by
      intro s hmem
      obtain ⟨hvalid, hrem⟩ := howes s (hsub s hmem)
      rcases hthird s (hsub s hmem) with hsl | hsp
      · exact hsl
      · rcases hrem with ⟨_, hdr⟩ | ⟨hnp, _⟩
        · refine absurd ?_ (hclear hdr s hmem)
          rw [hv.current (hsp ▸ hvalid), hsp]
        · exact absurd hsp hnp
    have howed : slot ∈ v'.owed → p.slotDropped = true := by
      intro hmem
      rcases (howes slot (hsub slot hmem)).2 with ⟨hsp, _⟩ | ⟨_, hsdr⟩
      · exact absurd hsp.symm hne
      · exact hsdr
    have hset : [devSet slot].foldl View.receive v' = { v' with current := some slot.toUInt32 } :=
      v'.receive_devSet slot
    rw [hset]
    have hcur : ({ v' with current := some slot.toUInt32 } : View).current =
        some slot.toUInt32 := rfl
    obtain ⟨hsub', hd, hout⟩ := htail.owed hcur howed
    refine ⟨?_, hout, fun ho => .inl ⟨hs.symm, htail.dropped_of_refused ho⟩⟩
    intro s hmem
    have hsl : s = slot := honly s (hsub' s hmem)
    exact ⟨hsl ▸ hslot, .inl ⟨hsl.trans hs.symm, hd (hsl ▸ hmem)⟩⟩
  | missed hq hne hs hrs hd hsd =>
    have all : ∀ s, Remembered p' s := by
      intro s
      by_cases hsl : s = p'.slot
      · exact .inl ⟨hsl, hd⟩
      · exact .inr ⟨hsl, hsd⟩
    rw [List.foldl_append, View.foldl_quiet v hq]
    refine ⟨?_, nofun, fun _ => all slot⟩
    intro s hmem
    refine ⟨?_, all s⟩
    rcases hrs with rfl | rfl
    · exact (howes s hmem).1
    · exact (howes s ((v.foldl_synIf p.dropped).2.1 s hmem)).1

theorem recordsBetween_eq (h : Emits p p' rs) : recordsBetween p p' = rs := by
  rw [recordsBetween, h.stream, List.drop_left, decodeRecords, decode_encode h.magic]

/-- The connection is open and the queue is allocated, whatever `send` will answer. -/
def Ready (p : SockPlugin) : Prop :=
  p.Connected ∧ p.devFreed = false

theorem Ready.live {os : List SendOutcome} (h : Ready p) (hs : .fatal ∉ os) : Live { p with sends := os } :=
  ⟨h.1.withSends hs, h.2⟩

theorem ready_of_live (h : Live p) : Ready p :=
  ⟨h.toConnected, h.queue⟩

/-- A call for another slot than the selected one goes on refusing once it has refused. -/
def KeepsRefusing : PluginCall → Session → Prop
  | .event slot _ sends, σ =>
    σ.plugin.slot = slot ∨ Line.Steady { delayed := σ.plugin.delayed, sends := sends }
  | _, _ => True

/-- The items of one event call, from the records before its event. -/
def eventItems (slot : Int32) (e : InputEvent) (out : Bool) (rs : List EventRecord) : List Item :=
  rs.map .control ++ [if out then .event slot (eventRecord e) else .lost slot]

theorem callStep_eq {c : PluginCall}
    (h : c.run (c.start σ) = .ok (out, p')) : callStep σ c = .ok
      { plugin := p', history := σ.history ++ c.items out (recordsBetween (c.start σ) p') } := by
  rw [callStep, h]
  rfl

theorem callStep_event (hready : Ready σ.plugin) (hc : (PluginCall.event slot e os).Valid)
    (hkeep : KeepsRefusing (.event slot e os) σ) :
    ∃ out p' rs, callStep σ (.event slot e os) =
        .ok { plugin := p', history := σ.history ++ eventItems slot e out rs } ∧
      Live p' ∧ EventOutcome slot ((PluginCall.event slot e os).start σ) p' out rs := by
  obtain ⟨out, p', hrun, rs, hemits, hout⟩ := sendPluginEvent_spec (hready.live hc.1) slot e hkeep
  refine ⟨out, p', rs, ?_, hemits.live, hout⟩
  rw [callStep_eq (c := .event slot e os) hrun, recordsBetween_eq hemits]
  cases out with
  | true =>
    simp only [PluginCall.items, if_true, List.dropLast_concat, List.getLast?_concat, eventItems,
      Option.toList_some, List.map_cons, List.map_nil]
  | false =>
    simp only [PluginCall.items, Bool.false_eq_true, if_false, List.append_nil, eventItems]

theorem callStep_quiet {c : PluginCall} (hother : ∀ slot e os, c ≠ .event slot e os)
    (h : wp c.run (fun _ p' => Pends (c.start σ) p') (c.start σ)) :
    ∃ (p' : SockPlugin) (rs : List EventRecord), callStep σ c =
        .ok { plugin := p', history := σ.history ++ rs.map .control } ∧
      Live p' ∧ (∀ r ∈ rs, Quiet r) ∧ SockPlugin.SameSlots σ.plugin p' := by
  obtain ⟨out, p', hrun, rs, hq, hemits, hs⟩ := h
  refine ⟨p', rs, ?_, hemits.live, hq, ⟨hs.slot, hs.dropped, hs.slotDropped⟩⟩
  rw [callStep_eq hrun, recordsBetween_eq hemits]
  cases c with
  | event slot e os => exact absurd rfl (hother slot e os)
  | device code value os => rfl
  | error code type domain os => rfl

/-- A call that passes no event sends quiet records only. -/
theorem callStep_other {c : PluginCall} (hready : Ready σ.plugin) (hc : c.Valid)
    (hother : ∀ slot e os, c ≠ .event slot e os) :
    ∃ (p' : SockPlugin) (rs : List EventRecord), callStep σ c =
        .ok { plugin := p', history := σ.history ++ rs.map .control } ∧
      Live p' ∧ (∀ r ∈ rs, Quiet r) ∧ SockPlugin.SameSlots σ.plugin p' := by
  have hlive : Live (c.start σ) := hready.live hc.1
  refine callStep_quiet hother ?_
  cases c with
  | event slot e os => exact absurd rfl (hother slot e os)
  | device code value os =>
    have hcode : code ≠ DEV_SET := by
      rcases hc.2 with h | h
      · rw [h]
        decide
      · rw [h]
        decide
    simp only [PluginCall.run, wp_bind, wp_pure]
    exact sendPluginDevEventAt_pends 1 hlive hcode value (fun h => by cases h)
  | error code type domain os =>
    simp only [PluginCall.run, wp_bind, wp_pure]
    exact sendError_pends hlive code type domain

namespace Item

/-- The record the client receives, for an item that is one. -/
def record? : Item → Option EventRecord
  | control r => some r
  | event _ r => some r
  | lost _ => none

/-- The client receives a SYN_DROPPED. -/
def Announces (i : Item) : Prop :=
  ∃ r, i.record? = some r ∧ r.itype = EV_SYN ∧ r.icode = SYN_DROPPED

end Item

/-- Every event was passed for the slot named by the last DEV_SET before it. -/
def Attributed (h : List Item) : Prop :=
  ∀ h₁ slot r h₂, h = h₁ ++ .event slot r :: h₂ →
    (View.ofHistory h₁).current = some slot.toUInt32

/-- Between a lost event and any later event of its slot, a SYN_DROPPED is received while the slot
is the client's current one. -/
def Announced (h : List Item) : Prop :=
  ∀ h₁ slot h₂ r h₃, h = h₁ ++ .lost slot :: (h₂ ++ .event slot r :: h₃) →
    ∃ a i b, h₂ = a ++ i :: b ∧ i.Announces ∧
      (View.ofHistory (h₁ ++ .lost slot :: a)).current = some slot.toUInt32

/-- `P` holds of every event of the history and what precedes it. -/
def EveryEvent (P : List Item → Int32 → Prop) (h : List Item) : Prop :=
  ∀ h₁ slot r h₂, h = h₁ ++ .event slot r :: h₂ → P h₁ slot

theorem EveryEvent.snoc {P : List Item → Int32 → Prop} (h : EveryEvent P hist)
    (hi : ∀ slot r, i = .event slot r → P hist slot) : EveryEvent P (hist ++ [i]) := by
  intro h₁ slot r h₂ heq
  rcases List.eq_nil_or_concat h₂ with rfl | ⟨h₂', j, rfl⟩
  · obtain ⟨rfl, hlast⟩ := List.append_inj' heq rfl
    exact hi slot r (List.singleton_inj.mp hlast)
  · rw [List.concat_eq_append, ← List.cons_append, ← List.append_assoc] at heq
    obtain ⟨hinit, _⟩ := List.append_inj' heq rfl
    exact h h₁ slot r h₂' hinit

theorem EveryEvent.append_control {P : List Item → Int32 → Prop} (h : EveryEvent P hist)
    (rs : List EventRecord) : EveryEvent P (hist ++ rs.map .control) := by
  induction rs using List.reverseRecOn with
  | nil =>
    rw [List.map_nil, List.append_nil]
    exact h
  | append_singleton rs r ih =>
    rw [List.map_append, ← List.append_assoc]
    exact ih.snoc nofun

theorem View.receive_event (v : View) (he : e.type ≠ EV_DEV) :
    (v.receive (eventRecord e)).current = v.current ∧
      ∀ s ∈ (v.receive (eventRecord e)).owed, s ∈ v.owed := by
  rw [View.receive, if_neg fun h => he h.1]
  by_cases hd : (eventRecord e).itype = EV_SYN ∧ (eventRecord e).icode = SYN_DROPPED
  · rw [if_pos hd]
    exact ⟨rfl, fun s hs => (List.mem_filter.mp hs).1⟩
  · rw [if_neg hd]
    exact ⟨rfl, fun s hs => hs⟩

/-- The client's view after the items of an event call. -/
theorem View.ofHistory_eventItems (h : List Item) (slot : Int32) (e : InputEvent) (out : Bool)
    (rs : List EventRecord) :
    View.ofHistory (h ++ eventItems slot e out rs) =
      (rs.foldl View.receive (View.ofHistory h)).item
        (if out then .event slot (eventRecord e) else .lost slot) := by
  rw [View.ofHistory_append, eventItems, List.foldl_append, View.foldl_control]
  rfl

theorem View.ofHistory_quiet {rs : List EventRecord} (h : List Item) (hrs : ∀ r ∈ rs, Quiet r) :
    View.ofHistory (h ++ rs.map .control) = View.ofHistory h := by
  rw [View.ofHistory_append, View.foldl_control, View.foldl_quiet _ hrs]

/-- An event's slot is the client's current one. -/
def IsCurrent (h : List Item) (slot : Int32) : Prop :=
  (View.ofHistory h).current = some slot.toUInt32

def NotOwed (h : List Item) (slot : Int32) : Prop :=
  slot ∉ (View.ofHistory h).owed

theorem EveryEvent.append_eventItems {P : List Item → Int32 → Prop} (h : EveryEvent P hist)
    (slot : Int32) (e : InputEvent) (out : Bool) (rs : List EventRecord)
    (hout : out = true → P (hist ++ rs.map .control) slot) :
    EveryEvent P (hist ++ eventItems slot e out rs) := by
  rw [eventItems, ← List.append_assoc]
  refine (h.append_control rs).snoc ?_
  intro slot' r heq
  cases out with
  | true =>
    cases heq
    exact hout rfl
  | false => cases heq

structure InStep (σ : Session) : Prop where
  ready : Ready σ.plugin
  selects : (View.ofHistory σ.history).Selects σ.plugin
  current : EveryEvent IsCurrent σ.history

/-- One call: what the client takes for the current slot stays right, and so is its event's. -/
theorem callStep_inStep {c : PluginCall} (h : InStep σ) (hc : c.Valid) (hkeep : KeepsRefusing c σ)
    (hstep : callStep σ c = .ok σ') : InStep σ' := by
  by_cases hev : ∃ slot e os, c = .event slot e os
  · obtain ⟨slot, e, os, rfl⟩ := hev
    obtain ⟨out, p', rs, hrun, hlive, hout⟩ := callStep_event h.ready hc hkeep
    obtain rfl : _ = σ' := Except.ok.inj (hrun.symm.trans hstep)
    obtain ⟨hsel, hslot⟩ := hout.selects h.selects hc.2.1
    refine ⟨ready_of_live hlive, ?_, h.current.append_eventItems slot e out rs ?_⟩
    · rw [View.ofHistory_eventItems]
      cases out with
      | true => exact hsel.of_eq (View.receive_event _ hc.2.2).1 rfl
      | false => exact hsel.of_eq rfl rfl
    · intro ho
      rw [IsCurrent, View.ofHistory_append, View.foldl_control, ← hslot ho]
      exact hsel.current (hslot ho ▸ hc.2.1)
  · have hother : ∀ slot e os, c ≠ .event slot e os := fun slot e os h => hev ⟨slot, e, os, h⟩
    obtain ⟨p', rs, hrun, hlive, hq, hs⟩ := callStep_other h.ready hc hother
    obtain rfl : _ = σ' := Except.ok.inj (hrun.symm.trans hstep)
    refine ⟨ready_of_live hlive, ?_, h.current.append_control rs⟩
    rw [View.ofHistory_quiet _ hq]
    exact h.selects.of_eq rfl hs.slot

theorem acceptedSession_inStep {p : SockPlugin} (hp : p.partialBuffer.length = EVENT_SIZE)
    (hs : s2 ≠ -1) : InStep (acceptedSession p s2) := by
  refine ⟨⟨acceptedPlugin_connected hs hp, rfl⟩, rfl, ?_⟩
  intro h₁ slot r h₂ heq
  have hlen := congrArg List.length heq
  simp [acceptedSession] at hlen

/-- A call made in such a state returns. -/
theorem callStep_returns {c : PluginCall} (h : Ready σ.plugin) (hc : c.Valid)
    (hkeep : KeepsRefusing c σ) : ∃ σ', callStep σ c = .ok σ' := by
  by_cases hev : ∃ slot e os, c = .event slot e os
  · obtain ⟨slot, e, os, rfl⟩ := hev
    obtain ⟨_, _, _, hrun, _⟩ := callStep_event h hc hkeep
    exact ⟨_, hrun⟩
  · have hother : ∀ slot e os, c ≠ .event slot e os := fun slot e os h => hev ⟨slot, e, os, h⟩
    obtain ⟨_, _, hrun, _⟩ := callStep_other h hc hother
    exact ⟨_, hrun⟩

/-- In every run in which calls that have to select a slot go on refusing once they have refused,
each event is delivered under its own slot; and no such call is cut short. -/
theorem slot_attribution {p : SockPlugin} (hp : p.partialBuffer.length = EVENT_SIZE)
    (hs : s2 ≠ -1) (hrun : CallRun KeepsRefusing (acceptedSession p s2) cs σ) :
    Attributed σ.history ∧
      ∀ c : PluginCall, c.Valid → KeepsRefusing c σ → ∃ σ', callStep σ c = .ok σ' := by
  have hinv : InStep σ := Run.invariant (I := fun _ σ => InStep σ) hrun
    (acceptedSession_inStep hp hs)
    (fun _ c σ σ' h hstep => callStep_inStep h hstep.1 hstep.2.1 hstep.2.2)
  exact ⟨hinv.current, fun c hc hkeep => callStep_returns hinv.ready hc hkeep⟩

/-- The press of a key. -/
def keyA : InputEvent :=
  { type := EV_KEY, code := 30, value := 1 }

theorem valid_keyA {os : List SendOutcome} (hs : slot ≠ INPUTSLOT_INVALID) (ho : .fatal ∉ os) :
    (PluginCall.event slot keyA os).Valid :=
  ⟨ho, hs, by decide⟩

theorem steady_two : Line.Steady { delayed := 0, sends := [.took 11, .took 11] } :=
  .of_next rfl (.of_next rfl (Line.steady_nil 0))

/-- Two slots, the second refused for good. -/
theorem slot_attribution_twoSlots : ∃ σ, CallRun KeepsRefusing (acceptedSession idlePlugin 5)
    [.event 1 keyA [.took 11, .took 11], .event 2 keyA []] σ ∧ Attributed σ.history := by
  obtain ⟨σ, hσ⟩ : ∃ σ, callStep (acceptedSession idlePlugin 5)
      (.event 1 keyA [.took 11, .took 11]) = .ok σ := ⟨_, rfl⟩
  have hfirst : CallRun KeepsRefusing (acceptedSession idlePlugin 5)
      ([] ++ [.event 1 keyA [.took 11, .took 11]]) σ :=
    .snoc .nil ⟨valid_keyA (by decide) (by decide), .inr steady_two, hσ⟩
  obtain ⟨σ', hσ'⟩ := (slot_attribution (by decide) (by decide) hfirst).2 (.event 2 keyA [])
    (valid_keyA (by decide) (by decide)) (.inr (Line.steady_nil _))
  have hrun : CallRun KeepsRefusing (acceptedSession idlePlugin 5)
      ([.event 1 keyA [.took 11, .took 11]] ++ [.event 2 keyA []]) σ' :=
    .snoc hfirst ⟨valid_keyA (by decide) (by decide), .inr (Line.steady_nil _), hσ'⟩
  exact ⟨σ', hrun, (slot_attribution (by decide) (by decide) hrun).1⟩

/-- The DEV_SET of slot 2 is refused, the event behind it is taken. -/
def refusedSlot : List PluginCall :=
  [.event 1 keyA [.took 11, .took 11], .event 2 keyA [.again, .took 11]]

/-- A send that fails and is followed by one that succeeds delivers the event under slot 1. -/
theorem slot_attribution_fails :
    ∃ σ, CallRun (fun _ _ => True) (acceptedSession idlePlugin 5) refusedSlot σ ∧
      ¬Attributed σ.history := by
  obtain ⟨σ, hσ⟩ : ∃ σ, refusedSlot.foldlM callStep (acceptedSession idlePlugin 5) = .ok σ :=
    ⟨_, rfl⟩
  have hvalid : ∀ c ∈ refusedSlot, c.Valid := by
    intro c hc
    simp only [refusedSlot, List.mem_cons, List.not_mem_nil, or_false] at hc
    rcases hc with rfl | rfl
    · exact valid_keyA (by decide) (by decide)
    · exact valid_keyA (by decide) (by decide)
  refine ⟨σ, (Run.of_foldlM hvalid hσ).mono fun c σ σ' h => ⟨h.1, trivial, h.2⟩, ?_⟩
  have hhistory : σ.history =
      [.control (devSet 1), .event 1 (eventRecord keyA)] ++ .event 2 (eventRecord keyA) :: [] := by
    have heval : (refusedSlot.foldlM callStep (acceptedSession idlePlugin 5)).map Session.history =
        .ok [.control (devSet 1), .event 1 (eventRecord keyA), .event 2 (eventRecord keyA)] := rfl
    rw [hσ] at heval
    exact Except.ok.inj heval
  intro h
  exact absurd (h _ 2 _ _ hhistory) (by decide)

/-- No slot but the event's and the selected one has a loss that was not announced. -/
def NoThirdSlot : PluginCall → Session → Prop
  | .event slot _ _, σ => ∀ s ∈ (View.ofHistory σ.history).owed, s = slot ∨ s = σ.plugin.slot
  | _, _ => True

structure Announcing (σ : Session) : Prop extends InStep σ where
  owes : (View.ofHistory σ.history).Owes σ.plugin
  notOwed : EveryEvent NotOwed σ.history

theorem View.Owes.of_sub {v v' : View} (h : v.Owes p) (hsub : ∀ s ∈ v'.owed, s ∈ v.owed)
    (hs : SockPlugin.SameSlots p p') : v'.Owes p' := by
  intro s hmem
  obtain ⟨hvalid, hrem⟩ := h s (hsub s hmem)
  refine ⟨hvalid, ?_⟩
  rw [Remembered, hs.slot, hs.dropped, hs.slotDropped]
  exact hrem

theorem callStep_announcing {c : PluginCall} (h : Announcing σ) (hc : c.Valid)
    (hkeep : KeepsRefusing c σ) (hthird : NoThirdSlot c σ) (hstep : callStep σ c = .ok σ') :
    Announcing σ' := by
  have hin := callStep_inStep h.toInStep hc hkeep hstep
  by_cases hev : ∃ slot e os, c = .event slot e os
  · obtain ⟨slot, e, os, rfl⟩ := hev
    obtain ⟨out, p', rs, hrun, hlive, hout⟩ := callStep_event h.ready hc hkeep
    obtain rfl : _ = σ' := Except.ok.inj (hrun.symm.trans hstep)
    obtain ⟨howes, hannounced, hlost⟩ := hout.owes h.selects hc.2.1 h.owes hthird
    refine ⟨hin, ?_, h.notOwed.append_eventItems slot e out rs ?_⟩
    · rw [View.ofHistory_eventItems]
      cases out with
      | true => exact howes.of_sub (View.receive_event _ hc.2.2).2 ⟨rfl, rfl, rfl⟩
      | false =>
        intro s hmem
        cases List.mem_cons.mp hmem with
        | inl hsl => exact ⟨hsl ▸ hc.2.1, hsl ▸ hlost rfl⟩
        | inr hmem => exact howes s hmem
    · intro ho
      rw [NotOwed, View.ofHistory_append, View.foldl_control]
      exact hannounced ho
  · have hother : ∀ slot e os, c ≠ .event slot e os := fun slot e os h => hev ⟨slot, e, os, h⟩
    obtain ⟨p', rs, hrun, hlive, hq, hs⟩ := callStep_other h.ready hc hother
    obtain rfl : _ = σ' := Except.ok.inj (hrun.symm.trans hstep)
    refine ⟨hin, ?_, h.notOwed.append_control rs⟩
    rw [View.ofHistory_quiet _ hq]
    exact h.owes.of_sub (fun s hs => hs) hs

/-- A loss stays owed until a SYN_DROPPED is received under its slot. -/
theorem View.owed_or_announced (items : List Item) (v : View) (hmem : slot ∈ v.owed) :
    slot ∈ (items.foldl View.item v).owed ∨ ∃ a i b, items = a ++ i :: b ∧ i.Announces ∧
      (a.foldl View.item v).current = some slot.toUInt32 := by
  induction items generalizing v with
  | nil => exact .inl hmem
  | cons i items ih =>
    by_cases hnow : i.Announces ∧ v.current = some slot.toUInt32
    · exact .inr ⟨[], i, items, rfl, hnow⟩
    · have hreceive : ∀ r, i.record? = some r → slot ∈ (v.receive r).owed := by
        intro r hr
        rw [View.receive]
        split
        · exact hmem
        · split
          · rename_i hsyn
            refine List.mem_filter.mpr ⟨hmem, decide_eq_true ?_⟩
            exact fun hcur => hnow ⟨⟨r, hr, hsyn⟩, hcur⟩
          · exact hmem
      have hkept : slot ∈ (v.item i).owed := by
        cases i with
        | control r => exact hreceive r rfl
        | event s r => exact hreceive r rfl
        | lost s => exact List.mem_cons_of_mem _ hmem
      rcases ih (v.item i) hkept with h | ⟨a, j, b, rfl, hj, hcur⟩
      · exact .inl h
      · exact .inr ⟨i :: a, j, b, rfl, hj, hcur⟩

theorem announced_of_notOwed (h : EveryEvent NotOwed hist) : Announced hist := by
  intro h₁ slot h₂ r h₃ heq
  have hevent := h (h₁ ++ .lost slot :: h₂) slot r h₃ (by rw [heq, List.append_assoc]; rfl)
  rw [NotOwed, View.ofHistory_append] at hevent
  have howed : slot ∈ ((View.ofHistory h₁).item (.lost slot)).owed := List.mem_cons_self
  rcases View.owed_or_announced h₂ _ howed with hmem | ⟨a, i, b, heq₂, hi, hcur⟩
  · exact absurd hmem hevent
  · refine ⟨a, i, b, heq₂, hi, ?_⟩
    rw [View.ofHistory_append]
    exact hcur

/-- In every run in which calls that have to select a slot go on refusing once they have refused,
and no event is passed while a third slot has an unannounced loss, every loss is announced. -/
theorem losses_announced {p : SockPlugin} (hp : p.partialBuffer.length = EVENT_SIZE)
    (hs : s2 ≠ -1)
    (hrun : CallRun (fun c σ => KeepsRefusing c σ ∧ NoThirdSlot c σ) (acceptedSession p s2) cs σ) :
    Announced σ.history ∧
      ∀ c : PluginCall, c.Valid → KeepsRefusing c σ → ∃ σ', callStep σ c = .ok σ' := by
  have hstart : Announcing (acceptedSession p s2) := by
    refine ⟨acceptedSession_inStep hp hs, nofun, ?_⟩
    intro h₁ slot r h₂ heq
    have hlen := congrArg List.length heq
    simp [acceptedSession] at hlen
  have hinv : Announcing σ := Run.invariant (I := fun _ σ => Announcing σ) hrun hstart
    (fun _ c σ σ' h hstep => callStep_announcing h hstep.1 hstep.2.1.1 hstep.2.1.2 hstep.2.2)
  exact ⟨announced_of_notOwed hinv.notOwed,
    fun c hc hkeep => callStep_returns hinv.ready hc hkeep⟩

/-- A slot loses an event after another one was selected. -/
theorem losses_announced_twoSlots :
    ∃ σ, CallRun (fun c σ => KeepsRefusing c σ ∧ NoThirdSlot c σ) (acceptedSession idlePlugin 5)
      [.event 1 keyA [.took 11, .took 11], .event 2 keyA []] σ ∧ Announced σ.history := by
  obtain ⟨σ, hσ⟩ : ∃ σ, callStep (acceptedSession idlePlugin 5)
      (.event 1 keyA [.took 11, .took 11]) = .ok σ := ⟨_, rfl⟩
  have hfirst : CallRun (fun c σ => KeepsRefusing c σ ∧ NoThirdSlot c σ)
      (acceptedSession idlePlugin 5) ([] ++ [.event 1 keyA [.took 11, .took 11]]) σ :=
    .snoc .nil ⟨valid_keyA (by decide) (by decide), ⟨.inr steady_two, nofun⟩, hσ⟩
  have howed : (View.ofHistory σ.history).owed = [] := by
    have heval : (callStep (acceptedSession idlePlugin 5)
        (.event 1 keyA [.took 11, .took 11])).map (fun σ => (View.ofHistory σ.history).owed) =
        .ok [] := rfl
    rw [hσ] at heval
    exact Except.ok.inj heval
  have hthird : NoThirdSlot (.event 2 keyA []) σ := by
    intro s hs
    rw [howed] at hs
    cases hs
  obtain ⟨σ', hσ'⟩ := (losses_announced (by decide) (by decide) hfirst).2 (.event 2 keyA [])
    (valid_keyA (by decide) (by decide)) (.inr (Line.steady_nil _))
  have hrun : CallRun (fun c σ => KeepsRefusing c σ ∧ NoThirdSlot c σ)
      (acceptedSession idlePlugin 5)
      ([.event 1 keyA [.took 11, .took 11]] ++ [.event 2 keyA []]) σ' :=
    .snoc hfirst
      ⟨valid_keyA (by decide) (by decide), ⟨.inr (Line.steady_nil _), hthird⟩, hσ'⟩
  exact ⟨σ', hrun, (losses_announced (by decide) (by decide) hrun).1⟩

/-- Slot 2 loses an event, slot 3 is served next, then slot 2 again. -/
def forgottenLoss : List PluginCall :=
  [.event 1 keyA [.took 11, .took 11], .event 2 keyA [.again],
    .event 3 keyA [.took 11, .took 11, .took 11, .took 11], .event 2 keyA [.took 11, .took 11]]

/-- What the client gets between the loss of slot 2 and the next event of slot 2. -/
def afterLoss : List Item :=
  [.control synDropped, .control (devSet 3), .control synDropped, .event 3 (eventRecord keyA),
    .control (devSet 2)]

/-- The loss of slot 2 is credited to slot 3. -/
theorem losses_announced_fails :
    ∃ σ, CallRun (fun _ _ => True) (acceptedSession idlePlugin 5) forgottenLoss σ ∧
      ¬Announced σ.history := by
  obtain ⟨σ, hσ⟩ : ∃ σ, forgottenLoss.foldlM callStep (acceptedSession idlePlugin 5) = .ok σ :=
    ⟨_, rfl⟩
  have hvalid : ∀ c ∈ forgottenLoss, c.Valid := by
    intro c hc
    simp only [forgottenLoss, List.mem_cons, List.not_mem_nil, or_false] at hc
    rcases hc with rfl | rfl | rfl | rfl
    · exact valid_keyA (by decide) (by decide)
    · exact valid_keyA (by decide) (by decide)
    · exact valid_keyA (by decide) (by decide)
    · exact valid_keyA (by decide) (by decide)
  refine ⟨σ, (Run.of_foldlM hvalid hσ).mono fun c σ σ' h => ⟨h.1, trivial, h.2⟩, ?_⟩
  have hhistory : σ.history = [.control (devSet 1), .event 1 (eventRecord keyA)] ++
      .lost 2 :: (afterLoss ++ .event 2 (eventRecord keyA) :: []) := by
    have heval :
        (forgottenLoss.foldlM callStep (acceptedSession idlePlugin 5)).map Session.history =
        .ok ([.control (devSet 1), .event 1 (eventRecord keyA)] ++
          .lost 2 :: (afterLoss ++ .event 2 (eventRecord keyA) :: [])) := rfl
    rw [hσ] at heval
    exact Except.ok.inj heval
  intro h
  obtain ⟨a, i, b, heq, ⟨r, hr, hsyn⟩, hcur⟩ := h _ 2 _ _ _ hhistory
  have ha : a = afterLoss.take a.length := by rw [heq, List.take_left]
  have hi : afterLoss[a.length]? = some i := by
    rw [heq, List.getElem?_append_right (Nat.le_refl _), Nat.sub_self]
    rfl
  have hlt : a.length < 5 := by
    have hlen := congrArg List.length heq
    simp only [List.length_append, List.length_cons, afterLoss, List.length_nil] at hlen
    omega
  rw [ha] at hcur
  generalize a.length = n at hi hlt hcur
  interval_cases n
  · exact absurd hcur (by decide)
  · cases hi
    cases hr
    exact absurd hsyn (by decide)
  · exact absurd hcur (by decide)
  · exact absurd hcur (by decide)
  · cases hi
    cases hr
    exact absurd hsyn (by decide)

end InputServer
