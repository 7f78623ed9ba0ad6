import InputServer.PluginOutput

namespace InputServer
open Program
set_option autoImplicit true

variable {F : Type} {w w' : World F} {o : Op} {r : EventRecord} {d : DomPtr} {guest : Int}

/-- The guest that gets a record has been told a slot, and its entry has the slot that the plugin
named last. -/
def Op.SlotSafe (w : World F) (o : Op) : Prop :=
  ∀ r, o = .pluginRecord r → r.itype ≠ EV_DEV → ∀ d guest, ForwardsTo w r d guest →
    devslot d w.log ≠ none ∧
      ∀ slot, pluginSlot w.log = some slot → (w.domains d).lastDevslot = slot

theorem devSetMessage_coherent (log : List Happening) (d : DomPtr) (guest : Int) (source : Source)
    (slot : Int32) : MessageCoherent log (devSetMessage d guest source slot) :=
  fun hplain => absurd rfl hplain

theorem record_coherent (hcoherent : SlotCoherent w.log) :
    SlotCoherent (w.log ++ [.record r]) := by
  have hone : MessageCoherent w.log (.record r) := trivial
  exact hcoherent.snoc hone

/-- A record that a guest gets is coherent where the guest's entry has the plugin's slot. -/
theorem forwarded_coherent_iff (hw : Tracked w) (hsent : ForwardsTo w r d guest) :
    MessageCoherent (w.log ++ [.record r])
        (.message d guest .plugin { type := r.itype, code := r.icode, value := r.ivalue.toInt32 }) ↔
      (Op.pluginRecord r).SlotSafe w := by
  have hsome : (w.domains d).client ≠ none := by
    rw [hsent.client]
    exact Option.some_ne_none guest
  have htold (hknown : devslot d w.log ≠ none) :
      devslot d w.log = some (w.domains d).lastDevslot :=
    (hw.devslot d hsome).resolve_right fun h => hknown h.1
  have hdevslot : devslot d (w.log ++ [.record r]) = devslot d w.log := devslot_snoc ..
  have hslot (hevent : r.itype ≠ EV_DEV) :
      pluginSlot (w.log ++ [.record r]) = pluginSlot w.log := by
    rw [pluginSlot_snoc, pluginSlotStep, if_neg fun h => hevent h.1]
  constructor
  · intro h r' heq hevent d' guest' hsent'
    cases heq
    cases hsent.dest.symm.trans hsent'.dest
    obtain ⟨hknown, hnamed⟩ := h hevent
    rw [hdevslot] at hknown hnamed
    rw [hslot hevent] at hnamed
    refine ⟨hknown, fun slot hslot => ?_⟩
    exact Option.some.inj ((htold hknown).symm.trans (hnamed slot hslot))
  · intro h hevent
    obtain ⟨hknown, hnamed⟩ := h r rfl hevent d guest hsent
    rw [hdevslot, hslot hevent]
    refine ⟨hknown, fun slot hslot => ?_⟩
    rw [htold hknown, hnamed slot hslot]

theorem record_coherent_iff (hw : Tracked w) (hdone : RecordDone r w w') :
    SlotCoherent w'.log ↔ SlotCoherent w.log ∧ (Op.pluginRecord r).SlotSafe w := by
  have hunsent (h : ∀ d guest, ¬ForwardsTo w r d guest) : (Op.pluginRecord r).SlotSafe w := by
    intro r' heq _ d guest hsent
    cases heq
    exact absurd hsent (h d guest)
  cases hdone with
  | quiet unsent dest log =>
    rw [log]
    constructor
    · exact fun h => ⟨h.of_append, hunsent unsent⟩
    · exact fun h => record_coherent h.1
  | selected d selects dest found log =>
    have hsafe : (Op.pluginRecord r).SlotSafe w := hunsent fun _ _ h => h.event selects.1
    have hselected {log : List Happening} (h : SlotCoherent log) :
        SlotCoherent (log ++ [.selected r.ivalue.toInt32.toInt]) := by
      have hone : MessageCoherent log (.selected r.ivalue.toInt32.toInt) := trivial
      exact h.snoc hone
    obtain log | ⟨guest, slot, _, log⟩ := log
    · rw [log]
      constructor
      · exact fun h => ⟨h.of_append, hsafe⟩
      · intro h
        have hboth := hselected (record_coherent (r := r) h.1)
        rw [List.append_assoc] at hboth
        exact hboth
    · rw [log]
      constructor
      · exact fun h => ⟨h.of_append, hsafe⟩
      · intro h
        have hall := (hselected (record_coherent (r := r) h.1)).snoc
          (devSetMessage_coherent _ d guest .plugin slot)
        rw [List.append_assoc, List.append_assoc] at hall
        exact hall
  | forwarded d guest sent dest log =>
    have hall : w'.log = (w.log ++ [.record r]) ++ [.message d guest .plugin
        { type := r.itype, code := r.icode, value := r.ivalue.toInt32 }] := by
      rw [log, List.append_assoc]
      rfl
    rw [hall]
    constructor
    · intro h
      obtain ⟨hbefore, hone⟩ := h.of_snoc
      exact ⟨hbefore.of_append, (forwarded_coherent_iff hw sent).1 hone⟩
    · intro h
      exact (record_coherent h.1).snoc ((forwarded_coherent_iff hw sent).2 h.2)

theorem op_coherent_iff (hw : Tracked w) (hdone : OpDone w w' o) :
    SlotCoherent w'.log ↔ SlotCoherent w.log ∧ o.SlotSafe w := by
  cases hdone with
  | beside unplugged done =>
    obtain ⟨new, hlog, _⟩ := done.log
    constructor
    · intro h
      rw [hlog] at h
      refine ⟨h.of_append, fun r heq => ?_⟩
      rw [heq] at unplugged
      exact absurd trivial unplugged
    · exact fun h => done.coherent h.1
  | accepted s2 dest log =>
    rw [log]
    constructor
    · exact fun h => ⟨h.of_append, nofun⟩
    · intro h
      have hone : MessageCoherent w.log .accepted := trivial
      exact h.1.snoc hone
  | refused s2 same =>
    rw [same]
    exact ⟨fun h => ⟨h, nofun⟩, fun h => h.1⟩
  | processed r client done => exact record_coherent_iff hw done

def setSlot (slot : UInt32) : EventRecord :=
  { magic := MAGIC, itype := EV_DEV, icode := DEV_SET, ivalue := slot }

/-- A plugin sends a key to the only domain, under the slot that it names. -/
def namedSlot : List Op :=
  [.pluginAccept 4, .rpcConnect 5 false, .pluginRecord (sendTo 5), .pluginRecord (setSlot 1),
    .pluginRecord pressKey]

/-- A device's key comes before another key of the plugin. -/
def sharedSlot : List Op :=
  namedSlot ++ [.inputSend firstEntry 2 pressedKey, .pluginRecord pressKey]

def namedSlotLog : List Happening :=
  [.accepted, .client firstEntry 5, .switched 5,
    devSetMessage firstEntry 5 (.input INPUTSLOT_INVALID) INPUTSLOT_INVALID,
    .record (sendTo 5), .selected 5, .record (setSlot 1), devSetMessage firstEntry 5 .plugin 1,
    .record pressKey, .message firstEntry 5 .plugin pressedKey]

theorem sharedSlot_valid (o : Op) (ho : o ∈ sharedSlot) (w : World F) : o.Valid w := by
  simp only [sharedSlot, namedSlot, List.cons_append, List.nil_append, List.mem_cons,
    List.not_mem_nil, or_false] at ho
  obtain rfl | rfl | rfl | rfl | rfl | rfl | rfl := ho
  case inr.inr.inr.inr.inr.inl => exact ⟨by decide, (by decide : EV_KEY ≠ EV_DEV)⟩
  all_goals trivial

theorem namedSlot_logged :
    (Op.reached 5 namedSlot (startWorld (fun _ => told "1") [])).log = namedSlotLog := by
  decide +kernel

theorem pluginSlot_all_iff (d : DomPtr) (log : List Happening) :
    (pluginSlot log).all (fun slot => devslot d log = some slot) = true ↔
      ∀ slot, pluginSlot log = some slot → devslot d log = some slot := by
  rw [Option.all_eq_true]
  exact forall₂_congr fun _ _ => decide_eq_true_iff

instance (log : List Happening) : ∀ h, Decidable (MessageCoherent log h)
  | .message d _ (.input slot) e =>
    inferInstanceAs (Decidable (e.type ≠ EV_DEV → devslot d log = some slot))
  | .message d _ .plugin e =>
    haveI := decidable_of_iff _ (pluginSlot_all_iff d log)
    inferInstanceAs (Decidable (e.type ≠ EV_DEV → devslot d log ≠ none ∧
      ∀ slot, pluginSlot log = some slot → devslot d log = some slot))
  | .vkbd _ _ | .client _ _ | .accepted | .record _ | .selected _ | .switched _ | .reclaimed _ =>
    inferInstanceAs (Decidable True)

end InputServer
