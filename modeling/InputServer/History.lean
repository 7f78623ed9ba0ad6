import InputServer.Library.Trace
import InputServer.World

namespace InputServer
set_option autoImplicit true

/-- An event that is no message about the device slot. -/
def InputEvent.Plain (e : InputEvent) : Prop :=
  e.type ≠ EV_DEV

/-- What the daemon does of its own: no client and no plugin is accepted, and no record. -/
def Happening.Internal : Happening → Prop
  | .vkbd _ _ => True
  | .message _ _ (.input _) _ => True
  | .switched _ => True
  | .reclaimed _ => True
  | _ => False

/-- The messages that make up a guest's view of its device slot. -/
def devslotStep (d : DomPtr) (slot : Option Int32) : Happening → Option Int32
  | .client d' _ => if d' = d then none else slot
  | .message d' _ _ e =>
    if d' = d ∧ e.type = EV_DEV ∧ e.code = DEV_SET then some e.value else slot
  | _ => slot

/-- The value of the last DEV_SET sent to the client that `d` has now. -/
def devslot (d : DomPtr) (log : List Happening) : Option Int32 :=
  log.foldl (devslotStep d) none

def pluginSlotStep (slot : Option Int32) : Happening → Option Int32
  | .accepted => none
  | .record r => if r.itype = EV_DEV ∧ r.icode = DEV_SET then some r.ivalue.toInt32 else slot
  | _ => slot

/-- The value of the last DEV_SET record of the plugin that is connected. -/
def pluginSlot (log : List Happening) : Option Int32 :=
  log.foldl pluginSlotStep none

def selectedStep (domid : Option Int) : Happening → Option Int
  | .accepted => none
  | .selected domid => some domid
  | _ => domid

/-- The domid of the last VM_SEND_TO record that was accepted. -/
def lastSelected (log : List Happening) : Option Int :=
  log.foldl selectedStep none

def switchedStep (domid : Option Int) : Happening → Option Int
  | .switched domid => some domid
  | _ => domid

/-- The domid of the last domain that the focus was switched to. -/
def lastSwitched (log : List Happening) : Option Int :=
  log.foldl switchedStep none

@[simp] theorem devslot_snoc (d : DomPtr) (log : List Happening) (h : Happening) :
    devslot d (log ++ [h]) = devslotStep d (devslot d log) h := by
  simp only [devslot, List.foldl_append, List.foldl_cons, List.foldl_nil]

@[simp] theorem pluginSlot_snoc (log : List Happening) (h : Happening) :
    pluginSlot (log ++ [h]) = pluginSlotStep (pluginSlot log) h := by
  simp only [pluginSlot, List.foldl_append, List.foldl_cons, List.foldl_nil]

@[simp] theorem lastSelected_snoc (log : List Happening) (h : Happening) :
    lastSelected (log ++ [h]) = selectedStep (lastSelected log) h := by
  simp only [lastSelected, List.foldl_append, List.foldl_cons, List.foldl_nil]

@[simp] theorem lastSwitched_snoc (log : List Happening) (h : Happening) :
    lastSwitched (log ++ [h]) = switchedStep (lastSwitched log) h := by
  simp only [lastSwitched, List.foldl_append, List.foldl_cons, List.foldl_nil]

/-- An event reached a guest that was told the slot it comes from. -/
def MessageCoherent (log : List Happening) : Happening → Prop
  | .message d _ source e => e.Plain → match source with
    | .input slot => devslot d log = some slot
    | .plugin => devslot d log ≠ none ∧ ∀ slot, pluginSlot log = some slot →
        devslot d log = some slot
  | _ => True

/-- Every event that a guest got was preceded by a DEV_SET, and the last one names the slot of the
event's source. -/
abbrev SlotCoherent : List Happening → Prop :=
  Throughout MessageCoherent

/-- A record of the plugin reached a guest that the plugin had chosen. -/
def MessageChosen (log : List Happening) : Happening → Prop
  | .message _ guest .plugin _ => lastSelected log = some guest
  | _ => True

/-- Every record of the plugin that a guest got was sent to the domid that the plugin named
last. -/
abbrev SelectionRespected : List Happening → Prop :=
  Throughout MessageChosen

end InputServer
