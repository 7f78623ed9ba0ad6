import InputServer.Library.Program
import InputServer.Record

namespace InputServer
open Buffer
set_option autoImplicit true

/-- What the daemon can die of. -/
inductive Fault where
  | segv
  | useAfterFree
  | doubleFree
  | hang
  | sigfpe
deriving DecidableEq

/-- A `struct domain *` into the domain table. -/
abbrev DomPtr := Fin NDOMAIN_MAX

structure DevEvent where
  slot : UInt8
  remove : Bool
  add : Bool
deriving DecidableEq

/-- One answer of `send(2)`; `took k` accepts up to `k + 1` bytes. -/
inductive SendOutcome where
  | took (k : Nat)
  | eintr
  | again
  | fatal
deriving DecidableEq

/-- `struct sock_plugin` without its receive half. `devEvents` are the `deq_size` entries of
`dev_events`, and `devFreed` says that the array was freed and the pointer kept. `plugin` holds the
`plugin` fields of the domain table (true where not NULL), `sends` the answers `send(2)` will give
(none left: it would block) and `wire` the bytes the socket has accepted. -/
structure SockPlugin where
  src : Option DomPtr
  dest : Option DomPtr
  s : Int
  slot : Int32
  recivedSlot : Int32
  dropped : Bool
  slotDropped : Bool
  delayed : Nat
  partialBuffer : List UInt8
  resetall : Bool
  devEvents : List DevEvent
  devFreed : Bool
  error : UInt32
  plugin : DomPtr → Bool
  sends : List SendOutcome
  wire : List UInt8

abbrev SockM := Program Fault SockPlugin

/-- What a `send` loop ends with. -/
inductive SendResult where
  | sent (n : Nat)
  | again
  | fatal

/-- `d->plugin` cleared where `d` is not NULL. -/
def forgetPlugin (plugin : DomPtr → Bool) : Option DomPtr → DomPtr → Bool
  | none => plugin
  | some d => Function.update plugin d false

def killConnection : SockM Unit := do
  modify fun p => { p with plugin := forgetPlugin p.plugin p.src, src := none, s := -1 }
  let p ← get
  if p.devFreed then throw .doubleFree
  else modify fun p => { p with devFreed := !p.devEvents.isEmpty }

/-- The loop of `send_delayed_to_plugin` over the answers of `send`: an interrupted call is made
again, and so is one after a partial send, with the remainder moved to the front. -/
def sendDelayedLoop : List SendOutcome → SockPlugin → SendResult × SockPlugin
  | [], p => (.again, { p with sends := [] })
  | .eintr :: os, p => sendDelayedLoop os p
  | .again :: os, p => (.again, { p with sends := os })
  | .fatal :: os, p => (.fatal, { p with sends := os })
  | .took k :: os, p =>
    let r := min (k + 1) p.delayed
    let delayed := p.delayed - r
    let p := { p with
      wire := p.wire ++ slice p.partialBuffer 0 r
      delayed := delayed
      partialBuffer :=
        if delayed ≠ 0 then blit p.partialBuffer 0 (slice p.partialBuffer r delayed)
        else p.partialBuffer }
    if delayed ≠ 0 then sendDelayedLoop os p else (.sent r, { p with sends := os })

def sendDelayedToPlugin : SockM Bool := do
  let p ← get
  let (r, p) := if p.s = -1 then (.fatal, p) else sendDelayedLoop p.sends p
  set p
  match r with
  | .sent _ => pure true
  | .again => pure false
  | .fatal => do
    killConnection
    pure false

/-- `send` of a record, made again while it is interrupted. -/
def sendRecordLoop (bytes : List UInt8) : List SendOutcome → SockPlugin → SendResult × SockPlugin
  | [], p => (.again, { p with sends := [] })
  | .eintr :: os, p => sendRecordLoop bytes os p
  | .again :: os, p => (.again, { p with sends := os })
  | .fatal :: os, p => (.fatal, { p with sends := os })
  | .took k :: os, p =>
    let r := min (k + 1) bytes.length
    (.sent r, { p with sends := os, wire := p.wire ++ bytes.take r })

/-- The part of `send_to_plugin` behind the retry of an earlier partial send. -/
def sendRecord (e : EventRecord) : SockM Bool := do
  let p ← get
  let (r, p) := if p.s = -1 then (.fatal, p) else sendRecordLoop e.encode p.sends p
  set p
  match r with
  | .again => pure false
  | .fatal => do
    killConnection
    pure true
  | .sent r =>
    if r < EVENT_SIZE then do
      modify fun p => { p with
        delayed := EVENT_SIZE - r
        partialBuffer := blit p.partialBuffer 0 (slice e.encode r (EVENT_SIZE - r)) }
      let _ ← sendDelayedToPlugin
      pure true
    else pure true

/-- Sends one record whole, or refuses it whole; a partial send is delayed. -/
def sendToPlugin (e : EventRecord) : SockM Bool := do
  let p ← get
  let ready ← if p.delayed ≠ 0 then sendDelayedToPlugin else pure true
  if ready then sendRecord e else pure false

def E_BADDOMAIN : UInt32 := 0x1
def E_BADCODE : UInt32 := 0x2

def sendError (code : UInt32) (type domain : UInt8) : SockM Unit := do
  let ivalue := (code <<< 24) ||| (type.toUInt32 <<< 16) ||| (domain.toUInt32 <<< 8)
  if ← sendToPlugin (.mk' EV_VM VM_ERROR ivalue) then pure ()
  else modify fun p => if p.error = 0 then { p with error := ivalue } else p

def synDropped : EventRecord :=
  .mk' EV_SYN SYN_DROPPED 0

/-- The second half of `send_slot`, which names the slot. -/
def sendDevSet (slot : Int32) : SockM Unit := do
  if ← sendToPlugin (.mk' EV_DEV DEV_SET slot.toUInt32) then
    modify fun p => { p with slot := slot, dropped := p.slotDropped, slotDropped := false }
  else modify fun p => { p with slotDropped := true }

def sendSlot (slot : Int32) : SockM Unit := do
  let p ← get
  if p.dropped then
    if ← sendToPlugin synDropped then do
      modify fun p => { p with dropped := false }
      sendDevSet slot
    else modify fun p => { p with dropped := true, slotDropped := true }
  else sendDevSet slot

/-- `f` applied to the queue entry of a slot, where it has one. -/
def updateSlot (slot : Int32) (f : DevEvent → DevEvent) : List DevEvent → Option (List DevEvent)
  | [] => none
  | dv :: dvs =>
    if dv.slot.toUInt32 = slot.toUInt32 then some (f dv :: dvs)
    else (updateSlot slot f dvs).map (dv :: ·)

/-- Every use of the queue; the array may be gone. -/
def useQueue : SockM (List DevEvent) := do
  let p ← get
  if p.devFreed then throw .useAfterFree else pure p.devEvents

namespace DevEvent

/-- An entry that is told to announce its slot. -/
def conf (dv : DevEvent) : DevEvent :=
  { dv with add := true }

/-- An entry that is told to remove its slot; an announcement not yet sent is taken back. -/
def reset (dv : DevEvent) : DevEvent :=
  if dv.add then { dv with add := false } else { dv with remove := true }

def newConf (slot : Int32) : DevEvent :=
  { slot := slot.toUInt32.toUInt8, remove := false, add := true }

def newReset (slot : Int32) : DevEvent :=
  { slot := slot.toUInt32.toUInt8, remove := true, add := false }

end DevEvent

def addQueueDevEventConf (slot : Int32) : SockM Unit := do
  let devEvents ← useQueue
  let devEvents := (updateSlot slot .conf devEvents).getD (devEvents ++ [.newConf slot])
  modify fun p => { p with devEvents := devEvents }

def addQueueDevEventReset (slot : Int32) : SockM Unit := do
  if slot = 0xFF then modify fun p => { p with resetall := true }
  else do
    let devEvents ← useQueue
    let devEvents := (updateSlot slot .reset devEvents).getD (devEvents ++ [.newReset slot])
    modify fun p => { p with devEvents := devEvents }

/-- `f` applied to the entry `dev_events[i]`. -/
def setDevEvent (i : Nat) (f : DevEvent → DevEvent) : SockM Unit := do
  let devEvents ← useQueue
  modify fun p => { p with devEvents := devEvents.modify i f }

/-- One half of the body of `flush_queued_dev_events`: the record of a set flag, which is then
cleared. -/
def flushFlag (i : Nat) (flag : DevEvent → Bool) (icode : UInt16) (clear : DevEvent → DevEvent) :
    SockM Bool := do
  let devEvents ← useQueue
  match devEvents[i]? with
  | none => throw .segv
  | some dv =>
    if flag dv then
      if ← sendToPlugin (.mk' EV_DEV icode dv.slot.toUInt32) then do
        setDevEvent i clear
        pure true
      else pure false
    else pure true

/-- The loop of `flush_queued_dev_events`, from the last entry down. -/
def flushFrom : Nat → SockM Bool
  | 0 => pure true
  | i + 1 => do
    if ← flushFlag i DevEvent.remove DEV_RESET (fun dv => { dv with remove := false }) then
      if ← flushFlag i DevEvent.add DEV_CONF (fun dv => { dv with add := false }) then do
        let devEvents ← useQueue
        modify fun p => { p with devEvents := devEvents.take i }
        flushFrom i
      else pure false
    else pure false

def flushQueuedDevEvents : SockM Bool := do
  let p ← get
  flushFrom p.devEvents.length

/-- The code and value of a reset of all devices. -/
def resetAll : UInt16 × Int32 :=
  (DEV_RESET, 0xFF)

/-- What `send_plugin_dev_event` does before it sends: the queue is dropped for a reset-all and
replayed otherwise. -/
def prepareQueue (code : UInt16) (value : Int32) : SockM Bool := do
  let p ← get
  if (code, value) = resetAll then do
    if p.devFreed then throw .doubleFree
    else do
      modify fun p => { p with devEvents := [] }
      pure true
  else if p.devEvents.length ≠ 0 then flushQueuedDevEvents
  else pure true

def queueDevEvent (code : UInt16) (value : Int32) : SockM Unit :=
  if code = DEV_CONF then addQueueDevEventConf value
  else if code = DEV_RESET then addQueueDevEventReset value
  else pure ()

/-- The record of `send_plugin_dev_event`: a pending reset-all in place of the request. -/
def requestRecord (resetall : Bool) (code : UInt16) (value : Int32) : EventRecord :=
  if resetall then .mk' EV_DEV resetAll.1 resetAll.2.toUInt32
  else .mk' EV_DEV code value.toUInt32

def sendRequest (code : UInt16) (value : Int32) : SockM Bool := do
  let p ← get
  if ← prepareQueue code value then sendToPlugin (requestRecord p.resetall code value)
  else pure false

/-- `send_plugin_dev_event` calls itself once after a pending reset-all went out; `resetall` is
false in that call, so `depth` 1 is enough. -/
def sendPluginDevEventAt : Nat → UInt16 → Int32 → SockM Unit
  | depth, code, value => do
    if ← sendRequest code value then do
      let p ← get
      if p.resetall then do
        modify fun p => { p with resetall := false }
        match depth with
        | 0 => throw .hang
        | depth + 1 => sendPluginDevEventAt depth code value
      else pure ()
    else queueDevEvent code value

def sendPluginDevEvent : UInt16 → Int32 → SockM Unit :=
  sendPluginDevEventAt 1

/-- A record that is marked as sent once it went out. -/
def sendMarked (r : EventRecord) (mark : SockPlugin → SockPlugin) : SockM Bool := do
  if ← sendToPlugin r then do
    modify mark
    pure true
  else pure false

def sendPendingError : SockM Bool := do
  let p ← get
  if p.error ≠ 0 then
    sendMarked (.mk' EV_VM VM_ERROR p.error) fun p => { p with error := 0 }
  else pure true

def sendPendingReset : SockM Bool := do
  let p ← get
  if p.resetall then
    sendMarked (requestRecord true DEV_RESET 0xFF) fun p => { p with resetall := false }
  else pure true

def sendPendingQueue : SockM Bool := do
  let p ← get
  if p.devEvents.length ≠ 0 then flushQueuedDevEvents else pure true

/-- The records of `send_plugin_event` that go before the event's slot. -/
def sendPending : SockM Bool := do
  if ← sendPendingError then
    if ← sendPendingReset then sendPendingQueue else pure false
  else pure false

def selectSlot (slot : Int32) : SockM Unit := do
  let p ← get
  if p.slot ≠ slot then sendSlot slot else pure ()

/-- The event itself; tells whether it went out. -/
def sendEventRecord (e : InputEvent) : SockM Bool := do
  if ← sendToPlugin (.mk' e.type e.code e.value.toUInt32) then pure true
  else do
    modify fun p => { p with dropped := true }
    pure false

/-- What `send_plugin_event` does after `send_slot`. -/
def sendDroppedAndEvent (e : InputEvent) : SockM Bool := do
  let p ← get
  if p.dropped then
    if ← sendToPlugin synDropped then do
      modify fun p => { p with dropped := false }
      sendEventRecord e
    else pure false
  else sendEventRecord e

/-- `send_plugin_event`, which tells (as the C function does not) whether the event went out. -/
def sendPluginEvent (slot : Int32) (e : InputEvent) : SockM Bool := do
  if ← sendPending then do
    selectSlot slot
    sendDroppedAndEvent e
  else do
    modify fun p =>
      if p.slot ≠ slot then { p with slotDropped := true } else { p with dropped := true }
    pure false

/-- The plugin state `server_accept` sets up for the descriptor `s2`. -/
def acceptedPlugin (p : SockPlugin) (s2 : Int) : SockPlugin :=
  { p with
    src := none, dest := none, slot := INPUTSLOT_INVALID, recivedSlot := INPUTSLOT_INVALID
    dropped := false, slotDropped := false, error := 0, resetall := false
    devEvents := [], devFreed := false, delayed := 0, s := s2, wire := [] }

end InputServer
