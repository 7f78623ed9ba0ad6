import InputServer.Deliver

namespace InputServer
open Program
set_option autoImplicit true

variable {F : Type}

def N_DEVS : Nat := 64

/-- The devices that the plugin is told of: mice, touchpads and tablets. -/
def HidType.announced : HidType → Bool
  | .mouse | .touchpad | .tablet => true
  | .keyboard | .thinkpadAcpi => false

/-- `send_event` of `socket.c`: an event record of the plugin for the domain it selected. -/
def sendEvent (t c : UInt16) (v : Int32) : WorldM F Unit := do
  let w ← get
  match w.plug.dest with
  | none => pure ()
  | some d =>
    if (w.domains d).client = none then pure ()
    else if t = EV_DEV then
      if c = DEV_SET then do
        onPlug (modify fun p => { p with recivedSlot := v })
        modifyDomain d fun x => { x with lastDevslot := v }
        dom0InputEvent d .plugin { type := t, code := c, value := v }
      else pure ()
    else dom0InputEvent d .plugin { type := t, code := c, value := v }

def sockPluginSendconfigFrom (types : Nat → Option HidType) : List Nat → SockM Unit
  | [] => pure ()
  | slot :: slots => do
    if (types slot).any HidType.announced then sendPluginDevEvent DEV_CONF (.ofNat slot)
    else pure ()
    sockPluginSendconfigFrom types slots

def sockPluginSendconfig (types : Nat → Option HidType) : SockM Unit := do
  sendPluginDevEvent DEV_RESET 0xFF
  sockPluginSendconfigFrom types (List.range N_DEVS)

/-- The destination is the slot's last event source: "Do we have the right dev slot?" -/
def checkDevslot (d : DomPtr) : WorldM F Unit := do
  let w ← get
  let devslot := w.plug.recivedSlot
  if devslot ≠ INPUTSLOT_INVALID ∧ (w.domains d).lastDevslot ≠ devslot then do
    sendEvent EV_DEV DEV_SET devslot
    modifyDomain d fun x => { x with lastDevslot := devslot }
  else pure ()

def processSendTo (r : EventRecord) : WorldM F Unit := do
  let w ← get
  let dest := w.domainWithDomid r.ivalue.toInt32.toInt
  onPlug (modify fun p => { p with dest := dest })
  match dest with
  | none => onPlug (sendError E_BADDOMAIN r.icode.toUInt8 r.ivalue.toUInt8)
  | some d =>
    if (w.domains d).isPvDomain then do
      onPlug (sendError E_BADDOMAIN r.icode.toUInt8 r.ivalue.toUInt8)
      onPlug (modify fun p => { p with dest := none })
    else do
      happens (.selected r.ivalue.toInt32.toInt)
      checkDevslot d

def processTakeFrom (r : EventRecord) : WorldM F Unit := do
  onPlug (modify fun p => { p with plugin := forgetPlugin p.plugin p.src })
  let w ← get
  match w.domainWithDomid r.ivalue.toInt32.toInt with
  | none => onPlug (sendError E_BADDOMAIN r.icode.toUInt8 r.ivalue.toUInt8)
  | some d => do
    onPlug (modify fun p => { p with plugin := Function.update p.plugin d true, src := some d })
    onPlug (sockPluginSendconfig w.types)

def processEvent (r : EventRecord) : WorldM F Unit := do
  happens (.record r)
  let w ← get
  if r.itype = EV_VM then
    if r.icode = VM_SEND_TO then processSendTo r
    else if r.icode = VM_TAKE_FROM then processTakeFrom r
    else onPlug (sendError E_BADCODE r.icode.toUInt8 0)
  else if w.plug.dest ≠ none then sendEvent r.itype r.icode r.ivalue.toInt32
  else onPlug (sendError E_BADDOMAIN 0 0xff)

/-- `wrapper_server_recv`, with the bytes that have arrived. -/
def serverRecv (o : RecvOutcome) (incoming : List UInt8) : WorldM F Unit := do
  let w ← get
  let (b, _) ← wrapperServerRecv (fun r _ => processEvent r) (onPlug killConnection) o w.recv
    incoming
  modify fun w => { w with recv := b }

/-- `server_accept` of the descriptor `s2`: one connection at a time. -/
def serverAccept (s2 : Int) : WorldM F Unit := do
  let w ← get
  if w.plug.s = -1 then do
    onPlug (modify fun p => acceptedPlugin p s2)
    modify fun w => { w with recv := { w.recv with bytesRemaining := 0, position := 0 } }
    happens .accepted
  else pure ()

end InputServer
