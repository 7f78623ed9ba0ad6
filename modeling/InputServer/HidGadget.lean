import InputServer.Library.Buffer
import InputServer.Library.Fifo

namespace InputServer
open Buffer
set_option autoImplicit true

def EAGAIN : Int := 11
def EFAULT : Int := 14
def EINVAL : Int := 22
def ERESTARTSYS : Int := 512

/-- What the gadget can go wrong with in the kernel. -/
inductive HidFault where
  | useAfterFree
  | outOfBounds
  | wrongOwner
deriving DecidableEq

/-- How a call ends that has to wait: its file does not block, or a signal comes. -/
inductive WaitEnd where
  | nonblock
  | interrupted

def WaitEnd.ret : WaitEnd → Int
  | nonblock => -EAGAIN
  | interrupted => -ERESTARTSYS

theorem WaitEnd.ret_neg (wait : WaitEnd) : wait.ret < 0 := by
  cases wait <;> decide

/-- A `struct usb_request` of the OUT endpoint. -/
structure UsbRequest where
  buf : List UInt8
  actual : UInt32

/-- The bytes that came. -/
def UsbRequest.report (r : UsbRequest) : List UInt8 :=
  r.buf.take r.actual.toNat

/-- `struct f_hidg_req_list`, with the number of its request. -/
structure ReqList where
  req : Nat
  pos : UInt32

/-- How far a thread is in `f_hidg_read`: nowhere, or behind the first section under the lock, the
copying, or the second section. -/
inductive ReadStage where
  | idle
  | picked (list req count : Nat)
  | copied (list req : Nat) (bytes : List UInt8)
  | removed (req : Nat) (bytes : List UInt8)

/-- What happened on the way from the host: a report was put in the list, or there was no memory to
do so; a read ended, with what it had copied; the list was emptied. -/
inductive RecvHappening where
  | received (report : List UInt8)
  | missed (report : List UInt8)
  | read (ret : Int) (bytes : List UInt8)
  | cleared

/-- The receive half of `struct f_hidg`, with its endpoint. Requests and list entries have numbers
for addresses; `allocated` requests were made, `outQueue` are the ones that the controller has, and
`leaked` those that nothing points to any more. -/
structure HidgRecv where
  completedOutReq : List Nat
  lists : Nat → Option ReqList
  nextList : Nat
  requests : Nat → UsbRequest
  allocated : Nat
  outQueue : List Nat
  leaked : List Nat
  readers : Nat → ReadStage
  log : List RecvHappening

namespace HidgRecv

def happens (g : HidgRecv) (h : RecvHappening) : HidgRecv :=
  { g with log := g.log ++ [h] }

def stage (g : HidgRecv) (t : Nat) (s : ReadStage) : HidgRecv :=
  { g with readers := Function.update g.readers t s }

/-- The read of a thread ends. -/
def returns (g : HidgRecv) (t : Nat) (ret : Int) (bytes : List UInt8) : HidgRecv :=
  (g.stage t .idle).happens (.read ret bytes)

/-- `f_hidg_read` up to the end of its first section under the lock. -/
def fHidgReadPick (g : HidgRecv) (t count : Nat) (accessOk : Bool) (wait : WaitEnd) :
    Except HidFault HidgRecv :=
  if count = 0 then .ok (g.returns t 0 [])
  else if !accessOk then .ok (g.returns t (-EFAULT) [])
  else
    match g.completedOutReq with
    | [] => .ok (g.returns t wait.ret [])
    | list :: _ =>
      match g.lists list with
      | none => .error .useAfterFree
      | some l =>
        let left := (g.requests l.req).actual - l.pos
        .ok (g.stage t (.picked list l.req (min (UInt32.ofNat count).toNat left.toNat)))

/-- The copying of `f_hidg_read`, outside the lock. -/
def fHidgReadCopy (g : HidgRecv) (t list req count uncopied : Nat) : Except HidFault HidgRecv :=
  match g.lists list with
  | none => .error .useAfterFree
  | some l =>
    if l.pos.toNat + count ≤ (g.requests req).buf.length then
      .ok (g.stage t (.copied list req
        (slice (g.requests req).buf l.pos.toNat (count - uncopied))))
    else .error .outOfBounds

/-- `f_hidg_read` from the change of `list->pos` to the end of its second section. -/
def fHidgReadAdvance (g : HidgRecv) (t list req : Nat) (bytes : List UInt8) :
    Except HidFault HidgRecv :=
  match g.lists list with
  | none => .error .useAfterFree
  | some l =>
    let pos := l.pos + UInt32.ofNat bytes.length
    if pos = (g.requests req).actual then
      .ok ({ g with
        lists := Function.update g.lists list none
        completedOutReq := g.completedOutReq.erase list }.stage t (.removed req bytes))
    else
      .ok ({ g with lists := Function.update g.lists list (some { l with pos := pos }) }.returns t
        bytes.length bytes)

/-- The end of `f_hidg_read` for a request that was read to its end. -/
def fHidgReadRequeue (g : HidgRecv) (t req : Nat) (bytes : List UInt8) (queued : Int) : HidgRecv :=
  if queued < 0 then { g with leaked := g.leaked ++ [req] }.returns t queued bytes
  else { g with outQueue := g.outQueue ++ [req] }.returns t bytes.length bytes

/-- `hidg_set_report_complete`; `kzalloc` may have no memory. -/
def hidgSetReportComplete (g : HidgRecv) (req : Nat) (kzalloc : Bool) : HidgRecv :=
  if kzalloc then
    { g with
      lists := Function.update g.lists g.nextList (some ⟨req, 0⟩)
      completedOutReq := g.completedOutReq ++ [g.nextList]
      nextList := g.nextList + 1 }.happens (.received (g.requests req).report)
  else { g with leaked := g.leaked ++ [req] }.happens (.missed (g.requests req).report)

/-- The controller is done with a request, which holds `data`. -/
def outDone (g : HidgRecv) (req : Nat) (data : List UInt8) (kzalloc : Bool) : HidgRecv :=
  { g with
    outQueue := g.outQueue.erase req
    requests := Function.update g.requests req
      ⟨blit (g.requests req).buf 0 data, UInt32.ofNat data.length⟩ }.hidgSetReportComplete req
    kzalloc

/-- `usb_ep_disable` of the OUT endpoint: each request that is queued is done, with no data. -/
def disableOut (g : HidgRecv) (kzalloc : Nat → Bool) : HidgRecv :=
  g.outQueue.foldl (fun g req => g.outDone req [] (kzalloc req)) g

/-- The requests in the list. -/
def listed (g : HidgRecv) : List Nat :=
  g.completedOutReq.filterMap fun list => (g.lists list).map ReqList.req

/-- The loop of `hidg_disable`. -/
def clearList (g : HidgRecv) : HidgRecv :=
  { g with
    completedOutReq := []
    lists := fun list => if list ∈ g.completedOutReq then none else g.lists list
    leaked := g.leaked ++ g.listed }.happens .cleared

/-- The loop of `hidg_set_alt`; `round i` is what `usb_ep_queue` returns for the request it makes,
or none where there is no memory for it. Tells whether the endpoint stays in use. -/
def queueRequests (round : Nat → Option Int) (kzalloc : Nat → Bool) :
    Nat → Nat → HidgRecv → HidgRecv × Bool
  | 0, _, g => (g, true)
  | n + 1, i, g =>
    match round i with
    | none => (g.disableOut kzalloc, false)
    | some status =>
      if status = 0 then
        queueRequests round kzalloc n (i + 1)
          { g with allocated := g.allocated + 1, outQueue := g.outQueue ++ [g.allocated] }
      else ({ g with allocated := g.allocated + 1, leaked := g.leaked ++ [g.allocated] }, true)

end HidgRecv

/-- `driver_data` of an endpoint. -/
inductive EpOwner where
  | nobody
  | composite
  | hidg
deriving DecidableEq

/-- What happened on the way to the host: a write ended, the host took a report, or a report was
taken back from the controller. -/
inductive SendHappening where
  | wrote (ret : Int) (data : List UInt8)
  | sent (report : List UInt8)
  | aborted

/-- The send half of `struct f_hidg`, with its endpoint; `inFlight` is the length of the request
where the controller has it. -/
structure HidgSend where
  writePending : Bool
  reqBuf : List UInt8
  inFlight : Option Nat
  inEnabled : Bool
  inOwner : EpOwner
  log : List SendHappening

namespace HidgSend

def happens (g : HidgSend) (h : SendHappening) : HidgSend :=
  { g with log := g.log ++ [h] }

/-- `f_hidg_write` of `data`, whose copying leaves `uncopied` bytes behind; `queued` is what
`usb_ep_queue` returns. -/
def fHidgWrite (g : HidgSend) (reportLength : UInt16) (data : List UInt8) (accessOk : Bool)
    (wait : WaitEnd) (uncopied : Nat) (queued : Int) : HidgSend :=
  if !accessOk then g.happens (.wrote (-EFAULT) data)
  else if g.writePending then g.happens (.wrote wait.ret data)
  else
    let count := min (UInt32.ofNat data.length).toNat reportLength.toNat
    let g := { g with reqBuf := blit g.reqBuf 0 (data.take (count - uncopied)) }
    if uncopied ≠ 0 then g.happens (.wrote (-EINVAL) data)
    else if queued < 0 then { g with writePending := false }.happens (.wrote queued data)
    else { g with writePending := true, inFlight := some count }.happens (.wrote count data)

/-- `f_hidg_req_complete`, which finds the gadget through the endpoint. -/
def fHidgReqComplete (g : HidgSend) : Except HidFault HidgSend :=
  if g.inOwner = .hidg then .ok { g with writePending := false } else .error .wrongOwner

/-- The host takes the report in flight. -/
def inDone (g : HidgSend) : Except HidFault HidgSend :=
  match g.inFlight with
  | none => .ok g
  | some n => ({ g with inFlight := none }.happens (.sent (g.reqBuf.take n))).fHidgReqComplete

/-- `usb_ep_disable` of the IN endpoint: the request in flight is done, and was not sent. -/
def disableIn (g : HidgSend) : Except HidFault HidgSend :=
  let g := { g with inEnabled := false }
  match g.inFlight with
  | none => .ok g
  | some _ => ({ g with inFlight := none }.happens .aborted).fHidgReqComplete

end HidgSend

/-- `struct f_hidg`. -/
structure Hidg where
  reportLength : UInt16
  qlen : Nat
  recv : HidgRecv
  send : HidgSend
  outOwner : EpOwner

/-- What `hidg_set_alt` meets: whether each endpoint is configured and enabled, what its loop meets,
and whether there is memory for the list entries of the requests that are cut off. -/
structure SetAlt where
  inConfigured : Bool
  inEnabled : Bool
  outConfigured : Bool
  outEnabled : Bool
  round : Nat → Option Int
  kzalloc : Nat → Bool

namespace Hidg

/-- `hidg_disable`. -/
def hidgDisable (g : Hidg) (kzalloc : Nat → Bool) : Except HidFault Hidg := do
  let send ← g.send.disableIn
  pure { g with
    send := { send with inOwner := .nobody }
    recv := (g.recv.disableOut kzalloc).clearList
    outOwner := .nobody }

/-- `hidg_set_alt` for the OUT endpoint. -/
def setAltOut (g : Hidg) (s : SetAlt) : Hidg :=
  let g := if g.outOwner ≠ .nobody then { g with recv := g.recv.disableOut s.kzalloc } else g
  if s.outConfigured && s.outEnabled then
    let (recv, used) := g.recv.queueRequests s.round s.kzalloc g.qlen 0
    { g with recv := recv, outOwner := if used then .hidg else .nobody }
  else g

/-- `hidg_set_alt`; both endpoints are there since `hidg_bind`. -/
def hidgSetAlt (g : Hidg) (s : SetAlt) : Except HidFault Hidg := do
  let send ← if g.send.inOwner ≠ .nobody then g.send.disableIn else pure g.send
  if s.inConfigured && s.inEnabled then
    pure ({ g with send := { send with inEnabled := true, inOwner := .hidg } }.setAltOut s)
  else pure { g with send := send }

/-- What `hidg_bind` leaves: no request was made yet, and the composite device has the endpoints. -/
structure Bound (g : Hidg) : Prop where
  unlisted : g.recv.completedOutReq = []
  unqueued : g.recv.allocated = 0 ∧ g.recv.outQueue = [] ∧ g.recv.leaked = []
  buffers : ∀ req, (g.recv.requests req).buf.length = g.reportLength.toNat
  idle : ∀ t, g.recv.readers t = .idle
  notPending : g.send.writePending = false ∧ g.send.inFlight = none
  disabled : g.send.inEnabled = false
  buffer : g.send.reqBuf.length = g.reportLength.toNat
  silent : g.recv.log = [] ∧ g.send.log = []

end Hidg

/-- A section of a call that a thread makes, or something that the controller or the composite
device does. -/
inductive HidEvent where
  | read (t count : Nat) (accessOk : Bool) (wait : WaitEnd)
  | copy (t uncopied : Nat)
  | advance (t : Nat)
  | requeue (t : Nat) (queued : Int)
  | write (data : List UInt8) (accessOk : Bool) (wait : WaitEnd) (uncopied : Nat) (queued : Int)
  | outDone (req : Nat) (data : List UInt8) (kzalloc : Bool)
  | inDone
  | disable (kzalloc : Nat → Bool)
  | setAlt (s : SetAlt)

namespace HidEvent

def run : HidEvent → Hidg → Except HidFault Hidg
  | .read t count accessOk wait, g => do
    pure { g with recv := ← g.recv.fHidgReadPick t count accessOk wait }
  | .copy t uncopied, g =>
    match g.recv.readers t with
    | .picked list req count => do
      pure { g with recv := ← g.recv.fHidgReadCopy t list req count uncopied }
    | _ => pure g
  | .advance t, g =>
    match g.recv.readers t with
    | .copied list req bytes => do
      pure { g with recv := ← g.recv.fHidgReadAdvance t list req bytes }
    | _ => pure g
  | .requeue t queued, g =>
    match g.recv.readers t with
    | .removed req bytes => pure { g with recv := g.recv.fHidgReadRequeue t req bytes queued }
    | _ => pure g
  | .write data accessOk wait uncopied queued, g =>
    pure { g with
      send := g.send.fHidgWrite g.reportLength data accessOk wait uncopied queued }
  | .outDone req data kzalloc, g => pure { g with recv := g.recv.outDone req data kzalloc }
  | .inDone, g => do pure { g with send := ← g.send.inDone }
  | .disable kzalloc, g => g.hidgDisable kzalloc
  | .setAlt s, g => g.hidgSetAlt s

/-- What threads and the controller keep to: a thread makes one call after the other, a request that
is done was queued and holds no more than its length, and nothing is queued on an endpoint that is
not enabled. -/
def Valid (g : Hidg) : HidEvent → Prop
  | .read t _ _ _ => g.recv.readers t = .idle
  | .write _ _ _ _ queued => 0 ≤ queued → g.send.inEnabled = true
  | .outDone req data _ => req ∈ g.recv.outQueue ∧ data.length ≤ g.reportLength.toNat
  | _ => True

/-- No read begins, and the gadget is not disabled, in the middle of a read. -/
def Apart (g : Hidg) : HidEvent → Prop
  | .read _ _ _ _ => ∀ t, g.recv.readers t = .idle
  | .disable _ => ∀ t, g.recv.readers t = .idle
  | _ => True

def Step (e : HidEvent) (g g' : Hidg) : Prop :=
  e.Valid g ∧ e.run g = .ok g'

/-- Steps of which no two reads overlap, and no read is overtaken by a disconnection. -/
def ApartStep (e : HidEvent) (g g' : Hidg) : Prop :=
  e.Step g g' ∧ e.Apart g

/-- The state that events lead to, or the first one where they fault. -/
def reached (es : List HidEvent) (g : Hidg) : Hidg :=
  ((es.foldlM (fun g e => e.run g) g : Except HidFault Hidg).toOption).getD g

end HidEvent

/-- A gadget with reports of four bytes. -/
def boundHidg : Hidg where
  reportLength := 4
  qlen := 2
  recv := {
    completedOutReq := [], lists := fun _ => none, nextList := 0
    requests := fun _ => ⟨[0, 0, 0, 0], 0⟩, allocated := 0, outQueue := [], leaked := []
    readers := fun _ => .idle, log := [] }
  send := {
    writePending := false, reqBuf := [0, 0, 0, 0], inFlight := none, inEnabled := false
    inOwner := .composite, log := [] }
  outOwner := .composite

theorem boundHidg_bound : boundHidg.Bound :=
  ⟨rfl, ⟨rfl, rfl, rfl⟩, fun _ => rfl, fun _ => rfl, ⟨rfl, rfl⟩, rfl, rfl, ⟨rfl, rfl⟩⟩

/-- The host configures the gadget and sends a report, of which a thread reads two bytes; a write
is taken by the host. -/
def hidSession : List HidEvent :=
  [.setAlt ⟨true, true, true, true, fun _ => some 0, fun _ => true⟩, .outDone 1 [1, 2, 3] true,
    .read 7 100 true .nonblock, .copy 7 1, .advance 7, .write [5, 6] true .nonblock 0 0, .inDone]

theorem hidSession_run :
    Run HidEvent.ApartStep boundHidg hidSession (HidEvent.reached hidSession boundHidg) := by
  let upto (n : Nat) : Hidg := HidEvent.reached (hidSession.take n) boundHidg
  have h₁ : Run HidEvent.ApartStep boundHidg (hidSession.take 1) (upto 1) :=
    .snoc .nil ⟨⟨trivial, rfl⟩, trivial⟩
  have h₂ : Run HidEvent.ApartStep boundHidg (hidSession.take 2) (upto 2) :=
    .snoc h₁ ⟨⟨⟨by decide, by decide⟩, rfl⟩, trivial⟩
  have h₃ : Run HidEvent.ApartStep boundHidg (hidSession.take 3) (upto 3) :=
    .snoc h₂ ⟨⟨rfl, rfl⟩, fun _ => rfl⟩
  have h₄ : Run HidEvent.ApartStep boundHidg (hidSession.take 4) (upto 4) :=
    .snoc h₃ ⟨⟨trivial, rfl⟩, trivial⟩
  have h₅ : Run HidEvent.ApartStep boundHidg (hidSession.take 5) (upto 5) :=
    .snoc h₄ ⟨⟨trivial, rfl⟩, trivial⟩
  have h₆ : Run HidEvent.ApartStep boundHidg (hidSession.take 6) (upto 6) :=
    .snoc h₅ ⟨⟨fun _ => rfl, rfl⟩, trivial⟩
  exact .snoc h₆ ⟨⟨trivial, rfl⟩, trivial⟩

end InputServer
