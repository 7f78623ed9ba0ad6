import InputServer.Library.Program
import InputServer.Record

namespace InputServer
open Buffer
set_option autoImplicit true

/-- The receive half of `struct sock_plugin`: the bytes of `buffer` not handed out yet are the
`bytesRemaining` ones from `position` on. -/
structure RecvBuffer where
  buffer : List UInt8
  bytesRemaining : Nat
  position : Nat

namespace RecvBuffer

/-- `&b->buffer[b->position]` read as a record. -/
def record (b : RecvBuffer) : EventRecord :=
  EventRecord.read (slice b.buffer b.position EVENT_SIZE)

/-- The bytes carried over to the next call. -/
def carry (b : RecvBuffer) : List UInt8 :=
  slice b.buffer b.position b.bytesRemaining

/-- The invariant of a buffer of `cap` bytes. -/
structure Bounded (cap : Nat) (b : RecvBuffer) : Prop where
  size : b.buffer.length = cap
  within : b.position + b.bytesRemaining ≤ cap

end RecvBuffer

/-- The loop of `findnext` that skips junk, with the two counters it changes. -/
def skipJunk (buffer : List UInt8) : Nat → Nat → Nat × Nat
  | 0, position => (0, position)
  | bytesRemaining + 1, position =>
    if EVENT_SIZE ≤ bytesRemaining + 1 ∧
        (EventRecord.read (slice buffer position EVENT_SIZE)).magic ≠ MAGIC then
      skipJunk buffer bytesRemaining (position + 1)
    else (bytesRemaining + 1, position)

def findnext (b : RecvBuffer) : Option EventRecord × RecvBuffer :=
  let (bytesRemaining, position) := skipJunk b.buffer b.bytesRemaining b.position
  let b := { b with bytesRemaining := bytesRemaining, position := position }
  if EVENT_SIZE ≤ b.bytesRemaining then
    (some b.record, { b with
      bytesRemaining := b.bytesRemaining - EVENT_SIZE, position := b.position + EVENT_SIZE })
  else (none, b)

/-- What `recv` finds: an interrupted call is followed by the outcome of its retry, and `got k`
takes up to `k + 1` of the bytes that have arrived. -/
inductive RecvOutcome where
  | eintr (retry : RecvOutcome)
  | got (k : Nat)
  | closed
  | error

/-- The bytes a `recv` of at most `room` bytes stores and those left in the socket. -/
def recvBytes (room k : Nat) (incoming : List UInt8) : List UInt8 × List UInt8 :=
  (incoming.take (min (k + 1) room), incoming.drop (min (k + 1) room))

/-- `memmove` of the unread bytes to the front of the buffer. -/
def compact (b : RecvBuffer) : RecvBuffer :=
  { b with buffer := blit b.buffer 0 b.carry, position := 0 }

/-- The bytes stored behind the ones carried over. -/
def store (b : RecvBuffer) (chunk : List UInt8) : RecvBuffer :=
  { b with
    buffer := blit b.buffer b.bytesRemaining chunk
    bytesRemaining := b.bytesRemaining + chunk.length }

section Loop

variable {ε σ : Type}

/-- The loop that hands every complete record to `process_event`; each round of it takes
`EVENT_SIZE` bytes, so `fuel` at `bytesRemaining` is never used up. -/
def processAll (process : EventRecord → RecvBuffer → Program ε σ Unit) :
    Nat → RecvBuffer → Program ε σ RecvBuffer
  | 0, b => pure b
  | fuel + 1, b =>
    match findnext b with
    | (none, b) => pure b
    | (some r, b) => do
      process r b
      processAll process fuel b

/-- One `recv` into the room behind the bytes carried over, and the records it completes; with no
room, or with the peer gone, `recv` returns 0 and `closed` runs. -/
def receive (cap : Nat) (process : EventRecord → RecvBuffer → Program ε σ Unit)
    (closed : Program ε σ Unit) (k : Nat) (b : RecvBuffer) (incoming : List UInt8) :
    Program ε σ (RecvBuffer × List UInt8) := do
  let b := compact b
  let (chunk, incoming) := recvBytes (cap - b.bytesRemaining) k incoming
  if 0 < chunk.length then do
    let b := store b chunk
    let b ← processAll process b.bytesRemaining b
    pure (b, incoming)
  else do
    closed
    pure (b, incoming)

/-- `buffersize` of the daemon. -/
def buffersize : Nat := EVENT_SIZE * 100

/-- `wrapper_server_recv` of the daemon, with the bytes still in the socket passed through. -/
def wrapperServerRecv (process : EventRecord → RecvBuffer → Program ε σ Unit)
    (killConnection : Program ε σ Unit) :
    RecvOutcome → RecvBuffer → List UInt8 → Program ε σ (RecvBuffer × List UInt8)
  | .eintr retry, b, incoming => wrapperServerRecv process killConnection retry b incoming
  | .got k, b, incoming => receive buffersize process killConnection k b incoming
  | .closed, b, incoming => do
    killConnection
    pure (compact b, incoming)
  | .error, b, incoming => do
    killConnection
    pure (compact b, incoming)

/-- `buffersize` of the HID plugin. -/
def superhidBuffersize : Nat := EVENT_SIZE * 20

/-- `recv_callback` of the HID plugin: the same loop, but an interrupted or failed `recv` is only
reported. -/
def recvCallback (process : EventRecord → RecvBuffer → Program ε σ Unit)
    (stop : Program ε σ Unit) :
    RecvOutcome → RecvBuffer → List UInt8 → Program ε σ (RecvBuffer × List UInt8)
  | .eintr _, b, incoming => pure (compact b, incoming)
  | .got k, b, incoming => receive superhidBuffersize process stop k b incoming
  | .closed, b, incoming => do
    stop
    pure (compact b, incoming)
  | .error, b, incoming => pure (compact b, incoming)

end Loop

end InputServer
