import InputServer.Library.Buffer
import InputServer.Library.Framing

namespace InputServer
open Buffer
set_option autoImplicit true

def MAGIC : UInt32 := 0xAD9CBCE9

def EV_SYN : UInt16 := 0x00
def EV_KEY : UInt16 := 0x01
def EV_REL : UInt16 := 0x02
def EV_ABS : UInt16 := 0x03
def EV_DEV : UInt16 := 0x06
def EV_VM : UInt16 := 0x07

def SYN_REPORT : UInt16 := 0
def SYN_DROPPED : UInt16 := 3

def DEV_SET : UInt16 := 0x1
def DEV_CONF : UInt16 := 0x2
def DEV_RESET : UInt16 := 0x3

def VM_SEND_TO : UInt16 := 0x1
def VM_TAKE_FROM : UInt16 := 0x2
def VM_ERROR : UInt16 := 0x3

def INPUTSLOT_DEFAULT : Int32 := -1
def INPUTSLOT_INVALID : Int32 := -2

def NDOMAIN_MAX : Nat := 20

/-- `struct event_record`, the unit of the plugin socket protocol. -/
structure EventRecord where
  magic : UInt32
  itype : UInt16
  icode : UInt16
  ivalue : UInt32
deriving DecidableEq

/-- `struct input_event` without its time stamp. -/
structure InputEvent where
  type : UInt16
  code : UInt16
  value : Int32
deriving DecidableEq

/-- `sizeof(struct event_record)`; the record is packed. -/
def EVENT_SIZE : Nat := 12

namespace EventRecord

/-- A record as the daemon sends it. -/
def mk' (itype icode : UInt16) (ivalue : UInt32) : EventRecord :=
  { magic := MAGIC, itype := itype, icode := icode, ivalue := ivalue }

/-- The bytes of a record in memory and on the socket. -/
def encode (r : EventRecord) : List UInt8 :=
  toBytes 4 r.magic.toNat ++ (toBytes 2 r.itype.toNat ++
    (toBytes 2 r.icode.toNat ++ toBytes 4 r.ivalue.toNat))

/-- The record that starts at the head of `bs`. -/
def read (bs : List UInt8) : EventRecord :=
  { magic := UInt32.ofNat (ofBytes (slice bs 0 4))
    itype := UInt16.ofNat (ofBytes (slice bs 4 2))
    icode := UInt16.ofNat (ofBytes (slice bs 6 2))
    ivalue := UInt32.ofNat (ofBytes (slice bs 8 4)) }

theorem encode_length (r : EventRecord) : r.encode.length = EVENT_SIZE := by
  simp only [encode, List.length_append, toBytes_length, EVENT_SIZE]

theorem read_encode (r : EventRecord) : read r.encode = r := by
  have h0 : slice r.encode 0 4 = toBytes 4 r.magic.toNat := rfl
  have h4 : slice r.encode 4 2 = toBytes 2 r.itype.toNat := rfl
  have h6 : slice r.encode 6 2 = toBytes 2 r.icode.toNat := rfl
  have h8 : slice r.encode 8 4 = toBytes 4 r.ivalue.toNat := rfl
  have hm : r.magic.toNat % 256 ^ 4 = r.magic.toNat := Nat.mod_eq_of_lt r.magic.toNat_lt
  have ht : r.itype.toNat % 256 ^ 2 = r.itype.toNat := Nat.mod_eq_of_lt r.itype.toNat_lt
  have hc : r.icode.toNat % 256 ^ 2 = r.icode.toNat := Nat.mod_eq_of_lt r.icode.toNat_lt
  have hv : r.ivalue.toNat % 256 ^ 4 = r.ivalue.toNat := Nat.mod_eq_of_lt r.ivalue.toNat_lt
  rw [read, h0, h4, h6, h8, ofBytes_toBytes, ofBytes_toBytes, ofBytes_toBytes, ofBytes_toBytes,
    hm, ht, hc, hv, UInt32.ofNat_toNat, UInt16.ofNat_toNat, UInt16.ofNat_toNat,
    UInt32.ofNat_toNat]

end EventRecord

/-- The framing of the plugin socket: twelve bytes that start with the magic. -/
def recordFraming : Framing UInt8 EventRecord where
  width := EVENT_SIZE
  width_pos := by decide
  accepts w := (EventRecord.read w).magic == MAGIC
  parse := EventRecord.read

/-- The records of a byte stream, decoded all at once. -/
def decodeRecords (stream : List UInt8) : List EventRecord :=
  (recordFraming.decode stream).1

theorem decode_encode {rs : List EventRecord} (h : ∀ r ∈ rs, r.magic = MAGIC) :
    recordFraming.decode (rs.flatMap EventRecord.encode) = (rs, []) := by
  let enc : {r : EventRecord // r.magic = MAGIC} → List UInt8 := fun r => r.1.encode
  have hd := recordFraming.decode_flatMap enc (fun r => r.1) (fun r => r.1.encode_length)
    (fun r => by
      change ((EventRecord.read r.1.encode).magic == MAGIC) = true
      rw [EventRecord.read_encode, r.2]
      rfl)
    (fun r => r.1.read_encode) (rs.attachWith _ h)
  have hval : (rs.attachWith _ h).map (fun r => r.1) = rs := List.attachWith_map_subtype_val h
  have henc : (rs.attachWith _ h).flatMap enc = rs.flatMap EventRecord.encode := by
    rw [List.flatMap_def, List.flatMap_def, ← List.attachWith_map_val (f := EventRecord.encode) h]
  rw [← henc, hd, hval]

end InputServer
