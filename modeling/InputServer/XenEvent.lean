import InputServer.Routing

namespace InputServer
set_option autoImplicit true

def REL_WHEEL : UInt16 := 0x08
def ABS_WHEEL : UInt16 := 0x08
def BTN_TASK : UInt16 := 0x117

/-- `union xenkbd_in_event`, by its type. -/
inductive XenkbdInEvent where
  | key (pressed : Bool) (keycode : UInt16)
  | motion (relX relY relZ : Int32)
  | pos (absX absY relZ : Int32)
deriving DecidableEq

/-- `struct xenkbd_page` without its out half: the entries of the ring and its free-running
counters. -/
structure XenkbdPage where
  entries : Nat → XenkbdInEvent
  inProd : UInt32
  inCons : UInt32

namespace XenkbdPage

/-- `XENKBD_IN_RING_REF(page, i)` of a ring of `len` entries. -/
def inRingRef (len : Nat) (page : XenkbdPage) (i : UInt32) : XenkbdInEvent :=
  page.entries (i.toNat % len)

/-- `xen_event_write_page` of a device whose page is mapped. -/
def write (len : Nat) (page : XenkbdPage) (event : XenkbdInEvent) : XenkbdPage :=
  { page with
    entries := Function.update page.entries (page.inProd.toNat % len) event
    inProd := page.inProd + 1 }

end XenkbdPage

/-- `xen_event_write_page`; nothing is written where no page is mapped. -/
def xenEventWritePage (len : Nat) (page : Option XenkbdPage) (event : XenkbdInEvent) :
    Option XenkbdPage :=
  page.map fun page => page.write len event

/-- The two devices of a `struct xen_vkbd_backend`. -/
inductive VkbdDevice where
  | device
  | absDevice
deriving DecidableEq

/-- The statics of `xen_event_send`. -/
structure XenEventStatics where
  absoluteX : Int32
  absoluteY : Int32
  absoluteZ : Int32
  absolute : Nat
  relativeX : Int32
  relativeY : Int32
  relativeZ : Int32
  relative : Nat

def XenEventStatics.zero : XenEventStatics where
  absoluteX := 0
  absoluteY := 0
  absoluteZ := 0
  absolute := 0
  relativeX := 0
  relativeY := 0
  relativeZ := 0
  relative := 0

namespace XenEventStatics

/-- A mouse click goes to the absolute device. -/
def sendKey (down : Bool) (keycode : UInt16) : VkbdDevice × XenkbdInEvent :=
  (if BTN_LEFT ≤ keycode ∧ keycode ≤ BTN_TASK then .absDevice else .device, .key down keycode)

def addRelative (s : XenEventStatics) (code : UInt16) (value : Int32) : XenEventStatics :=
  let s :=
    if code = REL_X then { s with relativeX := value }
    else if code = REL_Y then { s with relativeY := value }
    else if code = REL_WHEEL then { s with relativeZ := -value }
    else s
  { s with relative := s.relative + 1 }

def addAbsolute (s : XenEventStatics) (code : UInt16) (value : Int32) : XenEventStatics :=
  let s :=
    if code = ABS_X then { s with absoluteX := value }
    else if code = ABS_Y then { s with absoluteY := value }
    else if code = ABS_WHEEL then { s with absoluteZ := -value }
    else s
  { s with absolute := s.absolute + 1 }

/-- `xen_event_send_motion`, where there is a relative movement. -/
def sendMotion (s : XenEventStatics) : List (VkbdDevice × XenkbdInEvent) :=
  if s.relative ≠ 0 then [(.device, .motion s.relativeX s.relativeY s.relativeZ)] else []

/-- `xen_event_send_position`, where there is an absolute movement. -/
def sendPosition (s : XenEventStatics) : List (VkbdDevice × XenkbdInEvent) :=
  if s.absolute ≠ 0 then [(.absDevice, .pos s.absoluteX s.absoluteY s.absoluteZ)] else []

def clearRelative (s : XenEventStatics) : XenEventStatics :=
  if s.relative ≠ 0 then
    { s with relative := 0, relativeX := 0, relativeY := 0, relativeZ := 0 }
  else s

/-- The absolute coordinates stay. -/
def clearAbsolute (s : XenEventStatics) : XenEventStatics :=
  if s.absolute ≠ 0 then { s with absolute := 0, absoluteZ := 0 } else s

end XenEventStatics

def InputEvent.isReport (e : InputEvent) : Bool :=
  e.type = EV_SYN ∧ e.code = SYN_REPORT

/-- `xen_event_send`: the statics, and what is written to which ring of the backend. -/
def xenEventSend (s : XenEventStatics) (e : InputEvent) :
    XenEventStatics × List (VkbdDevice × XenkbdInEvent) :=
  if e.type = EV_KEY then (s, [XenEventStatics.sendKey (e.value ≠ 0) e.code])
  else if e.type = EV_REL then (s.addRelative e.code e.value, [])
  else if e.type = EV_ABS then (s.addAbsolute e.code e.value, [])
  else if e.isReport then (s.clearRelative.clearAbsolute, s.sendMotion ++ s.sendPosition)
  else (s, [])

end InputServer
