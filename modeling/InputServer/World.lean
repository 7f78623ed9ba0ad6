import InputServer.Receive
import InputServer.Socket

namespace InputServer
open Program
set_option autoImplicit true

def firstEntry : DomPtr :=
  ⟨0, by decide⟩

def secondEntry : DomPtr :=
  ⟨1, by decide⟩

/-- The arithmetic of C's `double`; `trunc` is the cast to an integer. -/
class Double (F : Type) where
  ofInt : Int → F
  add : F → F → F
  mul : F → F → F
  div : F → F → F
  lt : F → F → Bool
  le : F → F → Bool
  trunc : F → Int

structure KeyPair where
  modBits : UInt32
  keycode : UInt32

structure Frame where
  x1 : UInt32
  x2 : UInt32
  y1 : UInt32
  y2 : UInt32

/-- `struct divert_info_t`; `modifers` are the entries behind the length in `modifers[0]`. -/
structure DivertInfo where
  modifers : List UInt32
  keylist : Option (List KeyPair)
  focusmode : UInt32
  keyDomain : Option DomPtr
  mouseDomain : Option DomPtr
  sframe : Frame
  dframe : Frame

/-- `struct domain`. A `client` is the domid at the other end of the dmbus connection; times are
microseconds. -/
structure Domain (F : Type) where
  initialised : Bool
  client : Option Int
  domid : Int
  slot : Int
  keyboardLedCode : UInt32
  isPvm : Bool
  isInS3 : Bool
  absEnabled : Bool
  prevKeybDomid : Int
  prevKeybDomainPtr : Option DomPtr
  disabledSurface : Bool
  uuid : Option String
  sstate : Int
  mouseSwitchLeft : Int
  mouseSwitchRight : Int
  lastInputEvent : Int
  timeOfS3 : Int
  isPvDomain : Bool
  vkbdBackend : Bool
  divertInfo : Option DivertInfo
  lastDevslot : Int32
  hasSecondaryGpu : Bool
  relXMult : F
  relYMult : F
  desktopXres : Int
  desktopYres : Int

/-- What `xc_domain_getinfo` reports. -/
structure DomInfo where
  domid : Int
  hvm : Bool
  lapicOnly : Bool
  dying : Bool

/-- What the daemon may be told by everything it asks: the database and xenstore by path, the
clock, surfman, Xen and xenmgr; `stack` is what an uninitialised buffer holds. -/
structure Answers where
  db : String → Option String
  xenstore : String → Option String
  stack : List Char
  time : Int
  setVisible : Bool
  domInfo : Int → Option DomInfo
  seamlessMouse : Option (Option Int × Option Int)
  vkbdRegistered : Bool

/-- Where a message to a guest comes from. -/
inductive Source where
  | input (slot : Int32)
  | plugin
deriving DecidableEq

/-- What happened at the daemon's edges: a guest's client was accepted for a table entry, an event
went to such a client or to a vkbd, a plugin connected, a record of it was processed and selected
a domain, the focus was switched to a domid, or an entry was taken from a dead domain. -/
inductive Happening where
  | client (d : DomPtr) (guest : Int)
  | message (d : DomPtr) (guest : Int) (source : Source) (e : InputEvent)
  | vkbd (d : DomPtr) (e : InputEvent)
  | accepted
  | record (r : EventRecord)
  | selected (domid : Int)
  | switched (domid : Int)
  | reclaimed (d : DomPtr)
deriving DecidableEq

structure MouseButton where
  code : UInt16
  domain : Option DomPtr
  slot : Int32
  x : Int
  y : Int

/-- The statics of `input.c` that route events. -/
structure Routing (F : Type) where
  mouseDest : Option DomPtr
  mouseParent : Option DomPtr
  keybDest : Option DomPtr
  keybParent : Option DomPtr
  mouseX : F
  mouseY : F
  mouseSpeed : F
  mouseSpeedThreshold1 : F
  mouseSpeedThreshold2 : F
  mousePressed : List MouseButton
  buttons : Fin 3 → UInt32
  mouseButton : UInt32
  keybModbits : UInt32
  keybWaitsForClick : Bool
  resistance : Int
  lastTimeout : Int
  lastD : Option DomPtr
  buttonHolding : Nat
  lastWasKey : Bool

inductive SimPress where
  | nope
  | sendSync
  | sendLeft
  | sendLeftUp
deriving DecidableEq

/-- The statics of `demultitouch`. -/
structure MultiTouch where
  deferpressed : SimPress
  draining : Bool
  slot : Int32
  pressed : Bool
  hadSlot0 : Bool

/-- The statics of `switch.c`. -/
structure Switcher where
  current : Option DomPtr
  surfaceCurrent : Option DomPtr
  switching : Bool
  follow : Option Bool

inductive HidType where
  | keyboard
  | mouse
  | touchpad
  | tablet
  | thinkpadAcpi
deriving DecidableEq

structure World (F : Type) where
  domains : DomPtr → Domain F
  plug : SockPlugin
  recv : RecvBuffer
  routing : Routing F
  keyStatus : Nat → Bool
  types : Nat → Option HidType
  multitouch : MultiTouch
  switcher : Switcher
  deathWindow : Int → Int
  xcHandle : Bool
  answers : Nat → Answers
  asked : Nat
  log : List Happening

abbrev WorldM (F : Type) := Program Fault (World F)

def digitValue (c : Char) : Nat :=
  if '0' ≤ c ∧ c ≤ '9' then c.toNat - '0'.toNat
  else if 'a' ≤ c.toLower ∧ c.toLower ≤ 'z' then c.toLower.toNat - 'a'.toNat + 10
  else 36

/-- The longest run of digits of the base, read as a number. -/
def readDigits (base : Nat) : Nat → List Char → Nat
  | n, [] => n
  | n, c :: cs => if digitValue c < base then readDigits base (n * base + digitValue c) cs else n

/-- The base that `strtol` finds for itself, and the digits in it. -/
def detectBase : List Char → Nat × List Char
  | '0' :: 'x' :: cs => (16, cs)
  | '0' :: 'X' :: cs => (16, cs)
  | '0' :: cs => (8, cs)
  | cs => (10, cs)

/-- `strtol(s, NULL, base)`; base 0 is the one the digits name. -/
def strtol (s : String) (base : Nat) : Int :=
  let signed := s.toList.dropWhile Char.isWhitespace
  let cs := match signed with
    | '-' :: cs => cs
    | '+' :: cs => cs
    | cs => cs
  let (base, digits) := if base = 0 then detectBase cs else (base, cs)
  let n : Int := readDigits base 0 digits
  if signed.head? = some '-' then -n else n

section
variable {F : Type}

/-- One answer of the environment; no two questions share one. -/
def ask (f : Answers → α) : WorldM F α := do
  let w ← get
  set { w with asked := w.asked + 1 }
  pure (f (w.answers w.asked))

def dbRead (path : String) : WorldM F (Option String) :=
  ask fun a => a.db path

def gettimeofday : WorldM F Int :=
  ask Answers.time

def happens (h : Happening) : WorldM F Unit :=
  modify fun w => { w with log := w.log ++ [h] }

def modifyDomain (d : DomPtr) (f : Domain F → Domain F) : WorldM F Unit :=
  modify fun w => { w with domains := Function.update w.domains d (f (w.domains d)) }

def modifyRouting (f : Routing F → Routing F) : WorldM F Unit :=
  modify fun w => { w with routing := f w.routing }

def modifySwitcher (f : Switcher → Switcher) : WorldM F Unit :=
  modify fun w => { w with switcher := f w.switcher }

/-- A program of `socket.c` on the plugin of the world. -/
def onPlug (m : SockM α) : WorldM F α :=
  zoom World.plug (fun p w => { w with plug := p }) m

/-- The domain a pointer must not be NULL for. -/
def deref : Option DomPtr → WorldM F DomPtr
  | some d => pure d
  | none => throw .segv

/-- The first initialised table entry that satisfies `P`. -/
def World.firstDomain (w : World F) (P : Domain F → Bool) : Option DomPtr :=
  (List.finRange NDOMAIN_MAX).find? fun d => (w.domains d).initialised && P (w.domains d)

def World.domainWithDomid (w : World F) (domid : Int) : Option DomPtr :=
  w.firstDomain fun d => d.domid = domid

def World.domainWithSlot (w : World F) (slot : Int) : Option DomPtr :=
  w.firstDomain fun d => d.slot = slot

def World.domainWithSlotAndNotDomid (w : World F) (slot domid : Int) : Option DomPtr :=
  w.firstDomain fun d => d.slot = slot ∧ d.domid ≠ domid

def World.domainWithUuid (w : World F) (uuid : String) : Option DomPtr :=
  w.firstDomain fun d => d.uuid = some uuid

def World.domainUivm (w : World F) : Option DomPtr :=
  w.domainWithSlot 0

def World.domainPvm (w : World F) : Option DomPtr :=
  w.firstDomain Domain.isPvm

/-- The first entry that is not initialised. -/
def World.emptyDomain (w : World F) : Option DomPtr :=
  (List.finRange NDOMAIN_MAX).find? fun d => !(w.domains d).initialised

end

end InputServer
