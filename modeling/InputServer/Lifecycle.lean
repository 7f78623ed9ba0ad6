import InputServer.Inject
import InputServer.PluginRecords

namespace InputServer
open Program
set_option autoImplicit true

def DEATH_WINDOW_LENGTH : Int := 30
def NSLOTS : Int := 11

section
variable {F : Type}

/-- Domains that had given their keyboard to `d` forget it. -/
def resetPrevKeybDomain (d : DomPtr) : WorldM F Unit :=
  modify fun w =>
    if (w.domains d).domid = -1 then w
    else { w with domains := fun i =>
      let x := w.domains i
      if x.initialised ∧ x.prevKeybDomid = (w.domains d).domid then
        { x with prevKeybDomainPtr := none, prevKeybDomid := -1 }
      else x }

/-- `divert_domain_gone`. -/
def DivertInfo.forget (d : DomPtr) (dv : DivertInfo) : DivertInfo :=
  { dv with
    keyDomain := if dv.keyDomain = some d then none else dv.keyDomain
    mouseDomain := if dv.mouseDomain = some d then none else dv.mouseDomain }

def checkDivertsForTheDead (d : DomPtr) : WorldM F Unit :=
  modify fun w => { w with domains := fun i =>
    { w.domains i with divertInfo := (w.domains i).divertInfo.map (DivertInfo.forget d) } }

/-- The four pointers of `input_domain_gone`. -/
def Routing.forget (d : DomPtr) (r : Routing F) : Routing F :=
  let r := if r.mouseDest = some d then { r with mouseDest := none } else r
  let r := if r.keybDest = some d then { r with keybDest := none } else r
  let r := if r.keybParent = some d then { r with keybParent := none, keybDest := none } else r
  if r.mouseParent = some d then { r with mouseParent := none, mouseDest := none } else r

/-- `input_domain_gone`; the loop over the pressed buttons ends with the first it removes. -/
def inputDomainGone (d : DomPtr) : WorldM F Unit :=
  modifyRouting fun r =>
    let r := r.forget d
    { r with mousePressed := r.mousePressed.eraseP fun mb => mb.domain = some d }

/-- The fields that a removed domain loses. -/
def Domain.gone (d : Domain F) : Domain F :=
  { d with
    uuid := none, divertInfo := none, client := none, initialised := false, slot := -1
    isPvm := false, prevKeybDomainPtr := none, prevKeybDomid := -1 }

def focusDontExpectDeath (d : DomPtr) : WorldM F Unit := do
  let w ← get
  let slot := (w.domains d).slot
  if slot < 0 ∨ NSLOTS ≤ slot then pure ()
  else modify fun w => { w with
    deathWindow := Function.update w.deathWindow slot (w.deathWindow slot % 1000000) }

def focusExpectDeath (d : DomPtr) : WorldM F Unit := do
  let w ← get
  let slot := (w.domains d).slot
  if slot < 0 ∨ NSLOTS ≤ slot then pure ()
  else do
    let now ← gettimeofday
    modify fun w => { w with deathWindow := Function.update w.deathWindow slot now }

def expectingDeath (slot : Int) : WorldM F Bool := do
  let now ← gettimeofday
  let w ← get
  let sec := secondsBetween (w.deathWindow slot) now
  pure (0 ≤ sec ∧ sec ≤ DEATH_WINDOW_LENGTH)

def domainReadUuid (d : DomPtr) : WorldM F Unit := do
  let w ← get
  match ← ask fun a => a.xenstore s!"/local/domain/{(w.domains d).domid}/vm" with
  | none => pure ()
  | some vm => do
    let uuid ← ask fun a => a.xenstore s!"{vm}/uuid"
    modifyDomain d fun x => { x with uuid := uuid }

def domainReadIsPvDomain (d : DomPtr) : WorldM F Unit := do
  let w ← get
  let info ← ask fun a => a.domInfo (w.domains d).domid
  let pv := info.any fun i =>
    i.domid = (w.domains d).domid ∧ (¬i.hvm ∨ (i.hvm ∧ i.lapicOnly))
  modifyDomain d fun x => { x with isPvDomain := pv }

/-- `/vm/<uuid>/<key>` for the uuid of `d`. -/
def World.vmPath (w : World F) (d : DomPtr) (key : String) : String :=
  let uuid := (w.domains d).uuid.getD "(null)"
  s!"/vm/{uuid}/{key}"

def domainReadHasSecondaryGpu (d : DomPtr) : WorldM F Unit := do
  let w ← get
  if (w.domains d).isPvm then modifyDomain d fun x => { x with hasSecondaryGpu := false }
  else do
    let gpu ← dbRead (w.vmPath d "gpu")
    modifyDomain d fun x => { x with hasSecondaryGpu := gpu.any fun s => s ≠ "" }

/-- One character is read; behind it stands what the stack held. -/
def domainReadSlot (d : DomPtr) : WorldM F Int := do
  let w ← get
  match ← dbRead (w.vmPath d "slot") with
  | none => pure (-1)
  | some s => do
    let stack ← ask Answers.stack
    match s.toList with
    | [] => pure 0
    | c :: _ => pure (strtol (String.ofList (c :: stack)) 10)

def xenDomainKnown (domid : Int) : WorldM F Bool :=
  ask fun a => (a.domInfo domid).any fun i => i.domid = domid

/-- The last test of `slot_occupied_by_dead_domain`, of the domain in the slot. -/
def allButDead (d : DomPtr) : WorldM F Bool := do
  let w ← get
  let domid := (w.domains d).domid
  match ← ask fun a => a.domInfo domid with
  | none => pure true
  | some info => do
    let reported ← ask fun a => a.xenstore s!"/local/domain/{domid}/domid"
    pure (reported.isNone ∧ info.dying)

def slotHolderDead (slot : Int) : WorldM F Bool := do
  let w ← get
  match w.domainWithSlot slot with
  | none => pure false
  | some d => allButDead d

def slotOccupiedByDeadDomain (slot domid : Int) : WorldM F Bool := do
  let w ← get
  if slot = -1 then pure false
  else match w.domainWithSlotAndNotDomid slot domid with
    | none => slotHolderDead slot
    | some d => do
      if ← xenDomainKnown (w.domains d).domid then slotHolderDead slot else pure true

def onstartSendconfig (d : DomPtr) : WorldM F Unit := do
  let w ← get
  if w.plug.plugin d then do
    onPlug (sendPluginDevEvent DEV_RESET 0xFF)
    Input.sendSlot d (.input INPUTSLOT_INVALID)
  else Input.sendSlot d (.input INPUTSLOT_INVALID)

def xenVkbdBackendCreate (d : DomPtr) : WorldM F Unit := do
  if ← ask Answers.vkbdRegistered then modifyDomain d fun x => { x with vkbdBackend := true }
  else pure ()

end

section
variable {F : Type} [Double F]

/-- A zeroed `struct domain` with the defaults that creating a domain sets; `domain_init` sets the
factors of the mouse too. -/
def Domain.fresh (domid : Int) (client : Option Int) (initialised : Bool) (mult : Int) :
    Domain F where
  initialised := initialised
  client := client
  domid := domid
  slot := -1
  keyboardLedCode := 0
  isPvm := false
  isInS3 := false
  absEnabled := false
  prevKeybDomid := -1
  prevKeybDomainPtr := none
  disabledSurface := false
  uuid := none
  sstate := 5
  mouseSwitchLeft := -1
  mouseSwitchRight := -1
  lastInputEvent := 0
  timeOfS3 := 0
  isPvDomain := false
  vkbdBackend := false
  divertInfo := none
  lastDevslot := INPUTSLOT_INVALID
  hasSecondaryGpu := false
  relXMult := Double.ofInt (mult * (MAX_MOUSE_ABS_X / DEFAULT_RESOLUTION_X))
  relYMult := Double.ofInt (mult * (MAX_MOUSE_ABS_Y / DEFAULT_RESOLUTION_Y))
  desktopXres := 0
  desktopYres := 0

variable (inject : Inject F)

def focusDomainGone (d : DomPtr) : WorldM F Unit := do
  let w ← get
  let slot := (w.domains d).slot
  if ¬(w.domains d).isPvm ∨ slot < 0 ∨ NSLOTS ≤ slot then pure ()
  else if ← expectingDeath slot then pure ()
  else do
    let w ← get
    let _ ← switcherSwitch inject w.domainUivm false

def focusInitialSwitch (d : DomPtr) : WorldM F Unit := do
  let focusUuid ← ask fun a => a.xenstore "/local/domain/0/switcher/focus-uuid"
  let w ← get
  let focused := focusUuid ≠ none ∧ focusUuid = (w.domains d).uuid
  let _ ← if (w.domains d).isPvm ∨ focused then switcherSwitch inject (some d) false
    else pure false
  let now ← gettimeofday
  modifyDomain d fun x => { x with lastInputEvent := now }

def focusUpdateDomain (d : DomPtr) : WorldM F Unit := do
  let w ← get
  let slot := (w.domains d).slot
  if slot < 0 ∨ NSLOTS ≤ slot then pure ()
  else do
    focusDontExpectDeath d
    focusInitialSwitch inject d

/-- What `domain_gone` and `domain_release` do alike. -/
def forgetDomain (d : DomPtr) : WorldM F Unit := do
  resetPrevKeybDomain d
  modifyDomain d Domain.gone
  inputDomainGone d
  switcherDomainGone inject d
  checkDivertsForTheDead d

/-- A PVM that dies unexpectedly gives the display to the UIVM. -/
def leavePvm (d : DomPtr) : WorldM F Unit := do
  let w ← get
  if (w.domains d).isPvm ∧ (w.domains d).sstate ≠ 0 then focusDomainGone inject d else pure ()

def domainGone (d : DomPtr) : WorldM F Unit := do
  modifyDomain d fun x => { x with vkbdBackend := false }
  leavePvm inject d
  forgetDomain inject d

def domainDetachVkbd (d : DomPtr) : WorldM F Unit := do
  let w ← get
  if (w.domains d).vkbdBackend then do
    modifyDomain d fun x => { x with vkbdBackend := false }
    forgetDomain inject d
  else pure ()

/-- `domain_release`: with a backend attached the uuid is freed twice. -/
def domainRelease (d : DomPtr) : WorldM F Unit := do
  let w ← get
  if (w.domains d).vkbdBackend ∧ (w.domains d).uuid ≠ none then throw .doubleFree
  else do
    domainDetachVkbd inject d
    forgetDomain inject d

/-- A domain that went to sleep. -/
def sleepDomain (d : DomPtr) : WorldM F Unit := do
  let now ← gettimeofday
  modifyDomain d fun x => { x with
    isInS3 := true, timeOfS3 := now, prevKeybDomainPtr := none, prevKeybDomid := -1 }
  resetPrevKeybDomain d
  switcherS3 inject d

/-- `domain_power_state`, as the watch on `path`. -/
def domainPowerState (path : String) (d : DomPtr) : WorldM F Unit := do
  match ← ask fun a => a.xenstore path with
  | none => pure ()
  | some s => if s ≠ "" ∧ strtol s 10 = 3 then sleepDomain inject d else pure ()

/-- A left-over domain in the slot is removed. -/
def reclaimSlot (slot domid : Int) : WorldM F Unit := do
  if ← slotOccupiedByDeadDomain slot domid then do
    let w ← get
    match w.domainWithSlotAndNotDomid slot domid with
    | none => pure ()
    | some dead => do
      happens (.reclaimed dead)
      domainGone inject dead
  else pure ()

/-- The rest of `switcher_domid`, for a domain that has its slot. -/
def startDomain (d : DomPtr) : WorldM F Unit := do
  modifyDomain d fun x => { x with
    relXMult := Double.ofInt (MAX_MOUSE_ABS_X / DEFAULT_RESOLUTION_X)
    relYMult := Double.ofInt (MAX_MOUSE_ABS_Y / DEFAULT_RESOLUTION_Y)
    desktopXres := 0, desktopYres := 0, isPvm := false, keyboardLedCode := 0 }
  domainPowerState inject "power-state" d
  xenVkbdBackendCreate d
  domainReadHasSecondaryGpu d
  domainMouseSwitchConfig d
  focusUpdateDomain inject d
  onstartSendconfig d

def switcherDomid (d : DomPtr) (domid : Int) : WorldM F Unit := do
  let w ← get
  if w.domainWithDomid domid ≠ none then pure ()
  else do
    modifyDomain d fun x => { x with domid := domid }
    domainReadUuid d
    domainReadIsPvDomain d
    let slot ← domainReadSlot d
    reclaimSlot inject slot domid
    let w ← get
    if w.domainWithSlot slot ≠ none ∨ slot = -1 then pure ()
    else do
      modifyDomain d fun x => { x with slot := slot }
      startDomain inject d

def switcherPvmDomid (d : DomPtr) (domid : Int) : WorldM F Unit := do
  switcherDomid inject d domid
  modifyDomain d fun x => { x with isPvm := true }
  focusUpdateDomain inject d
  let _ ← switcherSwitch inject (some d) false

/-- A table entry zeroed and set up; nothing captures it. -/
def resetEntry (d : DomPtr) (x : Domain F) : WorldM F Unit := do
  modifyDomain d fun _ => x
  onPlug (modify fun p => { p with plugin := Function.update p.plugin d false })

/-- `domain_create` for a client of `domid`: a device model for a PVM or for another guest. -/
def domainCreate (domid : Int) (pvm : Bool) : WorldM F Unit := do
  let w ← get
  match w.emptyDomain with
  | none => pure ()
  | some d => do
    resetEntry d (Domain.fresh (-1) (some domid) true 0)
    happens (.client d domid)
    if pvm then switcherPvmDomid inject d domid else switcherDomid inject d domid

/-- `domain_assign_slot`; tells whether it succeeded. -/
def domainAssignSlot (d : DomPtr) : WorldM F Bool := do
  let slot ← domainReadSlot d
  let w ← get
  if slot < 0 ∨ NDOMAIN_MAX ≤ slot then pure false
  else do
    reclaimSlot inject slot (w.domains d).domid
    let w ← get
    if w.domainWithSlot slot ≠ none then pure false
    else do
      modifyDomain d fun x => { x with slot := slot }
      pure true

def domainSetup (d : DomPtr) : WorldM F Bool := do
  domainReadUuid d
  domainReadIsPvDomain d
  if ← domainAssignSlot inject d then do
    domainPowerState inject "power-state" d
    domainMouseSwitchConfig d
    modifyDomain d fun x => { x with initialised := true }
    pure true
  else pure false

def domainAttachVkbd (d : DomPtr) : WorldM F Bool := do
  let w ← get
  if ¬(w.domains d).isPvDomain ∨ (w.domains d).vkbdBackend then pure false
  else do
    xenVkbdBackendCreate d
    modifyDomain d fun x => { x with absEnabled := true }
    pure true

/-- The end of `input_daemon_attach_vkbd`; tells what it returns. -/
def attachVkbdTo (d : DomPtr) : WorldM F Bool := do
  if ← domainAttachVkbd d then do
    focusUpdateDomain inject d
    pure true
  else pure false

/-- `domain_new` and what `input_daemon_attach_vkbd` does with the domain. -/
def attachNewDomain (domid : Int) : WorldM F Bool := do
  let w ← get
  match w.emptyDomain with
  | none => pure false
  | some d => do
    resetEntry d (Domain.fresh domid none false 1)
    if ← domainSetup inject d then do
      modifyDomain d fun x => { x with isPvm := false }
      attachVkbdTo inject d
    else do
      domainRelease inject d
      pure false

/-- `input_daemon_attach_vkbd`, with what it returns. -/
def inputDaemonAttachVkbd (domid : Int) : WorldM F Bool := do
  let w ← get
  match w.domainWithDomid domid with
  | none => attachNewDomain inject domid
  | some d => attachVkbdTo inject d

def inputDaemonDetachVkbd (domid : Int) : WorldM F Unit := do
  let w ← get
  match w.domainWithDomid domid with
  | none => pure ()
  | some d => domainDetachVkbd inject d

end

end InputServer
