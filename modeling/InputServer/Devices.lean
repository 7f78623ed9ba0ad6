import InputServer.PluginRecords

namespace InputServer
open Program
set_option autoImplicit true

def BUS_USB : Nat := 0x03
def BUS_I8042 : Nat := 0x11
def BUS_RS232 : Nat := 0x13
def BUS_I2C : Nat := 0x18
def BUS_HOST : Nat := 0x19

def BTN_TOOL_PEN : Nat := 0x140
def BTN_TOOL_FINGER : Nat := 0x145
def BTN_TOUCH : Nat := 0x14a
def BTN_STYLUS : Nat := 0x14b

/-- What the kernel tells of an event device, with none where the `ioctl` fails. The event types
and the keys are asked for once about a keyboard and once about a pointer; `initTouchpad` and
`initUsbTablet` tell whether these functions succeed. -/
structure Device where
  name : Option String
  bustype : Option Nat
  keyboardTypes : Option (Nat → Bool)
  keyboardKeys : Option (Nat → Bool)
  pointerTypes : Option (Nat → Bool)
  abslimits : Option (Nat → Bool)
  pointerKeys : Option (Nat → Bool)
  initTouchpad : Bool
  initUsbTablet : Bool

/-- `strcasestr(name, sub)` for a `sub` in lower case. -/
def strcasestr (name sub : String) : Bool :=
  sub.toList <:+: name.toLower.toList

/-- The keys below KEY_CAPSLOCK that a device has. -/
def keyCount (keybits : Nat → Bool) : Nat :=
  (List.range' 1 (KEY_CAPSLOCK.toNat - 1)).countP keybits

/-- `find_keyboard_device`: none for an error, else whether it is a keyboard. -/
def findKeyboardDevice (dev : Device) (bustype : Nat) (name : String) : Option Bool :=
  if strcasestr name "keyboard" then some true
  else if bustype ≠ BUS_USB then some false
  else
    match dev.keyboardTypes with
    | none => none
    | some eventtypes =>
      if !eventtypes EV_KEY.toNat then some false
      else dev.keyboardKeys.map fun keybits => decide (40 ≤ keyCount keybits)

/-- `find_pointer_device_type`, with none for an error. -/
def findPointerDeviceType (dev : Device) : Option HidType :=
  match dev.pointerTypes with
  | none => none
  | some eventtypes =>
    if eventtypes EV_REL.toNat then some .mouse
    else if !eventtypes EV_ABS.toNat then none
    else
      match dev.abslimits with
      | none => none
      | some abslimits =>
        if !abslimits ABS_X.toNat ∨ !abslimits ABS_Y.toNat then none
        else dev.pointerKeys.map fun keybits =>
          if keybits BTN_TOUCH ∧ keybits BTN_TOOL_FINGER ∧ !keybits BTN_TOOL_PEN ∧
            !keybits BTN_STYLUS then .touchpad else .tablet

def deviceIsThinkpadAcpi (bustype : Nat) (name : String) : Bool :=
  bustype = BUS_HOST ∧ strcasestr name "thinkpad extra buttons"

def deviceIsAcpiVideo (bustype : Nat) (name : String) : Bool :=
  bustype = BUS_HOST ∧ strcasestr name "video bus"

def deviceIsDisplaylinkTouchpanel (bustype : Nat) (name : String) : Bool :=
  bustype = BUS_USB ∧ strcasestr name "e2i technology, inc. usb touchpanel"

def deviceIsLidSwitch (bustype : Nat) (name : String) : Bool :=
  bustype = BUS_HOST ∧ strcasestr name "lid switch"

def busIsSupported (bus : Nat) : Bool :=
  bus ∈ [BUS_I8042, BUS_USB, BUS_RS232, BUS_I2C]

def devicesBlacklist (bustype : Nat) (name : String) : Bool :=
  deviceIsAcpiVideo bustype name || deviceIsDisplaylinkTouchpanel bustype name

/-- What `consider_device` takes a device for. -/
inductive Considered where
  | hid (type : HidType)
  | lidSwitch
deriving DecidableEq

/-- The pointers at the end of `consider_device`. -/
def considerPointer (dev : Device) : Option Considered :=
  match findPointerDeviceType dev with
  | none => none
  | some .touchpad => if dev.initTouchpad then some (.hid .touchpad) else none
  | some .tablet => if dev.initUsbTablet then some (.hid .tablet) else none
  | some _ => some (.hid .mouse)

/-- The decision of `consider_device`, with none for -1. -/
def considered (dev : Device) : Option Considered :=
  match dev.name, dev.bustype with
  | some name, some bustype =>
    if !busIsSupported bustype then none
    else if devicesBlacklist bustype name then none
    else if deviceIsThinkpadAcpi bustype name then some (.hid .thinkpadAcpi)
    else if deviceIsLidSwitch bustype name then some .lidSwitch
    else
      match findKeyboardDevice dev bustype name with
      | none => none
      | some true => some (.hid .keyboard)
      | some false => considerPointer dev
  | _, _ => none

/-- The arrays of `input_dev` about the devices; an open descriptor is the device it is open on. -/
structure Devices where
  fds : Nat → Option Device
  types : Nat → Option HidType

/-- `consider_device`, with none where it returns -1. -/
def considerDevice (d : Devices) (slot : Nat) (dev : Device) : Option Devices :=
  match considered dev with
  | none => none
  | some .lidSwitch => some { d with fds := Function.update d.fds slot none }
  | some (.hid type) => some { d with types := Function.update d.types slot (some type) }

/-- The body of the loop of `input_scan`; `node` is the device behind the node of the slot, where
there is one that can be opened. -/
def scanSlot (node : Nat → Option Device) (d : Devices) (slot : Nat) : Devices :=
  if (d.fds slot).isSome then d
  else
    match node slot with
    | none => d
    | some dev =>
      let opened := { d with fds := Function.update d.fds slot (some dev) }
      match considerDevice opened slot dev with
      | some d => d
      | none => { opened with fds := Function.update opened.fds slot none }

def inputScan (node : Nat → Option Device) (d : Devices) : Devices :=
  (List.range N_DEVS).foldl (scanSlot node) d

/-- `input_read` where the read fails. -/
def dropDevice (slot : Nat) (d : Devices) : Devices :=
  { d with fds := Function.update d.fds slot none }

/-- A scan for devices, or a device that can no more be read. -/
inductive HotPlug where
  | scan (node : Nat → Option Device)
  | drop (slot : Nat)

def HotPlug.apply (d : Devices) : HotPlug → Devices
  | .scan node => inputScan node d
  | .drop slot => dropDevice slot d

/-- `input_init`, before it scans. -/
def Devices.none : Devices :=
  ⟨fun _ => .none, fun _ => .none⟩

def devicesAfter (history : List HotPlug) : Devices :=
  history.foldl HotPlug.apply .none

/-- The requests to the plugin that `sock_plugin_sendconfig` makes. -/
def configRequests (types : Nat → Option HidType) : List (UInt16 × Int32) :=
  resetAll :: ((List.range N_DEVS).filter fun slot => (types slot).any HidType.announced).map
    fun slot => (DEV_CONF, .ofNat slot)

theorem sockPluginSendconfig_requests (types : Nat → Option HidType) :
    sockPluginSendconfig types =
      (configRequests types).forM fun r => sendPluginDevEvent r.1 r.2 := by
  have hfrom (slots : List Nat) : sockPluginSendconfigFrom types slots =
      ((slots.filter fun slot => (types slot).any HidType.announced).map
        fun slot => (DEV_CONF, Int32.ofNat slot)).forM fun r => sendPluginDevEvent r.1 r.2 := by
    induction slots with
    | nil => rfl
    | cons slot slots ih =>
      rw [sockPluginSendconfigFrom, ih]
      cases h : (types slot).any HidType.announced with
      | false => simp [h]
      | true => simp [h]
  unfold sockPluginSendconfig configRequests
  rw [hfrom]
  rfl

/-- The device that is open in a slot is a mouse, a touchpad or a tablet. -/
def Devices.pointer (d : Devices) (slot : Nat) : Bool :=
  (d.fds slot).any fun dev => (considered dev).any fun c =>
    match c with
    | .hid type => type.announced
    | .lidSwitch => false

/-- A scan finds a device for the slot that the daemon uses. -/
def HotPlug.accepts (slot : Nat) : HotPlug → Prop
  | .scan node => slot < N_DEVS ∧ ∃ dev type, node slot = some dev ∧ considered dev = some (.hid type)
  | .drop _ => False

/-- What the arrays hold of one slot. -/
def Devices.view (d : Devices) (slot : Nat) : Option Device × Option HidType :=
  (d.fds slot, d.types slot)

/-- What a scan makes of a slot, with the device it finds there. -/
def scanView (found : Option Device) (v : Option Device × Option HidType) :
    Option Device × Option HidType :=
  if v.1.isSome then v
  else
    match found with
    | none => v
    | some dev =>
      match considered dev with
      | some (.hid type) => (some dev, some type)
      | some .lidSwitch => (none, v.2)
      | none => (none, v.2)

theorem scanSlot_view (node : Nat → Option Device) (d : Devices) (i j : Nat) :
    (scanSlot node d i).view j = if j = i then scanView (node i) (d.view i) else d.view j := by
  unfold scanSlot scanView
  change _ = if j = i then (if (d.fds i).isSome then _ else _) else _
  cases hopen : (d.fds i).isSome with
  | true =>
    rw [if_pos rfl, if_pos rfl]
    split
    · rename_i hj
      rw [hj]
    · rfl
  | false =>
    rw [if_neg Bool.false_ne_true, if_neg Bool.false_ne_true]
    cases node i with
    | none =>
      dsimp only
      split
      · rename_i hj
        rw [hj]
      · rfl
    | some dev =>
      unfold considerDevice
      dsimp only
      cases considered dev with
      | none => by_cases hj : j = i <;> simp [Devices.view, hj]
      | some c =>
        cases c <;> by_cases hj : j = i <;> simp [Devices.view, hj]

theorem foldl_scan_view (node : Nat → Option Device) (slots : List Nat) (hnodup : slots.Nodup)
    (d : Devices) (j : Nat) :
    (slots.foldl (scanSlot node) d).view j =
      if j ∈ slots then scanView (node j) (d.view j) else d.view j := by
  induction slots generalizing d with
  | nil => rfl
  | cons i slots ih =>
    obtain ⟨hi, hrest⟩ := List.nodup_cons.mp hnodup
    rw [List.foldl_cons, ih hrest, scanSlot_view]
    by_cases hj : j = i
    · subst hj
      rw [if_neg hi, if_pos rfl, if_pos List.mem_cons_self]
    · rw [if_neg hj]
      simp [hj]

/-- A scan looks at every slot once. -/
theorem inputScan_view (node : Nat → Option Device) (d : Devices) (hj : j < N_DEVS) :
    (inputScan node d).view j = scanView (node j) (d.view j) := by
  rw [inputScan, foldl_scan_view node _ List.nodup_range, if_pos (List.mem_range.mpr hj)]

theorem dropDevice_view (d : Devices) (i j : Nat) :
    (dropDevice i d).view j = if j = i then (none, (d.view j).2) else d.view j := by
  by_cases hj : j = i <;> simp [dropDevice, Devices.view, hj]

/-- A pointer in the slot could no more be read, and none was found for the slot since. -/
def Forgets (history : List HotPlug) (slot : Nat) : Prop :=
  ∃ before after, history = before ++ .drop slot :: after ∧
    (devicesAfter before).pointer slot = true ∧ ∀ h ∈ after, ¬h.accepts slot

theorem forgets_snoc (history : List HotPlug) (h : HotPlug) (slot : Nat) :
    Forgets (history ++ [h]) slot ↔ Forgets history slot ∧ ¬h.accepts slot ∨
      h = .drop slot ∧ (devicesAfter history).pointer slot = true := by
  constructor
  · rintro ⟨before, after, heq, hpointer, hafter⟩
    cases after using List.reverseRecOn with
    | nil =>
      obtain ⟨rfl, hlast⟩ := List.append_inj' heq rfl
      exact .inr ⟨(List.cons.inj hlast).1, hpointer⟩
    | append_singleton after g =>
      rw [← List.cons_append, ← List.append_assoc] at heq
      obtain ⟨hbefore, hlast⟩ := List.append_inj' heq rfl
      rw [(List.cons.inj hlast).1]
      refine .inl ⟨⟨before, after, hbefore, hpointer, ?_⟩, hafter g List.mem_concat_self⟩
      exact fun h hh => hafter h (List.mem_append_left _ hh)
  · rintro (⟨⟨before, after, rfl, hpointer, hafter⟩, hnot⟩ | ⟨rfl, hpointer⟩)
    · refine ⟨before, after ++ [h], by simp, hpointer, ?_⟩
      intro g hg
      obtain hg | hg := List.mem_append.mp hg
      · exact hafter g hg
      · rw [List.mem_singleton.mp hg]
        exact hnot
    · exact ⟨history, [], rfl, hpointer, nofun⟩

/-- What holds of a slot after a history: the kind of an open device is in `types`, and a kind is
left of a closed one exactly where a pointer was forgotten. -/
structure SlotKnown (history : List HotPlug) (slot : Nat) : Prop where
  opened : ∀ dev, (devicesAfter history).fds slot = some dev → ¬Forgets history slot ∧
    ∃ type, considered dev = some (.hid type) ∧ (devicesAfter history).types slot = some type
  closed : (devicesAfter history).fds slot = none →
    (((devicesAfter history).types slot).any HidType.announced = true ↔ Forgets history slot)

theorem devicesAfter_snoc (history : List HotPlug) (h : HotPlug) :
    devicesAfter (history ++ [h]) = h.apply (devicesAfter history) := by
  rw [devicesAfter, List.foldl_append]
  rfl

theorem forgets_same (hnot : ¬h.accepts slot) (hdrop : h ≠ .drop slot) :
    Forgets (history ++ [h]) slot ↔ Forgets history slot := by
  rw [forgets_snoc]
  simp [hnot, hdrop]

/-- A slot that looks as before is known as before. -/
theorem SlotKnown.same (h : SlotKnown history slot)
    (hview : (devicesAfter (history ++ [g])).view slot = (devicesAfter history).view slot)
    (hforgets : Forgets (history ++ [g]) slot ↔ Forgets history slot) :
    SlotKnown (history ++ [g]) slot := by
  obtain ⟨hfds, htypes⟩ := Prod.mk.inj hview
  constructor
  · rw [hfds, htypes, hforgets]
    exact h.opened
  · rw [hfds, htypes, hforgets]
    exact h.closed

theorem SlotKnown.scan (h : SlotKnown history slot) (hslot : slot < N_DEVS)
    (node : Nat → Option Device) : SlotKnown (history ++ [.scan node]) slot := by
  have hview : (devicesAfter (history ++ [.scan node])).view slot =
      scanView (node slot) ((devicesAfter history).view slot) := by
    rw [devicesAfter_snoc]
    exact inputScan_view node _ hslot
  have hdrop : HotPlug.scan node ≠ .drop slot := nofun
  cases hopen : (devicesAfter history).fds slot with
  | some dev =>
    have hsame : (devicesAfter (history ++ [.scan node])).view slot =
        (devicesAfter history).view slot := by
      rw [hview]
      exact if_pos (by rw [Devices.view, hopen]; rfl)
    apply h.same hsame
    rw [forgets_snoc]
    have hnot := (h.opened dev hopen).1
    simp [hnot]
  | none =>
    have hscan : scanView (node slot) ((devicesAfter history).view slot) =
        match node slot with
        | none => (devicesAfter history).view slot
        | some dev =>
          match considered dev with
          | some (.hid type) => (some dev, some type)
          | some .lidSwitch => (none, (devicesAfter history).types slot)
          | none => (none, (devicesAfter history).types slot) :=
      if_neg (by rw [Devices.view, hopen]; exact Bool.false_ne_true)
    rw [hscan] at hview
    have hsame : (devicesAfter history).view slot = (none, (devicesAfter history).types slot) := by
      rw [Devices.view, hopen]
    cases hfound : node slot with
    | none =>
      rw [hfound] at hview
      apply h.same hview
      apply forgets_same _ hdrop
      rintro ⟨_, dev, type, hdev, _⟩
      rw [hfound] at hdev
      cases hdev
    | some dev =>
      rw [hfound] at hview
      dsimp only at hview
      -- A device that is not used leaves the slot closed, whatever `types` says of it.
      have hunused (hnot : ∀ type, considered dev ≠ some (.hid type)) :
          Forgets (history ++ [.scan node]) slot ↔ Forgets history slot := by
        apply forgets_same _ hdrop
        rintro ⟨_, dev', type, hdev', htype⟩
        rw [hfound] at hdev'
        cases hdev'
        exact hnot type htype
      cases hconsidered : considered dev with
      | none =>
        rw [hconsidered] at hview
        exact h.same (hview.trans hsame.symm) (hunused (by rw [hconsidered]; exact nofun))
      | some c =>
        cases c with
        | lidSwitch =>
          rw [hconsidered] at hview
          exact h.same (hview.trans hsame.symm) (hunused (by rw [hconsidered]; exact nofun))
        | hid type =>
          rw [hconsidered] at hview
          obtain ⟨hfds, htypes⟩ := Prod.mk.inj hview
          constructor
          · intro dev' hdev'
            rw [hfds] at hdev'
            cases hdev'
            refine ⟨?_, type, hconsidered, htypes⟩
            rw [forgets_snoc]
            rintro (⟨_, hnot⟩ | ⟨heq, _⟩)
            · exact hnot ⟨hslot, dev, type, hfound, hconsidered⟩
            · exact hdrop heq
          · intro hnone
            rw [hfds] at hnone
            cases hnone

theorem pointer_open (h : (devicesAfter history).pointer slot = true) :
    ∃ dev type, (devicesAfter history).fds slot = some dev ∧ considered dev = some (.hid type) ∧
      type.announced = true := by
  unfold Devices.pointer at h
  cases hopen : (devicesAfter history).fds slot with
  | none =>
    rw [hopen] at h
    cases h
  | some dev =>
    rw [hopen, Option.any_some] at h
    cases hconsidered : considered dev with
    | none =>
      rw [hconsidered] at h
      cases h
    | some c =>
      rw [hconsidered, Option.any_some] at h
      cases c with
      | lidSwitch => cases h
      | hid type => exact ⟨dev, type, rfl, hconsidered, h⟩

theorem SlotKnown.drop (h : SlotKnown history slot) (i : Nat) :
    SlotKnown (history ++ [.drop i]) slot := by
  have hview := dropDevice_view (devicesAfter history) i slot
  have happly : devicesAfter (history ++ [.drop i]) = dropDevice i (devicesAfter history) :=
    devicesAfter_snoc history (.drop i)
  rw [← happly] at hview
  by_cases hi : slot = i
  · subst hi
    rw [if_pos rfl] at hview
    obtain ⟨hfds, htypes⟩ := Prod.mk.inj hview
    have htypes : (devicesAfter (history ++ [.drop slot])).types slot =
      (devicesAfter history).types slot := htypes
    constructor
    · intro dev hdev
      rw [hfds] at hdev
      cases hdev
    · intro _
      rw [htypes, forgets_snoc]
      have hnot : ¬(HotPlug.drop slot).accepts slot := id
      cases hopen : (devicesAfter history).fds slot with
      | none =>
        have hpointer : ¬(devicesAfter history).pointer slot = true := by
          intro hpointer
          obtain ⟨dev, _, hdev, _⟩ := pointer_open hpointer
          rw [hopen] at hdev
          cases hdev
        rw [h.closed hopen]
        simp [hnot, hpointer]
      | some dev =>
        obtain ⟨hforgets, type, hconsidered, htype⟩ := h.opened dev hopen
        have hpointer : (devicesAfter history).pointer slot = type.announced := by
          rw [Devices.pointer, hopen, Option.any_some, hconsidered, Option.any_some]
        rw [htype, Option.any_some]
        simp [hforgets, hpointer]
  · rw [if_neg hi] at hview
    apply h.same hview
    apply forgets_same
    · exact id
    · intro heq
      cases heq
      exact hi rfl

theorem slot_known (history : List HotPlug) (hslot : slot < N_DEVS) : SlotKnown history slot := by
  induction history using List.reverseRecOn with
  | nil =>
    constructor
    · intro dev hdev
      cases hdev
    · intro _
      constructor
      · intro htype
        cases htype
      · rintro ⟨before, after, heq, _⟩
        simp at heq
  | append_singleton history h ih =>
    cases h with
    | scan node => exact ih.scan hslot node
    | drop i => exact ih.drop i

theorem types_pointer (history : List HotPlug) (hslot : slot < N_DEVS) :
    ((devicesAfter history).types slot).any HidType.announced =
      (devicesAfter history).pointer slot ↔ ¬Forgets history slot := by
  have hknown := slot_known history hslot
  cases hopen : (devicesAfter history).fds slot with
  | none =>
    have hpointer : (devicesAfter history).pointer slot = false := by
      rw [Devices.pointer, hopen]
      rfl
    rw [hpointer, ← hknown.closed hopen, Bool.not_eq_true]
  | some dev =>
    obtain ⟨hforgets, type, hconsidered, htype⟩ := hknown.opened dev hopen
    have hpointer : (devicesAfter history).pointer slot = type.announced := by
      rw [Devices.pointer, hopen, Option.any_some, hconsidered, Option.any_some]
    rw [htype, Option.any_some, hpointer]
    exact ⟨fun _ => hforgets, fun _ => rfl⟩

/-- The requests that would be right: a reset of all, and each slot with an open pointer. -/
def presentRequests (d : Devices) : List (UInt16 × Int32) :=
  resetAll :: ((List.range N_DEVS).filter d.pointer).map fun slot => (DEV_CONF, .ofNat slot)

theorem slot_injective : ∀ i ∈ List.range N_DEVS, ∀ j ∈ List.range N_DEVS,
    Int32.ofNat i = Int32.ofNat j → i = j := by
  intro i hi j hj heq
  have hsmall (n : Nat) (hn : n ∈ List.range N_DEVS) : (Int32.ofNat n).toInt = n := by
    have hlt : n < 64 := List.mem_range.mp hn
    rw [Int32.toInt_ofNat_of_lt]
    omega
  have hint := congrArg Int32.toInt heq
  rw [hsmall i hi, hsmall j hj] at hint
  exact Int.natCast_inj.mp hint

theorem mem_requests (P : Nat → Bool) (hslot : slot ∈ List.range N_DEVS) :
    (DEV_CONF, Int32.ofNat slot) ∈ ((List.range N_DEVS).filter P).map
      (fun slot => (DEV_CONF, Int32.ofNat slot)) ↔ P slot = true := by
  rw [List.mem_map]
  constructor
  · rintro ⟨other, hother, heq⟩
    rw [List.mem_filter] at hother
    have hsame := slot_injective other hother.1 slot hslot (Prod.mk.inj heq).2
    rw [← hsame]
    exact hother.2
  · intro hP
    exact ⟨slot, List.mem_filter.mpr ⟨hslot, hP⟩, rfl⟩

/-- Capturing announces the pointers that are present exactly if none was forgotten in its slot. -/
theorem announced_iff (history : List HotPlug) :
    sockPluginSendconfig (devicesAfter history).types =
      (configRequests (devicesAfter history).types).forM (fun r => sendPluginDevEvent r.1 r.2) ∧
    (configRequests (devicesAfter history).types = presentRequests (devicesAfter history) ↔
      ∀ slot, slot < N_DEVS → ¬Forgets history slot) := by
  refine ⟨sockPluginSendconfig_requests _, ?_⟩
  constructor
  · intro heq slot hslot
    rw [← types_pointer history hslot, Bool.eq_iff_iff]
    have hmem := List.mem_range.mpr hslot
    rw [← mem_requests (fun slot => ((devicesAfter history).types slot).any HidType.announced) hmem,
      ← mem_requests (devicesAfter history).pointer hmem, (List.cons.inj heq).2]
  · intro hnone
    unfold configRequests presentRequests
    congr 2
    apply List.filter_congr
    intro slot hslot
    have hslot := List.mem_range.mp hslot
    exact (types_pointer history hslot).mpr (hnone slot hslot)

/-- A USB mouse. -/
def usbMouse : Device where
  name := some "Optical Mouse"
  bustype := some BUS_USB
  keyboardTypes := some fun type => type = EV_REL.toNat
  keyboardKeys := some fun _ => false
  pointerTypes := some fun type => type = EV_REL.toNat
  abslimits := none
  pointerKeys := none
  initTouchpad := false
  initUsbTablet := false

/-- A mouse is found in slot 3, and then unplugged. -/
def unplugged : List HotPlug :=
  [.scan fun slot => if slot = 3 then some usbMouse else none, .drop 3]

/-- The mouse that is gone is still announced. -/
theorem unplugged_announced :
    (DEV_CONF, 3) ∈ configRequests (devicesAfter unplugged).types ∧
      ((devicesAfter unplugged).fds 3).isNone = true := by
  decide +kernel

end InputServer
