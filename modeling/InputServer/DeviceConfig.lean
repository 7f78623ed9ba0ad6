import InputServer.Devices
import InputServer.Reachable
import InputServer.XenEvent

namespace InputServer
set_option autoImplicit true

def BTN_WHEEL : Nat := 0x150
def EV_MAX : Nat := 0x1f
def ABS_MAX : Nat := 0x3f
def REL_MAX : Nat := 0x0f
def KEY_OK : Nat := 0x160

def HidType.number : HidType → Nat
  | .keyboard => 1
  | .mouse => 2
  | .touchpad => 3
  | .tablet => 4
  | .thinkpadAcpi => 5

/-- The words of a bitmap, of `LONG_BITS` bits each. -/
abbrev Bitmap (longBits : Nat) : Type := Nat → BitVec longBits

section
variable {longBits : Nat}

def nbits (longBits x : Nat) : Nat :=
  (x + longBits - 1) / longBits

def testBit (bit : Nat) (array : Bitmap longBits) : Bool :=
  (array (bit / longBits)).getLsbD (bit % longBits)

def bitSet (bit : Nat) (array : Bitmap longBits) : Bitmap longBits :=
  Function.update array (bit / longBits)
    (array (bit / longBits) ||| BitVec.twoPow longBits (bit % longBits))

def bitClr (bit : Nat) (array : Bitmap longBits) : Bitmap longBits :=
  Function.update array (bit / longBits)
    (array (bit / longBits) &&& ~~~BitVec.twoPow longBits (bit % longBits))

/-- The loop `for (i = 0; i < n && array[i]; ++i)`. -/
def firstZero (n : Nat) (array : Bitmap longBits) : Nat :=
  ((List.range n).takeWhile fun i => array i ≠ 0).length

def bitClrRange (first last : Nat) (array : Bitmap longBits) : Bitmap longBits :=
  (List.range' first (last - first)).foldl (fun array i => bitClr i array) array

/-- What the kernel reports of a device; nothing where the `ioctl` fails. -/
structure Capabilities (longBits : Nat) where
  eventtypes : Option (Bitmap longBits)
  abs : Option (Bitmap longBits)
  rel : Option (Bitmap longBits)
  key : Option (Bitmap longBits)
  name : Option String

/-- The bitmaps of `send_config`. -/
structure ConfigLimits (longBits : Nat) where
  eventtypes : Bitmap longBits
  abs : Bitmap longBits
  rel : Bitmap longBits
  key : Bitmap longBits

namespace ConfigLimits

def dropType (t : UInt16) (l : ConfigLimits longBits) : ConfigLimits longBits :=
  { l with eventtypes := bitClr t.toNat l.eventtypes }

def absolute (type : HidType) (reported : Option (Bitmap longBits)) (l : ConfigLimits longBits) :
    ConfigLimits longBits :=
  if !testBit EV_ABS.toNat l.eventtypes then l
  else if type = .touchpad then
    { l with abs := bitSet ABS_Y.toNat (bitSet ABS_X.toNat l.abs) }
  else match reported with
    | none => l.dropType EV_ABS
    | some abs =>
      let abs := if testBit ABS_MT_POSITION_X.toNat abs then bitClr ABS_X.toNat abs else abs
      let abs := if testBit ABS_MT_POSITION_Y.toNat abs then bitClr ABS_Y.toNat abs else abs
      let l := { l with abs := abs }
      if firstZero (nbits longBits ABS_MAX) abs ≥ nbits longBits ABS_MAX then l.dropType EV_ABS
      else l

def relative (type : HidType) (reported : Option (Bitmap longBits)) (l : ConfigLimits longBits) :
    ConfigLimits longBits :=
  if !testBit EV_REL.toNat l.eventtypes then l
  else if type = .touchpad then { l with rel := bitSet REL_WHEEL.toNat l.rel }
  else match reported with
    | none => l.dropType EV_REL
    | some rel =>
      let l :=
        if testBit REL_X.toNat rel ∧ testBit REL_Y.toNat rel then
          { l with
            abs := bitSet ABS_Y.toNat (bitSet ABS_X.toNat l.abs)
            rel := bitClr REL_Y.toNat (bitClr REL_X.toNat rel) }
        else { l with rel := rel }
      if firstZero (nbits longBits REL_MAX) l.rel ≥ nbits longBits REL_MAX then l.dropType EV_REL
      else l

/-- The words of the keys are counted against those of the relative axes. -/
def keys (reported : Option (Bitmap longBits)) (l : ConfigLimits longBits) :
    ConfigLimits longBits :=
  if !testBit EV_KEY.toNat l.eventtypes then l
  else match reported with
    | none => l.dropType EV_KEY
    | some key =>
      let key := bitClrRange BTN_MISC.toNat BTN_MOUSE.toNat key
      let key := bitClrRange BTN_JOYSTICK.toNat BTN_WHEEL key
      let key := bitClr BTN_TOUCH key
      let l := { l with key := key }
      if firstZero (nbits longBits KEY_OK) key ≥ nbits longBits REL_MAX then l.dropType EV_REL
      else l

/-- The adjustments for a device with these types of events. -/
def adjusted (type : HidType) (k : Capabilities longBits) (eventtypes : Bitmap longBits) :
    ConfigLimits longBits :=
  let l : ConfigLimits longBits := ⟨eventtypes, fun _ => 0, fun _ => 0, fun _ => 0⟩
  ((l.absolute type k.abs).relative type k.rel).keys k.key

/-- The bitmap of a type of events. -/
def wordsOf (l : ConfigLimits longBits) (t : UInt16) : List (BitVec longBits) :=
  if t = EV_ABS then (List.range (nbits longBits ABS_MAX)).map l.abs
  else if t = EV_REL then (List.range (nbits longBits REL_MAX)).map l.rel
  else (List.range (nbits longBits KEY_OK)).map l.key

end ConfigLimits

/-- The types of events that a guest is told of. -/
def configTypes : List UInt16 := [EV_ABS, EV_REL, EV_KEY]

/-- `struct msg_input_config`, with the size it is sent with. -/
structure InputConfig (longBits : Nat) where
  evbits : UInt32
  slot : Int
  name : String
  bits : List (BitVec longBits)
  size : Nat

/-- `send_config`, where it sends a message; the sizes of the message and of its name come from the
protocol's header. `eventtypes` is cleared after the kernel has filled it in. -/
def sendConfig {F : Type} (sizeofMsg sizeofName : Nat) (d : Option (Domain F)) (type : HidType)
    (slot : Int) (k : Capabilities longBits) : Option (InputConfig longBits) := do
  let d ← d
  if d.isPvDomain then none
  else do
    let _ ← k.eventtypes
    let l := ConfigLimits.adjusted type k fun _ => 0
    let sent := configTypes.filter fun t => testBit t.toNat l.eventtypes
    let bits := sent.flatMap l.wordsOf
    pure {
      evbits := sent.foldl (fun (evbits : UInt32) t => evbits ||| (1 : UInt32) <<< t.toUInt32) 0
      slot := slot
      name :=
        let name := k.name.getD s!"S:{slot} T:{type.number}"
        String.ofList (name.toList.take (sizeofName - 1))
      bits := bits
      size := sizeofMsg + bits.length * (longBits / 8) - 4 }

/-- A bit for each type that the device reports and of which some code is left, then the bitmaps of
these types in their order, and the size of it all. -/
structure InputConfig.Faithful (msg : InputConfig longBits) (sizeofMsg : Nat)
    (reported : Bitmap longBits) (left : ConfigLimits longBits) : Prop where
  evbits : ∀ t ∈ configTypes, msg.evbits.toNat.testBit t.toNat = true ↔
    testBit t.toNat reported = true ∧ ∃ word ∈ left.wordsOf t, word ≠ 0
  bits : msg.bits =
    (configTypes.filter fun t => msg.evbits.toNat.testBit t.toNat).flatMap left.wordsOf
  size : msg.size = sizeofMsg - 4 + msg.bits.length * (longBits / 8)

theorem testBit_zero (bit : Nat) : testBit bit (fun _ => 0 : Bitmap longBits) = false := by
  unfold testBit
  exact BitVec.getLsbD_zero

/-- The keys leave the axes alone. -/
theorem keys_wordsOf (l : ConfigLimits longBits) (reported : Option (Bitmap longBits))
    (ht : t = EV_ABS ∨ t = EV_REL) : (l.keys reported).wordsOf t = l.wordsOf t := by
  have hsame : (l.keys reported).abs = l.abs ∧ (l.keys reported).rel = l.rel := by
    unfold ConfigLimits.keys
    split
    · exact ⟨rfl, rfl⟩
    · split
      · exact ⟨rfl, rfl⟩
      · dsimp only
        split <;> exact ⟨rfl, rfl⟩
  unfold ConfigLimits.wordsOf
  rw [hsame.1, hsame.2]
  obtain rfl | rfl := ht <;> rfl

/-- With no type of events there is nothing to adjust. -/
theorem adjusted_cleared (type : HidType) (k : Capabilities longBits) :
    ConfigLimits.adjusted type k (fun _ => 0) =
      ⟨fun _ => 0, fun _ => 0, fun _ => 0, fun _ => 0⟩ := by
  unfold ConfigLimits.adjusted ConfigLimits.absolute ConfigLimits.relative ConfigLimits.keys
  simp only [testBit_zero, Bool.not_false, if_true]

section
variable {F : Type} {d : Domain F} {k : Capabilities longBits} {reported : Bitmap longBits}

/-- Whatever the device, the guest is told of no events. -/
theorem sendConfig_bare (hd : d.isPvDomain = false) (hk : k.eventtypes = some reported)
    (sizeofMsg sizeofName : Nat) (type : HidType) (slot : Int) :
    ∃ msg, sendConfig sizeofMsg sizeofName (some d) type slot k = some msg ∧
      msg.evbits = 0 ∧ msg.bits = [] ∧ msg.size = sizeofMsg - 4 := by
  have hnone : (configTypes.filter fun t => testBit t.toNat
      (ConfigLimits.adjusted type k fun _ => 0).eventtypes) = [] := by
    rw [adjusted_cleared, List.filter_eq_nil_iff]
    intro t _
    rw [testBit_zero]
    exact Bool.false_ne_true
  unfold sendConfig
  rw [hk]
  simp only [Option.bind_eq_bind, Option.bind_some, hd, Bool.false_eq_true, if_false, hnone,
    List.flatMap_nil, List.foldl_nil, List.length_nil, Nat.zero_mul, Nat.add_zero]
  exact ⟨_, rfl, rfl, rfl, rfl⟩

/-- The description is faithful exactly for a device that has nothing to describe. -/
theorem config_faithful_iff (hd : d.isPvDomain = false) (hk : k.eventtypes = some reported)
    (sizeofMsg sizeofName : Nat) (type : HidType) (slot : Int) :
    ∃ msg, sendConfig sizeofMsg sizeofName (some d) type slot k = some msg ∧
      (msg.Faithful sizeofMsg reported (ConfigLimits.adjusted type k reported) ↔
        ∀ t ∈ configTypes, testBit t.toNat reported = true →
          ∀ word ∈ (ConfigLimits.adjusted type k reported).wordsOf t, word = 0) := by
  obtain ⟨msg, hsend, hevbits, hbits, hsize⟩ :=
    sendConfig_bare hd hk sizeofMsg sizeofName type slot
  have hbit (t : UInt16) : msg.evbits.toNat.testBit t.toNat = false := by
    rw [hevbits]
    exact Nat.zero_testBit _
  refine ⟨msg, hsend, ?_, ?_⟩
  · intro h t ht hreported word hword
    by_contra hne
    have hset := (h.evbits t ht).2 ⟨hreported, word, hword, hne⟩
    rw [hbit t] at hset
    cases hset
  · intro hempty
    constructor
    · intro t ht
      rw [hbit t]
      refine iff_of_false Bool.false_ne_true ?_
      rintro ⟨hreported, word, hword, hne⟩
      exact hne (hempty t ht hreported word hword)
    · have hnone : (configTypes.filter fun t => msg.evbits.toNat.testBit t.toNat) = [] := by
        rw [List.filter_eq_nil_iff]
        intro t _
        rw [hbit t]
        exact Bool.false_ne_true
      rw [hbits, hnone]
      rfl
    · rw [hsize, hbits, List.length_nil, Nat.zero_mul, Nat.add_zero]

end

end

/-- What a bitmap has set. -/
def bitmapOf (bits : List Nat) : Bitmap 64 :=
  bits.foldl (fun array bit => bitSet bit array) fun _ => 0

/-- A device with a switch, and neither keys nor axes. -/
def bareDevice : Capabilities 64 :=
  ⟨some (bitmapOf [0, 5]), none, none, none, some "Lid Switch"⟩

/-- A mouse with three buttons and a wheel. -/
def wheelMouse : Capabilities 64 :=
  ⟨some (bitmapOf [0, 1, 2]), none, some (bitmapOf [0, 1, 8]),
    some (bitmapOf [0x110, 0x111, 0x112]), some "Mouse"⟩

/-- A guest of QEMU's. -/
def emulatedGuest : Domain ℚ :=
  (startWorld (fun _ => told "") []).domains firstEntry

theorem config_faithful_bare : ∃ msg, sendConfig 72 64 (some emulatedGuest) .mouse 3 bareDevice =
    some msg ∧ msg.Faithful 72 (bitmapOf [0, 5])
      (ConfigLimits.adjusted .mouse bareDevice (bitmapOf [0, 5])) := by
  obtain ⟨msg, hsend, hiff⟩ := config_faithful_iff (d := emulatedGuest) (k := bareDevice) rfl rfl
    72 64 .mouse 3
  refine ⟨msg, hsend, hiff.2 fun t ht hreported => ?_⟩
  have hnone : testBit EV_ABS.toNat (bitmapOf [0, 5]) = false ∧
      testBit EV_REL.toNat (bitmapOf [0, 5]) = false ∧
      testBit EV_KEY.toNat (bitmapOf [0, 5]) = false :=
    ⟨by decide +kernel, by decide +kernel, by decide +kernel⟩
  unfold configTypes at ht
  simp only [List.mem_cons, List.not_mem_nil, or_false] at ht
  obtain rfl | rfl | rfl := ht
  · exact absurd (hnone.1.symm.trans hreported) Bool.false_ne_true
  · exact absurd (hnone.2.1.symm.trans hreported) Bool.false_ne_true
  · exact absurd (hnone.2.2.symm.trans hreported) Bool.false_ne_true

/-- A guest is told of no wheel and of no button. -/
theorem mouse_unfaithful : ∃ msg, sendConfig 72 64 (some emulatedGuest) .mouse 3 wheelMouse =
    some msg ∧ ¬msg.Faithful 72 (bitmapOf [0, 1, 2])
      (ConfigLimits.adjusted .mouse wheelMouse (bitmapOf [0, 1, 2])) := by
  obtain ⟨msg, hsend, hevbits, -⟩ := sendConfig_bare (d := emulatedGuest) (k := wheelMouse) rfl rfl
    72 64 .mouse 3
  refine ⟨msg, hsend, fun h => ?_⟩
  have hwheel : ∃ word ∈ (ConfigLimits.adjusted .mouse wheelMouse (bitmapOf [0, 1, 2])).wordsOf
      EV_REL, word ≠ 0 := by
    unfold ConfigLimits.adjusted
    rw [keys_wordsOf _ _ (.inr rfl)]
    exact ⟨_, List.mem_map.2 ⟨0, by decide, rfl⟩, by decide +kernel⟩
  have hset := (h.evbits EV_REL (by decide)).2 ⟨by decide +kernel, hwheel⟩
  rw [hevbits] at hset
  exact absurd hset (by decide)

end InputServer
