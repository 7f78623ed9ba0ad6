import InputServer.Routing

namespace InputServer
set_option autoImplicit true

/-- What `input_keys_status` keeps of an event. -/
def inputKeysStatus (keyStatus : Nat → Bool) (e : InputEvent) : Nat → Bool :=
  if e.type = EV_KEY ∧ e.code.toNat < KEY_STATUS_SIZE then
    Function.update keyStatus e.code.toNat (decide (e.value ≠ 0))
  else keyStatus

/-- An event that is injected while the keyboard and the mouse are in different domains, with the
keys that are held by then. -/
structure SplitEvent where
  keyStatus : Nat → Bool
  event : InputEvent

/-- Events read one after the other, each with the keys that it leaves held. -/
def splitEvents : (Nat → Bool) → List InputEvent → List SplitEvent
  | _, [] => []
  | keyStatus, e :: es =>
    let keyStatus := inputKeysStatus keyStatus e
    { keyStatus := keyStatus, event := e } :: splitEvents keyStatus es

def SplitEvent.toKeyboard (x : SplitEvent) : Prop :=
  inputInjectSeamlessKeyboard x.keyStatus x.event = true

def SplitEvent.toMouse (x : SplitEvent) : Prop :=
  inputInjectSeamlessMouse x.keyStatus x.event = true

instance (x : SplitEvent) : Decidable x.toKeyboard :=
  inferInstanceAs (Decidable (_ = true))

instance (x : SplitEvent) : Decidable x.toMouse :=
  inferInstanceAs (Decidable (_ = true))

namespace SplitEvent

def held (x : SplitEvent) (key : UInt16) : Prop :=
  x.keyStatus key.toNat = true

def winHeld (x : SplitEvent) : Prop :=
  x.held KEY_LEFTMETA ∨ x.held KEY_RIGHTMETA

def altHeld (x : SplitEvent) : Prop :=
  x.held KEY_LEFTALT ∨ x.held KEY_RIGHTALT

def ctrlHeld (x : SplitEvent) : Prop :=
  x.held KEY_LEFTCTRL ∨ x.held KEY_RIGHTCTRL

/-- The event is of one of the keys that the host's shortcuts begin with. -/
def isMeta (x : SplitEvent) : Prop :=
  x.event.code ∈ [KEY_LEFTCTRL, KEY_LEFTALT, KEY_LEFTMETA, KEY_RIGHTCTRL, KEY_RIGHTALT,
    KEY_RIGHTMETA, KEY_SYSRQ]

def metaHeld (x : SplitEvent) : Prop :=
  x.ctrlHeld ∨ x.altHeld ∨ x.winHeld ∨ x.held KEY_SYSRQ

def isKey (x : SplitEvent) (key : UInt16) : Prop :=
  x.event.type = EV_KEY ∧ x.event.code = key

/-- Alt and Tab, or Ctrl and Escape. -/
def switchesWindow (x : SplitEvent) : Prop :=
  x.isKey KEY_TAB ∧ x.altHeld ∨ x.isKey KEY_ESC ∧ x.ctrlHeld

/-- Ctrl, Alt and Delete. -/
def attention (x : SplitEvent) : Prop :=
  x.isKey KEY_DELETE ∧ x.ctrlHeld ∧ x.altHeld

/-- No Windows key is held, and the event is no pointer's and switches no window. -/
def forKeyboard (x : SplitEvent) : Prop :=
  ¬x.winHeld ∧ ¬isPointerEvent x.event ∧ ¬x.switchesWindow

/-- The event is a pointer's, or a key that begins a shortcut or comes while one is held, other than
Ctrl, Alt and Delete. -/
def forMouse (x : SplitEvent) : Prop :=
  ¬x.attention ∧ (x.isMeta ∨ x.metaHeld ∨ isPointerEvent x.event ∨
    x.event.type = EV_SYN ∧ x.event.code = SYN_REPORT)

theorem toKeyboard_iff (x : SplitEvent) : x.toKeyboard ↔ x.forKeyboard := by
  unfold toKeyboard inputInjectSeamlessKeyboard forKeyboard winHeld switchesWindow altHeld ctrlHeld
    isKey held
  simp only [KeyCombination.completedBy]
  by_cases hwin : (x.keyStatus KEY_LEFTMETA.toNat || x.keyStatus KEY_RIGHTMETA.toNat) = true
  · rw [if_pos hwin]
    simp only [Bool.or_eq_true] at hwin
    simp [hwin]
  · rw [if_neg hwin]
    simp only [Bool.or_eq_true] at hwin
    by_cases hpointer : isPointerEvent x.event = true
    · simp [hpointer]
    · simp [hwin, hpointer]
      grind

theorem toMouse_iff (x : SplitEvent) : x.toMouse ↔ x.forMouse := by
  unfold toMouse inputInjectSeamlessMouse forMouse attention isMeta metaHeld winHeld altHeld ctrlHeld
    isKey held
  simp only [KeyCombination.completedBy, codeIsMetaKey]
  by_cases hkey : x.event.type = EV_KEY
  · simp [hkey]
    grind
  · simp [hkey]
    grind

theorem attention_not_pointer {x : SplitEvent} (h : x.attention) : ¬isPointerEvent x.event := by
  obtain ⟨⟨htype, hcode⟩, _⟩ := h
  have hbelow : ¬BTN_MOUSE ≤ KEY_DELETE := by decide
  simp [isPointerEvent, htype, hcode, hbelow, EV_KEY, EV_REL, EV_ABS]

theorem attention_not_switches {x : SplitEvent} (h : x.attention) : ¬x.switchesWindow := by
  obtain ⟨⟨_, hcode⟩, _⟩ := h
  rintro (⟨⟨_, htab⟩, _⟩ | ⟨⟨_, hesc⟩, _⟩)
  · exact absurd (hcode.symm.trans htab) (by decide)
  · exact absurd (hcode.symm.trans hesc) (by decide)

theorem switches_metaHeld {x : SplitEvent} (h : x.switchesWindow) : x.metaHeld := by
  obtain ⟨_, halt⟩ | ⟨_, hctrl⟩ := h
  · exact Or.inr (Or.inl halt)
  · exact Or.inl hctrl

/-- No destination accepts Ctrl, Alt and Delete while a Windows key is held. -/
theorem accepted_iff (x : SplitEvent) : x.toKeyboard ∨ x.toMouse ↔ ¬(x.attention ∧ x.winHeld) := by
  rw [toKeyboard_iff, toMouse_iff]
  constructor
  · rintro (⟨hwin, _, _⟩ | ⟨hattention, _⟩) ⟨hattention', hwin'⟩
    · exact hwin hwin'
    · exact hattention hattention'
  · intro hnot
    by_cases hattention : x.attention
    · left
      have hwin : ¬x.winHeld := fun hwin => hnot ⟨hattention, hwin⟩
      exact ⟨hwin, attention_not_pointer hattention, attention_not_switches hattention⟩
    · by_cases hmeta : x.metaHeld
      · right
        exact ⟨hattention, Or.inr (Or.inl hmeta)⟩
      · by_cases hpointer : isPointerEvent x.event = true
        · right
          exact ⟨hattention, Or.inr (Or.inr (Or.inl hpointer))⟩
        · left
          have hwin : ¬x.winHeld := fun hwin => hmeta (Or.inr (Or.inr (Or.inl hwin)))
          have hswitches : ¬x.switchesWindow := fun h => hmeta (switches_metaHeld h)
          exact ⟨hwin, hpointer, hswitches⟩

def presses (x : SplitEvent) : Prop :=
  x.event.type = EV_KEY ∧ x.event.value = 1

def releases (x : SplitEvent) : Prop :=
  x.event.type = EV_KEY ∧ x.event.value = 0

instance (x : SplitEvent) : Decidable x.presses :=
  inferInstanceAs (Decidable (_ ∧ _))

instance (x : SplitEvent) : Decidable x.releases :=
  inferInstanceAs (Decidable (_ ∧ _))

/-- A release is no pointer's exactly when its press is none. -/
theorem pointer_iff {x y : SplitEvent} (hx : x.event.type = EV_KEY) (hy : y.event.type = EV_KEY)
    (hcode : x.event.code = y.event.code) :
    isPointerEvent x.event = isPointerEvent y.event := by
  simp [isPointerEvent, hx, hy, hcode]

end SplitEvent

/-- Every press and the next release of its key are so related. -/
def PressRelease (P : SplitEvent → SplitEvent → Prop) (xs : List SplitEvent) : Prop :=
  ∀ before down between up after, xs = before ++ down :: between ++ up :: after →
    down.presses → up.releases → down.event.code = up.event.code →
    (∀ x ∈ between, ¬(x.releases ∧ x.event.code = down.event.code)) → P down up

theorem PressRelease.congr {P Q : SplitEvent → SplitEvent → Prop}
    (hiff : ∀ down up : SplitEvent, down.presses → up.releases →
      down.event.code = up.event.code → (P down up ↔ Q down up)) (xs : List SplitEvent) :
    PressRelease P xs ↔ PressRelease Q xs := by
  constructor
  · intro h before down between up after hxs hdown hup hcode hbetween
    exact (hiff down up hdown hup hcode).mp (h before down between up after hxs hdown hup hcode
      hbetween)
  · intro h before down between up after hxs hdown hup hcode hbetween
    exact (hiff down up hdown hup hcode).mpr (h before down between up after hxs hdown hup hcode
      hbetween)

/-- One of the destinations accepts each event, and a destination that accepts the press of a key
accepts its next release. -/
def LosesNothing (xs : List SplitEvent) : Prop :=
  (∀ x ∈ xs, x.toKeyboard ∨ x.toMouse) ∧
    PressRelease (fun down up =>
      (down.toKeyboard → up.toKeyboard) ∧ (down.toMouse → up.toMouse)) xs

/-- The keys that are held by the release leave the destinations of its press as they were. -/
def SameKeysHeld (down up : SplitEvent) : Prop :=
  (down.forKeyboard → ¬up.winHeld ∧ ¬up.switchesWindow) ∧
    (down.forMouse → ¬up.attention ∧ (up.isMeta ∨ up.metaHeld ∨ isPointerEvent up.event))

theorem sameKeysHeld_iff {down up : SplitEvent} (hdown : down.presses) (hup : up.releases)
    (hcode : down.event.code = up.event.code) :
    ((down.toKeyboard → up.toKeyboard) ∧ (down.toMouse → up.toMouse)) ↔
      SameKeysHeld down up := by
  simp only [SplitEvent.toKeyboard_iff, SplitEvent.toMouse_iff, SameKeysHeld]
  have hpointer := SplitEvent.pointer_iff hdown.1 hup.1 hcode
  have hsyn : ¬(up.event.type = EV_SYN ∧ up.event.code = SYN_REPORT) := by
    rintro ⟨hsyn, _⟩
    exact absurd (hup.1.symm.trans hsyn) (by decide)
  constructor
  · rintro ⟨hkeyboard, hmouse⟩
    constructor
    · intro hfor
      obtain ⟨hwin, _, hswitches⟩ := hkeyboard hfor
      exact ⟨hwin, hswitches⟩
    · intro hfor
      obtain ⟨hattention, hany⟩ := hmouse hfor
      simp only [hsyn, or_false] at hany
      exact ⟨hattention, hany⟩
  · rintro ⟨hkeyboard, hmouse⟩
    constructor
    · intro hfor
      obtain ⟨hwin, hswitches⟩ := hkeyboard hfor
      have hnone : ¬isPointerEvent up.event := by
        rw [← hpointer]
        exact hfor.2.1
      exact ⟨hwin, hnone, hswitches⟩
    · intro hfor
      obtain ⟨hattention, hany⟩ := hmouse hfor
      refine ⟨hattention, ?_⟩
      simp only [hsyn, or_false]
      exact hany

def keyInput (code : UInt16) (value : Int32) : InputEvent :=
  { type := EV_KEY, code := code, value := value }

def attentionRun : List InputEvent :=
  [keyInput KEY_LEFTCTRL 1, keyInput KEY_LEFTALT 1, keyInput KEY_LEFTMETA 1, keyInput KEY_DELETE 1]

def windowsRun : List InputEvent :=
  [keyInput KEY_P 1, keyInput KEY_LEFTMETA 1, keyInput KEY_P 0]

end InputServer
