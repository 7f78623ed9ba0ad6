import InputServer.Tablet

namespace InputServer
set_option autoImplicit true

/-- The contacts of a device, slot by slot, as a protocol B stream tells them. -/
structure MtSlots where
  slot : Int
  trackID : Int → Int
  x : Int → Int
  y : Int → Int

def startSlots : MtSlots := ⟨0, fun _ => -1, fun _ => -1, fun _ => -1⟩

/-- What an event tells: `ABS_MT_SLOT` selects a slot, and all the rest is of the selected one. -/
def MtSlots.decode (m : MtSlots) (ev : InputEvent) : MtSlots :=
  let value := ev.value.toInt
  if ev.type ≠ EV_ABS then m
  else if ev.code = ABS_MT_SLOT then { m with slot := value }
  else if ev.code = ABS_MT_POSITION_X then { m with x := Function.update m.x m.slot value }
  else if ev.code = ABS_MT_POSITION_Y then { m with y := Function.update m.y m.slot value }
  else if ev.code = ABS_MT_TRACKING_ID then
    { m with trackID := Function.update m.trackID m.slot value }
  else m

def decoded (evs : List InputEvent) : MtSlots :=
  evs.foldl MtSlots.decode startSlots

/-- The entry `i` of one of the arrays, if it has one. -/
def element (a : Int → Int) (i : Int) : Option Int :=
  if 0 ≤ i ∧ i < MAXSLOTS then some (a i) else none

def setElement (a : Int → Int) (i value : Int) : Option (Int → Int) :=
  if 0 ≤ i ∧ i < MAXSLOTS then some (Function.update a i value) else none

namespace TabletTouches

/-- What `handle_gestures` records, with its accesses to the arrays. -/
def recordWithin (t : TabletTouches) (ev : InputEvent) : Option TabletTouches :=
  let value := ev.value.toInt
  if ev.type ≠ EV_ABS then some t
  else if ev.code = ABS_MT_POSITION_X then do
    let old ← element t.x t.slot
    let x ← setElement t.x t.slot value
    pure { t with distance := t.distance + (old - value).natAbs, x := x }
  else if ev.code = ABS_MT_POSITION_Y then do
    let old ← element t.y t.slot
    let y ← setElement t.y t.slot value
    pure { t with distance := t.distance + (old - value).natAbs, y := y }
  else if ev.code = ABS_MT_TRACKING_ID then do
    let old ← element t.trackID t.slot
    if decide (old < 0) ≠ decide (value < 0) then do
      let trackID ← setElement t.trackID t.slot value
      pure { t with trackChange := true, trackID := trackID }
    else pure t
  else some t

theorem slot_lt (t : TabletTouches) (h : 0 ≤ t.slot ∧ t.slot < MAXSLOTS) :
    t.slot.toNat < NUM_FINGERS :=
  (Int.toNat_lt h.1).2 h.2

/-- What the slot has gathered is handed to the recogniser, with the accesses to the arrays. -/
def flushWithin (beyond : Nat → SmallactionSlot) (t : TabletTouches) :
    Option (TabletTouches × Option Gesture) :=
  if h : 0 ≤ t.slot ∧ t.slot < MAXSLOTS then do
    let slot : Fin NUM_FINGERS := ⟨t.slot.toNat, t.slot_lt h⟩
    let (t, recognised) ←
      if t.trackChange ∨ t.distance > 1 then do
        let x ← element t.x t.slot
        let y ← element t.y t.slot
        let push : Int ←
          if t.trackChange then do
            let id ← element t.trackID t.slot
            pure (if id ≥ 0 then 1 else 0)
          else pure (-1)
        let (recogniser, recognised, tracking) ← gestureHandler beyond slot x y push t.recogniser
        pure ({ t with recogniser := recogniser, goSilent := tracking }, recognised)
      else pure (t, none)
    pure ({ t with distance := 0, trackChange := false }, recognised)
  else pure (t, none)

/-- `handle_gestures`, if it makes no access outside the arrays. -/
def handleWithin (beyond : Nat → SmallactionSlot) (t : TabletTouches) (ev : InputEvent) :
    Option (TabletTouches × Option Gesture × Bool) :=
  if ev.isDropped then some ({ t with distance := 0, trackChange := false }, none, true)
  else do
    let t ← if t.slot < MAXSLOTS then t.recordWithin ev else pure t
    let (t, recognised) ←
      if newSlot ev ≠ -1 ∨ ev.isReport then t.flushWithin beyond else pure (t, none)
    let t := if newSlot ev ≠ -1 then { t with slot := newSlot ev } else t
    let t := if ev.isReport then { t with silence := t.goSilent } else t
    pure (t, recognised, t.silence = 0)

/-- What a stream leaves, from the start. -/
def play (handle : TabletTouches → InputEvent → Option (TabletTouches × Option Gesture × Bool))
    (evs : List InputEvent) : Option TabletTouches :=
  evs.foldlM (fun t ev => (handle t ev).map (·.1)) startTouches

/-- The arrays hold what the stream tells of the slots that they have. -/
structure Agrees (t : TabletTouches) (m : MtSlots) : Prop where
  trackID : ∀ s, 0 ≤ s → s < MAXSLOTS → t.trackID s = m.trackID s
  x : ∀ s, 0 ≤ s → s < MAXSLOTS → t.x s = m.x s
  y : ∀ s, 0 ≤ s → s < MAXSLOTS → t.y s = m.y s

end TabletTouches

/-- A position or a contact of the selected slot. -/
def InputEvent.OfSlot (ev : InputEvent) : Prop :=
  ev.type = EV_ABS ∧
    (ev.code = ABS_MT_POSITION_X ∨ ev.code = ABS_MT_POSITION_Y ∨ ev.code = ABS_MT_TRACKING_ID)

/-- An event that selects a slot. -/
def InputEvent.SelectsSlot (ev : InputEvent) : Prop :=
  ev.type = EV_ABS ∧ ev.code = ABS_MT_SLOT

/-- At every point of a stream no access has been outside the arrays, and they hold what the stream
tells; the events of a slot that they do not have change nothing. -/
structure FollowsSlots (beyond : Nat → SmallactionSlot) (evs : List InputEvent) : Prop where
  agrees : ∀ past later, evs = past ++ later →
    ∃ t, TabletTouches.play (TabletTouches.handleWithin beyond) past = some t ∧
      t.Agrees (decoded past)
  higher : ∀ past ev later t, evs = past ++ ev :: later → ev.OfSlot →
    MAXSLOTS ≤ (decoded past).slot →
    TabletTouches.play (TabletTouches.handleWithin beyond) past = some t →
    TabletTouches.play (TabletTouches.handleWithin beyond) (past ++ [ev]) = some t

/-- The selected slot gets another tracking id, and its contact is neither begun nor ended. -/
def MtSlots.Replaces (m : MtSlots) (ev : InputEvent) : Prop :=
  ev.code = ABS_MT_TRACKING_ID ∧ m.slot < MAXSLOTS ∧ ev.value.toInt ≠ m.trackID m.slot ∧
    (m.trackID m.slot < 0 ↔ ev.value.toInt < 0)

/-- The event says nothing of a slot, or of one that has been selected and without replacing its
contact. -/
def AnnouncedAfter (evs : List InputEvent) (ev : InputEvent) : Prop :=
  ev.OfSlot → (∃ e ∈ evs, e.SelectsSlot) ∧ ¬(decoded evs).Replaces ev

/-- Nothing is told of a slot before one is selected, and no contact takes the place of another one
that has not been ended. -/
def SlotsAnnounced (evs : List InputEvent) : Prop :=
  ∀ past ev later, evs = past ++ ev :: later → AnnouncedAfter past ev

section
variable {beyond : Nat → SmallactionSlot} {t t' : TabletTouches} {ev : InputEvent}
  {evs : List InputEvent}

theorem element_in (h : 0 ≤ i ∧ i < MAXSLOTS) (a : Int → Int) : element a i = some (a i) :=
  if_pos h

theorem setElement_in (h : 0 ≤ i ∧ i < MAXSLOTS) (a : Int → Int) (value : Int) :
    setElement a i value = some (Function.update a i value) :=
  if_pos h

theorem record_other (h : ¬ev.OfSlot) (t : TabletTouches) : t.record ev = t := by
  unfold TabletTouches.record
  dsimp only
  by_cases habs : ev.type = EV_ABS
  · unfold InputEvent.OfSlot at h
    rw [if_neg (not_not.2 habs), if_neg fun hx => h ⟨habs, .inl hx⟩,
      if_neg fun hy => h ⟨habs, .inr (.inl hy)⟩, if_neg fun hid => h ⟨habs, .inr (.inr hid)⟩]
  · rw [if_pos habs]

theorem recordWithin_eq (h : ev.OfSlot → 0 ≤ t.slot) (hslot : t.slot < MAXSLOTS) :
    t.recordWithin ev = some (t.record ev) := by
  unfold TabletTouches.recordWithin TabletTouches.record
  dsimp only
  by_cases habs : ev.type = EV_ABS
  · rw [if_neg (not_not.2 habs), if_neg (not_not.2 habs)]
    by_cases hx : ev.code = ABS_MT_POSITION_X
    · have hin : 0 ≤ t.slot ∧ t.slot < MAXSLOTS := ⟨h ⟨habs, .inl hx⟩, hslot⟩
      rw [if_pos hx, if_pos hx, element_in hin, setElement_in hin]
      rfl
    rw [if_neg hx, if_neg hx]
    by_cases hy : ev.code = ABS_MT_POSITION_Y
    · have hin : 0 ≤ t.slot ∧ t.slot < MAXSLOTS := ⟨h ⟨habs, .inr (.inl hy)⟩, hslot⟩
      rw [if_pos hy, if_pos hy, element_in hin, setElement_in hin]
      rfl
    rw [if_neg hy, if_neg hy]
    by_cases hid : ev.code = ABS_MT_TRACKING_ID
    · have hin : 0 ≤ t.slot ∧ t.slot < MAXSLOTS := ⟨h ⟨habs, .inr (.inr hid)⟩, hslot⟩
      rw [if_pos hid, if_pos hid, element_in hin, setElement_in hin]
      change (if _ then _ else _) = _
      split <;> rfl
    · rw [if_neg hid, if_neg hid]
  · rw [if_pos habs, if_pos habs]

/-- What is told of a slot before one is selected is an access in front of the arrays. -/
theorem recordWithin_none (hev : ev.OfSlot) (hslot : t.slot < 0) : t.recordWithin ev = none := by
  have hout : ¬(0 ≤ t.slot ∧ t.slot < MAXSLOTS) := fun h => absurd hslot (Int.not_lt.2 h.1)
  have helement (a : Int → Int) : element a t.slot = none := if_neg hout
  unfold TabletTouches.recordWithin
  dsimp only
  rw [if_neg (not_not.2 hev.1)]
  by_cases hx : ev.code = ABS_MT_POSITION_X
  · rw [if_pos hx, helement]
    rfl
  rw [if_neg hx]
  by_cases hy : ev.code = ABS_MT_POSITION_Y
  · rw [if_pos hy, helement]
    rfl
  rw [if_neg hy, if_pos (hev.2.resolve_left hx |>.resolve_left hy), helement]
  rfl

/-- The range of the slot is tested before what it has gathered is read. -/
theorem flushWithin_eq (t : TabletTouches) : t.flushWithin beyond = t.flush beyond := by
  unfold TabletTouches.flushWithin TabletTouches.flush
  by_cases hin : 0 ≤ t.slot ∧ t.slot < MAXSLOTS
  · rw [dif_pos hin, dif_pos hin, element_in hin, element_in hin, element_in hin]
    dsimp only
    cases t.trackChange <;> rfl
  · rw [dif_neg hin, dif_neg hin]

theorem handleWithin_eq (h : ev.OfSlot → 0 ≤ t.slot) :
    t.handleWithin beyond ev = handleTabletGestures beyond t ev := by
  unfold TabletTouches.handleWithin handleTabletGestures
  simp only [flushWithin_eq]
  by_cases hslot : t.slot < MAXSLOTS
  · rw [if_pos hslot, if_pos hslot, recordWithin_eq h hslot]
    rfl
  · rw [if_neg hslot, if_neg hslot]
    rfl

theorem handleWithin_none (hev : ev.OfSlot) (hslot : t.slot < 0) :
    t.handleWithin beyond ev = none := by
  have hdropped : ¬ev.isDropped = true := by
    unfold InputEvent.isDropped
    rw [hev.1]
    exact Bool.false_ne_true
  have hmax : t.slot < MAXSLOTS := Int.lt_trans hslot (by decide)
  unfold TabletTouches.handleWithin
  rw [if_neg hdropped, if_pos hmax, recordWithin_none hev hslot]
  rfl

/-- The arrays are the same. -/
structure SameArrays (t t' : TabletTouches) : Prop where
  trackID : t'.trackID = t.trackID
  x : t'.x = t.x
  y : t'.y = t.y

/-- The recogniser is able to go on. -/
def TabletTouches.Able (t : TabletTouches) : Prop :=
  t.recogniser.runstate = .eStartup ∨ t.recogniser.InLists

theorem record_recogniser (t : TabletTouches) (ev : InputEvent) :
    (t.record ev).recogniser = t.recogniser ∧ (t.record ev).slot = t.slot := by
  unfold TabletTouches.record
  dsimp only
  repeat' split
  all_goals exact ⟨rfl, rfl⟩

theorem flush_keeps (h : t.Able) : ∃ t' recognised,
    t.flush beyond = some (t', recognised) ∧ SameArrays t t' ∧ t'.slot = t.slot ∧ t'.Able := by
  unfold TabletTouches.flush
  split
  · dsimp only
    by_cases hgathered : t.trackChange = true ∨ t.distance > 1
    · rw [if_pos hgathered]
      have hhandler (slot : Fin NUM_FINGERS) (x y push : Int) : ∃ r' found n,
          gestureHandler beyond slot x y push t.recogniser = some (r', found, n) ∧ r'.InLists :=
        gestureHandler_inLists h
      generalize hcall : gestureHandler beyond _ _ _ _ t.recogniser = result
      obtain ⟨r', found, n, hsome, hr⟩ := hhandler _ _ _ _
      rw [hsome] at hcall
      rw [← hcall]
      exact ⟨_, _, rfl, ⟨rfl, rfl, rfl⟩, rfl, .inr hr⟩
    · rw [if_neg hgathered]
      exact ⟨_, _, rfl, ⟨rfl, rfl, rfl⟩, rfl, h⟩
  · exact ⟨_, _, rfl, ⟨rfl, rfl, rfl⟩, rfl, h⟩

/-- What is recorded, where the slot has an entry. -/
def TabletTouches.recorded (t : TabletTouches) (ev : InputEvent) : TabletTouches :=
  if t.slot < MAXSLOTS then t.record ev else t

/-- The end of `handle_gestures`. -/
def TabletTouches.settle (t : TabletTouches) (ev : InputEvent) : TabletTouches :=
  let t := if newSlot ev ≠ -1 then { t with slot := newSlot ev } else t
  if ev.isReport then { t with silence := t.goSilent } else t

theorem settle_keeps (h : t.Able) (harrays : SameArrays t₀ t) (hslot : t.slot = slot) :
    (t.settle ev).Able ∧ SameArrays t₀ (t.settle ev) ∧
      (t.settle ev).slot = if newSlot ev ≠ -1 then newSlot ev else slot := by
  rw [← hslot]
  unfold TabletTouches.settle
  by_cases hnew : newSlot ev ≠ -1
  · rw [if_pos hnew, if_pos hnew]
    dsimp only
    split <;> exact ⟨h, ⟨harrays.trackID, harrays.x, harrays.y⟩, rfl⟩
  · rw [if_neg hnew, if_neg hnew]
    dsimp only
    split <;> exact ⟨h, ⟨harrays.trackID, harrays.x, harrays.y⟩, rfl⟩

/-- An event is always handled: it is recorded, and selects the slot that it says. -/
theorem handle_keeps (beyond : Nat → SmallactionSlot) (ev : InputEvent) (h : t.Able) :
    ∃ t' recognised pass, handleTabletGestures beyond t ev = some (t', recognised, pass) ∧
      t'.Able ∧ SameArrays (t.recorded ev) t' ∧
      t'.slot = if newSlot ev ≠ -1 then newSlot ev else t.slot := by
  unfold handleTabletGestures
  by_cases hdropped : ev.isDropped = true
  · have htype : ev.type = EV_SYN := of_decide_eq_true (Bool.and_eq_true_iff.1 hdropped).1
    have hother : ¬ev.type = EV_ABS := by
      rw [htype]
      decide
    have hrecorded : t.recorded ev = t := by
      unfold TabletTouches.recorded
      rw [record_other fun hev => hother hev.1, ite_self]
    have hslot : newSlot ev = -1 := if_neg fun hev => hother hev.1
    rw [if_pos hdropped, hrecorded, hslot]
    exact ⟨_, _, _, rfl, h, ⟨rfl, rfl, rfl⟩, rfl⟩
  · rw [if_neg hdropped]
    dsimp only
    have hkept : (t.recorded ev).Able ∧ (t.recorded ev).slot = t.slot := by
      unfold TabletTouches.recorded TabletTouches.Able
      split
      · rw [(record_recogniser t ev).1]
        exact ⟨h, (record_recogniser t ev).2⟩
      · exact ⟨h, rfl⟩
    by_cases hflushes : newSlot ev ≠ -1 ∨ ev.isReport = true
    · obtain ⟨t₁, recognised, hsome, harrays, hslot, hable⟩ := flush_keeps hkept.1
      rw [if_pos hflushes]
      change ∃ t' recognised pass, ((t.recorded ev).flush beyond).bind _ = _ ∧ _
      rw [hsome]
      exact ⟨_, _, _, rfl, settle_keeps hable harrays (hslot.trans hkept.2)⟩
    · rw [if_neg hflushes]
      exact ⟨_, _, _, rfl, settle_keeps hkept.1 ⟨rfl, rfl, rfl⟩ hkept.2⟩

/-- Where the slots stand after a stream: the selected one is the decoder's as soon as one has been
selected. -/
structure TracksSlots (evs : List InputEvent) (t : TabletTouches) : Prop where
  able : t.Able
  agrees : t.Agrees (decoded evs)
  slot : (∃ e ∈ evs, e.SelectsSlot) ∧ t.slot = (decoded evs).slot ∧ 0 ≤ t.slot ∨
    (¬∃ e ∈ evs, e.SelectsSlot) ∧ t.slot = -1 ∧ (decoded evs).slot = 0

theorem decoded_snoc (evs : List InputEvent) (ev : InputEvent) :
    decoded (evs ++ [ev]) = (decoded evs).decode ev :=
  List.foldl_append

theorem newSlot_selects (h : ev.SelectsSlot) : newSlot ev = ev.value.toInt :=
  if_pos h

theorem newSlot_other (h : ¬ev.SelectsSlot) : newSlot ev = -1 :=
  if_neg h

theorem selects_not_ofSlot (h : ev.SelectsSlot) : ¬ev.OfSlot := by
  rintro ⟨-, hcode⟩
  rw [h.2] at hcode
  exact absurd hcode (by decide)

theorem decode_selects (h : ev.SelectsSlot) (m : MtSlots) :
    m.decode ev = { m with slot := ev.value.toInt } := by
  unfold MtSlots.decode
  dsimp only
  rw [if_neg (not_not.2 h.1), if_pos h.2]

theorem decode_other (h : ¬ev.SelectsSlot) (hev : ¬ev.OfSlot) (m : MtSlots) : m.decode ev = m := by
  unfold MtSlots.decode
  dsimp only
  by_cases habs : ev.type = EV_ABS
  · unfold InputEvent.OfSlot at hev
    rw [if_neg (not_not.2 habs), if_neg fun hslot => h ⟨habs, hslot⟩,
      if_neg fun hx => hev ⟨habs, .inl hx⟩, if_neg fun hy => hev ⟨habs, .inr (.inl hy)⟩,
      if_neg fun hid => hev ⟨habs, .inr (.inr hid)⟩]
  · rw [if_pos habs]

theorem decode_slot (h : ¬ev.SelectsSlot) (m : MtSlots) : (m.decode ev).slot = m.slot := by
  unfold MtSlots.decode
  dsimp only
  by_cases habs : ev.type = EV_ABS
  · rw [if_neg (not_not.2 habs), if_neg fun hslot => h ⟨habs, hslot⟩]
    repeat' split
    all_goals rfl
  · rw [if_pos habs]

/-- The events of a slot leave the entries of the others. -/
theorem decode_elsewhere (h : ¬ev.SelectsSlot) (m : MtSlots) (hs : s ≠ m.slot) :
    (m.decode ev).trackID s = m.trackID s ∧ (m.decode ev).x s = m.x s ∧
      (m.decode ev).y s = m.y s := by
  unfold MtSlots.decode
  dsimp only
  by_cases habs : ev.type = EV_ABS
  · rw [if_neg (not_not.2 habs), if_neg fun hslot => h ⟨habs, hslot⟩]
    split
    · exact ⟨rfl, Function.update_of_ne hs .., rfl⟩
    · split
      · exact ⟨rfl, rfl, Function.update_of_ne hs ..⟩
      · split
        · exact ⟨Function.update_of_ne hs .., rfl, rfl⟩
        · exact ⟨rfl, rfl, rfl⟩
  · rw [if_pos habs]
    exact ⟨rfl, rfl, rfl⟩

theorem agrees_higher {m : MtSlots} (hagrees : t.Agrees m) (h : ¬ev.SelectsSlot)
    (hslot : MAXSLOTS ≤ m.slot) : t.Agrees (m.decode ev) := by
  have hne {s : Int} (hs : s < MAXSLOTS) : s ≠ m.slot := by omega
  constructor
  · intro s hpos hs
    rw [(decode_elsewhere h m (hne hs)).1]
    exact hagrees.trackID s hpos hs
  · intro s hpos hs
    rw [(decode_elsewhere h m (hne hs)).2.1]
    exact hagrees.x s hpos hs
  · intro s hpos hs
    rw [(decode_elsewhere h m (hne hs)).2.2]
    exact hagrees.y s hpos hs

theorem update_agrees {a b : Int → Int} (h : ∀ s, 0 ≤ s → s < MAXSLOTS → a s = b s) (i v : Int) :
    ∀ s, 0 ≤ s → s < MAXSLOTS → Function.update a i v s = Function.update b i v s := by
  intro s hpos hs
  by_cases hsi : s = i
  · rw [hsi, Function.update_self, Function.update_self]
  · rw [Function.update_of_ne hsi, Function.update_of_ne hsi]
    exact h s hpos hs

/-- What is recorded is what is told, unless one contact takes the place of another. -/
theorem record_agrees {m : MtSlots} (hagrees : t.Agrees m) (hev : ev.OfSlot)
    (hslot : t.slot = m.slot) (hpos : 0 ≤ t.slot) (hmax : t.slot < MAXSLOTS) :
    (t.record ev).Agrees (m.decode ev) ↔ ¬m.Replaces ev := by
  have hselects : ¬ev.code = ABS_MT_SLOT := fun h => selects_not_ofSlot ⟨hev.1, h⟩ hev
  unfold TabletTouches.record MtSlots.decode
  dsimp only
  rw [if_neg (not_not.2 hev.1), if_neg (not_not.2 hev.1), if_neg hselects, ← hslot]
  by_cases hx : ev.code = ABS_MT_POSITION_X
  · rw [if_pos hx, if_pos hx]
    refine iff_of_true ⟨hagrees.trackID, update_agrees hagrees.x _ _, hagrees.y⟩ fun h => ?_
    exact absurd (hx.symm.trans h.1) (by decide)
  rw [if_neg hx, if_neg hx]
  by_cases hy : ev.code = ABS_MT_POSITION_Y
  · rw [if_pos hy, if_pos hy]
    refine iff_of_true ⟨hagrees.trackID, hagrees.x, update_agrees hagrees.y _ _⟩ fun h => ?_
    exact absurd (hy.symm.trans h.1) (by decide)
  have hid := hev.2.resolve_left hx |>.resolve_left hy
  have hheld := hagrees.trackID t.slot hpos hmax
  rw [if_neg hy, if_neg hy, if_pos hid, if_pos hid]
  unfold MtSlots.Replaces
  rw [← hslot]
  by_cases hchange : decide (t.trackID t.slot < 0) ≠ decide (ev.value.toInt < 0)
  · rw [if_pos hchange]
    refine iff_of_true ⟨update_agrees hagrees.trackID _ _, hagrees.x, hagrees.y⟩ fun h => ?_
    rw [← hheld] at h
    exact hchange (decide_eq_decide.2 h.2.2.2)
  · rw [if_neg hchange]
    have hsame := decide_eq_decide.1 (not_not.1 hchange)
    rw [hheld] at hsame
    constructor
    · intro h hreplaces
      have htrack := h.trackID t.slot hpos hmax
      dsimp only at htrack
      rw [Function.update_self, hheld] at htrack
      exact hreplaces.2.2.1 htrack.symm
    · intro h
      have hvalue : ev.value.toInt = m.trackID t.slot := by
        by_contra hne
        exact h ⟨hid, hmax, hne, hsame⟩
      refine ⟨fun s hs hlt => ?_, hagrees.x, hagrees.y⟩
      dsimp only
      rw [hvalue, Function.update_eq_self]
      exact hagrees.trackID s hs hlt

theorem handle_higher (hev : ev.OfSlot) (hslot : MAXSLOTS ≤ t.slot) :
    handleTabletGestures beyond t ev = some (t, none, decide (t.silence = 0)) := by
  have hselects : ¬ev.SelectsSlot := fun h => selects_not_ofSlot h hev
  have hdropped : ¬ev.isDropped = true := by
    unfold InputEvent.isDropped
    rw [hev.1]
    exact Bool.false_ne_true
  have hreport : ev.isReport = false := by
    unfold InputEvent.isReport
    rw [hev.1]
    rfl
  unfold handleTabletGestures
  rw [if_neg hdropped, if_neg (Int.not_lt.2 hslot), newSlot_other hselects, hreport]
  rfl

theorem SameArrays.agrees_iff (h : SameArrays t t') (m : MtSlots) :
    t'.Agrees m ↔ t.Agrees m := by
  constructor
  · rintro ⟨hid, hx, hy⟩
    rw [h.trackID] at hid
    rw [h.x] at hx
    rw [h.y] at hy
    exact ⟨hid, hx, hy⟩
  · rintro ⟨hid, hx, hy⟩
    rw [← h.trackID] at hid
    rw [← h.x] at hx
    rw [← h.y] at hy
    exact ⟨hid, hx, hy⟩

theorem recorded_other (h : ¬ev.OfSlot) (t : TabletTouches) : t.recorded ev = t := by
  unfold TabletTouches.recorded
  rw [record_other h, ite_self]

theorem exists_snoc_selects (h : ¬ev.SelectsSlot) :
    (∃ e ∈ evs ++ [ev], e.SelectsSlot) ↔ ∃ e ∈ evs, e.SelectsSlot := by
  constructor
  · rintro ⟨e, he, hselects⟩
    obtain he | he := List.mem_append.1 he
    · exact ⟨e, he, hselects⟩
    · rw [List.mem_singleton.1 he] at hselects
      exact absurd hselects h
  · rintro ⟨e, he, hselects⟩
    exact ⟨e, List.mem_append_left _ he, hselects⟩

namespace TracksSlots

theorem start : TracksSlots [] startTouches where
  able := .inl rfl
  agrees := ⟨fun _ _ _ => rfl, fun _ _ _ => rfl, fun _ _ _ => rfl⟩
  slot := .inr ⟨fun ⟨_, hmem, _⟩ => absurd hmem List.not_mem_nil, rfl, rfl⟩

/-- Once a slot has been selected, it is the decoder's. -/
theorem selected (h : TracksSlots evs t) (hsome : ∃ e ∈ evs, e.SelectsSlot) :
    t.slot = (decoded evs).slot ∧ 0 ≤ t.slot := by
  obtain ⟨-, hslot⟩ | ⟨hnone, -⟩ := h.slot
  · exact hslot
  · exact absurd hsome hnone

/-- The arrays agree after an event of a selected slot, unless it replaces the contact. -/
theorem recorded_agrees (h : TracksSlots evs t) (hsome : ∃ e ∈ evs, e.SelectsSlot)
    (hev : ev.OfSlot) :
    (t.recorded ev).Agrees ((decoded evs).decode ev) ↔ ¬(decoded evs).Replaces ev := by
  obtain ⟨hslot, hpos⟩ := h.selected hsome
  have hselects : ¬ev.SelectsSlot := fun h => selects_not_ofSlot h hev
  unfold TabletTouches.recorded
  split
  · rename_i hmax
    exact record_agrees h.agrees hev hslot hpos hmax
  · rename_i hmax
    have hhigher : MAXSLOTS ≤ (decoded evs).slot := by omega
    exact iff_of_true (agrees_higher h.agrees hselects hhigher)
      fun hreplaces => absurd hreplaces.2.1 (Int.not_lt.2 hhigher)

/-- What follows from a step in which the arrays agree. -/
theorem step (h : TracksSlots evs t) (hselects : ev.SelectsSlot → 0 ≤ ev.value.toInt)
    (hable : t'.Able)
    (hagrees : t'.Agrees ((decoded evs).decode ev))
    (hslot : t'.slot = if newSlot ev ≠ -1 then newSlot ev else t.slot) :
    TracksSlots (evs ++ [ev]) t' := by
  refine ⟨hable, by rw [decoded_snoc]; exact hagrees, ?_⟩
  rw [decoded_snoc]
  by_cases hev : ev.SelectsSlot
  · have hpos := hselects hev
    rw [newSlot_selects hev, if_pos (by omega)] at hslot
    rw [decode_selects hev]
    exact .inl ⟨⟨ev, List.mem_concat_self, hev⟩, hslot, hslot ▸ hpos⟩
  · rw [newSlot_other hev, if_neg (not_not.2 rfl)] at hslot
    rw [exists_snoc_selects hev, decode_slot hev, hslot]
    exact h.slot

/-- The next event: the slots are followed further exactly when it is announced. -/
theorem next (beyond : Nat → SmallactionSlot) (h : TracksSlots evs t)
    (hselects : ev.SelectsSlot → 0 ≤ ev.value.toInt) :
    AnnouncedAfter evs ev ∧ (∃ t' recognised pass,
        t.handleWithin beyond ev = some (t', recognised, pass) ∧
          TracksSlots (evs ++ [ev]) t') ∨
      ¬AnnouncedAfter evs ev ∧ ∀ t' recognised pass,
        t.handleWithin beyond ev = some (t', recognised, pass) →
          ¬t'.Agrees (decoded (evs ++ [ev])) := by
  obtain ⟨t', recognised, pass, hhandle, hable, harrays, hslot⟩ :=
    handle_keeps beyond ev h.able
  by_cases hev : ev.OfSlot
  · by_cases hsome : ∃ e ∈ evs, e.SelectsSlot
    · have hwithin : t.handleWithin beyond ev = handleTabletGestures beyond t ev :=
        handleWithin_eq fun _ => (h.selected hsome).2
      have hiff := (harrays.agrees_iff _).trans (h.recorded_agrees hsome hev)
      rw [hwithin, hhandle]
      by_cases hreplaces : (decoded evs).Replaces ev
      · refine .inr ⟨fun hannounced => (hannounced hev).2 hreplaces, ?_⟩
        rintro _ _ _ heq hagrees
        cases heq
        rw [decoded_snoc] at hagrees
        exact hiff.1 hagrees hreplaces
      · refine .inl ⟨fun _ => ⟨hsome, hreplaces⟩, t', recognised, pass, rfl, ?_⟩
        exact h.step hselects hable (hiff.2 hreplaces) hslot
    · have hfront : t.slot < 0 := by
        obtain ⟨hselected, -⟩ | ⟨-, hminus, -⟩ := h.slot
        · exact absurd hselected hsome
        · omega
      refine .inr ⟨fun hannounced => hsome (hannounced hev).1, ?_⟩
      intro t' recognised pass heq
      rw [handleWithin_none hev hfront] at heq
      cases heq
  · refine .inl ⟨fun hof => absurd hof hev, t', recognised, pass, ?_, ?_⟩
    · rw [handleWithin_eq fun hof => absurd hof hev, hhandle]
    · refine h.step hselects hable ?_ hslot
      rw [harrays.agrees_iff, recorded_other hev]
      by_cases hselect : ev.SelectsSlot
      · rw [decode_selects hselect]
        exact ⟨h.agrees.trackID, h.agrees.x, h.agrees.y⟩
      · rw [decode_other hselect hev]
        exact h.agrees

end TracksSlots

theorem play_snoc
    {handle : TabletTouches → InputEvent → Option (TabletTouches × Option Gesture × Bool)} :
    TabletTouches.play handle (evs ++ [ev]) =
      (TabletTouches.play handle evs).bind fun t => (handle t ev).map (·.1) := by
  unfold TabletTouches.play
  rw [List.foldlM_append]
  congr 1
  funext t
  exact bind_pure _

/-- A run that stays in the arrays is the run of `handle_gestures`. -/
theorem play_within (h : TabletTouches.play (TabletTouches.handleWithin beyond) evs = some t) :
    TabletTouches.play (handleTabletGestures beyond) evs = some t := by
  induction evs using List.reverseRecOn generalizing t with
  | nil => exact h
  | append_singleton evs ev ih =>
    rw [play_snoc] at h ⊢
    obtain ⟨t₁, hbefore, hevent⟩ := Option.bind_eq_some_iff.1 h
    refine Option.bind_eq_some_iff.2 ⟨t₁, ih hbefore, ?_⟩
    by_cases hfront : ev.OfSlot ∧ t₁.slot < 0
    · rw [handleWithin_none hfront.1 hfront.2] at hevent
      cases hevent
    · rw [← handleWithin_eq fun hev => Int.not_lt.1 fun hneg => hfront ⟨hev, hneg⟩]
      exact hevent

/-- Where every prefix of a stream can be followed by its next event, all of it is followed. -/
theorem tracked (hprotocol : ∀ ev ∈ evs, ev.SelectsSlot → 0 ≤ ev.value.toInt)
    (hnext : ∀ past ev later t, evs = past ++ ev :: later → TracksSlots past t →
      TabletTouches.play (TabletTouches.handleWithin beyond) past = some t →
        AnnouncedAfter past ev)
    (past later : List InputEvent) (hevs : evs = past ++ later) :
    ∃ t, TabletTouches.play (TabletTouches.handleWithin beyond) past = some t ∧
      TracksSlots past t := by
  induction past using List.reverseRecOn generalizing later with
  | nil => exact ⟨startTouches, rfl, .start⟩
  | append_singleton past ev ih =>
    rw [List.append_assoc, List.singleton_append] at hevs
    obtain ⟨t, hplay, htracks⟩ := ih (ev :: later) hevs
    have hmem : ev ∈ evs := by
      rw [hevs]
      exact List.mem_append_right _ List.mem_cons_self
    have hannounced := hnext past ev later t hevs htracks hplay
    obtain ⟨-, t', recognised, pass, hhandle, htracks'⟩ | ⟨hnot, -⟩ :=
      htracks.next beyond (hprotocol ev hmem)
    · refine ⟨t', ?_, htracks'⟩
      rw [play_snoc, hplay, Option.bind_some, hhandle]
      rfl
    · exact absurd hannounced hnot

/-- An event of a slot that the arrays do not have leaves everything as it is. -/
theorem higher_kept (h : TracksSlots evs t) (hev : ev.OfSlot)
    (hhigher : MAXSLOTS ≤ (decoded evs).slot)
    (hplay : TabletTouches.play (TabletTouches.handleWithin beyond) evs = some t) :
    TabletTouches.play (TabletTouches.handleWithin beyond) (evs ++ [ev]) = some t := by
  have hslot : MAXSLOTS ≤ t.slot := by
    obtain ⟨-, hslot, -⟩ | ⟨-, -, hzero⟩ := h.slot
    · rw [hslot]
      exact hhigher
    · rw [hzero] at hhigher
      exact absurd hhigher (by decide)
  have hpos : 0 ≤ t.slot := Int.le_trans (by decide) hslot
  rw [play_snoc, hplay, Option.bind_some, handleWithin_eq fun _ => hpos,
    handle_higher hev hslot]
  rfl

end

/-- The slots are followed as the protocol defines them exactly when the stream tells nothing of a
slot before it selects one, and replaces no contact by another. -/
theorem slots_followed_iff (beyond : Nat → SmallactionSlot) (evs : List InputEvent)
    (hprotocol : ∀ ev ∈ evs, ev.SelectsSlot → 0 ≤ ev.value.toInt) :
    FollowsSlots beyond evs ↔ SlotsAnnounced evs := by
  constructor
  · intro h
    have hnext (past : List InputEvent) (ev : InputEvent) (later : List InputEvent)
        (t : TabletTouches) (hevs : evs = past ++ ev :: later) (htracks : TracksSlots past t)
        (hplay : TabletTouches.play (TabletTouches.handleWithin beyond) past = some t) :
        AnnouncedAfter past ev := by
      have hmem : ev ∈ evs := by
        rw [hevs]
        exact List.mem_append_right _ List.mem_cons_self
      obtain ⟨hannounced, -⟩ | ⟨-, hdisagrees⟩ := htracks.next beyond (hprotocol ev hmem)
      · exact hannounced
      · obtain ⟨t', hplay', hagrees⟩ := h.agrees (past ++ [ev]) later (by simp [hevs])
        rw [play_snoc, hplay, Option.bind_some] at hplay'
        obtain ⟨⟨_, recognised, pass⟩, hhandle, rfl⟩ := Option.map_eq_some_iff.1 hplay'
        exact absurd hagrees (hdisagrees _ recognised pass hhandle)
    intro past ev later hevs
    obtain ⟨t, hplay, htracks⟩ := tracked hprotocol hnext past (ev :: later) hevs
    exact hnext past ev later t hevs htracks hplay
  · intro h
    have hall : ∀ past later, evs = past ++ later →
        ∃ t, TabletTouches.play (TabletTouches.handleWithin beyond) past = some t ∧
          TracksSlots past t :=
      tracked hprotocol fun past ev later _ hevs _ _ => h past ev later hevs
    constructor
    · intro past later hevs
      obtain ⟨t, hplay, htracks⟩ := hall past later hevs
      exact ⟨t, hplay, htracks.agrees⟩
    · intro past ev later t hevs hev hhigher hplay
      obtain ⟨t', hplay', htracks⟩ := hall past (ev :: later) hevs
      cases hplay'.symm.trans hplay
      exact higher_kept htracks hev hhigher hplay

/-- One contact that is put down, moved and lifted, in a slot that is announced. -/
def announcedTap : List InputEvent :=
  [⟨EV_ABS, ABS_MT_SLOT, 0⟩, ⟨EV_ABS, ABS_MT_TRACKING_ID, 7⟩, ⟨EV_ABS, ABS_MT_POSITION_X, 100⟩,
    ⟨EV_SYN, SYN_REPORT, 0⟩, ⟨EV_ABS, ABS_MT_TRACKING_ID, -1⟩]

theorem announced_tap_followed : (∀ ev ∈ announcedTap, ev.SelectsSlot → 0 ≤ ev.value.toInt) ∧
    (FollowsSlots (fun _ => endAction) announcedTap ↔ SlotsAnnounced announcedTap) := by
  have hprotocol : ∀ ev ∈ announcedTap, ev.SelectsSlot → 0 ≤ ev.value.toInt := by
    unfold InputEvent.SelectsSlot
    decide
  exact ⟨hprotocol, slots_followed_iff (fun _ => endAction) announcedTap hprotocol⟩

/-- A contact of slot 0, which is selected from the start. -/
def implicitTap : List InputEvent :=
  [⟨EV_ABS, ABS_MT_TRACKING_ID, 7⟩, ⟨EV_ABS, ABS_MT_POSITION_X, 100⟩]

theorem implicit_tap_not_followed : (∀ ev ∈ implicitTap, ev.SelectsSlot → 0 ≤ ev.value.toInt) ∧
    ¬FollowsSlots (fun _ => endAction) implicitTap := by
  refine ⟨?_, fun h => ?_⟩
  · unfold InputEvent.SelectsSlot
    decide
  · obtain ⟨t, hplay, -⟩ := h.agrees implicitTap [] (List.append_nil _).symm
    have hnone : (TabletTouches.play (TabletTouches.handleWithin fun _ => endAction)
        implicitTap).isNone := by decide
    rw [hplay] at hnone
    cases hnone

end InputServer
