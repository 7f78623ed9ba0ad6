import InputServer.Reachable
import InputServer.Tablet

namespace InputServer
set_option autoImplicit true

/-- An event of a tablet, with what stands behind the recogniser's tables when it is read. -/
structure TabletInput where
  slot : Nat
  ev : InputEvent
  beyond : Nat → SmallactionSlot

def injectedKeys (acts : List TabletAct) : List (Nat × InputEvent) :=
  acts.filterMap fun act => match act with
    | .inject slot ev => if ev.type = EV_KEY then some (slot, ev) else none
    | .recognise _ => none

theorem injectedKeys_inject (slot : Nat) (ev : InputEvent) (acts : List TabletAct) :
    injectedKeys (.inject slot ev :: acts) =
      (if ev.type = EV_KEY then [(slot, ev)] else []) ++ injectedKeys acts := by
  unfold injectedKeys
  rw [List.filterMap_cons]
  by_cases hkey : ev.type = EV_KEY
  · simp only [if_pos hkey, List.singleton_append]
  · simp only [if_neg hkey, List.nil_append]

theorem injectedKeys_append (acts acts' : List TabletAct) :
    injectedKeys (acts ++ acts') = injectedKeys acts ++ injectedKeys acts' :=
  List.filterMap_append

section
variable {F : Type}

/-- A tool and what a finger holds, as the device has them, and whether a pen is in range. -/
abbrev HeldTool (F : Type) : Type := TabletScalingParams F × Bool

/-- What an event says of them. -/
def keepHeld (h : HeldTool F) (ev : InputEvent) : HeldTool F :=
  if ev.type = EV_KEY then
    let (t, penInrange, _) := translateKey h.1 h.2 ev
    (t, penInrange)
  else h

def heldAfter (h : HeldTool F) (is : List TabletInput) : HeldTool F :=
  is.foldl (fun h i => keepHeld h i.ev) h

namespace Tablet

def held (w : Tablet F) (slot : Nat) : HeldTool F :=
  (w.tscale slot, w.penInrange)

def setHeld (w : Tablet F) (slot : Nat) (h : HeldTool F) : Tablet F :=
  { w.setScaling slot h.1 with penInrange := h.2 }

@[simp] theorem setHeld_held (w : Tablet F) (slot : Nat) : w.setHeld slot (w.held slot) = w := by
  unfold setHeld setScaling held
  dsimp only
  rw [Function.update_eq_self]

@[simp] theorem setHeld_setHeld (w : Tablet F) (slot : Nat) (h h' : HeldTool F) :
    (w.setHeld slot h).setHeld slot h' = w.setHeld slot h' := by
  unfold setHeld setScaling
  dsimp only
  rw [Function.update_idem]

@[simp] theorem held_setHeld (w : Tablet F) (slot : Nat) (h : HeldTool F) :
    (w.setHeld slot h).held slot = h := by
  unfold setHeld setScaling held
  dsimp only
  rw [Function.update_self]

end Tablet

variable [Double F] {w w' : Tablet F} {slot : Nat}

def tabletInput (w : Tablet F) (i : TabletInput) : Option (Tablet F × List TabletAct) :=
  handleUsbTabletEvent i.beyond w i.ev i.slot

/-- A stream of events, from any of the tablets. -/
def tabletInputs (w : Tablet F) : List TabletInput → Option (Tablet F × List TabletAct)
  | [] => some (w, [])
  | i :: is => do
    let (w, acts) ← tabletInput w i
    let (w, acts') ← tabletInputs w is
    pure (w, acts ++ acts')

/-- The keys that a stream has injected. -/
def keysInjected (w : Tablet F) (is : List TabletInput) : Option (List (Nat × InputEvent)) :=
  (tabletInputs w is).map fun r => injectedKeys r.2

/-- What is to follow from a dropped packet: nothing of it is forwarded, forwarding is resumed with
its report, and the keys injected later are those that would be without it. -/
structure Recovered (w : Tablet F) (slot : Nat) (drop report : TabletInput)
    (evs : List TabletInput) : Prop where
  silent : ∃ w₁ acts₁ w₂ acts₂, tabletInput w drop = some (w₁, acts₁) ∧
    tabletInputs w₁ evs = some (w₂, acts₂) ∧ ∀ ev, .inject slot ev ∉ acts₂
  resumed : ∀ later w₃ acts, (∀ i ∈ later, i.slot = slot → i.ev.isDropped = false) →
    tabletInputs w (drop :: evs ++ report :: later) = some (w₃, acts) →
    w₃.ignoreEvents slot = false
  keys : ∀ later, keysInjected w (drop :: evs ++ report :: later) =
    keysInjected w (drop :: report :: later)

/-- No click of a finger is pending when the packet is dropped, what is dropped leaves the tool, the
finger's button and the pen as they are, and it is not dropped twice. -/
structure DropsHarmlessly (w : Tablet F) (slot : Nat) (evs : List TabletInput) : Prop where
  settled : (w.tscale slot).btnleft ≠ .newlypressed
  held : heldAfter (w.held slot) evs = w.held slot
  once : ∀ i ∈ evs, i.ev.isDropped = false

theorem isDropped_iff {ev : InputEvent} :
    ev.isDropped = true ↔ ev.type = EV_SYN ∧ ev.code = SYN_DROPPED := by
  unfold InputEvent.isDropped
  rw [Bool.and_eq_true, decide_eq_true_eq, decide_eq_true_eq]

theorem isReport_iff {ev : InputEvent} :
    ev.isReport = true ↔ ev.type = EV_SYN ∧ ev.code = SYN_REPORT := by
  unfold InputEvent.isReport
  rw [decide_eq_true_eq]

theorem isDropped_report {ev : InputEvent} (h : ev.isDropped = true) : ev.isReport = false := by
  rw [Bool.eq_false_iff]
  intro hreport
  have hcode := (isReport_iff.1 hreport).2
  rw [(isDropped_iff.1 h).2] at hcode
  exact absurd hcode (by decide)

theorem isReport_dropped {ev : InputEvent} (h : ev.isReport = true) : ev.isDropped = false := by
  rw [Bool.eq_false_iff]
  intro hdropped
  rw [isDropped_report hdropped] at h
  cases h

theorem syn_translate (w : Tablet F) (slot : Nat) {ev : InputEvent} (h : ev.type = EV_SYN) :
    w.translate slot ev = (w, ev) := by
  unfold Tablet.translate
  rw [h, if_neg (by decide), if_neg (by decide)]

/-- Where a packet is dropped. -/
def Tablet.suspended (w : Tablet F) (slot : Nat) : Tablet F :=
  { w.setIgnore slot true with
    touches := { w.touches with distance := 0, trackChange := false } }

theorem drop_step {i : TabletInput} (hdrop : i.ev.isDropped = true) (hslot : i.slot = slot) :
    tabletInput w i = some (w.suspended slot, [.inject slot i.ev]) := by
  have htype := (isDropped_iff.1 hdrop).1
  have hnotabs : ¬(i.ev.type = EV_ABS ∧ w.penInrange = true ∧
      (w.tscale slot).subtype = SUBTYPE_MONOTOUCH) := by
    rw [htype]
    exact fun h => absurd h.1 (by decide)
  unfold tabletInput handleUsbTabletEvent
  rw [hslot, if_neg hnotabs, syn_translate w slot htype]
  dsimp only
  rw [isDropped_report hdrop, if_neg (fun h => Bool.false_ne_true h.1), if_pos hdrop]
  unfold Tablet.forward handleTabletGestures
  rw [if_pos hdrop, htype]
  rfl

/-- The translation notes what is held, and does not make or hide an event that ends a packet. -/
theorem translate_held (w : Tablet F) (slot : Nat) (ev : InputEvent) : ∃ newEv,
    w.translate slot ev = (w.setHeld slot (keepHeld (w.held slot) ev), newEv) ∧
      ∀ code, newEv.type = EV_SYN ∧ newEv.code = code ↔ ev.type = EV_SYN ∧ ev.code = code := by
  unfold Tablet.translate keepHeld
  by_cases habs : ev.type = EV_ABS
  · rw [if_pos habs, habs, if_neg (by decide), Tablet.setHeld_held]
    have htype : (scaleEvent (w.tscale slot) ev).type = EV_ABS := by
      unfold scaleEvent
      split
      · exact habs
      · split <;> exact habs
    refine ⟨_, rfl, fun code => ?_⟩
    rw [htype]
    exact iff_of_false (fun h => absurd h.1 (by decide)) fun h => absurd h.1 (by decide)
  · rw [if_neg habs]
    by_cases hkey : ev.type = EV_KEY
    · rw [if_pos hkey, if_pos hkey]
      refine ⟨_, rfl, fun code => ?_⟩
      dsimp only
      rw [hkey]
      exact iff_of_false (fun h => absurd h.1 (by decide)) fun h => absurd h.1 (by decide)
    · rw [if_neg hkey, if_neg hkey, Tablet.setHeld_held]
      exact ⟨ev, rfl, fun code => Iff.rfl⟩

theorem translate_key (w : Tablet F) (slot : Nat) {ev : InputEvent} (hkey : ev.type = EV_KEY) :
    w.translate slot ev = (w.setHeld slot (keepHeld (w.held slot) ev),
      { ev with code := (translateKey (w.held slot).1 (w.held slot).2 ev).2.2 }) := by
  unfold Tablet.translate keepHeld
  rw [if_neg (by rw [hkey]; decide), if_pos hkey, if_pos hkey]
  rfl

theorem tabletInputs_cons (h : tabletInput w i = some (w', acts)) (is : List TabletInput) :
    tabletInputs w (i :: is) = (tabletInputs w' is).map fun r => (r.1, acts ++ r.2) := by
  rw [tabletInputs, h, Option.bind_eq_bind, Option.bind_some]
  dsimp only
  cases tabletInputs w' is <;> rfl

/-- What is dropped is only noted. -/
theorem ignored_step {i : TabletInput} (hslot : i.slot = slot)
    (hignore : w.ignoreEvents slot = true) (hreport : i.ev.isReport = false)
    (hdropped : i.ev.isDropped = false) :
    tabletInput w i = some (w.setHeld slot (keepHeld (w.held slot) i.ev), []) := by
  unfold tabletInput handleUsbTabletEvent
  rw [hslot]
  split
  · rename_i habs
    unfold keepHeld
    rw [habs.1, if_neg (by decide), Tablet.setHeld_held]
  · obtain ⟨newEv, htranslate, hsame⟩ := translate_held w slot i.ev
    have hreport' : newEv.isReport = false := by
      rw [Bool.eq_false_iff, ne_eq, isReport_iff, hsame, ← isReport_iff, hreport]
      exact Bool.false_ne_true
    have hdropped' : newEv.isDropped = false := by
      rw [Bool.eq_false_iff, ne_eq, isDropped_iff, hsame, ← isDropped_iff, hdropped]
      exact Bool.false_ne_true
    rw [htranslate]
    dsimp only
    rw [hreport', hdropped', if_neg (fun h => Bool.false_ne_true h.1),
      if_neg Bool.false_ne_true]
    have hstill : (w.setHeld slot (keepHeld (w.held slot) i.ev)).ignoreEvents slot = true := hignore
    rw [hstill, if_pos rfl, if_neg Bool.false_ne_true]

theorem ignored_append (hevs : ∀ i ∈ is, i.slot = slot ∧ i.ev.isReport = false)
    (hignore : w.ignoreEvents slot = true) (honce : ∀ i ∈ is, i.ev.isDropped = false)
    (later : List TabletInput) :
    tabletInputs w (is ++ later) =
      tabletInputs (w.setHeld slot (heldAfter (w.held slot) is)) later := by
  induction is generalizing w with
  | nil =>
    unfold heldAfter
    rw [List.nil_append, List.foldl_nil, Tablet.setHeld_held]
  | cons i is ih =>
    obtain ⟨hslot, hreport⟩ := hevs i List.mem_cons_self
    have hone := ignored_step hslot hignore hreport (honce i List.mem_cons_self)
    have hrest := ih (w := w.setHeld slot (keepHeld (w.held slot) i.ev))
      (fun j hj => hevs j (List.mem_cons_of_mem i hj)) hignore
      (fun j hj => honce j (List.mem_cons_of_mem i hj))
    rw [Tablet.held_setHeld, Tablet.setHeld_setHeld] at hrest
    rw [List.cons_append, tabletInputs_cons hone, hrest]
    exact Option.map_id'

theorem ignored_run (hevs : ∀ i ∈ is, i.slot = slot ∧ i.ev.isReport = false)
    (hignore : w.ignoreEvents slot = true) (honce : ∀ i ∈ is, i.ev.isDropped = false) :
    tabletInputs w is = some (w.setHeld slot (heldAfter (w.held slot) is), []) := by
  have hrun := ignored_append hevs hignore honce []
  rw [List.append_nil] at hrun
  exact hrun

/-- Where the report of a dropped packet leaves off. -/
def Tablet.resumed (w : Tablet F) (slot : Nat) : Tablet F :=
  { w.setIgnore slot false with
    touches := { w.touches with
      distance := 0, trackChange := false, silence := w.touches.goSilent } }

theorem handleTabletGestures_report {t : TabletTouches} {ev : InputEvent}
    (hreport : ev.isReport = true) (hdistance : t.distance = 0) (hchange : t.trackChange = false) :
    handleTabletGestures beyond t ev =
      some ({ t with silence := t.goSilent }, none, decide (t.goSilent = 0)) := by
  have htype := (isReport_iff.1 hreport).1
  have hslot : newSlot ev = -1 := by
    unfold newSlot
    rw [htype, if_neg fun h => absurd h.1 (by decide)]
  have hrecord : t.record ev = t := by
    unfold TabletTouches.record
    rw [htype]
    rfl
  have hflush : t.flush beyond = some (t, none) := by
    unfold TabletTouches.flush
    split
    · have hnothing : ¬(t.trackChange = true ∨ t.distance > 1) := by
        rw [hchange, hdistance]
        decide
      rw [if_neg hnothing]
      obtain ⟨silence, goSilent, trackID, x, y, slot, distance, trackChange, recogniser⟩ := t
      cases hdistance
      cases hchange
      rfl
    · rfl
  unfold handleTabletGestures
  rw [isReport_dropped hreport, if_neg Bool.false_ne_true, hrecord, ite_self, hslot, hreport]
  dsimp only
  rw [if_pos (.inr rfl), hflush]
  rfl

/-- The report of a dropped packet, where no click is pending. -/
theorem report_step {i : TabletInput} (hreport : i.ev.isReport = true) (hslot : i.slot = slot)
    (h : HeldTool F) (hsettled : h.1.btnleft ≠ .newlypressed) :
    ∃ acts, tabletInput ((w.suspended slot).setHeld slot h) i =
      some ((w.resumed slot).setHeld slot h, acts) ∧ injectedKeys acts = [] := by
  have htype := (isReport_iff.1 hreport).1
  refine ⟨if w.touches.goSilent = 0 then [.inject slot i.ev] else [], ?_, ?_⟩
  · unfold tabletInput handleUsbTabletEvent
    rw [hslot, htype, if_neg fun h => absurd h.1 (by decide), syn_translate _ slot htype]
    dsimp only
    have hscale : (((w.suspended slot).setHeld slot h).tscale slot).btnleft ≠ .newlypressed := by
      unfold Tablet.setHeld Tablet.setScaling
      dsimp only
      rw [Function.update_self]
      exact hsettled
    have hstill : ((w.suspended slot).setHeld slot h).ignoreEvents slot = true :=
      Function.update_self ..
    rw [if_neg fun h => hscale h.2, isReport_dropped hreport, if_neg Bool.false_ne_true, hstill,
      if_pos rfl, hreport, if_pos rfl]
    have hgestures : handleTabletGestures i.beyond (w.suspended slot).touches i.ev = _ :=
      handleTabletGestures_report hreport rfl rfl
    have hsame : ((w.suspended slot).setHeld slot h).setIgnore slot false =
        { (w.resumed slot).setHeld slot h with touches := (w.suspended slot).touches } := by
      unfold Tablet.setIgnore Tablet.setHeld Tablet.setScaling Tablet.suspended Tablet.resumed
      unfold Tablet.setIgnore
      dsimp only
      rw [Function.update_idem]
    have hnocopy : ¬(i.ev.type = EV_KEY ∧ i.ev.code ≠ i.ev.code) := fun h => h.2 rfl
    unfold Tablet.forward
    rw [hsame, if_neg hnocopy]
    dsimp only
    rw [hgestures]
    by_cases hsilent : w.touches.goSilent = 0
    · rw [if_pos hsilent]
      have hpass : decide ((w.suspended slot).touches.goSilent = 0) = true :=
        decide_eq_true hsilent
      rw [hpass]
      rfl
    · rw [if_neg hsilent]
      have hpass : decide ((w.suspended slot).touches.goSilent = 0) = false :=
        decide_eq_false hsilent
      rw [hpass]
      rfl
  · split
    · rw [injectedKeys_inject, htype]
      rfl
    · rfl

theorem keysInjected_cons (h : tabletInput w i = some (w', acts)) (is : List TabletInput) :
    keysInjected w (i :: is) = (keysInjected w' is).map (injectedKeys acts ++ ·) := by
  unfold keysInjected
  rw [tabletInputs_cons h, Option.map_map, Option.map_map]
  congr 1
  funext r
  exact injectedKeys_append acts r.2

theorem keysInjected_silent (h : tabletInput w i = some (w', acts))
    (hsilent : injectedKeys acts = []) (is : List TabletInput) :
    keysInjected w (i :: is) = keysInjected w' is := by
  rw [keysInjected_cons h, hsilent]
  exact Option.map_id'

section
variable {drop report : TabletInput} {evs : List TabletInput}

/-- A dropped packet, up to its report. -/
theorem dropped_run (hdrop : drop.ev.isDropped = true) (hslot : drop.slot = slot)
    (hevs : ∀ i ∈ evs, i.slot = slot ∧ i.ev.isReport = false)
    (honce : ∀ i ∈ evs, i.ev.isDropped = false) (later : List TabletInput) :
    tabletInputs w (drop :: evs ++ later) =
      (tabletInputs ((w.suspended slot).setHeld slot (heldAfter (w.held slot) evs)) later).map
        fun r => (r.1, .inject slot drop.ev :: r.2) := by
  have hstill : (w.suspended slot).ignoreEvents slot = true := Function.update_self ..
  rw [List.cons_append, tabletInputs_cons (drop_step hdrop hslot),
    ignored_append hevs hstill honce]
  rfl

theorem dropped_keys (hdrop : drop.ev.isDropped = true) (hslot : drop.slot = slot)
    (hevs : ∀ i ∈ evs, i.slot = slot ∧ i.ev.isReport = false)
    (honce : ∀ i ∈ evs, i.ev.isDropped = false) (later : List TabletInput) :
    keysInjected w (drop :: evs ++ later) =
      keysInjected ((w.suspended slot).setHeld slot (heldAfter (w.held slot) evs)) later := by
  unfold keysInjected
  rw [dropped_run hdrop hslot hevs honce, Option.map_map]
  congr 1
  funext r
  change injectedKeys (_ :: r.2) = _
  rw [injectedKeys_inject, (isDropped_iff.1 hdrop).1]
  rfl

/-- Forwarding is suspended only by a dropped packet of the tablet itself. -/
theorem resumed_step (h : tabletInput w i = some (w', acts))
    (hresumed : w.ignoreEvents slot = false) (hi : i.slot = slot → i.ev.isDropped = false) :
    w'.ignoreEvents slot = false := by
  have hforward {u u' : Tablet F} {ev newEv : InputEvent} {acts : List TabletAct}
      (h : u.forward i.beyond i.slot ev newEv = some (u', acts)) :
      u'.ignoreEvents = u.ignoreEvents := by
    obtain ⟨r, -, h⟩ := Option.bind_eq_some_iff.1 h
    cases h
    rfl
  obtain ⟨newEv, htranslate, hsame⟩ := translate_held w i.slot i.ev
  unfold tabletInput handleUsbTabletEvent at h
  split at h
  · cases h
    exact hresumed
  · rw [htranslate] at h
    dsimp only at h
    split at h
    · cases h
      exact hresumed
    · split at h
      · rename_i hdropped
        have hother : slot ≠ i.slot := by
          rintro rfl
          rw [isDropped_iff, hsame, ← isDropped_iff, hi rfl] at hdropped
          cases hdropped
        rw [hforward h]
        exact (Function.update_of_ne hother ..).trans hresumed
      · split at h
        · split at h
          · rw [hforward h]
            unfold Tablet.setIgnore
            dsimp only
            by_cases hslot : slot = i.slot
            · rw [hslot, Function.update_self]
            · rw [Function.update_of_ne hslot]
              exact hresumed
          · cases h
            exact hresumed
        · rw [hforward h]
          exact hresumed

theorem resumed_run (h : tabletInputs w is = some (w', acts))
    (hresumed : w.ignoreEvents slot = false)
    (hi : ∀ i ∈ is, i.slot = slot → i.ev.isDropped = false) : w'.ignoreEvents slot = false := by
  induction is generalizing w acts with
  | nil =>
    cases h
    exact hresumed
  | cons i is ih =>
    obtain ⟨⟨w₁, acts₁⟩, hone, h⟩ := Option.bind_eq_some_iff.1 h
    obtain ⟨⟨w₂, acts₂⟩, hrest, h⟩ := Option.bind_eq_some_iff.1 h
    cases h
    exact ih hrest (resumed_step hone hresumed (hi i List.mem_cons_self))
      fun j hj => hi j (List.mem_cons_of_mem i hj)

/-- A packet that is dropped harmlessly is recovered from. -/
theorem DropsHarmlessly.recovered (h : DropsHarmlessly w slot evs)
    (hdrop : drop.ev.isDropped = true) (hslot : drop.slot = slot)
    (hreport : report.ev.isReport = true) (hslot' : report.slot = slot)
    (hevs : ∀ i ∈ evs, i.slot = slot ∧ i.ev.isReport = false) :
    Recovered w slot drop report evs := by
  have hstill : (w.suspended slot).ignoreEvents slot = true := Function.update_self ..
  have hnothing : ∀ i ∈ ([] : List TabletInput), i.slot = slot ∧ i.ev.isReport = false :=
    fun i hi => absurd hi List.not_mem_nil
  have hnothing' : ∀ i ∈ ([] : List TabletInput), i.ev.isDropped = false :=
    fun i hi => absurd hi List.not_mem_nil
  constructor
  · exact ⟨_, _, _, _, drop_step hdrop hslot, ignored_run hevs hstill h.once,
      fun ev hev => absurd hev List.not_mem_nil⟩
  · intro later w₃ acts hlater hrun
    obtain ⟨acts', hstep, -⟩ := report_step (w := w) hreport hslot' (w.held slot) h.settled
    rw [dropped_run hdrop hslot hevs h.once, h.held, tabletInputs_cons hstep,
      Option.map_map] at hrun
    obtain ⟨⟨w₄, acts₄⟩, hlast, heq⟩ := Option.map_eq_some_iff.1 hrun
    cases heq
    exact resumed_run hlast (Function.update_self ..) hlater
  · intro later
    rw [dropped_keys hdrop hslot hevs h.once, h.held]
    exact (dropped_keys hdrop hslot hnothing hnothing' (report :: later)).symm

/-- What an injected key is, with the pen's version of it where they differ. -/
def keyEvents (slot : Nat) (h : HeldTool F) (ev : InputEvent) : List (Nat × InputEvent) :=
  let code := (translateKey h.1 h.2 ev).2.2
  (if code ≠ ev.code then [(slot, ev)] else []) ++ [(slot, { ev with code := code })]

def keyTrace (slot : Nat) : HeldTool F → List InputEvent → List (Nat × InputEvent)
  | _, [] => []
  | h, ev :: evs => keyEvents slot h ev ++ keyTrace slot (keepHeld h ev) evs

/-- The click that a report injects. -/
def reportClick (slot : Nat) (h : HeldTool F) : List (Nat × InputEvent) :=
  if h.1.btnleft = .newlypressed then [(slot, { type := EV_KEY, code := BTN_LEFT, value := 1 })]
  else []

omit [Double F] in
theorem handleTabletGestures_key {t : TabletTouches} {ev : InputEvent} (hkey : ev.type = EV_KEY) :
    handleTabletGestures beyond t ev = some (t, none, decide (t.silence = 0)) := by
  have hdropped : ev.isDropped = false := by
    rw [Bool.eq_false_iff, ne_eq, isDropped_iff, hkey]
    exact fun h => absurd h.1 (by decide)
  have hreport : ev.isReport = false := by
    rw [Bool.eq_false_iff, ne_eq, isReport_iff, hkey]
    exact fun h => absurd h.1 (by decide)
  have hslot : newSlot ev = -1 := by
    unfold newSlot
    rw [hkey, if_neg fun h => absurd h.1 (by decide)]
  have hrecord : t.record ev = t := by
    unfold TabletTouches.record
    rw [hkey]
    rfl
  unfold handleTabletGestures
  rw [hdropped, if_neg Bool.false_ne_true, hrecord, ite_self, hslot, hreport]
  rfl

/-- Once nothing is suspended and no gesture silences the tablet, every key is injected. -/
theorem key_step (hquiet : w.touches.goSilent = 0) (h : HeldTool F) {i : TabletInput}
    (hslot : i.slot = slot) (hkey : i.ev.type = EV_KEY) :
    ∃ acts, tabletInput ((w.resumed slot).setHeld slot h) i =
      some ((w.resumed slot).setHeld slot (keepHeld h i.ev), acts) ∧
      injectedKeys acts = keyEvents slot h i.ev := by
  let newEv : InputEvent := { i.ev with code := (translateKey h.1 h.2 i.ev).2.2 }
  have hnew : newEv.type = EV_KEY := hkey
  refine ⟨(if newEv.code ≠ i.ev.code then [.inject slot i.ev] else []) ++ [.inject slot newEv],
    ?_, ?_⟩
  · have htranslate : ((w.resumed slot).setHeld slot h).translate slot i.ev =
        ((w.resumed slot).setHeld slot (keepHeld h i.ev), newEv) := by
      rw [translate_key _ slot hkey, Tablet.held_setHeld, Tablet.setHeld_setHeld]
    have hreport : newEv.isReport = false := by
      rw [Bool.eq_false_iff, ne_eq, isReport_iff, hnew]
      exact fun h => absurd h.1 (by decide)
    have hdropped : newEv.isDropped = false := by
      rw [Bool.eq_false_iff, ne_eq, isDropped_iff, hnew]
      exact fun h => absurd h.1 (by decide)
    have hresumed : ((w.resumed slot).setHeld slot (keepHeld h i.ev)).ignoreEvents slot = false :=
      Function.update_self ..
    have hpass : decide ((w.resumed slot).touches.silence = 0) = true := decide_eq_true hquiet
    unfold tabletInput handleUsbTabletEvent
    rw [hslot, hkey, if_neg fun h => absurd h.1 (by decide), htranslate]
    dsimp only
    rw [hreport, if_neg fun h => Bool.false_ne_true h.1, hdropped, if_neg Bool.false_ne_true,
      hresumed, if_neg Bool.false_ne_true]
    unfold Tablet.forward
    have hgestures : handleTabletGestures i.beyond (w.resumed slot).touches newEv =
        some ((w.resumed slot).touches, none, true) := by
      rw [handleTabletGestures_key hnew, hpass]
    change (handleTabletGestures i.beyond (w.resumed slot).touches newEv).bind _ = _
    rw [hgestures, hnew]
    simp only [Option.bind_some, true_and, Option.toList_none, List.map_nil, List.append_nil,
      if_true]
    rfl
  · unfold keyEvents
    rw [injectedKeys_append, injectedKeys_inject, if_pos hnew]
    dsimp only [newEv]
    split
    · rw [injectedKeys_inject, if_pos hkey]
      rfl
    · rfl

theorem keys_trace (hquiet : w.touches.goSilent = 0) (h : HeldTool F) {is : List TabletInput}
    (his : ∀ i ∈ is, i.slot = slot ∧ i.ev.type = EV_KEY) (later : List TabletInput) :
    keysInjected ((w.resumed slot).setHeld slot h) (is ++ later) =
      (keysInjected ((w.resumed slot).setHeld slot (heldAfter h is)) later).map
        (keyTrace slot h (is.map TabletInput.ev) ++ ·) := by
  induction is generalizing h with
  | nil => exact Option.map_id'.symm
  | cons i is ih =>
    obtain ⟨hslot, hkey⟩ := his i List.mem_cons_self
    obtain ⟨acts, hstep, hkeys⟩ := key_step hquiet h hslot hkey
    rw [List.cons_append, keysInjected_cons hstep, hkeys,
      ih (keepHeld h i.ev) fun j hj => his j (List.mem_cons_of_mem i hj), Option.map_map]
    congr 1
    funext keys
    exact (List.append_assoc ..).symm

theorem report_click (h : HeldTool F) {i : TabletInput}
    (hslot : i.slot = slot) (hreport : i.ev.isReport = true) :
    keysInjected ((w.resumed slot).setHeld slot h) [i] = some (reportClick slot h) := by
  have htype := (isReport_iff.1 hreport).1
  have hstep : ∃ w' acts, tabletInput ((w.resumed slot).setHeld slot h) i = some (w', acts) ∧
      injectedKeys acts = reportClick slot h := by
    have hscale : ((w.resumed slot).setHeld slot h).tscale slot = h.1 := Function.update_self ..
    have hresumed : ((w.resumed slot).setHeld slot h).ignoreEvents slot = false :=
      Function.update_self ..
    unfold tabletInput handleUsbTabletEvent reportClick
    rw [hslot, htype, if_neg fun h => absurd h.1 (by decide), syn_translate _ slot htype]
    dsimp only
    rw [hscale, hreport, isReport_dropped hreport, hresumed]
    by_cases hclick : h.1.btnleft = .newlypressed
    · rw [if_pos ⟨rfl, hclick⟩, if_pos hclick]
      refine ⟨_, _, rfl, ?_⟩
      rw [injectedKeys_inject, htype]
      rfl
    · rw [if_neg fun h => hclick h.2, if_neg Bool.false_ne_true, if_neg Bool.false_ne_true,
        if_neg hclick]
      have hgestures : handleTabletGestures i.beyond (w.resumed slot).touches i.ev = _ :=
        handleTabletGestures_report hreport rfl rfl
      have hnocopy : ¬(i.ev.type = EV_KEY ∧ i.ev.code ≠ i.ev.code) := fun h => h.2 rfl
      unfold Tablet.forward
      rw [if_neg hnocopy]
      change ∃ w' acts, (handleTabletGestures i.beyond (w.resumed slot).touches i.ev).bind _ =
        some (w', acts) ∧ _
      rw [hgestures]
      refine ⟨_, _, rfl, ?_⟩
      split
      · rw [List.nil_append]
        change injectedKeys [.inject slot i.ev] = []
        rw [injectedKeys_inject, htype]
        rfl
      · rfl
  obtain ⟨w', acts, hstep, hkeys⟩ := hstep
  rw [keysInjected_cons hstep, hkeys]
  change some (reportClick slot h ++ []) = _
  rw [List.append_nil]

def keyOf (code : Nat) (value : Int32) : InputEvent :=
  { type := EV_KEY, code := UInt16.ofNat code, value := value }

/-- Keys of one tablet. -/
def keysOn (slot : Nat) (beyond : Nat → SmallactionSlot) (evs : List InputEvent) :
    List TabletInput :=
  evs.map fun ev => ⟨slot, ev, beyond⟩

omit [Double F] in
theorem keepHeld_key (h : HeldTool F) {ev : InputEvent} (hkey : ev.type = EV_KEY) :
    keepHeld h ev = ((translateKey h.1 h.2 ev).1, (translateKey h.1 h.2 ev).2.1) :=
  if_pos hkey

omit [Double F] in
theorem penOff_held (h : HeldTool F) : keepHeld h (keyOf BTN_TOOL_PEN 0) = (h.1, false) := rfl

omit [Double F] in
theorem fingerOn_held (h : HeldTool F) :
    keepHeld h (keyOf BTN_TOOL_FINGER 1) =
      ({ h.1 with tool := UInt16.ofNat BTN_TOOL_FINGER }, h.2) :=
  rfl

omit [Double F] in
theorem touchOn_translated (t : TabletScalingParams F) (penInrange : Bool) :
    translateKey t penInrange (keyOf BTN_TOUCH 1) =
      if t.tool.toNat = BTN_TOOL_FINGER then
        (if t.btnleft = .released ∧ !penInrange then { t with btnleft := .newlypressed } else t,
          penInrange, UInt16.ofNat BTN_TOUCH)
      else (t, penInrange, t.tool) :=
  rfl

omit [Double F] in
theorem touchOff_translated (t : TabletScalingParams F) (penInrange : Bool) :
    translateKey t penInrange (keyOf BTN_TOUCH 0) =
      if t.tool.toNat = BTN_TOOL_FINGER then
        if t.btnleft ≠ .released then ({ t with btnleft := .released }, penInrange, BTN_LEFT)
        else (t, penInrange, UInt16.ofNat BTN_TOUCH)
      else (t, penInrange, t.tool) :=
  rfl

omit [Double F] in
theorem touchOn_held (h : HeldTool F) : keepHeld h (keyOf BTN_TOUCH 1) =
    (if h.1.tool.toNat = BTN_TOOL_FINGER ∧ h.1.btnleft = .released ∧ h.2 = false then
      { h.1 with btnleft := .newlypressed } else h.1, h.2) := by
  rw [keepHeld_key h rfl, touchOn_translated]
  by_cases htool : h.1.tool.toNat = BTN_TOOL_FINGER
  · rw [if_pos htool]
    simp only [htool, true_and, Bool.not_eq_true']
  · rw [if_neg htool, if_neg fun hall => htool hall.1]

omit [Double F] in
theorem touchOff_held (h : HeldTool F) : (keepHeld h (keyOf BTN_TOUCH 0)).2 = h.2 ∧
    if h.1.tool.toNat = BTN_TOOL_FINGER then
      (keepHeld h (keyOf BTN_TOUCH 0)).1 = { h.1 with btnleft := .released }
    else (keepHeld h (keyOf BTN_TOUCH 0)).1 = h.1 := by
  rw [keepHeld_key h rfl, touchOff_translated]
  by_cases htool : h.1.tool.toNat = BTN_TOOL_FINGER
  · rw [if_pos htool, if_pos htool]
    by_cases hheld : h.1.btnleft ≠ .released
    · rw [if_pos hheld]
      exact ⟨rfl, rfl⟩
    · rw [if_neg hheld, ← not_ne_iff.1 hheld]
      exact ⟨rfl, rfl⟩
  · rw [if_neg htool, if_neg htool]
    exact ⟨rfl, rfl⟩

omit [Double F] in
/-- A finger's touch is a click exactly when no pen is in range. -/
theorem finger_click (h : HeldTool F) :
    ([keyOf BTN_TOOL_FINGER 1, keyOf BTN_TOUCH 0, keyOf BTN_TOUCH 1].foldl keepHeld h).1.btnleft =
      .newlypressed ↔ h.2 = false := by
  rw [List.foldl_cons, List.foldl_cons, List.foldl_cons, List.foldl_nil, fingerOn_held]
  generalize hu : keepHeld ({ h.1 with tool := UInt16.ofNat BTN_TOOL_FINGER }, h.2)
    (keyOf BTN_TOUCH 0) = u
  obtain ⟨hpen, hoff⟩ := touchOff_held ({ h.1 with tool := UInt16.ofNat BTN_TOOL_FINGER }, h.2)
  rw [hu] at hpen hoff
  rw [if_pos (show (UInt16.ofNat BTN_TOOL_FINGER).toNat = BTN_TOOL_FINGER from rfl)] at hoff
  rw [touchOn_held, hoff, hpen]
  dsimp only
  cases h.2 with
  | false =>
    rw [if_pos ⟨rfl, rfl, rfl⟩]
    exact iff_of_true rfl rfl
  | true =>
    rw [if_neg fun hall => Bool.noConfusion hall.2.2]
    exact iff_of_false (fun h => Btnleft.noConfusion h) fun h => Bool.noConfusion h

omit [Double F] in
/-- Without a pen in range, a touch is a click exactly when the tool is a finger. -/
theorem touch_click (h : HeldTool F) (hsettled : h.1.btnleft ≠ .newlypressed) :
    ([keyOf BTN_TOOL_PEN 0, keyOf BTN_TOUCH 0, keyOf BTN_TOUCH 1].foldl keepHeld h).1.btnleft =
      .newlypressed ↔ h.1.tool.toNat = BTN_TOOL_FINGER := by
  rw [List.foldl_cons, List.foldl_cons, List.foldl_cons, List.foldl_nil, penOff_held]
  generalize hu : keepHeld (h.1, false) (keyOf BTN_TOUCH 0) = u
  obtain ⟨hpen, hoff⟩ := touchOff_held (h.1, false)
  rw [hu] at hpen hoff
  dsimp only at hpen hoff
  rw [touchOn_held, hpen]
  by_cases htool : h.1.tool.toNat = BTN_TOOL_FINGER
  · rw [if_pos htool] at hoff
    rw [hoff]
    dsimp only
    rw [if_pos ⟨htool, rfl, rfl⟩]
    exact iff_of_true rfl htool
  · rw [if_neg htool] at hoff
    rw [hoff, if_neg fun hall => htool hall.1]
    exact iff_of_false hsettled htool

omit [Double F] in
/-- A finger that goes up has a release of its own injected where it has clicked. -/
theorem finger_release (h : HeldTool F) :
    (keyTrace slot h [keyOf BTN_TOOL_FINGER 1, keyOf BTN_TOUCH 0]).length =
      if h.1.btnleft = .released then 2 else 3 := by
  have hfirst : keyEvents slot h (keyOf BTN_TOOL_FINGER 1) =
      [(slot, keyOf BTN_TOOL_FINGER 1)] := rfl
  unfold keyTrace keyTrace
  rw [hfirst, fingerOn_held]
  unfold keyTrace keyEvents
  rw [touchOff_translated,
    if_pos (show (UInt16.ofNat BTN_TOOL_FINGER).toNat = BTN_TOOL_FINGER from rfl)]
  dsimp only
  by_cases hreleased : h.1.btnleft = .released
  · rw [hreleased]
    rfl
  · simp only [if_pos hreleased, if_neg hreleased]
    rfl

omit [Double F] in
/-- Two states that no keys tell apart are the same. -/
theorem held_unique {h h' : HeldTool F} (hrest : ∃ btnleft tool,
      h'.1 = { h.1 with btnleft := btnleft, tool := tool })
    (hsettled : h.1.btnleft ≠ .newlypressed) (hsettled' : h'.1.btnleft ≠ .newlypressed)
    (htrace : ∀ evs : List InputEvent, (∀ ev ∈ evs, ev.type = EV_KEY) →
      keyTrace slot h' evs = keyTrace slot h evs)
    (hclick : ∀ evs : List InputEvent, (∀ ev ∈ evs, ev.type = EV_KEY) →
      ((evs.foldl keepHeld h').1.btnleft = .newlypressed ↔
        (evs.foldl keepHeld h).1.btnleft = .newlypressed)) : h' = h := by
  have hpen : h'.2 = h.2 := by
    have hiff := hclick [keyOf BTN_TOOL_FINGER 1, keyOf BTN_TOUCH 0, keyOf BTN_TOUCH 1]
      (by simp [keyOf])
    rw [finger_click, finger_click] at hiff
    exact Bool.eq_iff_iff.2 (by rw [← Bool.not_eq_false, hiff, Bool.not_eq_false])
  have hfinger : h'.1.tool.toNat = BTN_TOOL_FINGER ↔ h.1.tool.toNat = BTN_TOOL_FINGER := by
    have hiff := hclick [keyOf BTN_TOOL_PEN 0, keyOf BTN_TOUCH 0, keyOf BTN_TOUCH 1]
      (by simp [keyOf])
    rw [touch_click h' hsettled', touch_click h hsettled] at hiff
    exact hiff
  have htool : h'.1.tool = h.1.tool := by
    by_cases htool : h.1.tool.toNat = BTN_TOOL_FINGER
    · exact UInt16.toNat_inj.1 ((hfinger.2 htool).trans htool.symm)
    · have hsame := htrace [keyOf BTN_TOUCH 1] (by simp [keyOf])
      have hlast := congrArg List.getLast? hsame
      unfold keyTrace keyTrace keyEvents at hlast
      rw [touchOn_translated, touchOn_translated, if_neg htool, if_neg fun h => htool (hfinger.1 h),
        List.append_nil, List.append_nil, List.getLast?_concat, List.getLast?_concat] at hlast
      exact congrArg (fun p : Nat × InputEvent => p.2.code) (Option.some.inj hlast)
  have hheld : h'.1.btnleft = h.1.btnleft := by
    have hsame := htrace [keyOf BTN_TOOL_FINGER 1, keyOf BTN_TOUCH 0] (by simp [keyOf])
    have hlength := congrArg List.length hsame
    rw [finger_release, finger_release] at hlength
    cases hnow : h.1.btnleft <;> cases hnow' : h'.1.btnleft <;> simp_all
  obtain ⟨btnleft, tool, hscale⟩ := hrest
  refine Prod.ext ?_ hpen
  rw [hscale] at htool hheld ⊢
  rw [show btnleft = h.1.btnleft from hheld, show tool = h.1.tool from htool]

omit [Double F] in
theorem heldAfter_rest (h : HeldTool F) (is : List TabletInput) : ∃ btnleft tool,
    (heldAfter h is).1 = { h.1 with btnleft := btnleft, tool := tool } := by
  unfold heldAfter
  induction is generalizing h with
  | nil => exact ⟨_, _, rfl⟩
  | cons i is ih =>
    obtain ⟨btnleft, tool, hrest⟩ := ih (keepHeld h i.ev)
    have hone : ∃ btnleft tool, (keepHeld h i.ev).1 =
        { h.1 with btnleft := btnleft, tool := tool } := by
      unfold keepHeld
      split
      · unfold translateKey
        dsimp only
        split_ifs <;> exact ⟨_, _, rfl⟩
      · exact ⟨_, _, rfl⟩
    obtain ⟨_, _, hone⟩ := hone
    rw [List.foldl_cons, hrest, hone]
    exact ⟨btnleft, tool, rfl⟩

/-- A packet that is dropped once more is forwarded as such. -/
theorem dropped_injected (h : tabletInputs w is = some (w', acts)) (hi : i ∈ is)
    (hdropped : i.ev.isDropped = true) : .inject i.slot i.ev ∈ acts := by
  induction is generalizing w acts with
  | nil => exact absurd hi List.not_mem_nil
  | cons j is ih =>
    obtain ⟨⟨w₁, acts₁⟩, hone, h⟩ := Option.bind_eq_some_iff.1 h
    obtain ⟨⟨w₂, acts₂⟩, hrest, h⟩ := Option.bind_eq_some_iff.1 h
    cases h
    obtain rfl | hi := List.mem_cons.1 hi
    · rw [drop_step hdropped rfl] at hone
      cases hone
      exact List.mem_append_left _ List.mem_cons_self
    · exact List.mem_append_right _ (ih hrest hi)

/-- The report of a dropped packet, where a click is pending: the click is sent, and forwarding is
not resumed. -/
theorem click_step {i : TabletInput} (hreport : i.ev.isReport = true) (hslot : i.slot = slot)
    (h : HeldTool F) (hclick : h.1.btnleft = .newlypressed) :
    ∃ w' acts, tabletInput ((w.suspended slot).setHeld slot h) i = some (w', acts) ∧
      w'.ignoreEvents slot = true ∧ injectedKeys acts ≠ [] := by
  have htype := (isReport_iff.1 hreport).1
  have hscale : ((w.suspended slot).setHeld slot h).tscale slot = h.1 := Function.update_self ..
  unfold tabletInput handleUsbTabletEvent
  rw [hslot, htype, if_neg fun h => absurd h.1 (by decide), syn_translate _ slot htype]
  dsimp only
  rw [hscale, hreport, if_pos ⟨rfl, hclick⟩]
  refine ⟨_, _, rfl, Function.update_self .., ?_⟩
  rw [injectedKeys_inject, htype]
  exact List.cons_ne_nil _ _

/-- A tablet that no gesture silences recovers only from what is dropped harmlessly. -/
theorem Recovered.harmless (h : Recovered w slot drop report evs)
    (hdrop : drop.ev.isDropped = true) (hslot : drop.slot = slot)
    (hreport : report.ev.isReport = true) (hslot' : report.slot = slot)
    (hevs : ∀ i ∈ evs, i.slot = slot ∧ i.ev.isReport = false)
    (hquiet : w.touches.goSilent = 0) : DropsHarmlessly w slot evs := by
  have honce : ∀ i ∈ evs, i.ev.isDropped = false := by
    intro i hi
    obtain ⟨w₁, acts₁, w₂, acts₂, -, hrun, hsilent⟩ := h.silent
    by_contra hdropped
    have hinjected := dropped_injected hrun hi (Bool.eq_true_of_not_eq_false hdropped)
    rw [(hevs i hi).1] at hinjected
    exact hsilent _ hinjected
  have hnothing : ∀ i ∈ ([] : List TabletInput), i.slot = slot ∧ i.ev.isReport = false :=
    fun i hi => absurd hi List.not_mem_nil
  have hnothing' : ∀ i ∈ ([] : List TabletInput), i.ev.isDropped = false :=
    fun i hi => absurd hi List.not_mem_nil
  have hkeys (later : List TabletInput) := h.keys later
  have hwithout (later : List TabletInput) : keysInjected w (drop :: report :: later) =
      keysInjected ((w.suspended slot).setHeld slot (w.held slot)) (report :: later) :=
    dropped_keys hdrop hslot hnothing hnothing' (report :: later)
  have hsettled' : (heldAfter (w.held slot) evs).1.btnleft ≠ .newlypressed := by
    intro hclick
    obtain ⟨w', acts, hstep, hstill, -⟩ := click_step (w := w) hreport hslot' _ hclick
    have hrun := dropped_run (w := w) hdrop hslot hevs honce [report]
    rw [tabletInputs_cons hstep] at hrun
    have hresumed := h.resumed [] _ _ (fun i hi => absurd hi List.not_mem_nil) hrun
    exact absurd (hresumed.symm.trans hstill) (by decide)
  obtain ⟨acts', hstep', hsilent'⟩ := report_step (w := w) hreport hslot' _ hsettled'
  have hsettled : (w.tscale slot).btnleft ≠ .newlypressed := by
    intro hclick
    obtain ⟨w', acts, hstep, -, hsome⟩ := click_step (w := w) hreport hslot' (w.held slot) hclick
    have hsame := hkeys []
    rw [hwithout, dropped_keys hdrop hslot hevs honce, keysInjected_silent hstep' hsilent',
      keysInjected_cons hstep] at hsame
    have hnone : injectedKeys acts ++ [] = [] := (Option.some.inj hsame).symm
    rw [List.append_nil] at hnone
    exact hsome hnone
  obtain ⟨acts, hstep, hsilent⟩ := report_step (w := w) hreport hslot' (w.held slot) hsettled
  have hlater (later : List TabletInput) :
      keysInjected ((w.resumed slot).setHeld slot (heldAfter (w.held slot) evs)) later =
        keysInjected ((w.resumed slot).setHeld slot (w.held slot)) later := by
    have hsame := hkeys later
    rw [hwithout, dropped_keys hdrop hslot hevs honce, keysInjected_silent hstep' hsilent',
      keysInjected_silent hstep hsilent] at hsame
    exact hsame
  refine ⟨hsettled, ?_, honce⟩
  have hon (evs : List InputEvent) (hevs : ∀ ev ∈ evs, ev.type = EV_KEY) :
      ∀ i ∈ keysOn slot report.beyond evs, i.slot = slot ∧ i.ev.type = EV_KEY := by
    intro i hi
    obtain ⟨ev, hev, rfl⟩ := List.mem_map.1 hi
    exact ⟨rfl, hevs ev hev⟩
  have hmap (evs : List InputEvent) : (keysOn slot report.beyond evs).map TabletInput.ev = evs := by
    unfold keysOn
    rw [List.map_map]
    exact List.map_id evs
  have hfold (h : HeldTool F) (evs : List InputEvent) :
      heldAfter h (keysOn slot report.beyond evs) = evs.foldl keepHeld h := by
    unfold heldAfter keysOn
    rw [List.foldl_map]
  have htrace (evs' : List InputEvent) (hevs' : ∀ ev ∈ evs', ev.type = EV_KEY) :
      keyTrace slot (heldAfter (w.held slot) evs) evs' = keyTrace slot (w.held slot) evs' := by
    have hsame := hlater (keysOn slot report.beyond evs' ++ [])
    rw [keys_trace hquiet _ (hon evs' hevs'), keys_trace hquiet _ (hon evs' hevs'), hmap] at hsame
    have hlists : _ ++ [] = _ ++ [] := Option.some.inj hsame
    rw [List.append_nil, List.append_nil] at hlists
    exact hlists
  refine held_unique (heldAfter_rest _ evs) hsettled hsettled' htrace fun evs' hevs' => ?_
  have hsame := hlater (keysOn slot report.beyond evs' ++ [report])
  rw [keys_trace hquiet _ (hon evs' hevs'), keys_trace hquiet _ (hon evs' hevs'), hmap,
    report_click _ hslot' hreport, report_click _ hslot' hreport,
    htrace evs' hevs', hfold, hfold] at hsame
  have hclicks := List.append_cancel_left (Option.some.inj hsame)
  unfold reportClick at hclicks
  split at hclicks <;> split at hclicks
  · exact iff_of_true ‹_› ‹_›
  · cases hclicks
  · cases hclicks
  · exact iff_of_false ‹_› ‹_›

/-- A tablet recovers from a packet that is dropped harmlessly; where no gesture silences it, it
recovers from no other. -/
theorem drop_recovered_iff (hdrop : drop.ev.isDropped = true) (hslot : drop.slot = slot)
    (hreport : report.ev.isReport = true) (hslot' : report.slot = slot)
    (hevs : ∀ i ∈ evs, i.slot = slot ∧ i.ev.isReport = false) :
    (DropsHarmlessly w slot evs → Recovered w slot drop report evs) ∧
      (w.touches.goSilent = 0 →
        (Recovered w slot drop report evs ↔ DropsHarmlessly w slot evs)) := by
  have hrecovers (h : DropsHarmlessly w slot evs) : Recovered w slot drop report evs :=
    h.recovered hdrop hslot hreport hslot' hevs
  exact ⟨hrecovers, fun hquiet =>
    ⟨fun h => h.harmless hdrop hslot hreport hslot' hevs hquiet, hrecovers⟩⟩

end

end

/-- A tablet whose coordinates need no scaling, as `init_usb_tablet` leaves it. -/
def restingTablet : Tablet ℚ where
  tscale := fun _ => ⟨1, 1, 0, 0, SUBTYPE_MONOTOUCH, .released, 0⟩
  ignoreEvents := fun _ => false
  penInrange := false
  touches := startTouches

def onTablet (ev : InputEvent) : TabletInput :=
  ⟨0, ev, fun _ => endAction⟩

def dropInput : TabletInput := onTablet { type := EV_SYN, code := SYN_DROPPED, value := 0 }

def reportInput : TabletInput := onTablet { type := EV_SYN, code := SYN_REPORT, value := 0 }

/-- A position and a button of the pen may be dropped. -/
theorem drop_recovered_stylus : Recovered restingTablet 0 dropInput reportInput
    [onTablet { type := EV_ABS, code := ABS_X, value := 100 }, onTablet (keyOf BTN_STYLUS 1)] := by
  have hevs : ∀ i ∈ [onTablet { type := EV_ABS, code := ABS_X, value := 100 },
      onTablet (keyOf BTN_STYLUS 1)], i.slot = 0 ∧ i.ev.isReport = false ∧
        i.ev.isDropped = false := by
    decide
  have hpart := fun i hi => And.intro (hevs i hi).1 (hevs i hi).2.1
  refine (@drop_recovered_iff ℚ _ restingTablet 0 _ _ _ rfl rfl rfl rfl hpart).1 ?_
  exact ⟨by decide, rfl, fun i hi => (hevs i hi).2.2⟩

/-- A finger's touch that is dropped still clicks at the report, which then resumes nothing. -/
theorem drop_clicks : ∃ w acts,
    tabletInputs restingTablet [onTablet (keyOf BTN_TOOL_FINGER 1), reportInput] =
      some (w, acts) ∧
    ¬Recovered w 0 dropInput reportInput [onTablet (keyOf BTN_TOUCH 1)] := by
  refine ⟨_, _, rfl, fun h => ?_⟩
  have hevs : ∀ i ∈ [onTablet (keyOf BTN_TOUCH 1)], i.slot = 0 ∧ i.ev.isReport = false := by
    decide
  have hheld := (h.harmless rfl rfl rfl rfl hevs rfl).held
  have hbtnleft := congrArg (fun h => h.1.btnleft) hheld
  exact absurd hbtnleft (by decide)

end InputServer
