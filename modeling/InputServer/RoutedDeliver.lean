import InputServer.RoutedSteps

namespace InputServer
open Program
set_option autoImplicit true

variable {F : Type} {C : Scope}

theorem plain_key (code : UInt16) (value : Int32) :
    InputEvent.Plain { type := EV_KEY, code := code, value := value } := by
  change EV_KEY ≠ EV_DEV
  decide

theorem plain_abs (code : UInt16) (value : Int32) :
    InputEvent.Plain { type := EV_ABS, code := code, value := value } := by
  change EV_ABS ≠ EV_DEV
  decide

theorem synReport_plain : synReport.Plain := by
  change EV_SYN ≠ EV_DEV
  decide

theorem default_ne_invalid : INPUTSLOT_DEFAULT ≠ INPUTSLOT_INVALID := by
  decide

section
variable {m : MultiTouch} {e : InputEvent}

theorem MultiTouch.deferred_plain (h : e.Plain) : (m.deferred e).event.Plain := by
  unfold MultiTouch.deferred
  cases m.deferpressed with
  | nope => exact h
  | sendSync => exact synReport_plain
  | sendLeft => exact plain_key BTN_LEFT 1
  | sendLeftUp => exact plain_key BTN_LEFT 0

theorem MultiTouch.syn_plain (h : e.Plain) : (m.syn e).event.Plain := by
  unfold MultiTouch.syn
  split
  · exact h
  · split
    · split
      · exact h
      · exact h
    · exact h

theorem MultiTouch.absDone_plain (h : e.Plain) : (m.absDone e).event.Plain :=
  h

theorem MultiTouch.trackingId_plain (h : e.Plain) : (m.trackingId e).event.Plain := by
  simp only [MultiTouch.trackingId]
  split
  · exact h
  · exact h

theorem MultiTouch.abs_plain (h : e.Plain) : (m.abs e).event.Plain := by
  unfold MultiTouch.abs
  split
  · exact h
  split
  · exact h
  split
  · exact MultiTouch.trackingId_plain h
  split
  · dsimp only
    split
    · split
      · exact synReport_plain
      · exact h
    · exact h
  split
  · exact h
  · exact h

/-- `demultitouch` makes no message about a device slot. -/
theorem demultitouch_plain (h : e.Plain) : (demultitouch m e).event.Plain := by
  unfold demultitouch
  split
  · exact MultiTouch.deferred_plain h
  split
  · exact MultiTouch.syn_plain h
  split
  · exact MultiTouch.abs_plain h
  · exact h

end

section
variable {w : World F} {d : DomPtr} {e : InputEvent}

/-- An event leaves the guest's view of its slot as it is. -/
theorem devslotStep_plain (h : e.Plain) (a d : DomPtr) (guest : Int) (source : Source)
    (slot : Option Int32) : devslotStep a slot (.message d guest source e) = slot := by
  rw [devslotStep, if_neg]
  exact fun hset => h hset.2.1

/-- An event for a guest that was told its slot. -/
theorem dom0InputEvent_routes (hplain : e.Plain) (hslot : slot ≠ INPUTSLOT_INVALID)
    (hlast : (w.domains d).lastDevslot = slot) :
    Routes C (dom0InputEvent d (.input slot) e) w := by
  apply yields_get
  intro _
  cases hclient : (w.domains d).client with
  | none => exact moves_pure _
  | some guest =>
    apply happens_routes
    · exact trivial
    · intro a
      exact devslotStep_plain hplain a d guest _ _
    · rfl
    · intro htracked _
      have hclient : (w.domains d).client ≠ none := by
        rw [hclient]
        exact Option.some_ne_none guest
      obtain htold | ⟨_, hinvalid⟩ := htracked.devslot d hclient
      · rw [hlast] at htold
        exact htold
      · rw [hlast] at hinvalid
        exact absurd hinvalid hslot

/-- The entry with its slot, and the message about it. -/
def World.withDevslot (w : World F) (d : DomPtr) (slot : Int32) : World F :=
  w.setDomain d { w.domains d with lastDevslot := slot }

def devSetMessage (d : DomPtr) (guest : Int) (source : Source) (slot : Int32) : Happening :=
  .message d guest source { type := EV_DEV, code := DEV_SET, value := slot }

theorem unaltered_lastDevslot (x : Domain F) (slot : Int32) :
    Unaltered x { x with lastDevslot := slot } :=
  ⟨rfl, rfl, rfl, rfl, rfl, rfl, rfl, rfl⟩

theorem withDevslot_routed (w : World F) (d : DomPtr) (slot : Int32) :
    Routed C w (w.withDevslot d slot) :=
  ((unaltered_lastDevslot _ _).alters C).routed

/-- The slot of an entry is changed, and its client told, where it has one. -/
theorem devSet_told (hw : Tracked w) (d : DomPtr) (guest : Int) (source : Source) (slot : Int32) :
    Tracked { w.withDevslot d slot with log := w.log ++ [devSetMessage d guest source slot] } where
  devslot a ha := by
    rw [devslot_snoc]
    by_cases had : a = d
    · left
      change _ = some ((w.withDevslot d slot).domains a).lastDevslot
      rw [had, World.withDevslot, setDomain_self, devSetMessage, devslotStep, if_pos]
      exact ⟨rfl, rfl, rfl⟩
    · have hsame : (w.withDevslot d slot).domains a = w.domains a := setDomain_of_ne had
      change ((w.withDevslot d slot).domains a).client ≠ none at ha
      change _ = some ((w.withDevslot d slot).domains a).lastDevslot ∨
        _ ∧ ((w.withDevslot d slot).domains a).lastDevslot = _
      rw [hsame] at ha ⊢
      rw [devSetMessage, devslotStep, if_neg fun h => had h.1.symm]
      exact hw.devslot a ha
  pressed := hw.pressed
  diverting := { hw.diverting.setDomain (x := { w.domains d with lastDevslot := slot })
    rfl Iff.rfl with }

theorem devSet_noClient (hw : Tracked w) (hclient : (w.domains d).client = none) (slot : Int32) :
    Tracked (w.withDevslot d slot) where
  devslot a ha := by
    by_cases had : a = d
    · rw [had, World.withDevslot, setDomain_self] at ha
      exact absurd hclient ha
    · have hsame : (w.withDevslot d slot).domains a = w.domains a := setDomain_of_ne had
      rw [hsame] at ha ⊢
      exact hw.devslot a ha
  pressed := hw.pressed
  diverting := hw.diverting.setDomain rfl Iff.rfl

theorem selectDevslot_routes (d : DomPtr) (slot : Int32) (w : World F) :
    Yields (InScope C) (Routed C) (fun _ w' => (w'.domains d).lastDevslot = slot)
      (selectDevslot d slot) w := by
  apply yields_get
  intro hw
  apply yields_ite
  · intro _ _
    have hrouted := withDevslot_routed (C := C) w d slot
    have hsound (hs : C.sound) : Sound (w.withDevslot d slot) :=
      (unaltered_lastDevslot _ _).sound (hw.sound hs)
    have hlast : ((w.withDevslot d slot).domains d).lastDevslot = slot := by
      rw [World.withDevslot, setDomain_self]
    rw [wlp_bind, modifyDomain, wlp_modify]
    change wlp (Input.sendSlot d (.input slot)) _ (w.withDevslot d slot)
    rw [Input.sendSlot, wlp_bind, wlp_get, dom0InputEvent, wlp_bind, wlp_get, hlast]
    have hclient : ((w.withDevslot d slot).domains d).client = (w.domains d).client :=
      hrouted.client d
    cases hguest : (w.domains d).client with
    | none =>
      rw [hguest] at hclient
      rw [hclient, wlp_pure]
      have htracked := devSet_noClient hw.tracked hguest slot
      exact ⟨hrouted.inScope hw htracked hsound hw.captured, hrouted, hlast⟩
    | some guest =>
      rw [hguest] at hclient
      rw [hclient]
      have htracked := devSet_told hw.tracked d guest (.input slot) slot
      have hlog : Routed C w { w.withDevslot d slot with
          log := w.log ++ [devSetMessage d guest (.input slot) slot] } := {
        hrouted with
        log := by
          refine ⟨[devSetMessage d guest (.input slot) slot], rfl, ?_⟩
          intro h hh
          rw [List.mem_singleton.mp hh]
          exact trivial
        coherent := by
          intro hlog
          apply hlog.snoc
          exact fun hplain => absurd rfl hplain
        focused := by
          intro hf a ha
          rw [lastSwitched_snoc]
          exact hrouted.focused hf a ha
        held := fun hn => { hrouted.held hn with } }
      refine (wlp_modify _ _ _).mpr ⟨?_, hlog, hlast⟩
      exact hlog.inScope hw htracked (fun hs => { hsound hs with }) hw.captured
  · intro heq
    exact yields_pure _ fun _ => not_not.mp heq

theorem xenVkbdSendEvent_routes (d : DomPtr) (e : InputEvent) (w : World F) :
    Routes C (xenVkbdSendEvent d e) w := by
  have hled : Routes C (xenVkbdHandleLed e d) w := by
    apply yields_ite
    · intro _
      exact moves_pure _
    · intro _
      apply modifyDomain_routes
      · intro x
        exact ⟨rfl, rfl, rfl, rfl, rfl, rfl, rfl, rfl⟩
      · intro _
        rfl
  apply yields_bind hled
  intro _ w' _ _
  apply happens_routes
  · exact trivial
  · intro _
    rfl
  · rfl
  · intro _
    exact trivial

theorem sendToVkbd_routes (d : DomPtr) (fuel : Nat) (hplain : e.Plain) (w : World F) :
    Yields (InScope C) (Routed C) (fun e' _ => e'.Plain) (sendToVkbd d fuel e) w := by
  induction fuel generalizing e w with
  | zero => exact yields_throw _
  | succ fuel ih =>
    have hevent := demultitouch_plain (m := w.multitouch) hplain
    apply yields_get
    intro _
    have hset : Routes C (set { w with multitouch := (demultitouch w.multitouch e).statics }) w :=
      modify_unmoved (f := fun _ => { w with
        multitouch := (demultitouch w.multitouch e).statics }) 
        ⟨rfl, rfl, rfl, rfl, rfl, Nat.le_refl _, rfl, rfl⟩ rfl
    apply yields_bind hset
    intro _ w₁ _ _
    apply yields_ite
    · intro _
      exact yields_pure _ fun _ => hevent
    · intro _
      apply yields_bind (xenVkbdSendEvent_routes d _ w₁)
      intro _ w₂ _ _
      apply yields_ite
      · intro _
        exact ih hevent w₂
      · intro _
        exact yields_pure _ fun _ => hevent

theorem inputSend_routes (d : Option DomPtr) (hslot : slot ≠ INPUTSLOT_INVALID)
    (hplain : e.Plain) (w : World F) :
    Yields (InScope C) (Routed C) (fun e' _ => e'.Plain) (inputSend d slot e) w := by
  apply yields_get
  intro _
  cases d with
  | none => exact yields_pure _ fun _ => hplain
  | some d =>
    apply yields_ite
    · intro _
      apply yields_bind (onPlug_routes (sendPluginEvent_keepsDest slot e))
      intro _ w' _ _
      exact yields_pure _ fun _ => hplain
    · intro _
      apply yields_ite
      · intro _
        exact sendToVkbd_routes d 3 hplain w
      · intro _
        apply yields_bind_of (selectDevslot_routes d slot w)
        intro _ w' _ _ hlast
        apply yields_bind (dom0InputEvent_routes hplain hslot hlast)
        intro _ w'' _ _
        exact yields_pure _ fun _ => hplain

/-- An event sent, whatever is done with what it leaves. -/
theorem sent_routes (d : Option DomPtr) (hslot : slot ≠ INPUTSLOT_INVALID) (hplain : e.Plain)
    {k : InputEvent → WorldM F α} {P : α → World F → Prop}
    (hk : ∀ e' w', e'.Plain → InScope C w' → Routed C w w' →
      Yields (InScope C) (Routed C) P (k e') w') :
    Yields (InScope C) (Routed C) P (inputSend d slot e >>= k) w :=
  yields_bind_of (inputSend_routes d hslot hplain w) fun e' w' hw' h hplain' =>
    hk e' w' hplain' hw' h

end

end InputServer
