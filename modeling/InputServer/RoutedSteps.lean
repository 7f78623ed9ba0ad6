import InputServer.Routed

namespace InputServer
open Program
set_option autoImplicit true

variable {F : Type} {C : Scope}

def World.setDomain (w : World F) (d : DomPtr) (x : Domain F) : World F :=
  { w with domains := Function.update w.domains d x }

section
variable {w : World F} {d : DomPtr} {x : Domain F}

@[simp] theorem setDomain_self : (w.setDomain d x).domains d = x :=
  Function.update_self ..

@[simp] theorem setDomain_of_ne (h : a ≠ d) : (w.setDomain d x).domains a = w.domains a :=
  Function.update_of_ne h ..

/-- What the new value of an entry has in common with the old one, all entries have. -/
theorem setDomain_congr (g : Domain F → β) (h : g x = g (w.domains d)) (a : DomPtr) :
    g ((w.setDomain d x).domains a) = g (w.domains a) := by
  by_cases ha : a = d
  · rw [ha, setDomain_self]
    exact h
  · rw [setDomain_of_ne ha]

/-- The new value of an entry stands for the same guest. -/
abbrev SameGuest (w : World F) (d : DomPtr) (x : Domain F) : Prop :=
  x.identity = (w.domains d).identity

/-- The new value of an entry is found where the old one was. -/
structure SameName (w : World F) (d : DomPtr) (x : Domain F) : Prop where
  initialised : x.initialised = (w.domains d).initialised
  domid : x.domid = (w.domains d).domid

theorem SameGuest.name (h : SameGuest w d x) : SameName w d x :=
  ⟨congrArg Identity.initialised h, congrArg Identity.domid h⟩

theorem SameName.known (h : SameName w d x) (a : DomPtr) :
    (w.setDomain d x).Known a ↔ w.Known a := by
  have hinit := setDomain_congr Domain.initialised h.initialised a
  rw [World.Known, World.Known, hinit]

theorem SameName.domid_eq (h : SameName w d x) (a : DomPtr) :
    ((w.setDomain d x).domains a).domid = (w.domains a).domid :=
  setDomain_congr Domain.domid h.domid a

theorem SameGuest.client (h : SameGuest w d x) (a : DomPtr) :
    ((w.setDomain d x).domains a).client = (w.domains a).client :=
  setDomain_congr Domain.client (congrArg Identity.client h) a

/-- The domain whose keyboard the new value of an entry remembers. -/
def World.PrevOf (w : World F) (x : Domain F) : Prop :=
  ∀ p, x.prevKeybDomainPtr = some p → x.prevKeybDomid = -1 ∨
    (w.Known p ∧ (w.domains p).domid = x.prevKeybDomid)

theorem SameName.prevOk (h : SameName w d x) (hx : w.PrevOk d → w.PrevOf x) (a : DomPtr)
    (ha : w.PrevOk a) : (w.setDomain d x).PrevOk a := by
  intro p hp
  rw [h.known, h.domid_eq]
  by_cases had : a = d
  · subst had
    rw [setDomain_self] at hp ⊢
    exact hx ha p hp
  · rw [setDomain_of_ne had] at hp ⊢
    exact ha p hp

/-- What may change in an entry while input is routed. -/
structure Alters (C : Scope) (w : World F) (d : DomPtr) (x : Domain F) : Prop where
  identity : SameGuest w d x
  asleep : x.isInS3 = true → (w.domains d).isInS3 = true
  running : (w.domains d).sstate ≠ SWITCHER_SHUTDOWN_REBOOT → x.sstate ≠ SWITCHER_SHUTDOWN_REBOOT
  names : ∀ slot, x.mouseSwitchLeft = slot ∨ x.mouseSwitchRight = slot → w.NamesSlot slot
  prev : C.sound → w.PrevOk d → w.PrevOf x
  held : C.still → x.prevKeybDomainPtr = (w.domains d).prevKeybDomainPtr ∧
    x.prevKeybDomid = (w.domains d).prevKeybDomid ∧
    DivertHeld w d (w.domains d).divertInfo x.divertInfo
  divert : x.divertInfo = none ↔ (w.domains d).divertInfo = none
  mouse : x.divertInfo.bind DivertInfo.mouseDomain = w.diverted d DivertInfo.mouseDomain
  turned : C.sound → C.nested → ∀ k, x.divertInfo.bind DivertInfo.keyDomain = some k →
    w.diverted d DivertInfo.keyDomain = some k ∨ w.diverted d DivertInfo.mouseDomain = some k
  remembers : ¬C.target d → w.switcher.current ≠ some d →
    (w.domains d).prevKeybDomainPtr = none → x.prevKeybDomainPtr = none

/-- An entry has a divert info after as before. -/
theorem divert_setDomain (h : x.divertInfo = none ↔ (w.domains d).divertInfo = none)
    (a : DomPtr) :
    ((w.setDomain d x).domains a).divertInfo = none ↔ (w.domains a).divertInfo = none := by
  by_cases had : a = d
  · rw [had, setDomain_self]
    exact h
  · rw [setDomain_of_ne had]

theorem Alters.held_setDomain (h : Alters C w d x) (hn : C.still) : Held w (w.setDomain d x) := by
  obtain ⟨hptr, hdomid, hdivert⟩ := h.held hn
  refine { Held.refl w with prevPtr := ?_, prevDomid := ?_, divert := ?_ }
  · exact setDomain_congr Domain.prevKeybDomainPtr hptr
  · exact setDomain_congr Domain.prevKeybDomid hdomid
  · intro a
    by_cases had : a = d
    · subst had
      rw [setDomain_self]
      exact hdivert
    · rw [setDomain_of_ne had]
      exact .inl rfl

theorem Alters.namesSlot (h : Alters C w d x) (slot : Int) (hs : (w.setDomain d x).NamesSlot slot) :
    w.NamesSlot slot := by
  cases hs with
  | inl hstored =>
    obtain ⟨a, ha⟩ := hstored
    by_cases had : a = d
    · rw [had, setDomain_self] at ha
      exact h.names slot ha
    · rw [setDomain_of_ne had] at ha
      exact .inl ⟨a, ha⟩
  | inr hanswer => exact .inr hanswer

theorem Alters.routed (h : Alters C w d x) : Routed C w (w.setDomain d x) :=
  { Routed.refl C w with
    domains := setDomain_congr Domain.identity h.identity
    asleep := by
      intro a ha
      by_cases had : a = d
      · rw [had, setDomain_self] at ha
        rw [had]
        exact h.asleep ha
      · rwa [setDomain_of_ne had] at ha
    running := by
      intro a ha
      by_cases had : a = d
      · rw [had] at ha
        rw [had, setDomain_self]
        exact h.running ha
      · rwa [setDomain_of_ne had]
    names := h.namesSlot
    prev := fun hs => h.identity.name.prevOk (h.prev hs)
    focused := fun hf a ha => (hf a ha).trans (congrArg some (h.identity.name.domid_eq a).symm)
    held := h.held_setDomain
    diverts := fun a => mt (divert_setDomain h.divert a).mp
    diverted := setDomain_congr (fun x => x.divertInfo.bind DivertInfo.mouseDomain) h.mouse
    turned := by
      intro hs hn a
      by_cases had : a = d
      · intro k hk
        rw [World.diverted, had, setDomain_self] at hk
        rw [had]
        exact h.turned hs hn k hk
      · intro k hk
        rw [World.diverted, setDomain_of_ne had] at hk
        exact .inl hk
    remembers := by
      intro a ha hfocus hnone
      by_cases had : a = d
      · rw [had] at ha hfocus hnone
        rw [had, setDomain_self]
        exact h.remembers ha hfocus hnone
      · rwa [setDomain_of_ne had] }

theorem Diverting.remap {f : DomPtr → Domain F} (hw : Diverting w)
    (hinit : ∀ d, (f d).initialised = (w.domains d).initialised)
    (hkept : ∀ d, (f d).divertInfo = none → (w.domains d).divertInfo = none)
    (hspare : ∀ d, ¬w.Known d → (w.domains d).divertInfo = none → (f d).divertInfo = none) :
    Diverting { w with domains := f } where
  parent p hp := mt (hkept p) (hw.parent p hp)
  spare d hd := by
    rw [World.Known] at hd
    dsimp only at hd
    rw [hinit] at hd
    exact hspare d hd (hw.spare d hd)

theorem Diverting.setDomain (hw : Diverting w)
    (hinit : x.initialised = (w.domains d).initialised)
    (hdivert : x.divertInfo = none ↔ (w.domains d).divertInfo = none) :
    Diverting (w.setDomain d x) := by
  apply Diverting.remap hw
  · exact setDomain_congr Domain.initialised hinit
  · exact fun a => (divert_setDomain hdivert a).mp
  · exact fun a _ => (divert_setDomain hdivert a).mpr

theorem Tracked.setDomain (hw : Tracked w) (h : SameGuest w d x)
    (hslot : x.lastDevslot = (w.domains d).lastDevslot)
    (hdivert : x.divertInfo = none ↔ (w.domains d).divertInfo = none) :
    Tracked (w.setDomain d x) where
  devslot a ha := by
    rw [h.client] at ha
    rw [setDomain_congr Domain.lastDevslot hslot]
    exact hw.devslot a ha
  pressed := hw.pressed
  diverting := hw.diverting.setDomain h.name.initialised hdivert

theorem World.Valid.setDomain (h : SameName w d x) {p : Option DomPtr} (hp : w.Valid p) :
    (w.setDomain d x).Valid p :=
  fun a ha => (h.known a).mpr (hp a ha)

theorem Sound.setDomain (hw : Sound w) (h : SameName w d x)
    (hkey : w.Valid (x.divertInfo.bind DivertInfo.keyDomain))
    (hmouse : x.divertInfo.bind DivertInfo.mouseDomain = w.diverted d DivertInfo.mouseDomain)
    (hprev : w.PrevOk d → w.PrevOf x) : Sound (w.setDomain d x) where
  mouseDest := hw.mouseDest.setDomain h
  mouseParent := hw.mouseParent.setDomain h
  keybDest := hw.keybDest.setDomain h
  keybParent := hw.keybParent.setDomain h
  keyDomain a := by
    apply World.Valid.setDomain h
    by_cases had : a = d
    · rw [World.diverted, had, setDomain_self]
      exact hkey
    · rw [World.diverted, setDomain_of_ne had]
      exact hw.keyDomain a
  mouseDomain a := by
    apply World.Valid.setDomain h
    by_cases had : a = d
    · rw [World.diverted, had, setDomain_self, hmouse]
      exact hw.mouseDomain d
    · rw [World.diverted, setDomain_of_ne had]
      exact hw.mouseDomain a
  prev a ha := h.prevOk hprev a (hw.prev a ((h.known a).mp ha))
  follows p m hp hm := by
    have hold := hw.follows p m hp hm
    by_cases hpd : p = d
    · rw [hpd] at hold
      rw [World.diverted, hpd, setDomain_self, hmouse]
      exact hold
    · rw [World.diverted, setDomain_of_ne hpd]
      exact hold

end

/-- What the steps of input routing read of an entry, without its identity. -/
structure Unaltered (x y : Domain F) : Prop where
  identity : y.identity = x.identity
  isInS3 : y.isInS3 = x.isInS3
  sstate : y.sstate = x.sstate
  mouseSwitchLeft : y.mouseSwitchLeft = x.mouseSwitchLeft
  mouseSwitchRight : y.mouseSwitchRight = x.mouseSwitchRight
  prevPtr : y.prevKeybDomainPtr = x.prevKeybDomainPtr
  prevDomid : y.prevKeybDomid = x.prevKeybDomid
  divertInfo : y.divertInfo = x.divertInfo

section
variable {w : World F} {d : DomPtr} {x : Domain F}

theorem Unaltered.names (h : Unaltered (w.domains d) x) (slot : Int)
    (hs : x.mouseSwitchLeft = slot ∨ x.mouseSwitchRight = slot) : w.NamesSlot slot := by
  rw [h.mouseSwitchLeft, h.mouseSwitchRight] at hs
  exact .inl ⟨d, hs⟩

theorem Unaltered.prevOf (h : Unaltered (w.domains d) x) (hd : w.PrevOk d) : w.PrevOf x := by
  rw [World.PrevOf, h.prevPtr, h.prevDomid]
  exact hd

theorem Unaltered.alters (h : Unaltered (w.domains d) x) (C : Scope) : Alters C w d x where
  identity := h.identity
  asleep hs := h.isInS3.symm.trans hs
  running hs := fun hzero => hs (h.sstate.symm.trans hzero)
  names := h.names
  prev _ := h.prevOf
  held _ := ⟨h.prevPtr, h.prevDomid, .inl h.divertInfo⟩
  divert := by rw [h.divertInfo]
  mouse := congrArg (Option.bind · DivertInfo.mouseDomain) h.divertInfo
  turned _ _ k hk := by
    rw [h.divertInfo] at hk
    exact .inl hk
  remembers _ _ := h.prevPtr.trans

theorem Unaltered.sound (h : Unaltered (w.domains d) x) (hw : Sound w) :
    Sound (w.setDomain d x) := by
  apply hw.setDomain (SameGuest.name h.identity)
  · rw [h.divertInfo]
    exact hw.keyDomain d
  · rw [h.divertInfo]
    rfl
  · exact h.prevOf

/-- An entry changed in what is of no concern here. -/
theorem modifyDomain_routes {f : Domain F → Domain F} (h : ∀ x, Unaltered x (f x))
    (hslot : ∀ x, (f x).lastDevslot = x.lastDevslot) (d : DomPtr) (w : World F) :
    Routes C (modifyDomain d f) w := by
  apply moves_modify
  intro hw
  have hrouted := ((h (w.domains d)).alters C).routed
  refine ⟨hrouted.inScope hw ?_ ?_ hw.captured, hrouted⟩
  · exact hw.tracked.setDomain (h _).identity (hslot _) (by rw [(h _).divertInfo])
  · exact fun hs => (h _).sound (hw.sound hs)

end

theorem Held.setRouting {w : World F} {r : Routing F} (hdest : r.mouseDest = w.routing.mouseDest)
    (hparent : r.mouseParent = w.routing.mouseParent) : Held w { w with routing := r } :=
  { Held.refl w with mouseDest := hdest, mouseParent := hparent }

/-- The mouse stays where it is; the keyboard may go elsewhere. -/
theorem modifyRouting_routes {f : Routing F → Routing F} {w : World F}
    (hdest : (f w.routing).mouseDest = w.routing.mouseDest)
    (hparent : (f w.routing).mouseParent = w.routing.mouseParent)
    (hpressed : ∀ mb ∈ (f w.routing).mousePressed, mb ∈ w.routing.mousePressed ∨
      mb.slot ≠ INPUTSLOT_INVALID)
    (hkept : w.routing.keybDest ≠ none → (f w.routing).keybDest ≠ none)
    (hkeyb : C.sound → Sound w → w.Valid (f w.routing).keybDest)
    (hkeybParent : C.sound → Sound w → w.Valid (f w.routing).keybParent) :
    Routes C (modifyRouting f) w := by
  apply moves_modify
  intro hw
  have hrouted : Routed C w { w with routing := f w.routing } :=
    { Routed.refl C w with
      held := fun _ => Held.setRouting hdest hparent
      mouse := fun hm => hdest ▸ hm
      keyb := hkept }
  refine ⟨hrouted.inScope hw ?_ ?_ hw.captured, hrouted⟩
  · refine ⟨hw.tracked.devslot, ?_, ?_⟩
    · intro mb hmb
      cases hpressed mb hmb with
      | inl hold => exact hw.tracked.pressed mb hold
      | inr hslot => exact hslot
    · refine { hw.tracked.diverting with parent := ?_ }
      rw [hparent]
      exact hw.tracked.diverting.parent
  · intro hs
    have hsound := hw.sound hs
    refine { hsound with
      mouseDest := ?_, mouseParent := ?_, keybDest := hkeyb hs hsound,
      keybParent := hkeybParent hs hsound, follows := ?_ }
    · rw [hdest]
      exact hsound.mouseDest
    · rw [hparent]
      exact hsound.mouseParent
    · rw [hdest, hparent]
      exact hsound.follows

/-- The pointers and the pressed buttons of the routing stay as they are. -/
theorem modifyRouting_keeps {f : Routing F → Routing F} {w : World F}
    (hdest : (f w.routing).mouseDest = w.routing.mouseDest)
    (hparent : (f w.routing).mouseParent = w.routing.mouseParent)
    (hkeyb : (f w.routing).keybDest = w.routing.keybDest)
    (hkeybParent : (f w.routing).keybParent = w.routing.keybParent)
    (hpressed : (f w.routing).mousePressed = w.routing.mousePressed) :
    Routes C (modifyRouting f) w := by
  apply modifyRouting_routes hdest hparent
  · intro mb hmb
    rw [hpressed] at hmb
    exact .inl hmb
  · rw [hkeyb]
    exact id
  · intro _ hs
    rw [hkeyb]
    exact hs.keybDest
  · intro _ hs
    rw [hkeybParent]
    exact hs.keybParent

theorem modify_unmoved {f : World F → World F} {w : World F} (h : Unmoved w (f w))
    (hplug : (f w).plug = w.plug) : Routes C (modify f) w := by
  apply moves_modify
  intro hw
  apply h.step _ hw
  rw [hplug]
  exact hw.captured

theorem ask_routes (f : Answers → α) (w : World F) : Routes C (ask f) w := by
  apply yields_get
  intro _ hw
  rw [wlp_bind, wlp_set, wlp_pure]
  have hstep : Unmoved w { w with asked := w.asked + 1 } :=
    ⟨rfl, rfl, rfl, rfl, rfl, Nat.le_succ _, rfl, rfl⟩
  obtain ⟨hscope, hrouted⟩ := hstep.step hw.captured hw
  exact ⟨hscope, hrouted, trivial⟩

theorem dbRead_routes (path : String) (w : World F) : Routes C (dbRead path) w :=
  ask_routes _ w

theorem gettimeofday_routes (w : World F) : Routes C gettimeofday w :=
  ask_routes _ w

theorem onPlug_routes {m : SockM α} {w : World F} (h : ∀ p, KeepsDest m p) :
    Routes C (onPlug m) w := by
  intro hw
  rw [onPlug, wlp_zoom]
  refine wlp_mono (h w.plug hw.captured) ?_
  intro a p hp
  have hstep : Unmoved w { w with plug := p } :=
    ⟨rfl, rfl, rfl, rfl, rfl, Nat.le_refl _, hp.2.1⟩
  obtain ⟨hscope, hrouted⟩ := hstep.step hp.1 hw
  exact ⟨hscope, hrouted, trivial⟩

theorem deref_routes (p : Option DomPtr) (w : World F) :
    Yields (InScope C) (Routed C) (fun d _ => p = some d) (deref p) w := by
  cases p with
  | none => exact yields_throw _
  | some d => exact yields_pure d fun _ => rfl

/-- What reaches a guest leaves the state as it is, but for the log. -/
theorem happens_routes {h : Happening} {w : World F} (hinternal : h.Internal)
    (hview : ∀ d, devslotStep d (devslot d w.log) h = devslot d w.log)
    (hswitched : switchedStep (lastSwitched w.log) h = lastSwitched w.log)
    (hcoherent : Tracked w → MessageCoherent w.log h) : Routes C (happens h) w := by
  apply moves_modify
  intro hw
  have hrouted : Routed C w { w with log := w.log ++ [h] } := {
    Routed.refl C w with
    log := by
      refine ⟨[h], rfl, ?_⟩
      intro h' hh'
      rw [List.mem_singleton.mp hh']
      exact hinternal
    coherent := fun hlog => hlog.snoc (hcoherent hw.tracked)
    focused := by
      intro hf d hd
      rw [lastSwitched_snoc, hswitched]
      exact hf d hd
    held := fun _ => { Held.refl w with } }
  refine ⟨hrouted.inScope hw ?_ ?_ hw.captured, hrouted⟩
  · refine ⟨?_, hw.tracked.pressed, { hw.tracked.diverting with }⟩
    intro d hd
    rw [devslot_snoc, hview]
    exact hw.tracked.devslot d hd
  · intro hs
    exact { hw.sound hs with }

end InputServer
