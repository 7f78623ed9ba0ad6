import InputServer.History
import InputServer.SocketFrame
import InputServer.Switch

namespace InputServer
open Program
set_option autoImplicit true

/-- The fields of an entry that say which guest it stands for, and how it is shown. -/
structure Identity where
  initialised : Bool
  client : Option Int
  domid : Int
  slot : Int
  isPvm : Bool
  isPvDomain : Bool
  hasSecondaryGpu : Bool
  disabledSurface : Bool

variable {F : Type}

def Domain.identity (d : Domain F) : Identity where
  initialised := d.initialised
  client := d.client
  domid := d.domid
  slot := d.slot
  isPvm := d.isPvm
  isPvDomain := d.isPvDomain
  hasSecondaryGpu := d.hasSecondaryGpu
  disabledSurface := d.disabledSurface

namespace World

def Known (w : World F) (d : DomPtr) : Prop :=
  (w.domains d).initialised = true

/-- A pointer that is NULL or points to an initialised entry. -/
def Valid (w : World F) (p : Option DomPtr) : Prop :=
  ∀ d, p = some d → w.Known d

/-- The domain whose keyboard `a` remembers is there, and is the one it was. -/
def PrevOk (w : World F) (a : DomPtr) : Prop :=
  ∀ p, (w.domains a).prevKeybDomainPtr = some p → (w.domains a).prevKeybDomid = -1 ∨
    (w.Known p ∧ (w.domains p).domid = (w.domains a).prevKeybDomid)

/-- A slot that some domain has for a neighbour, or may be told to have. -/
def NamesSlot (w : World F) (slot : Int) : Prop :=
  (∃ d, (w.domains d).mouseSwitchLeft = slot ∨ (w.domains d).mouseSwitchRight = slot) ∨
    ∃ n left right, (w.answers n).seamlessMouse = some (left, right) ∧
      (left.getD (-1) = slot ∨ right.getD (-1) = slot)

end World

/-- What the pointers of a state point to. -/
structure Sound (w : World F) : Prop where
  mouseDest : w.Valid w.routing.mouseDest
  mouseParent : w.Valid w.routing.mouseParent
  keybDest : w.Valid w.routing.keybDest
  keybParent : w.Valid w.routing.keybParent
  keyDomain : ∀ a, w.Valid (w.diverted a DivertInfo.keyDomain)
  mouseDomain : ∀ a, w.Valid (w.diverted a DivertInfo.mouseDomain)
  prev : ∀ a, w.Known a → w.PrevOk a
  follows : ∀ p m, w.routing.mouseParent = some p → w.routing.mouseDest = some m →
    w.diverted p DivertInfo.mouseDomain = some m

/-- The mouse's parent has a divert info, and a free entry has none. -/
structure Diverting (w : World F) : Prop where
  parent : ∀ p, w.routing.mouseParent = some p → (w.domains p).divertInfo ≠ none
  spare : ∀ d, ¬w.Known d → (w.domains d).divertInfo = none

/-- `last_devslot` of an entry with a client is the slot that the client was told last. -/
structure Tracked (w : World F) : Prop where
  devslot : ∀ d, (w.domains d).client ≠ none →
    devslot d w.log = some (w.domains d).lastDevslot ∨
      (devslot d w.log = none ∧ (w.domains d).lastDevslot = INPUTSLOT_INVALID)
  pressed : ∀ mb ∈ w.routing.mousePressed, mb.slot ≠ INPUTSLOT_INVALID
  diverting : Diverting w

/-- The domains that an input event may switch to are all in `target`. -/
structure Targets (target : DomPtr → Prop) (w : World F) : Prop where
  uivm : ∀ d, w.domainUivm = some d → target d
  asleep : ∀ d, (w.domains d).isPvm = true → (w.domains d).isInS3 = true → target d
  edge : ∀ slot d, w.NamesSlot slot → 0 ≤ slot → w.domainWithSlot slot = some d → target d
  back : w.NamesSlot MOUSE_SWITCH_PREV → ∀ s d, w.switcher.surfaceCurrent = some s →
    w.domainWithSlot (w.domains s).slot = some d → target d
  beside : ∀ s d, target s → w.domainWithSlot (w.domains s).slot = some d → target d

/-- What a step may do: the domains it may switch to, whether it is made while a switch is under
way, whether it also leaves the mouse where it is, and whether the pointers are known to be
sound. -/
structure Scope where
  target : DomPtr → Prop
  nested : Prop
  still : Prop
  sound : Prop

structure InScope (C : Scope) (w : World F) : Prop where
  tracked : Tracked w
  sound : C.sound → Sound w
  switching : C.nested → w.switcher.switching = true
  still : C.still → C.nested
  targets : Targets C.target w
  captured : Captured w.plug

/-- The focus stays or, where no switch is under way, moves to a domain that it may move to. -/
def FocusMoves (C : Scope) (p p' : Option DomPtr) : Prop :=
  p' = p ∨ (¬C.nested ∧ ∃ d, C.target d ∧ p' = some d)

/-- The keyboard divert of the mouse's parent may be turned to where the mouse is. -/
def DivertHeld (w : World F) (a : DomPtr) (dv dv' : Option DivertInfo) : Prop :=
  dv' = dv ∨ (w.routing.mouseParent = some a ∧
    dv' = dv.map fun x => { x with keyDomain := w.routing.mouseDest })

/-- A keyboard divert that changes is turned to where its domain diverts the mouse. -/
def KeyTurned (w w' : World F) (a : DomPtr) : Prop :=
  ∀ k, w'.diverted a DivertInfo.keyDomain = some k →
    w.diverted a DivertInfo.keyDomain = some k ∨ w.diverted a DivertInfo.mouseDomain = some k

/-- What stands still with the mouse. -/
structure Held (w w' : World F) : Prop where
  mouseDest : w'.routing.mouseDest = w.routing.mouseDest
  mouseParent : w'.routing.mouseParent = w.routing.mouseParent
  prevPtr : ∀ a, (w'.domains a).prevKeybDomainPtr = (w.domains a).prevKeybDomainPtr
  prevDomid : ∀ a, (w'.domains a).prevKeybDomid = (w.domains a).prevKeybDomid
  divert : ∀ a, DivertHeld w a (w.domains a).divertInfo (w'.domains a).divertInfo

/-- The focus is on the domain that it was switched to last. -/
def Focused (w : World F) : Prop :=
  ∀ d, w.switcher.current = some d → lastSwitched w.log = some (w.domains d).domid

/-- What routing input and switching the focus leave as it is. -/
structure Routed (C : Scope) (w w' : World F) : Prop where
  domains : ∀ d, (w'.domains d).identity = (w.domains d).identity
  asleep : ∀ d, (w'.domains d).isInS3 = true → (w.domains d).isInS3 = true
  running : ∀ d, (w.domains d).sstate ≠ SWITCHER_SHUTDOWN_REBOOT →
    (w'.domains d).sstate ≠ SWITCHER_SHUTDOWN_REBOOT
  names : ∀ slot, w'.NamesSlot slot → w.NamesSlot slot
  plug : SameDest w.plug w'.plug
  answers : w'.answers = w.answers
  asked : w.asked ≤ w'.asked
  log : ∃ new, w'.log = w.log ++ new ∧ ∀ h ∈ new, Happening.Internal h
  coherent : SlotCoherent w.log → SlotCoherent w'.log
  prev : C.sound → ∀ a, w.PrevOk a → w'.PrevOk a
  current : FocusMoves C w.switcher.current w'.switcher.current
  surface : FocusMoves C w.switcher.surfaceCurrent w'.switcher.surfaceCurrent
  switching : w'.switcher.switching = w.switcher.switching
  focused : Focused w → Focused w'
  held : C.still → Held w w'
  mouse : w.routing.mouseDest ≠ none → w'.routing.mouseDest ≠ none
  keyb : w.routing.keybDest ≠ none → w'.routing.keybDest ≠ none
  diverts : ∀ a, (w.domains a).divertInfo ≠ none → (w'.domains a).divertInfo ≠ none
  diverted : ∀ a, w'.diverted a DivertInfo.mouseDomain = w.diverted a DivertInfo.mouseDomain
  turned : C.sound → C.nested → ∀ a, KeyTurned w w' a
  remembers : ∀ a, ¬C.target a → w.switcher.current ≠ some a →
    (w.domains a).prevKeybDomainPtr = none → (w'.domains a).prevKeybDomainPtr = none

theorem FocusMoves.refl (C : Scope) (p : Option DomPtr) : FocusMoves C p p :=
  .inl rfl

theorem FocusMoves.trans (h : FocusMoves C p p') (h' : FocusMoves C p' p'') :
    FocusMoves C p p'' := by
  cases h' with
  | inl heq =>
    rw [heq]
    exact h
  | inr hmoved => exact .inr hmoved

theorem FocusMoves.eq (h : FocusMoves C p p') (hn : C.nested) : p' = p := by
  cases h with
  | inl heq => exact heq
  | inr hmoved => exact absurd hn hmoved.1

theorem FocusMoves.ne (h : FocusMoves C p p') (ha : ¬C.target a) (hp : p ≠ some a) :
    p' ≠ some a := by
  cases h with
  | inl heq =>
    rw [heq]
    exact hp
  | inr hmoved =>
    obtain ⟨_, d, hd, heq⟩ := hmoved
    rw [heq]
    intro hda
    cases hda
    exact ha hd

theorem KeyTurned.refl (w : World F) (a : DomPtr) : KeyTurned w w a :=
  fun _ => .inl

theorem KeyTurned.trans {w w' w'' : World F} (h : KeyTurned w w' a) (h' : KeyTurned w' w'' a)
    (hmouse : w'.diverted a DivertInfo.mouseDomain = w.diverted a DivertInfo.mouseDomain) :
    KeyTurned w w'' a := by
  intro k hk
  cases h' k hk with
  | inl hold => exact h k hold
  | inr hold => exact .inr (hmouse.symm.trans hold)

theorem Held.refl (w : World F) : Held w w :=
  ⟨rfl, rfl, fun _ => rfl, fun _ => rfl, fun _ => .inl rfl⟩

theorem Held.trans {w w' w'' : World F} (h : Held w w') (h' : Held w' w'') : Held w w'' where
  mouseDest := h'.mouseDest.trans h.mouseDest
  mouseParent := h'.mouseParent.trans h.mouseParent
  prevPtr a := (h'.prevPtr a).trans (h.prevPtr a)
  prevDomid a := (h'.prevDomid a).trans (h.prevDomid a)
  divert a := by
    have h₂ := h'.divert a
    rw [DivertHeld, h.mouseDest, h.mouseParent] at h₂
    obtain heq | ⟨hp, heq⟩ := h.divert a
    · rw [heq] at h₂
      exact h₂
    · obtain heq' | ⟨_, heq'⟩ := h₂
      · exact .inr ⟨hp, heq'.trans heq⟩
      · refine .inr ⟨hp, ?_⟩
        rw [heq', heq, Option.map_map]
        rfl

theorem Routed.refl (C : Scope) (w : World F) : Routed C w w where
  domains _ := rfl
  asleep _ h := h
  running _ h := h
  names _ h := h
  plug := ⟨rfl, rfl⟩
  answers := rfl
  asked := Nat.le_refl _
  log := ⟨[], (List.append_nil _).symm, nofun⟩
  coherent h := h
  prev _ _ h := h
  current := .refl C _
  surface := .refl C _
  switching := rfl
  focused h := h
  held _ := .refl w
  mouse h := h
  keyb h := h
  diverts _ h := h
  diverted _ := rfl
  turned _ _ := .refl w
  remembers _ _ _ h := h

theorem Routed.trans {w w' w'' : World F} (h : Routed C w w') (h' : Routed C w' w'') :
    Routed C w w'' where
  domains d := (h'.domains d).trans (h.domains d)
  asleep d hd := h.asleep d (h'.asleep d hd)
  running d hd := h'.running d (h.running d hd)
  names slot hs := h.names slot (h'.names slot hs)
  plug := IsTrans.trans _ _ _ h.plug h'.plug
  answers := h'.answers.trans h.answers
  asked := Nat.le_trans h.asked h'.asked
  log := by
    obtain ⟨new, hlog, hnew⟩ := h.log
    obtain ⟨new', hlog', hnew'⟩ := h'.log
    refine ⟨new ++ new', ?_, ?_⟩
    · rw [hlog', hlog, List.append_assoc]
    · intro happening hmem
      cases List.mem_append.mp hmem with
      | inl hmem => exact hnew happening hmem
      | inr hmem => exact hnew' happening hmem
  coherent hc := h'.coherent (h.coherent hc)
  prev hs a ha := h'.prev hs a (h.prev hs a ha)
  current := h.current.trans h'.current
  surface := h.surface.trans h'.surface
  switching := h'.switching.trans h.switching
  focused hf := h'.focused (h.focused hf)
  held hn := (h.held hn).trans (h'.held hn)
  mouse hm := h'.mouse (h.mouse hm)
  keyb hk := h'.keyb (h.keyb hk)
  diverts a ha := h'.diverts a (h.diverts a ha)
  diverted a := (h'.diverted a).trans (h.diverted a)
  turned hs hn a := (h.turned hs hn a).trans (h'.turned hs hn a) (h.diverted a)
  remembers a ha hfocus hnone :=
    h'.remembers a ha (h.current.ne ha hfocus) (h.remembers a ha hfocus hnone)

instance (C : Scope) : IsPreorder (World F) (Routed C) where
  refl := Routed.refl C
  trans _ _ _ := Routed.trans

/-- The steps of input routing: they keep what is known, and the frame. -/
abbrev Routes (C : Scope) (m : WorldM F α) (w : World F) : Prop :=
  Moves (InScope C) (Routed C) m w

/-- The entries found by a test of their identity are found again. -/
theorem World.firstDomain_congr {w w' : World F} {P : Domain F → Bool} {Q : Identity → Bool}
    (h : ∀ d, (w'.domains d).identity = (w.domains d).identity)
    (hP : ∀ x, P x = Q (Domain.identity x)) : w'.firstDomain P = w.firstDomain P := by
  have hinit (d : DomPtr) : (w'.domains d).initialised = (w.domains d).initialised :=
    congrArg Identity.initialised (h d)
  simp only [World.firstDomain, hP, h, hinit]

section
variable {w w' : World F}

theorem Routed.domainWithSlot (h : Routed C w w') (slot : Int) :
    w'.domainWithSlot slot = w.domainWithSlot slot :=
  World.firstDomain_congr (Q := fun i => i.slot = slot) h.domains fun _ => rfl

theorem Routed.domainUivm (h : Routed C w w') : w'.domainUivm = w.domainUivm :=
  h.domainWithSlot 0

theorem Routed.known (h : Routed C w w') (d : DomPtr) : w'.Known d ↔ w.Known d := by
  have hinit : (w'.domains d).initialised = (w.domains d).initialised :=
    congrArg Identity.initialised (h.domains d)
  rw [World.Known, World.Known, hinit]

theorem Routed.valid (h : Routed C w w') {p : Option DomPtr} (hp : w.Valid p) : w'.Valid p :=
  fun d hd => (h.known d).mpr (hp d hd)

theorem Routed.slot (h : Routed C w w') (d : DomPtr) : (w'.domains d).slot = (w.domains d).slot :=
  congrArg Identity.slot (h.domains d)

theorem Routed.domid (h : Routed C w w') (d : DomPtr) : (w'.domains d).domid = (w.domains d).domid :=
  congrArg Identity.domid (h.domains d)

theorem Routed.isPvm (h : Routed C w w') (d : DomPtr) : (w'.domains d).isPvm = (w.domains d).isPvm :=
  congrArg Identity.isPvm (h.domains d)

theorem Routed.client (h : Routed C w w') (d : DomPtr) :
    (w'.domains d).client = (w.domains d).client :=
  congrArg Identity.client (h.domains d)

theorem Routed.targets (h : Routed C w w') (ht : Targets C.target w) : Targets C.target w' where
  uivm d hd := ht.uivm d (h.domainUivm.symm.trans hd)
  asleep d hp hs := ht.asleep d ((h.isPvm d).symm.trans hp) (h.asleep d hs)
  edge slot d hn hs hd := ht.edge slot d (h.names slot hn) hs ((h.domainWithSlot slot).symm.trans hd)
  back hn s d hs hd := by
    rw [h.domainWithSlot, h.slot] at hd
    cases h.surface with
    | inl heq =>
      rw [heq] at hs
      exact ht.back (h.names _ hn) s d hs hd
    | inr hmoved =>
      obtain ⟨_, t, htarget, heq⟩ := hmoved
      rw [heq] at hs
      cases hs
      exact ht.beside s d htarget hd
  beside s d hs hd := by
    rw [h.domainWithSlot, h.slot] at hd
    exact ht.beside s d hs hd

/-- What is ready stays ready through the frame, where the parts that a step changes do. -/
theorem Routed.inScope (h : Routed C w w') (hw : InScope C w) (ht : Tracked w')
    (hs : C.sound → Sound w') (hc : Captured w'.plug) : InScope C w' where
  tracked := ht
  sound := hs
  switching hn := h.switching.trans (hw.switching hn)
  still := hw.still
  targets := h.targets hw.targets
  captured := hc

/-- The scope of what is done while a switch is under way and the mouse stands still. -/
def Scope.firm (C : Scope) : Scope :=
  { C with nested := True, still := True }

theorem InScope.firm (h : InScope C w) (hbusy : w.switcher.switching = true) :
    InScope C.firm w where
  tracked := h.tracked
  sound := h.sound
  switching _ := hbusy
  still _ := trivial
  targets := { h.targets with }
  captured := h.captured

theorem Routed.of_firm (h : Routed C.firm w w') : Routed C w w' :=
  { h with
    current := .inl (h.current.eq trivial)
    surface := .inl (h.surface.eq trivial)
    held := fun _ => h.held trivial
    turned := fun hs _ => h.turned hs trivial }

theorem known_of_firstDomain {P : Domain F → Bool} (h : w.firstDomain P = some d) : w.Known d := by
  have hfound := List.find?_some h
  exact (Bool.and_eq_true_iff.mp hfound).1

/-- The entry that is found first stays so while nothing new passes the test before it. -/
theorem firstDomain_of_imp {P : Domain F → Bool}
    (hall : ∀ a, w'.Known a → P (w'.domains a) → w.Known a ∧ P (w.domains a))
    (h : w.firstDomain P = some d) (hd : w'.Known d) (hP : P (w'.domains d)) :
    w'.firstDomain P = some d := by
  rw [World.firstDomain, List.find?_eq_some_iff_append] at h ⊢
  obtain ⟨_, before, after, heq, hno⟩ := h
  refine ⟨Bool.and_eq_true_iff.mpr ⟨hd, hP⟩, before, after, heq, ?_⟩
  intro a ha
  have hfails := hno a ha
  rw [Bool.not_eq_true', Bool.and_eq_false_iff] at hfails ⊢
  by_contra hpasses
  rw [not_or, Bool.not_eq_false, Bool.not_eq_false] at hpasses
  obtain ⟨hknown, hpassed⟩ := hall a hpasses.1 hpasses.2
  cases hfails with
  | inl h => exact absurd hknown (Bool.not_eq_true _ ▸ h)
  | inr h => exact absurd hpassed (Bool.not_eq_true _ ▸ h)

theorem known_of_domainWithSlot (h : w.domainWithSlot slot = some d) : w.Known d :=
  known_of_firstDomain h

theorem slot_of_domainWithSlot (h : w.domainWithSlot slot = some d) :
    (w.domains d).slot = slot := by
  have hfound := List.find?_some h
  exact of_decide_eq_true (Bool.and_eq_true_iff.mp hfound).2

theorem domainWithSlot_of_imp
    (hall : ∀ a, w'.Known a → (w'.domains a).slot = slot → w.Known a ∧ (w.domains a).slot = slot)
    (h : w.domainWithSlot slot = some d) (hd : w'.Known d) (hslot : (w'.domains d).slot = slot) :
    w'.domainWithSlot slot = some d := by
  apply firstDomain_of_imp _ h hd (decide_eq_true hslot)
  intro a ha hpasses
  have hfound := hall a ha (of_decide_eq_true hpasses)
  exact ⟨hfound.1, decide_eq_true hfound.2⟩

end

/-- Steps that touch nothing but what is of no concern here. -/
structure Unmoved (w w' : World F) : Prop where
  domains : w'.domains = w.domains
  routing : w'.routing = w.routing
  switcher : w'.switcher = w.switcher
  answers : w'.answers = w.answers
  log : w'.log = w.log
  asked : w.asked ≤ w'.asked
  plug : SameDest w.plug w'.plug

section
variable {w w' : World F}

theorem Unmoved.routed (h : Unmoved w w') (C : Scope) : Routed C w w' := by
  obtain ⟨hdomains, hrouting, hswitcher, hanswers, hlog, hasked, hplug⟩ := h
  cases w with
  | mk domains plug recv routing keyStatus types multitouch switcher deathWindow xcHandle answers
      asked log =>
    cases hdomains
    cases hrouting
    cases hswitcher
    cases hanswers
    cases hlog
    exact { Routed.refl C w' with
      plug := hplug, asked := hasked, held := fun _ => { Held.refl w' with } }

theorem Unmoved.tracked (h : Unmoved w w') (hw : Tracked w) : Tracked w' where
  devslot d hd := by
    rw [h.domains] at hd ⊢
    rw [h.log]
    exact hw.devslot d hd
  pressed mb hmb := by
    rw [h.routing] at hmb
    exact hw.pressed mb hmb
  diverting := by
    constructor
    · rw [h.routing, h.domains]
      exact hw.diverting.parent
    · intro d hd
      rw [World.Known, h.domains] at hd
      rw [h.domains]
      exact hw.diverting.spare d hd

theorem Unmoved.sound (h : Unmoved w w') (hw : Sound w) : Sound w' := by
  have hknown (d : DomPtr) : w'.Known d ↔ w.Known d := by rw [World.Known, World.Known, h.domains]
  have hvalid (p : Option DomPtr) (hp : w.Valid p) : w'.Valid p :=
    fun d hd => (hknown d).mpr (hp d hd)
  have hdiverted : w'.diverted = w.diverted := by
    funext d target
    rw [World.diverted, World.diverted, h.domains]
  constructor
  · rw [h.routing]
    exact hvalid _ hw.mouseDest
  · rw [h.routing]
    exact hvalid _ hw.mouseParent
  · rw [h.routing]
    exact hvalid _ hw.keybDest
  · rw [h.routing]
    exact hvalid _ hw.keybParent
  · intro a
    rw [hdiverted]
    exact hvalid _ (hw.keyDomain a)
  · intro a
    rw [hdiverted]
    exact hvalid _ (hw.mouseDomain a)
  · intro a ha
    rw [World.PrevOk, h.domains]
    intro p hp
    rw [hknown]
    exact hw.prev a ((hknown a).mp ha) p hp
  · rw [h.routing, hdiverted]
    exact hw.follows

theorem Unmoved.step (h : Unmoved w w') (hc : Captured w'.plug) (hw : InScope C w) :
    InScope C w' ∧ Routed C w w' :=
  have hr := h.routed C
  ⟨hr.inScope hw (h.tracked hw.tracked) (fun hs => h.sound (hw.sound hs)) hc, hr⟩

end

end InputServer
