import InputServer.Arrivals

namespace InputServer
open Program
set_option autoImplicit true

variable {F : Type} {C : Scope} {L : Regime F} {T : Turnover} {w : World F} {d e : DomPtr}

/-- An entry that nothing points to and that no slot finds. -/
structure Blank (x : Domain F) : Prop where
  domid : x.initialised = true → x.domid = -1
  slot : x.slot = -1
  isPvm : x.isPvm = false
  divertInfo : x.divertInfo = none
  prevPtr : x.prevKeybDomainPtr = none
  lastDevslot : x.lastDevslot = INPUTSLOT_INVALID

/-- An entry filled anew, with what is logged of it. -/
def World.enrol (w : World F) (d : DomPtr) (x : Domain F) (new : List Happening) : World F :=
  { w with
    domains := Function.update w.domains d x
    plug := { w.plug with plugin := Function.update w.plug.plugin d false }
    log := w.log ++ new }

section
variable {x : Domain F} {new : List Happening}

@[simp] theorem enrol_self : (w.enrol d x new).domains d = x :=
  Function.update_self ..

@[simp] theorem enrol_of_ne (h : e ≠ d) : (w.enrol d x new).domains e = w.domains e :=
  Function.update_of_ne h ..

theorem later_enrol (w : World F) (d : DomPtr) (x : Domain F) (new : List Happening) :
    w.Later (w.enrol d x new) :=
  ⟨⟨new, rfl⟩, Nat.le_refl _⟩

/-- A relation that holds from a state to whatever comes of it without the plugin. -/
class Bystanding (R : World F → World F → Prop) : Prop extends IsPreorder (World F) R where
  evolved {T : Turnover} {w w' : World F} : Evolved T w w' → R w w'
  untold {w w' : World F} : w'.plug = w.plug → w'.log = w.log → w'.asked = w.asked →
    (∀ d, (w'.domains d).client = (w.domains d).client) → R w w'
  enrolled {w : World F} {d : DomPtr} {x : Domain F} : x.client = none → R w (w.enrol d x [])
  connected {w : World F} {d : DomPtr} {x : Domain F} {domid : Int} : x.client = some domid →
    R w (w.enrol d x [.client d domid])

theorem enrol_valid (hd : ¬w.Known d) {p : Option DomPtr} (hp : w.Valid p) :
    (w.enrol d x new).Valid p := by
  intro a ha
  have had : a ≠ d := by
    intro heq
    rw [heq] at ha
    exact hd (hp d ha)
  rw [World.Known, enrol_of_ne had]
  exact hp a ha

theorem enrol_unique (hw : Unique w) (hx : Blank x) :
    Unique (w.enrol d x new) := by
  have hold (a : DomPtr) (ha : (w.enrol d x new).Known a)
      (hpos : 0 ≤ ((w.enrol d x new).domains a).domid ∨
        0 ≤ ((w.enrol d x new).domains a).slot) : a ≠ d := by
    intro heq
    rw [World.Known, heq, enrol_self] at ha
    rw [heq, enrol_self, hx.domid ha, hx.slot] at hpos
    omega
  constructor
  · intro a b ha hb hpos heq
    have had := hold a ha (.inl hpos)
    rw [heq] at hpos
    have hbd := hold b hb (.inl hpos)
    rw [World.Known, enrol_of_ne had] at ha
    rw [World.Known, enrol_of_ne hbd] at hb
    rw [enrol_of_ne hbd] at hpos
    rw [enrol_of_ne had, enrol_of_ne hbd] at heq
    rw [← heq] at hpos
    exact hw.domid a b ha hb hpos heq
  · intro a b ha hb hpos heq
    have had := hold a ha (.inr hpos)
    rw [heq] at hpos
    have hbd := hold b hb (.inr hpos)
    rw [World.Known, enrol_of_ne had] at ha
    rw [World.Known, enrol_of_ne hbd] at hb
    rw [enrol_of_ne hbd] at hpos
    rw [enrol_of_ne had, enrol_of_ne hbd] at heq
    rw [← heq] at hpos
    exact hw.slot a b ha hb hpos heq

theorem enrol_sound (hw : Sound w) (hd : ¬w.Known d) (hx : Blank x) :
    Sound (w.enrol d x new) := by
  have hdiverted (a : DomPtr) (ha : a ≠ d) : (w.enrol d x new).diverted a = w.diverted a := by
    funext target
    rw [World.diverted, World.diverted, enrol_of_ne ha]
  have hself (target : DivertInfo → Option DomPtr) :
      (w.enrol d x new).diverted d target = none := by
    rw [World.diverted, enrol_self, hx.divertInfo]
    rfl
  constructor
  · exact enrol_valid hd hw.mouseDest
  · exact enrol_valid hd hw.mouseParent
  · exact enrol_valid hd hw.keybDest
  · exact enrol_valid hd hw.keybParent
  · intro a
    by_cases had : a = d
    · rw [had, hself]
      exact World.Valid.none
    · rw [hdiverted a had]
      exact enrol_valid hd (hw.keyDomain a)
  · intro a
    by_cases had : a = d
    · rw [had, hself]
      exact World.Valid.none
    · rw [hdiverted a had]
      exact enrol_valid hd (hw.mouseDomain a)
  · intro a ha p hp
    by_cases had : a = d
    · rw [had, enrol_self, hx.prevPtr] at hp
      cases hp
    · rw [World.Known, enrol_of_ne had] at ha
      rw [enrol_of_ne had] at hp ⊢
      cases hw.prev a ha p hp with
      | inl hnone => exact .inl hnone
      | inr hprev =>
        have hpd : p ≠ d := by
          intro heq
          rw [heq] at hprev
          exact hd hprev.1
        rw [World.Known, enrol_of_ne hpd]
        exact .inr hprev
  · intro p m hp hm
    have hpd : p ≠ d := by
      intro heq
      rw [heq] at hp
      exact hd (hw.mouseParent d hp)
    rw [hdiverted p hpd]
    exact hw.follows p m hp hm

theorem enrol_focusLive (hw : FocusLive w) (hd : ¬w.Known d)
    (hnew : lastSwitched (w.log ++ new) = lastSwitched w.log) :
    FocusLive (w.enrol d x new) := by
  refine ⟨?_, enrol_valid hd hw.known, enrol_valid hd hw.surface⟩
  intro c hc
  have hcd : c ≠ d := by
    intro heq
    rw [heq] at hc
    exact hd (hw.known d hc)
  rw [enrol_of_ne hcd]
  exact hnew.trans (hw.focused c hc)

theorem enrol_diverting (hw : Diverting w) (hd : ¬w.Known d) (hx : Blank x) :
    Diverting (w.enrol d x new) where
  parent p hp := by
    have hdivert := hw.parent p hp
    have hpd : p ≠ d := by
      intro heq
      rw [heq] at hdivert
      exact hdivert (hw.spare d hd)
    rw [enrol_of_ne hpd]
    exact hdivert
  spare a ha := by
    by_cases had : a = d
    · rw [had, enrol_self]
      exact hx.divertInfo
    · rw [World.Known, enrol_of_ne had] at ha
      rw [enrol_of_ne had]
      exact hw.spare a ha

/-- Filling an entry that is not initialised keeps the invariant. -/
theorem Living.enrol (hw : Living L w) (hd : ¬w.Known d) (hx : Blank x)
    (hnamed : ∀ guest, x.client = some guest → x.domid = guest ∨ x.domid = -1)
    (hself : x.client ≠ none → devslot d (w.log ++ new) = none)
    (hothers : ∀ a, a ≠ d → devslot a (w.log ++ new) = devslot a w.log)
    (hswitched : lastSwitched (w.log ++ new) = lastSwitched w.log) :
    Living L (w.enrol d x new) where
  tracked := by
    refine ⟨?_, hw.tracked.pressed, enrol_diverting hw.tracked.diverting hd hx⟩
    intro a ha
    by_cases had : a = d
    · rw [had, enrol_self] at ha
      rw [had, enrol_self]
      exact .inr ⟨hself ha, hx.lastDevslot⟩
    · rw [enrol_of_ne had] at ha ⊢
      change devslot a (w.log ++ new) = _ ∨ devslot a (w.log ++ new) = _ ∧ _
      rw [hothers a had]
      exact hw.tracked.devslot a ha
  captured := by
    intro a ha
    by_cases had : a = d
    · rw [had] at ha
      change Function.update w.plug.plugin d false d = true at ha
      rw [Function.update_self] at ha
      cases ha
    · change Function.update w.plug.plugin d false a = true at ha
      rw [Function.update_of_ne had] at ha
      exact hw.captured a ha
  unique := enrol_unique hw.unique hx
  pvm a ha := by
    by_cases had : a = d
    · rw [had, enrol_self, hx.isPvm] at ha
      cases ha
    · rw [enrol_of_ne had] at ha
      rw [World.Known, enrol_of_ne had]
      exact hw.pvm a ha
  named a guest ha := by
    by_cases had : a = d
    · rw [had, enrol_self] at ha ⊢
      exact hnamed guest ha
    · rw [enrol_of_ne had] at ha ⊢
      exact hw.named a guest ha
  idle := hw.idle
  sound hs := enrol_sound (hw.sound (L.sound_before w _ (later_enrol w d x new) hs)) hd hx
  focus hf :=
    enrol_focusLive (hw.focus (L.focused_before w _ (later_enrol w d x new) hf)) hd hswitched

end

section
variable {domid : Int}

theorem setDomid_keeps {g : Domain F → β} (hg : ∀ x : Domain F, g { x with domid := domid } = g x)
    (a : DomPtr) : g ((w.setDomain d { w.domains d with domid := domid }).domains a) =
      g (w.domains a) :=
  setDomain_congr g (hg _) a

theorem setDomid_known (a : DomPtr) :
    (w.setDomain d { w.domains d with domid := domid }).Known a ↔ w.Known a := by
  rw [World.Known, World.Known, setDomid_keeps (g := Domain.initialised) fun _ => rfl]

theorem setDomid_valid {p : Option DomPtr} (hp : w.Valid p) :
    (w.setDomain d { w.domains d with domid := domid }).Valid p :=
  fun a ha => (setDomid_known a).mpr (hp a ha)

theorem setDomid_unique (hw : Unique w) (hother : ∀ a, w.Known a → (w.domains a).domid ≠ domid) :
    Unique (w.setDomain d { w.domains d with domid := domid }) := by
  constructor
  · intro a b ha hb hpos heq
    rw [setDomid_known] at ha hb
    by_cases had : a = d
    · by_cases hbd : b = d
      · exact had.trans hbd.symm
      · rw [had, setDomain_self, setDomain_of_ne hbd] at heq
        exact absurd heq.symm (hother b hb)
    · rw [setDomain_of_ne had] at hpos heq
      by_cases hbd : b = d
      · rw [hbd, setDomain_self] at heq
        exact absurd heq (hother a ha)
      · rw [setDomain_of_ne hbd] at heq
        exact hw.domid a b ha hb hpos heq
  · intro a b ha hb hpos heq
    rw [setDomid_known] at ha hb
    rw [setDomid_keeps (g := Domain.slot) fun _ => rfl] at hpos heq
    rw [setDomid_keeps (g := Domain.slot) fun _ => rfl] at heq
    exact hw.slot a b ha hb hpos heq

theorem setDomid_sound (hw : Sound w) (hnone : (w.domains d).domid = -1) :
    Sound (w.setDomain d { w.domains d with domid := domid }) := by
  have hdiverted : (w.setDomain d { w.domains d with domid := domid }).diverted = w.diverted := by
    funext a target
    rw [World.diverted, World.diverted, setDomid_keeps (g := Domain.divertInfo) fun _ => rfl]
  constructor
  · exact setDomid_valid hw.mouseDest
  · exact setDomid_valid hw.mouseParent
  · exact setDomid_valid hw.keybDest
  · exact setDomid_valid hw.keybParent
  · intro a
    rw [hdiverted]
    exact setDomid_valid (hw.keyDomain a)
  · intro a
    rw [hdiverted]
    exact setDomid_valid (hw.mouseDomain a)
  · intro a ha p hp
    rw [setDomid_known] at ha
    rw [setDomid_keeps (g := Domain.prevKeybDomainPtr) fun _ => rfl] at hp
    rw [setDomid_keeps (g := Domain.prevKeybDomid) fun _ => rfl, setDomid_known]
    cases hw.prev a ha p hp with
    | inl hno => exact .inl hno
    | inr hprev =>
      by_cases hpd : p = d
      · rw [hpd, hnone] at hprev
        exact .inl hprev.2.symm
      · rw [setDomain_of_ne hpd]
        exact .inr hprev
  · rw [hdiverted]
    exact hw.follows

theorem setDomid_focusLive (hw : FocusLive w) (hcurrent : w.switcher.current ≠ some d) :
    FocusLive (w.setDomain d { w.domains d with domid := domid }) := by
  refine ⟨?_, setDomid_valid hw.known, setDomid_valid hw.surface⟩
  intro c hc
  have hcd : c ≠ d := by
    intro heq
    rw [heq] at hc
    exact hcurrent hc
  rw [setDomain_of_ne hcd]
  exact hw.focused c hc

/-- An entry gets the domid of its guest, which no other entry has. -/
theorem setDomid_evolves (hmine : T.mine d) (hnone : (w.domains d).domid = -1)
    (hclient : (w.domains d).client = some domid)
    (hfree : w.domainWithDomid domid = none) (hfocus : L.focused w → w.switcher.current ≠ some d) :
    Evolves L T (modifyDomain d fun x => { x with domid := domid }) w := by
  have hother (a : DomPtr) (ha : w.Known a) : (w.domains a).domid ≠ domid := by
    intro heq
    have hno := List.find?_eq_none.mp hfree a (List.mem_finRange a)
    exact hno (Bool.and_eq_true_iff.mpr ⟨ha, decide_eq_true heq⟩)
  have hlater := w.later_setDomain d { w.domains d with domid := domid }
  apply moves_modify
  intro hw
  change Living L (w.setDomain d { w.domains d with domid := domid }) ∧
    Evolved T w (w.setDomain d { w.domains d with domid := domid })
  constructor
  · constructor
    · refine ⟨?_, hw.tracked.pressed, hw.tracked.diverting.setDomain rfl Iff.rfl⟩
      intro a ha
      rw [setDomid_keeps (g := Domain.client) fun _ => rfl] at ha
      rw [setDomid_keeps (g := Domain.lastDevslot) fun _ => rfl]
      exact hw.tracked.devslot a ha
    · exact hw.captured
    · exact setDomid_unique hw.unique hother
    · intro a ha
      rw [setDomid_keeps (g := Domain.isPvm) fun _ => rfl] at ha
      rw [setDomid_known]
      exact hw.pvm a ha
    · intro a guest ha
      rw [setDomid_keeps (g := Domain.client) fun _ => rfl] at ha
      by_cases had : a = d
      · rw [had] at ha
        rw [had, setDomain_self]
        rw [hclient] at ha
        exact .inl (Option.some.inj ha)
      · rw [setDomain_of_ne had]
        exact hw.named a guest ha
    · exact hw.idle
    · exact fun hs => setDomid_sound (hw.sound (L.sound_before w _ hlater hs)) hnone
    · intro hf
      have hbefore := L.focused_before w _ hlater hf
      exact setDomid_focusLive (hw.focus hbefore) (hfocus hbefore)
  · apply evolved_mine hmine
    · exact .inl rfl
    · exact id
    · intro hold
      cases hold with
      | inl hdomid => exact absurd hnone hdomid
      | inr hno =>
        rw [hclient] at hno
        cases hno
    · exact id

end

/-- A step that changes one entry, which is not the UIVM's before nor after. -/
structure SetApart (d : DomPtr) (w w' : World F) : Prop where
  others : ∀ a, a ≠ d → w'.domains a = w.domains a
  hidden : w.Known d → (w.domains d).slot ≠ 0
  hidden' : w'.Known d → (w'.domains d).slot ≠ 0
  switcher : w'.switcher = w.switcher
  deathWindow : w'.deathWindow = w.deathWindow
  answers : w'.answers = w.answers
  asked : w.asked ≤ w'.asked
  divertInfo : (w'.domains d).divertInfo = (w.domains d).divertInfo ∨
    (w'.domains d).divertInfo = none

theorem SetApart.undiverted {w w' : World F} (h : SetApart d w w') (hun : Undiverted w e) :
    Undiverted w' e := by
  have hdiverted (a : DomPtr) (target : DivertInfo → Option DomPtr)
      (hd : w'.diverted a target = some e) : w.diverted a target = some e := by
    rw [World.diverted] at hd ⊢
    by_cases had : a = d
    · rw [had] at hd ⊢
      cases h.divertInfo with
      | inl hsame =>
        rw [hsame] at hd
        exact hd
      | inr hnone =>
        rw [hnone] at hd
        cases hd
    · rw [h.others a had] at hd
      exact hd
  exact ⟨fun a ha hd => hun.key a ha (hdiverted a _ hd),
    fun a ha hd => hun.mouse a ha (hdiverted a _ hd)⟩

theorem SetApart.uivm {w w' : World F} (h : SetApart d w w') : w'.domainUivm = w.domainUivm := by
  have htest (a : DomPtr) : ((w'.domains a).initialised && decide ((w'.domains a).slot = 0)) =
      ((w.domains a).initialised && decide ((w.domains a).slot = 0)) := by
    by_cases had : a = d
    · rw [had]
      have hno (x : Domain F) (hx : x.initialised = true → x.slot ≠ 0) :
          (x.initialised && decide (x.slot = 0)) = false := by
        by_contra hyes
        rw [Bool.not_eq_false, Bool.and_eq_true, decide_eq_true_eq] at hyes
        exact hx hyes.1 hyes.2
      rw [hno _ h.hidden, hno _ h.hidden']
    · rw [h.others a had]
  simp only [World.domainUivm, World.domainWithSlot, World.firstDomain, htest]

theorem SetApart.unnoticed {w w' : World F} (h : SetApart d w w')
    (hsurface : w.switcher.surfaceCurrent ≠ some d) (hne : e ≠ d) : Unnoticed e w w' where
  self := congrArg Domain.identity (h.others e hne)
  sstate := congrArg Domain.sstate (h.others e hne)
  uivm := h.uivm
  shown u hu := by
    have hud : u ≠ d := by
      intro heq
      rw [heq] at hu
      exact h.hidden (known_of_domainWithSlot hu) (slot_of_domainWithSlot hu)
    rw [h.others u hud]
  surface := by
    cases hs : w.switcher.surfaceCurrent with
    | none => rfl
    | some s =>
      have hsd : s ≠ d := by
        intro heq
        rw [hs, heq] at hsurface
        exact hsurface rfl
      simp only [World.sameDomid, Option.any_some, h.others s hsd, h.others e hne]
  switcher := h.switcher
  deathWindow := h.deathWindow
  answers := h.answers
  asked := h.asked
  undiverted := h.undiverted

/-- A domain may go after such a step that could have gone before. -/
theorem SetApart.departs {w w₁ w' : World F} (h : SetApart d w w₁) (hne : e ≠ d)
    (hsurface : L.focused w' → w.switcher.surfaceCurrent ≠ some d)
    (hdeparts : Departs L w w' e) : Departs L w₁ w' e where
  focus hf := (h.unnoticed (hsurface hf) hne).goneSafe (hdeparts.focus hf)
  spared hs := h.undiverted (hdeparts.spared hs)

/-- What was logged since a later state was logged since an earlier one. -/
theorem since_of_later {w w' w'' : World F} (h : w.Later w') (h' : w'.Later w'')
    (hh : happening ∈ w'.since w'') : happening ∈ w.since w'' := by
  obtain ⟨new, hnew⟩ := h.log
  obtain ⟨new', hnew'⟩ := h'.log
  rw [since_eq hnew'] at hh
  have hall : w''.log = w.log ++ (new ++ new') := by
    rw [hnew', hnew, List.append_assoc]
  rw [since_eq hall]
  exact List.mem_append_right _ hh

section
variable [Double F] (inject : Inject F)

/-- What `switcher_domid` does until it has a slot for the domain, or refuses it. -/
def slotFor (d : DomPtr) (domid : Int) : WorldM F (Option Int) := do
  let w ← get
  if w.domainWithDomid domid ≠ none then pure none
  else do
    modifyDomain d fun x => { x with domid := domid }
    domainReadUuid d
    domainReadIsPvDomain d
    let slot ← domainReadSlot d
    reclaimSlot inject slot domid
    let w ← get
    if w.domainWithSlot slot ≠ none ∨ slot = -1 then pure none else pure (some slot)

theorem switcherDomid_eq (d : DomPtr) (domid : Int) : switcherDomid inject d domid = (do
    match ← slotFor inject d domid with
    | none => pure ()
    | some slot => do
      modifyDomain d fun x => { x with slot := slot }
      startDomain inject d) := by
  rw [switcherDomid, slotFor, bind_assoc]
  apply bind_congr
  intro w
  by_cases htaken : w.domainWithDomid domid ≠ none
  · rw [if_pos htaken, if_pos htaken, pure_bind]
  · rw [if_neg htaken, if_neg htaken]
    simp only [bind_assoc]
    apply bind_congr
    intro _
    apply bind_congr
    intro _
    apply bind_congr
    intro _
    apply bind_congr
    intro slot
    apply bind_congr
    intro _
    apply bind_congr
    intro w'
    by_cases hrefused : w'.domainWithSlot slot ≠ none ∨ slot = -1
    · rw [if_pos hrefused, if_pos hrefused, pure_bind]
    · rw [if_neg hrefused, if_neg hrefused, pure_bind]

variable {inject : Inject F} (hinject : InjectRoutes inject)
include hinject

/-- The entry of a domain that connects, before it has a slot. -/
structure Arriving (L : Regime F) (d : DomPtr) (domid : Int) (w : World F) : Prop where
  known : w.Known d
  unnamed : (w.domains d).domid = -1
  slot : (w.domains d).slot = -1
  client : (w.domains d).client = some domid
  unfocused : L.focused w → w.switcher.current ≠ some d ∧ w.switcher.surfaceCurrent ≠ some d

theorem slotFor_evolves (hreclaims : T.reclaims) (hmine : ∀ a, T.mine a ↔ a = d)
    (hd : Arriving L d domid w)
    (hsafe : ∀ dead w', dead ≠ d → w.Later w' → .reclaimed dead ∈ w.since w' →
      Departs L w w' dead) :
    Yields (Living L) (Evolved T)
      (fun r w' => ∀ slot, r = some slot → w'.domainWithSlot slot = none)
      (slotFor inject d domid) w := by
  have hmined : T.mine d := (hmine d).mpr rfl
  apply yields_get
  intro _
  apply yields_ite
  · intro _
    exact yields_pure _ fun _ _ hsome => by cases hsome
  intro hfree
  have hset : wlp (modifyDomain d fun x => { x with domid := domid })
      (fun _ w' => w' = w.setDomain d { w.domains d with domid := domid }) w := by
    rw [modifyDomain, wlp_modify]
    rfl
  apply yields_bind_of ((setDomid_evolves hmined hd.unnamed hd.client (not_not.mp hfree)
    fun hf => (hd.unfocused hf).1).of_moves hset)
  intro _ w₁ _ h₁ hw₁
  apply yields_bind_of
    ((domainReadUuid_evolves d w₁).of_moves (domainReadUuid_prepares d w₁).outcome)
  intro _ w₂ _ h₂ hp₂
  apply yields_bind_of
    ((domainReadIsPvDomain_evolves hmined w₂).of_moves (domainReadIsPvDomain_prepares d w₂).outcome)
  intro _ w₃ _ h₃ hp₃
  have hslot := domainReadSlot_asks d w₃
  apply yields_bind_of ((evolves_of_routes hslot.routes).of_moves hslot.outcome)
  intro slot w₄ _ h₄ hasked
  have hprepared := (hp₂.trans hp₃).trans (hasked.prepared d)
  have hevolved := ((h₁.trans h₂).trans h₃).trans h₄
  have hslot₁ : (w₁.domains d).slot = -1 := by
    rw [hw₁, setDomain_self]
    exact hd.slot
  have hapart : SetApart d w w₄ := {
    others := by
      intro a ha
      rw [hprepared.others a ha, hw₁]
      exact setDomain_of_ne ha
    hidden := by
      rw [hd.slot]
      exact fun _ h => by cases h
    hidden' := by
      rw [hprepared.slot, hslot₁]
      exact fun _ h => by cases h
    switcher := by
      rw [hprepared.switcher, hw₁]
      rfl
    deathWindow := by
      rw [hprepared.deathWindow, hw₁]
      rfl
    answers := hevolved.answers
    asked := hevolved.asked
    divertInfo := by
      have hset : (w₁.domains d).divertInfo = (w.domains d).divertInfo := by
        rw [hw₁, setDomain_self]
      rw [← hset]
      exact .inl hprepared.divertInfo }
  have hdomid : (w₄.domains d).domid = domid := by
    rw [hprepared.domid, hw₁, setDomain_self]
  have hreclaim : Evolves L T (reclaimSlot inject slot domid) w₄ := reclaimSlot_evolves
    hinject hreclaims
    (by
      intro a ha
      rw [(hmine a).mp ha]
      exact hdomid)
    (by
      intro dead w' hother hlater hin
      have hne : dead ≠ d := by
        intro heq
        rw [heq] at hother
        exact hother hdomid
      have hlater' := hevolved.later.trans hlater
      apply hapart.departs hne
      · exact fun hf => (hd.unfocused (L.focused_before w w' hlater' hf)).2
      · exact hsafe dead w' hne hlater' (since_of_later hevolved.later hlater hin))
  apply yields_bind hreclaim
  intro _ w₅ _ _
  apply yields_get
  intro _
  apply yields_ite
  · intro _
    exact yields_pure _ fun _ _ hsome => by cases hsome
  · intro hgranted
    apply yields_pure
    intro _ slot' hslot'
    cases hslot'
    by_contra hno
    exact hgranted (.inl hno)

omit [Double F] hinject in
/-- A slot that no other entry has is given to an entry. -/
theorem setSlot_evolves (hmine : T.mine d) (hfree : w.domainWithSlot slot = none) :
    Evolves L T (modifyDomain d fun x => { x with slot := slot }) w := by
  apply modifyDomain_configures hmine
  intro hw
  exact {
    name := ⟨rfl, rfl⟩
    client := rfl
    lastDevslot := rfl
    divertInfo := rfl
    prev := fun h => h
    prevPtr := fun h => h
    pvm := hw.pvm d
    slot := by
      intro a _ _ ha _ heq
      have hno := List.find?_eq_none.mp hfree a (List.mem_finRange a)
      exact hno (Bool.and_eq_true_iff.mpr ⟨ha, decide_eq_true heq⟩) }

section
variable (hreclaims : T.reclaims) (hmine : ∀ a, T.mine a ↔ a = d) (hd : Arriving L d domid w)
  (hsafe : ∀ dead w', dead ≠ d → w.Later w' → .reclaimed dead ∈ w.since w' →
    Departs L w w' dead)
include hreclaims hmine hd hsafe

theorem switcherDomid_evolves : Evolves L T (switcherDomid inject d domid) w := by
  have hmined : T.mine d := (hmine d).mpr rfl
  rw [switcherDomid_eq]
  apply yields_bind_of (slotFor_evolves hinject hreclaims hmine hd hsafe)
  intro r w₁ _ h₁ hfree
  cases r with
  | none => exact moves_pure _
  | some slot =>
    apply yields_bind (setSlot_evolves hmined (hfree slot rfl))
    intro _ w₂ _ h₂
    exact startDomain_evolves hinject hmined ((h₁.trans h₂).kept d hmined hd.known)

theorem switcherPvmDomid_evolves : Evolves L T (switcherPvmDomid inject d domid) w := by
  have hmined : T.mine d := (hmine d).mpr rfl
  apply yields_bind (switcherDomid_evolves hinject hreclaims hmine hd hsafe)
  intro _ w₁ _ h₁
  have hd₁ := h₁.kept d hmined hd.known
  have hpvm : Evolves L T (modifyDomain d fun x => { x with isPvm := true }) w₁ := by
    apply modifyDomain_configures hmined
    intro hw
    have hsame : Resembles (w₁.domains d) { w₁.domains d with isPvm := true } :=
      ⟨rfl, rfl, rfl, rfl, rfl, rfl, rfl, rfl⟩
    exact hsame.configures hw.unique fun _ => hd₁
  apply yields_bind hpvm
  intro _ w₂ _ h₂
  have hd₂ := h₂.kept d hmined hd₁
  apply yields_bind (focusUpdateDomain_evolves hinject hd₂)
  intro _ w₃ _ h₃
  have hd₃ : w₃.Valid (some d) := .some (h₃.kept d hmined hd₂)
  apply yields_bind (switcherSwitch_evolves hinject hd₃ false)
  intro _ w₄ _ _
  exact moves_pure _

end

omit [Double F] hinject in
theorem resetEntry_eq (d : DomPtr) (x : Domain F) (w : World F) :
    wlp (resetEntry d x) (fun _ w' => w' = w.enrol d x []) w := by
  rw [resetEntry, wlp_bind, modifyDomain, wlp_modify, onPlug, wlp_zoom, wlp_modify, World.enrol,
    List.append_nil]

omit hinject in
theorem fresh_blank (domid : Int) (client : Option Int) (initialised : Bool) (mult : Int)
    (hdomid : initialised = true → domid = -1) :
    Blank (Domain.fresh domid client initialised mult : Domain F) :=
  ⟨hdomid, rfl, rfl, rfl, rfl, rfl⟩

omit [Double F] hinject in
theorem empty_of_emptyDomain (h : w.emptyDomain = some d) : ¬w.Known d := by
  have hfound := List.find?_some h
  rw [Bool.not_eq_true'] at hfound
  rw [World.Known, hfound]
  exact Bool.false_ne_true

/-- The entry that a domain that connects finds. -/
def World.connected (w : World F) (d : DomPtr) (domid : Int) : World F :=
  w.enrol d (Domain.fresh (-1) (some domid) true 0) [.client d domid]

/-- Only the entry of the domain is set up, and only dead domains are removed. -/
def Turnover.arrival (d : DomPtr) : Turnover where
  mine a := a = d
  lost _ := False
  reclaims := True

omit hinject in
theorem connected_living (hw : Living L w) (hd : ¬w.Known d) (domid : Int) :
    Living L (w.connected d domid) := by
  apply hw.enrol hd (fresh_blank _ _ _ _ fun _ => rfl)
  · exact fun _ _ => .inr rfl
  · intro _
    rw [devslot_snoc, devslotStep, if_pos rfl]
  · intro a ha
    rw [devslot_snoc, devslotStep, if_neg fun heq => ha heq.symm]
  · rw [lastSwitched_snoc]
    rfl

omit hinject in
theorem connected_arriving (hw : Living L w) (hd : ¬w.Known d) (domid : Int) :
    Arriving L d domid (w.connected d domid) := by
  have hself : (w.connected d domid).domains d = Domain.fresh (-1) (some domid) true 0 :=
    enrol_self
  constructor
  · rw [World.Known, hself]
    rfl
  · rw [hself]
    rfl
  · rw [hself]
    rfl
  · rw [hself]
    rfl
  · intro hf
    have hlive := hw.focus (L.focused_before w _ (later_enrol w d _ _) hf)
    constructor
    · exact fun hcurrent => hd (hlive.known d hcurrent)
    · exact fun hsurface => hd (hlive.surface d hsurface)

omit hinject in
theorem connected_apart (hd : ¬w.Known d) (domid : Int) :
    SetApart d w (w.connected d domid) where
  others _ ha := enrol_of_ne ha
  hidden hknown := absurd hknown hd
  hidden' _ := by
    have hself : (w.connected d domid).domains d = Domain.fresh (-1) (some domid) true 0 :=
      enrol_self
    rw [hself]
    exact nofun
  switcher := rfl
  deathWindow := rfl
  answers := rfl
  asked := Nat.le_refl _
  divertInfo := by
    have hself : (w.connected d domid).domains d = Domain.fresh (-1) (some domid) true 0 :=
      enrol_self
    rw [hself]
    exact .inr rfl

/-- A domain that connects. -/
theorem domainCreate_evolved (hw : Living L w) (he : w.emptyDomain = some d)
    (hsafe : ∀ dead w', w.Later w' → .reclaimed dead ∈ w.since w' → Departs L w w' dead)
    (domid : Int) (pvm : Bool) :
    wlp (domainCreate inject domid pvm) (fun _ w' => Living L w' ∧
      Evolved (.arrival d) (w.connected d domid) w') w := by
  have hd := empty_of_emptyDomain he
  have hlater : w.Later (w.connected d domid) := later_enrol w d _ _
  have hsafe₁ (dead : DomPtr) (w' : World F) (hne : dead ≠ d)
      (hlater' : (w.connected d domid).Later w')
      (hin : .reclaimed dead ∈ (w.connected d domid).since w') :
      Departs L (w.connected d domid) w' dead := by
    have hwhole := hlater.trans hlater'
    apply (connected_apart hd domid).departs hne
    · exact fun hf hs => hd ((hw.focus (L.focused_before w w' hwhole hf)).surface d hs)
    · exact hsafe dead w' hwhole (since_of_later hlater hlater' hin)
  have hlive := connected_living hw hd domid
  have harriving := connected_arriving hw hd domid
  rw [domainCreate, wlp_bind, wlp_get, he, wlp_bind]
  refine wlp_mono (resetEntry_eq d _ w) ?_
  intro _ w₁ hw₁
  have hlogged : ({ w₁ with log := w₁.log ++ [.client d domid] } : World F) =
      w.connected d domid := by
    simp only [hw₁, World.connected, World.enrol, List.append_nil]
  rw [wlp_bind, happens, wlp_modify, hlogged]
  apply wlp_ite
  · intro _
    have hall := switcherPvmDomid_evolves (T := .arrival d) hinject trivial
      (fun _ => Iff.rfl) harriving hsafe₁ hlive
    exact wlp_mono hall fun _ _ h => ⟨h.1, h.2.1⟩
  · intro _
    have hall := switcherDomid_evolves (T := .arrival d) hinject trivial
      (fun _ => Iff.rfl) harriving hsafe₁ hlive
    exact wlp_mono hall fun _ _ h => ⟨h.1, h.2.1⟩

/-- The entry of a domain that gets a vkbd and had none. -/
def World.attached (w : World F) (d : DomPtr) (domid : Int) : World F :=
  w.enrol d (Domain.fresh domid none false 1) []

omit hinject in
theorem attached_living (hw : Living L w) (hd : ¬w.Known d) (domid : Int) :
    Living L (w.attached d domid) := by
  have hblank : Blank (Domain.fresh domid none false 1 : Domain F) := fresh_blank _ _ _ _ nofun
  apply hw.enrol hd hblank
  · exact nofun
  · exact fun hclient => absurd rfl hclient
  · intro a _
    rw [List.append_nil]
  · rw [List.append_nil]

omit hinject in
theorem attached_unknown (w : World F) (d : DomPtr) (domid : Int) :
    ¬(w.attached d domid).Known d := by
  have hself : (w.attached d domid).domains d = Domain.fresh domid none false 1 := enrol_self
  rw [World.Known, hself]
  exact Bool.false_ne_true

omit hinject [Double F] in
/-- An entry that is set up remembers a keyboard that is there, or none. -/
theorem Sound.setUp (hw : Sound w) (hprev : w.PrevOk d) :
    Sound (w.setDomain d { w.domains d with initialised := true }) := by
  have hkeeps {β : Type} (g : Domain F → β) (hg : ∀ x, g { x with initialised := true } = g x)
      (a : DomPtr) :
      g ((w.setDomain d { w.domains d with initialised := true }).domains a) = g (w.domains a) :=
    setDomain_congr g (hg _) a
  have hold (a : DomPtr) (ha : w.Known a) :
      (w.setDomain d { w.domains d with initialised := true }).Known a := by
    rw [World.Known]
    by_cases had : a = d
    · rw [had, setDomain_self]
    · rw [setDomain_of_ne had]
      exact ha
  have hvalid {p : Option DomPtr} (hp : w.Valid p) :
      (w.setDomain d { w.domains d with initialised := true }).Valid p :=
    fun a ha => hold a (hp a ha)
  have hdiverted : (w.setDomain d { w.domains d with initialised := true }).diverted =
      w.diverted := by
    funext a target
    rw [World.diverted, World.diverted, hkeeps Domain.divertInfo fun _ => rfl]
  constructor
  · exact hvalid hw.mouseDest
  · exact hvalid hw.mouseParent
  · exact hvalid hw.keybDest
  · exact hvalid hw.keybParent
  · intro a
    rw [hdiverted]
    exact hvalid (hw.keyDomain a)
  · intro a
    rw [hdiverted]
    exact hvalid (hw.mouseDomain a)
  · intro a ha
    have hok : w.PrevOk a := by
      by_cases had : a = d
      · rw [had]
        exact hprev
      · rw [World.Known, setDomain_of_ne had] at ha
        exact hw.prev a ha
    intro p hp
    rw [hkeeps Domain.prevKeybDomainPtr fun _ => rfl] at hp
    rw [hkeeps Domain.prevKeybDomid fun _ => rfl, hkeeps Domain.domid fun _ => rfl]
    exact (hok p hp).imp_right fun hknown => ⟨hold p hknown.1, hknown.2⟩
  · rw [hdiverted]
    exact hw.follows

omit hinject [Double F] in
/-- An entry is found by the domid and the slot that it has, which no other entry has. -/
theorem setUp_evolves (hprev : L.sound w → w.PrevOk d) (hmine : T.mine d)
    (hdomid : ∀ a, a ≠ d → w.Known a → 0 ≤ (w.domains d).domid →
      (w.domains a).domid ≠ (w.domains d).domid)
    (hslot : ∀ a, a ≠ d → w.Known a → (w.domains a).slot ≠ (w.domains d).slot) :
    Yields (Living L) (Evolved T) (fun _ w' => w'.Known d)
      (modifyDomain d fun x => { x with initialised := true }) w := by
  have hself : (w.setDomain d { w.domains d with initialised := true }).domains d =
      { w.domains d with initialised := true } := setDomain_self
  have hkeeps {β : Type} (g : Domain F → β) (hg : ∀ x, g { x with initialised := true } = g x)
      (a : DomPtr) :
      g ((w.setDomain d { w.domains d with initialised := true }).domains a) = g (w.domains a) :=
    setDomain_congr g (hg _) a
  have hold (a : DomPtr) (ha : w.Known a) :
      (w.setDomain d { w.domains d with initialised := true }).Known a := by
    rw [World.Known]
    by_cases had : a = d
    · rw [had, hself]
    · rw [setDomain_of_ne had]
      exact ha
  have hknown (a : DomPtr) (had : a ≠ d)
      (ha : (w.setDomain d { w.domains d with initialised := true }).Known a) : w.Known a := by
    rw [World.Known, setDomain_of_ne had] at ha
    exact ha
  have hlater := w.later_setDomain d { w.domains d with initialised := true }
  apply yields_modify
  intro hw
  change Living L (w.setDomain d { w.domains d with initialised := true }) ∧
    Evolved T w (w.setDomain d { w.domains d with initialised := true }) ∧
    (w.setDomain d { w.domains d with initialised := true }).Known d
  refine ⟨?_, ?_, ?_⟩
  · constructor
    · have hdiverting : Diverting (w.setDomain d { w.domains d with initialised := true }) := by
        constructor
        · intro p hp
          rw [hkeeps Domain.divertInfo fun _ => rfl]
          exact hw.tracked.diverting.parent p hp
        · intro a ha
          rw [hkeeps Domain.divertInfo fun _ => rfl]
          exact hw.tracked.diverting.spare a fun hknown => ha (hold a hknown)
      refine ⟨?_, hw.tracked.pressed, hdiverting⟩
      intro a ha
      rw [hkeeps Domain.client fun _ => rfl] at ha
      rw [hkeeps Domain.lastDevslot fun _ => rfl]
      exact hw.tracked.devslot a ha
    · exact hw.captured
    · constructor
      · intro a b ha hb hpos heq
        rw [hkeeps Domain.domid fun _ => rfl] at hpos heq
        rw [hkeeps Domain.domid fun _ => rfl] at heq
        by_cases had : a = d
        · by_cases hbd : b = d
          · exact had.trans hbd.symm
          · rw [had] at hpos heq
            exact absurd heq.symm (hdomid b hbd (hknown b hbd hb) hpos)
        · by_cases hbd : b = d
          · rw [heq, hbd] at hpos
            rw [hbd] at heq
            exact absurd heq (hdomid a had (hknown a had ha) hpos)
          · exact hw.unique.domid a b (hknown a had ha) (hknown b hbd hb) hpos heq
      · intro a b ha hb hpos heq
        rw [hkeeps Domain.slot fun _ => rfl] at hpos heq
        rw [hkeeps Domain.slot fun _ => rfl] at heq
        by_cases had : a = d
        · by_cases hbd : b = d
          · exact had.trans hbd.symm
          · rw [had] at heq
            exact absurd heq.symm (hslot b hbd (hknown b hbd hb))
        · by_cases hbd : b = d
          · rw [hbd] at heq
            exact absurd heq (hslot a had (hknown a had ha))
          · exact hw.unique.slot a b (hknown a had ha) (hknown b hbd hb) hpos heq
    · intro a ha
      rw [hkeeps Domain.isPvm fun _ => rfl] at ha
      exact hold a (hw.pvm a ha)
    · intro a guest ha
      rw [hkeeps Domain.client fun _ => rfl] at ha
      rw [hkeeps Domain.domid fun _ => rfl]
      exact hw.named a guest ha
    · exact hw.idle
    · intro hs
      have hbefore := L.sound_before w _ hlater hs
      exact (hw.sound hbefore).setUp (hprev hbefore)
    · intro hf
      have hlive := hw.focus (L.focused_before w _ hlater hf)
      refine ⟨?_, fun c hc => hold c (hlive.known c hc), fun c hc => hold c (hlive.surface c hc)⟩
      intro c hc
      rw [hkeeps Domain.domid fun _ => rfl]
      exact hlive.focused c hc
  · exact evolved_mine hmine (.inl rfl) (fun _ => rfl) (fun _ => rfl) id
  · rw [World.Known, hself]

theorem domainAssignSlot_evolves (hreclaims : T.reclaims) (hmine : ∀ a, T.mine a ↔ a = d)
    (hd : ¬w.Known d)
    (hsafe : ∀ dead w', dead ≠ d → w.Later w' → .reclaimed dead ∈ w.since w' →
      Departs L w w' dead) :
    Yields (Living L) (Evolved T) (fun assigned w' => ¬w'.Known d ∧
      (assigned = true → ∀ a, w'.Known a → (w'.domains a).slot ≠ (w'.domains d).slot))
      (domainAssignSlot inject d) w := by
  have hmined : T.mine d := (hmine d).mpr rfl
  have hslot := domainReadSlot_asks d w
  apply yields_bind_of ((evolves_of_routes hslot.routes).of_moves hslot.outcome)
  intro slot w₁ hw₁ h₁ hasked
  have hd₁ : ¬w₁.Known d := by
    rw [World.Known, (hasked.prepared d).known]
    exact hd
  apply yields_get
  intro _
  apply yields_ite
  · intro _
    exact yields_pure _ fun _ => ⟨hd₁, fun hassigned => by cases hassigned⟩
  intro _
  have hreclaim (T' : Turnover) (hreclaims : T'.reclaims) (hmine : ∀ a, T'.mine a → a = d) :
      Evolves L T' (reclaimSlot inject slot (w₁.domains d).domid) w₁ := by
    apply reclaimSlot_evolves hinject hreclaims
    · intro a ha
      rw [hmine a ha]
    · intro dead w' hother hlater hin
      have hne : dead ≠ d := by
        intro heq
        rw [heq] at hother
        exact hother rfl
      apply (hasked.unnoticed dead).departs
      exact hsafe dead w' hne (h₁.later.trans hlater) (since_of_later h₁.later hlater hin)
  have hstays :
      wlp (reclaimSlot inject slot (w₁.domains d).domid) (fun _ w' => ¬w'.Known d) w₁ := by
    refine wlp_mono
      (hreclaim ⟨fun _ => False, fun _ => False, True⟩ trivial (fun _ => False.elim) hw₁) ?_
    intro _ w' h
    exact h.2.1.unknown id hd₁
  apply yields_bind_of ((hreclaim T hreclaims fun a => (hmine a).mp).of_moves hstays)
  intro _ w₂ _ _ hd₂
  apply yields_get
  intro _
  apply yields_ite
  · intro _
    exact yields_pure _ fun _ => ⟨hd₂, fun hassigned => by cases hassigned⟩
  · intro hfree
    have hfree := not_not.mp hfree
    have hset : wlp (modifyDomain d fun x => { x with slot := slot })
        (fun _ w' => w' = w₂.setDomain d { w₂.domains d with slot := slot }) w₂ := by
      rw [modifyDomain, wlp_modify]
      rfl
    apply yields_bind_of ((setSlot_evolves hmined hfree).of_moves hset)
    intro _ w₃ _ _ hw₃
    have hname : SameName w₂ d { w₂.domains d with slot := slot } := ⟨rfl, rfl⟩
    have hsame (a : DomPtr) : w₃.Known a ↔ w₂.Known a := by
      rw [hw₃]
      exact hname.known a
    apply yields_pure
    intro _
    refine ⟨fun hknown => hd₂ ((hsame d).mp hknown), ?_⟩
    intro _ a ha heq
    have ha₂ := (hsame a).mp ha
    have had : a ≠ d := by
      intro heq
      rw [heq] at ha₂
      exact hd₂ ha₂
    rw [hw₃, setDomain_self, setDomain_of_ne had] at heq
    have hno := List.find?_eq_none.mp hfree a (List.mem_finRange a)
    exact hno (Bool.and_eq_true_iff.mpr ⟨ha₂, decide_eq_true heq⟩)

/-- Setting up an entry initialises it, unless it gets no slot. -/
theorem domainSetup_evolves (hreclaims : T.reclaims) (hmine : ∀ a, T.mine a ↔ a = d)
    (hd : ¬w.Known d) (hclient : (w.domains d).client = none)
    (hprev : L.sound w → Unremembering w d)
    (hother : ∀ a, w.Known a → 0 ≤ (w.domains d).domid →
      (w.domains a).domid ≠ (w.domains d).domid)
    (hsurface : L.focused w → w.switcher.surfaceCurrent ≠ some d)
    (hsafe : ∀ dead w', dead ≠ d → w.Later w' → .reclaimed dead ∈ w.since w' →
      Departs L w w' dead) :
    Yields (Living L) (Evolved T) (fun done w' => w'.Known d ↔ done = true)
      (domainSetup inject d) w := by
  have hmined : T.mine d := (hmine d).mpr rfl
  apply yields_bind_of
    ((domainReadUuid_evolves d w).of_moves (domainReadUuid_prepares d w).outcome)
  intro _ w₁ _ h₁ hp₁
  apply yields_bind_of
    ((domainReadIsPvDomain_evolves hmined w₁).of_moves (domainReadIsPvDomain_prepares d w₁).outcome)
  intro _ w₂ _ h₂ hp₂
  have hprepared := hp₁.trans hp₂
  have h₂ := h₁.trans h₂
  have hd₂ : ¬w₂.Known d := by
    rw [World.Known, hprepared.known]
    exact hd
  have hapart : SetApart d w w₂ := {
    others := hprepared.others
    hidden := fun hknown => absurd hknown hd
    hidden' := fun hknown => absurd hknown hd₂
    switcher := hprepared.switcher
    deathWindow := hprepared.deathWindow
    answers := hprepared.answers
    asked := hprepared.asked
    divertInfo := .inl hprepared.divertInfo }
  have hsafe₂ (dead : DomPtr) (w' : World F) (hne : dead ≠ d) (hlater : w₂.Later w')
      (hin : .reclaimed dead ∈ w₂.since w') : Departs L w₂ w' dead := by
    have hlater' := h₂.later.trans hlater
    apply hapart.departs hne
    · exact fun hf => hsurface (L.focused_before w w' hlater' hf)
    · exact hsafe dead w' hne hlater' (since_of_later h₂.later hlater hin)
  apply yields_bind_of (domainAssignSlot_evolves hinject hreclaims hmine hd₂ hsafe₂)
  intro assigned w₃ hw₃ h₃ hassigned
  obtain ⟨hd₃, hslots⟩ := hassigned
  have h₃ := h₂.trans h₃
  apply yields_ite
  · intro hyes
    have hpower : wlp (domainPowerState inject "power-state" d)
        (fun _ w' => Evolved .none w₃ w') w₃ :=
      wlp_mono (domainPowerState_evolves hinject _ d w₃ hw₃) fun _ _ h => h.2.1
    apply yields_bind_of ((domainPowerState_evolves hinject _ d w₃).of_moves hpower)
    intro _ w₄ hw₄ h₄ hsame₄
    have hmouse : wlp (domainMouseSwitchConfig d) (fun _ w' => Evolved .none w₄ w') w₄ :=
      wlp_mono (evolves_of_routes (domainMouseSwitchConfig_routes d w₄) hw₄) fun _ _ h => h.2.1
    apply yields_bind_of ((evolves_of_routes (domainMouseSwitchConfig_routes d w₄)).of_moves hmouse)
    intro _ w₅ _ h₅ hsame₅
    have hsame := (hsame₄.trans hsame₅).identity
    have hall := (h₃.trans h₄).trans h₅
    have hset : Yields (Living L) (Evolved T) (fun _ w' => w'.Known d)
        (modifyDomain d fun x => { x with initialised := true }) w₅ := by
      have hprev₅ (hs : L.sound w₅) : w₅.PrevOk d := by
        have hun := hprev (L.sound_before w w₅ hall.later hs)
        have hfree₅ : ¬w₅.Known d := fun hknown => hd₃ ((known_congr hsame).mp hknown)
        intro p hp
        rw [(hall.remembers d hmined hfree₅ hun).prevPtr] at hp
        cases hp
      apply setUp_evolves hprev₅ hmined
      · intro a had ha
        have hold := hall.before (fun hm => had ((hmine a).mp hm)) ha
        have hdomid : (w₅.domains a).domid = (w.domains a).domid := congrArg Identity.domid hold
        have hinit : (w₅.domains a).initialised = (w.domains a).initialised :=
          congrArg Identity.initialised hold
        rw [hall.named d hmined (.inr hclient), hdomid]
        exact hother a (hinit.symm.trans ha)
      · intro a _ ha
        have hslot (b : DomPtr) : (w₅.domains b).slot = (w₃.domains b).slot :=
          congrArg Identity.slot (hsame b)
        rw [hslot, hslot]
        exact hslots hyes a ((known_congr hsame).mp ha)
    apply yields_bind_of hset
    intro _ w₆ _ _ hd₆
    exact yields_pure _ fun _ => iff_of_true hd₆ rfl
  · intro _
    exact yields_pure _ fun _ => iff_of_false hd₃ Bool.false_ne_true

omit [Double F] hinject in
/-- A vkbd that is not attached changes nothing. -/
theorem domainAttachVkbd_routes (d : DomPtr) (w : World F) :
    Yields (InScope C) (Routed C) (fun attached w' => attached = false → w' = w)
      (domainAttachVkbd d) w := by
  apply yields_get
  intro _
  apply yields_ite
  · intro _
    exact yields_pure _ fun _ _ => rfl
  · intro _
    apply yields_bind (xenVkbdBackendCreate_routes d w)
    intro _ w₁ _ _
    have habs : Routes C (modifyDomain d fun x => { x with absEnabled := true }) w₁ := by
      apply modifyDomain_routes
      · exact fun _ => ⟨rfl, rfl, rfl, rfl, rfl, rfl, rfl, rfl⟩
      · exact fun _ => rfl
    apply yields_bind habs
    intro _ w₂ _ _
    exact yields_pure _ fun _ => nofun

theorem attachVkbdTo_evolves (hd : w.Known d) :
    Yields (Living L) (Evolved T) (fun attached w' => attached = false → w' = w)
      (attachVkbdTo inject d) w := by
  have hattach := (domainAttachVkbd_routes (C := w.scope) d w).mono
    fun _ w' _ hr hnone => And.intro hr hnone
  apply yields_bind_of (evolves_of_yields hattach T)
  intro attached w₁ _ _ hattached
  apply yields_ite
  · intro _
    apply yields_bind (focusUpdateDomain_evolves hinject ((hattached.1.known d).mpr hd))
    intro _ w₂ _ _
    exact yields_pure _ fun _ => nofun
  · intro hno
    exact yields_pure _ fun _ _ => hattached.2 (Bool.eq_false_iff.mpr hno)

/-- The end of attaching a vkbd to a domain that was not there. -/
def finishAttach (inject : Inject F) (d : DomPtr) (done : Bool) : WorldM F Bool :=
  if done then do
    modifyDomain d fun x => { x with isPvm := false }
    attachVkbdTo inject d
  else do
    domainRelease inject d
    pure false

omit hinject in
theorem attachNewDomain_eq (he : w.emptyDomain = some d) (domid : Int) :
    attachNewDomain inject domid w = (do
      resetEntry d (Domain.fresh domid none false 1)
      let done ← domainSetup inject d
      finishAttach inject d done) w := by
  rw [attachNewDomain, bind_ok (get_apply w), he]
  rfl

/-- A domain that was set up stays, and one that was not is given back. -/
theorem finishAttach_evolves (hmine : ∀ a, T.mine a ↔ a = d)
    (hlost : T.lost d) (hd : w.Known d ↔ done = true) :
    Yields (Living L) (Evolved T) (fun _ w' => w'.Known d ↔ done = true)
      (finishAttach inject d done) w := by
  have hmined : T.mine d := (hmine d).mpr rfl
  apply yields_ite
  · intro hdone
    have hpvm : Evolves L T (modifyDomain d fun x => { x with isPvm := false }) w := by
      apply modifyDomain_resembles hmined
      · exact fun _ => ⟨rfl, rfl, rfl, rfl, rfl, rfl, rfl, rfl⟩
      · exact fun _ => nofun
    apply yields_bind hpvm
    intro _ w₁ _ h₁
    have hd₁ := h₁.kept d hmined (hd.mpr hdone)
    apply (attachVkbdTo_evolves hinject hd₁).mono
    intro _ w' _ h' _
    exact iff_of_true (h'.kept d hmined hd₁) hdone
  · intro hdone
    have hfree : ¬w.Known d := fun hknown => hdone (hd.mp hknown)
    intro hw
    have hrelease (T' : Turnover) (hlost' : T'.lost d) : Evolves L T' (domainRelease inject d) w :=
      domainRelease_evolves hinject hlost' hfree
    have hstays : wlp (domainRelease inject d) (fun _ w' => ¬w'.Known d) w := by
      refine wlp_mono (hrelease ⟨fun _ => False, fun a => a = d, False⟩ rfl hw) ?_
      intro _ w' h
      exact h.2.1.unknown id hfree
    have hall : Yields (Living L) (Evolved T) (fun _ w' => w'.Known d ↔ done = true) (do
        domainRelease inject d
        pure false) w := by
      apply yields_bind_of ((hrelease T hlost).of_moves hstays)
      intro _ w₁ _ _ hd₁
      exact yields_pure _ fun _ => iff_of_false hd₁ hdone
    exact hall hw

/-- Only the entry of the domain is set up or given back, and only dead domains are removed. -/
def Turnover.attachment (d : DomPtr) : Turnover where
  mine a := a = d
  lost a := a = d
  reclaims := True

/-- The setting up of a domain for a vkbd, and what becomes of its entry. -/
theorem domainSetup_attached (hw : Living L w) (he : w.emptyDomain = some d)
    (hnew : w.domainWithDomid domid = none)
    (hfocus : ∀ w', w.Later w' → L.sound w' → w.switcher.current ≠ some d)
    (hsafe : ∀ dead w', w.Later w' → .reclaimed dead ∈ w.since w' → Departs L w w' dead) :
    wlp (domainSetup inject d) (fun done w' => Living L w' ∧
      Evolved (.attachment d) (w.attached d domid) w' ∧ (w'.Known d ↔ done = true))
      (w.attached d domid) := by
  have hd := empty_of_emptyDomain he
  have hlater : w.Later (w.attached d domid) := later_enrol w d _ _
  have hself : (w.attached d domid).domains d = Domain.fresh domid none false 1 := enrol_self
  have hfree := attached_unknown w d domid
  have hapart : SetApart d w (w.attached d domid) := {
    others := fun _ ha => enrol_of_ne ha
    hidden := fun hknown => absurd hknown hd
    hidden' := fun hknown => absurd hknown hfree
    switcher := rfl
    deathWindow := rfl
    answers := rfl
    asked := Nat.le_refl _
    divertInfo := by
      rw [hself]
      exact .inr rfl }
  have hsetup : Yields (Living L) (Evolved (.attachment d))
      (fun done w' => w'.Known d ↔ done = true) (domainSetup inject d) (w.attached d domid) := by
    apply domainSetup_evolves hinject trivial (fun _ => Iff.rfl) hfree
    · rw [hself]
      rfl
    · intro hs
      refine ⟨hfocus _ hlater hs, ?_⟩
      rw [hself]
      rfl
    · intro a ha _ heq
      have had : a ≠ d := by
        intro heq
        rw [heq] at ha
        exact hfree ha
      rw [World.Known, World.attached, enrol_of_ne had] at ha
      rw [hself, World.attached, enrol_of_ne had] at heq
      have hno := List.find?_eq_none.mp hnew a (List.mem_finRange a)
      exact hno (Bool.and_eq_true_iff.mpr ⟨ha, decide_eq_true heq⟩)
    · intro hf hsurface
      exact hd ((hw.focus (L.focused_before w _ hlater hf)).surface d hsurface)
    · intro dead w' hne hlater' hin
      have hwhole := hlater.trans hlater'
      apply hapart.departs hne
      · exact fun hf hs => hd ((hw.focus (L.focused_before w w' hwhole hf)).surface d hs)
      · exact hsafe dead w' hwhole (since_of_later hlater hlater' hin)
  exact hsetup (attached_living hw hd domid)

/-- A vkbd for a domain that was not there. -/
theorem attachNewDomain_living {R : World F → World F → Prop} [Bystanding R]
    (hw : Living L w) (hnew : w.domainWithDomid domid = none)
    (hfocus : ∀ d, w.emptyDomain = some d → ∀ w', w.Later w' → L.sound w' →
      w.switcher.current ≠ some d)
    (hsafe : ∀ dead w', w.Later w' → .reclaimed dead ∈ w.since w' → Departs L w w' dead) :
    wlp (attachNewDomain inject domid) (fun _ w' => Living L w' ∧ R w w') w := by
  cases he : w.emptyDomain with
  | none =>
    rw [attachNewDomain, wlp_bind, wlp_get, he, wlp_pure]
    exact ⟨hw, refl w⟩
  | some d =>
    have henrolled : R w (w.attached d domid) := Bystanding.enrolled rfl
    intro r w' hrun
    rw [attachNewDomain_eq he] at hrun
    revert r w'
    change wlp _ _ w
    rw [wlp_bind]
    refine wlp_mono (resetEntry_eq d _ w) ?_
    intro _ w₁ hw₁
    rw [hw₁, wlp_bind]
    refine wlp_mono (domainSetup_attached hinject hw he hnew (hfocus d he) hsafe) ?_
    intro done w₂ h₂
    have hfinish := finishAttach_evolves (T := .attachment d) hinject (fun _ => Iff.rfl) rfl
      h₂.2.2 h₂.1
    refine wlp_mono hfinish ?_
    intro _ w₃ h₃
    have hsetup : R w w₂ := IsTrans.trans _ _ _ henrolled (Bystanding.evolved h₂.2.1)
    exact ⟨h₃.1, IsTrans.trans _ _ _ hsetup (Bystanding.evolved h₃.2.1)⟩

theorem inputDaemonAttachVkbd_living {R : World F → World F → Prop} [Bystanding R]
    (hw : Living L w) (domid : Int)
    (hfocus : w.domainWithDomid domid = none → ∀ d, w.emptyDomain = some d → ∀ w', w.Later w' →
      L.sound w' → w.switcher.current ≠ some d)
    (hsafe : ∀ dead w', w.Later w' → .reclaimed dead ∈ w.since w' → Departs L w w' dead) :
    wlp (inputDaemonAttachVkbd inject domid) (fun _ w' => Living L w' ∧ R w w') w := by
  rw [inputDaemonAttachVkbd, wlp_bind, wlp_get]
  cases hfound : w.domainWithDomid domid with
  | none => exact attachNewDomain_living hinject hw hfound (hfocus hfound) hsafe
  | some d =>
    have hattach := attachVkbdTo_evolves (T := .none) hinject (known_of_firstDomain hfound) hw
    exact wlp_mono hattach fun _ _ h => ⟨h.1, Bystanding.evolved h.2.1⟩

end

end InputServer
