import InputServer.Living

namespace InputServer
open Program
set_option autoImplicit true

variable {F : Type} {L : Regime F} {T : Turnover} {w : World F}

/-- A step of input routing, whatever the scope. -/
theorem evolves_of_routes {m : WorldM F α} (h : Routes w.scope m w) : Evolves L T m w :=
  evolves_of_yields h T

/-- A step of input routing, with what it leaves as it is. -/
theorem evolves_routed {m : WorldM F α} (h : Routes w.scope m w) :
    Yields (Living L) (Evolved T) (fun _ w' => Routed w.scope w w') m w :=
  evolves_of_yields (h.mono fun _ _ _ hr _ => hr) T

/-- What a new value of an entry that is set up may be. -/
structure Configures (w : World F) (d : DomPtr) (x : Domain F) : Prop where
  name : SameName w d x
  client : x.client = (w.domains d).client
  lastDevslot : x.lastDevslot = (w.domains d).lastDevslot
  divertInfo : x.divertInfo = (w.domains d).divertInfo
  prev : w.PrevOk d → w.PrevOf x
  prevPtr : (w.domains d).prevKeybDomainPtr = none → x.prevKeybDomainPtr = none
  pvm : x.isPvm = true → w.Known d
  slot : ∀ a, a ≠ d → w.Known d → w.Known a → 0 ≤ x.slot → (w.domains a).slot ≠ x.slot

section
variable {d : DomPtr} {x : Domain F}

theorem Configures.unique (h : Configures w d x) (hw : Unique w) : Unique (w.setDomain d x) where
  domid a b ha hb := by
    rw [h.name.known] at ha hb
    rw [h.name.domid_eq, h.name.domid_eq]
    exact hw.domid a b ha hb
  slot a b ha hb := by
    rw [h.name.known] at ha hb
    by_cases had : a = d
    · by_cases hbd : b = d
      · exact fun _ _ => had.trans hbd.symm
      · rw [had, setDomain_self, setDomain_of_ne hbd]
        rw [had] at ha
        exact fun hpos heq => absurd heq.symm (h.slot b hbd ha hb hpos)
    · by_cases hbd : b = d
      · rw [hbd, setDomain_self, setDomain_of_ne had]
        rw [hbd] at hb
        intro hpos heq
        rw [heq] at hpos
        exact absurd heq (h.slot a had hb ha hpos)
      · rw [setDomain_of_ne had, setDomain_of_ne hbd]
        exact hw.slot a b ha hb

theorem World.later_setDomain (w : World F) (d : DomPtr) (x : Domain F) :
    w.Later (w.setDomain d x) :=
  ⟨⟨[], (List.append_nil _).symm⟩, Nat.le_refl _⟩

theorem Configures.living (h : Configures w d x) (hw : Living L w) :
    Living L (w.setDomain d x) where
  tracked := by
    refine ⟨?_, hw.tracked.pressed, hw.tracked.diverting.setDomain h.name.initialised ?_⟩
    swap
    · rw [h.divertInfo]
    intro a ha
    rw [setDomain_congr Domain.client h.client] at ha
    rw [setDomain_congr Domain.lastDevslot h.lastDevslot]
    exact hw.tracked.devslot a ha
  captured := hw.captured
  unique := h.unique hw.unique
  pvm a ha := by
    rw [h.name.known]
    by_cases had : a = d
    · rw [had, setDomain_self] at ha
      rw [had]
      exact h.pvm ha
    · rw [setDomain_of_ne had] at ha
      exact hw.pvm a ha
  named a guest ha := by
    rw [setDomain_congr Domain.client h.client] at ha
    rw [h.name.domid_eq]
    exact hw.named a guest ha
  idle := hw.idle
  sound hs := by
    have hsound := hw.sound (L.sound_before w _ (w.later_setDomain d x) hs)
    apply hsound.setDomain h.name
    · rw [h.divertInfo]
      exact hsound.keyDomain d
    · rw [h.divertInfo]
      rfl
    · exact h.prev
  focus hf := by
    have hlive := hw.focus (L.focused_before w _ (w.later_setDomain d x) hf)
    refine ⟨?_, hlive.known.setDomain h.name, hlive.surface.setDomain h.name⟩
    intro a ha
    rw [h.name.domid_eq]
    exact hlive.focused a ha

/-- A change of an entry that is set up. -/
theorem evolved_mine (hmine : T.mine d)
    (hclient : x.client = (w.domains d).client ∨ x.client = none)
    (hkept : w.Known d → x.initialised = true)
    (hnamed : (w.domains d).domid ≠ -1 ∨ (w.domains d).client = none →
      x.domid = (w.domains d).domid)
    (hprev : (w.domains d).prevKeybDomainPtr = none → x.prevKeybDomainPtr = none) :
    Evolved T w (w.setDomain d x) :=
  { Evolved.refl T w with
    named := by
      intro a _ ha
      by_cases had : a = d
      · rw [had] at ha
        rw [had, setDomain_self]
        exact hnamed ha
      · rw [setDomain_of_ne had]
    kept := by
      intro a _ ha
      rw [World.Known]
      by_cases had : a = d
      · rw [had] at ha
        rw [had, setDomain_self]
        exact hkept ha
      · rw [setDomain_of_ne had]
        exact ha
    client := by
      intro a
      by_cases had : a = d
      · rw [had, setDomain_self]
        exact hclient
      · rw [setDomain_of_ne had]
        exact .inl rfl
    domains := by
      intro a ha
      left
      have had : a ≠ d := by
        intro heq
        rw [heq] at ha
        exact ha hmine
      rw [setDomain_of_ne had]
    remembers := by
      intro a _ _ hun
      refine ⟨hun.unfocused, ?_⟩
      by_cases had : a = d
      · rw [had, setDomain_self]
        exact hprev (had ▸ hun.prevPtr)
      · rw [setDomain_of_ne had]
        exact hun.prevPtr }

theorem modifyDomain_configures {f : Domain F → Domain F} (hmine : T.mine d)
    (h : Living L w → Configures w d (f (w.domains d))) : Evolves L T (modifyDomain d f) w := by
  apply moves_modify
  intro hw
  exact ⟨(h hw).living hw,
    evolved_mine hmine (.inl (h hw).client) (h hw).name.initialised.trans
      (fun _ => (h hw).name.domid) (h hw).prevPtr⟩

/-- An entry changed in what is of no concern to anything here. -/
theorem modifyDomain_unaltered {f : Domain F → Domain F} (h : ∀ x, Unaltered x (f x))
    (hslot : ∀ x, (f x).lastDevslot = x.lastDevslot) (d : DomPtr) (w : World F) :
    Evolves L T (modifyDomain d f) w :=
  evolves_of_routes (modifyDomain_routes h hslot d w)

end

/-- The message that tells a guest its slot again. -/
theorem sendSlot_routes (d : DomPtr) (slot : Int32) (w : World F) :
    Routes C (Input.sendSlot d (.input slot)) w := by
  apply yields_get
  intro hw
  apply yields_get
  intro _
  cases hclient : (w.domains d).client with
  | none => exact moves_pure _
  | some guest =>
    apply moves_modify
    intro _
    have hrouted : Routed C w { w with
        log := w.log ++ [devSetMessage d guest (.input slot) (w.domains d).lastDevslot] } := {
      Routed.refl C w with
      log := by
        refine ⟨[devSetMessage d guest (.input slot) (w.domains d).lastDevslot], rfl, ?_⟩
        intro h hh
        rw [List.mem_singleton.mp hh]
        exact trivial
      coherent := by
        intro hlog
        apply hlog.snoc
        exact fun hplain => absurd rfl hplain
      focused := by
        intro hf a ha
        rw [lastSwitched_snoc]
        exact hf a ha
      held := fun _ => { Held.refl w with } }
    refine ⟨hrouted.inScope hw ?_ (fun hs => { hw.sound hs with }) hw.captured, hrouted⟩
    refine ⟨?_, hw.tracked.pressed, { hw.tracked.diverting with }⟩
    intro a ha
    rw [devslot_snoc, devSetMessage, devslotStep]
    by_cases had : d = a
    · rw [← had, if_pos ⟨rfl, rfl, rfl⟩]
      exact .inl rfl
    · rw [if_neg fun h => had h.1]
      exact hw.tracked.devslot a ha

theorem happens_reclaimed (d : DomPtr) (w : World F) :
    Routes C (happens (.reclaimed d)) w := by
  apply happens_routes
  · exact trivial
  · exact fun _ => rfl
  · rfl
  · exact fun _ => trivial

section
variable [Double F] {inject : Inject F} (hinject : InjectRoutes inject)
include hinject

theorem switcherSwitch_evolves (hd : w.Valid d) (mouseSwitch : Bool) :
    Evolves L T (switcherSwitch inject d mouseSwitch) w := by
  have hroutes : Routes w.scope (switcherSwitch inject d mouseSwitch) w :=
    switcherSwitch_routes (C := w.scope) hinject (fun _ => hd) (fun _ => hd) mouseSwitch
  exact evolves_of_routes hroutes

theorem switchToUivm_evolves (mouseSwitch : Bool) (w : World F) :
    Evolves L T (switcherSwitch inject w.domainUivm mouseSwitch) w :=
  evolves_of_routes (switchToUivm_routes hinject mouseSwitch w)

end

/-- Nothing is known of the pointers and of the focus. -/
def Regime.bare : Regime F where
  sound _ := False
  focused _ := False
  sound_before _ _ _ h := h
  focused_before _ _ _ h := h

theorem Living.bare (h : Living L w) : Living .bare w :=
  { h with sound := False.elim, focus := False.elim }

theorem Living.regime (h : Living .bare w) (hs : L.sound w → Sound w)
    (hf : L.focused w → FocusLive w) :
    Living L w :=
  { h with sound := hs, focus := hf }

/-- Entries that change in the keyboard they remember and in their diverts only. -/
theorem living_remap {f : DomPtr → Domain F} (hw : Living L w)
    (hid : ∀ d, (f d).identity = (w.domains d).identity)
    (hslot : ∀ d, (w.domains d).client ≠ none →
      (f d).lastDevslot = (w.domains d).lastDevslot)
    (hdiverting : Diverting w → Diverting { w with domains := f })
    (hprev : ∀ d, (w.domains d).prevKeybDomainPtr = none → (f d).prevKeybDomainPtr = none)
    (hsound : L.sound w → Sound w → Sound { w with domains := f }) :
    Living L { w with domains := f } ∧ Evolved T w { w with domains := f } := by
  have hclient (d : DomPtr) : (f d).client = (w.domains d).client :=
    congrArg Identity.client (hid d)
  have hdomid (d : DomPtr) : (f d).domid = (w.domains d).domid :=
    congrArg Identity.domid (hid d)
  have hlater : w.Later { w with domains := f } :=
    ⟨⟨[], (List.append_nil _).symm⟩, Nat.le_refl _⟩
  constructor
  · constructor
    · refine ⟨?_, hw.tracked.pressed, hdiverting hw.tracked.diverting⟩
      intro d hd
      change (f d).client ≠ none at hd
      change _ = some (f d).lastDevslot ∨ _ ∧ (f d).lastDevslot = _
      rw [hclient] at hd
      rw [hslot d hd]
      exact hw.tracked.devslot d hd
    · exact hw.captured
    · exact hw.unique.of_identity hid
    · intro d hd
      have hpvm : (w.domains d).isPvm = true := (congrArg Identity.isPvm (hid d)).symm.trans hd
      exact (congrArg Identity.initialised (hid d)).trans (hw.pvm d hpvm)
    · intro d guest hd
      change (f d).client = some guest at hd
      change (f d).domid = guest ∨ (f d).domid = -1
      rw [hclient] at hd
      rw [hdomid]
      exact hw.named d guest hd
    · exact hw.idle
    · intro hs
      have hbefore := L.sound_before w _ hlater hs
      exact hsound hbefore (hw.sound hbefore)
    · intro hf
      exact (hw.focus (L.focused_before w _ hlater hf)).of_identity hid rfl rfl
  · exact { Evolved.refl T w with
      client := fun d => .inl (hclient d)
      kept := fun d _ => (congrArg Identity.initialised (hid d)).trans
      named := fun d _ _ => hdomid d
      domains := fun d _ => .inl (hid d)
      remembers := fun d _ _ hun => ⟨hun.unfocused, hprev d hun.prevPtr⟩ }

/-- What is sound stays so where entries forget the keyboards they remember. -/
theorem Sound.remap {f : DomPtr → Domain F} (h : Sound w)
    (hid : ∀ d, (f d).identity = (w.domains d).identity)
    (hdivert : ∀ d, (f d).divertInfo = (w.domains d).divertInfo)
    (hprev : ∀ d, w.PrevOk d → w.PrevOf (f d)) : Sound { w with domains := f } := by
  have hknown (d : DomPtr) : World.Known { w with domains := f } d ↔ w.Known d := known_congr hid
  have hvalid (p : Option DomPtr) (hp : w.Valid p) : World.Valid { w with domains := f } p :=
    fun d hd => (hknown d).mpr (hp d hd)
  have hdiverted : World.diverted { w with domains := f } = w.diverted := by
    funext d target
    simp only [World.diverted, hdivert]
  constructor
  · exact hvalid _ h.mouseDest
  · exact hvalid _ h.mouseParent
  · exact hvalid _ h.keybDest
  · exact hvalid _ h.keybParent
  · intro a
    rw [hdiverted]
    exact hvalid _ (h.keyDomain a)
  · intro a
    rw [hdiverted]
    exact hvalid _ (h.mouseDomain a)
  · intro a ha p hp
    have hdomid : (f p).domid = (w.domains p).domid := congrArg Identity.domid (hid p)
    have hold := hprev a (h.prev a ((hknown a).mp ha)) p hp
    rw [hknown]
    change (f a).prevKeybDomid = -1 ∨ _ ∧ (f p).domid = _
    rw [hdomid]
    exact hold
  · rw [hdiverted]
    exact h.follows

/-- An entry that stays the guest that it is changes in what is not looked at, and may forget whose
keyboard it has. -/
theorem modifyDomain_sameGuest {f : Domain F → Domain F}
    (hid : ∀ x, (f x).identity = x.identity) (hslot : ∀ x, (f x).lastDevslot = x.lastDevslot)
    (hdivert : ∀ x, (f x).divertInfo = x.divertInfo)
    (hprev : ∀ w : World F, ∀ d, w.PrevOk d → w.PrevOf (f (w.domains d)))
    (hptr : ∀ x, x.prevKeybDomainPtr = none → (f x).prevKeybDomainPtr = none) (d : DomPtr)
    (w : World F) : Evolves L T (modifyDomain d f) w := by
  apply moves_modify
  intro hw
  have hsame {β : Type} (g : Domain F → β) (hg : ∀ x, g (f x) = g x) (a : DomPtr) :
      g ((w.setDomain d (f (w.domains d))).domains a) = g (w.domains a) :=
    setDomain_congr g (hg _) a
  have hforgets (a : DomPtr) (ha : (w.domains a).prevKeybDomainPtr = none) :
      ((w.setDomain d (f (w.domains d))).domains a).prevKeybDomainPtr = none := by
    by_cases had : a = d
    · rw [had] at ha
      rw [had, setDomain_self]
      exact hptr _ ha
    · rw [setDomain_of_ne had]
      exact ha
  apply living_remap hw (hsame Domain.identity hid)
    (fun a _ => hsame Domain.lastDevslot hslot a)
    (fun hdiverting => hdiverting.setDomain (congrArg Identity.initialised (hid _))
      (iff_of_eq (congrArg (· = none) (hdivert _)))) hforgets
  intro _ hsound
  apply hsound.remap (hsame Domain.identity hid) (hsame Domain.divertInfo hdivert)
  intro a ha
  by_cases had : a = d
  · rw [had, setDomain_self]
    rw [had] at ha
    exact hprev w d ha
  · rw [setDomain_of_ne had]
    exact ha

theorem resetPrevKeybDomain_keeps {g : Domain F → β}
    (hg : ∀ x, g { x with prevKeybDomainPtr := none, prevKeybDomid := -1 } = g x)
    (d : DomPtr) (w : World F) :
    wlp (resetPrevKeybDomain d) (fun _ w' => ∀ a, g (w'.domains a) = g (w.domains a)) w := by
  rw [resetPrevKeybDomain, wlp_modify]
  split
  · exact fun _ => rfl
  · intro a
    dsimp only
    split
    · exact hg _
    · rfl

theorem resetPrevKeybDomain_evolves (d : DomPtr) (w : World F) :
    Evolves L T (resetPrevKeybDomain d) w := by
  apply moves_modify
  intro hw
  split
  · exact ⟨hw, .refl T w⟩
  · have hfields {β : Type} (g : Domain F → β)
        (hg : ∀ x, g { x with prevKeybDomainPtr := none, prevKeybDomid := -1 } = g x)
        (a : DomPtr) : g (if (w.domains a).initialised ∧
          (w.domains a).prevKeybDomid = (w.domains d).domid then
            { w.domains a with prevKeybDomainPtr := none, prevKeybDomid := -1 }
          else w.domains a) = g (w.domains a) := by
      split
      · exact hg _
      · rfl
    have hforgets (a : DomPtr) (ha : (w.domains a).prevKeybDomainPtr = none) :
        (if (w.domains a).initialised ∧ (w.domains a).prevKeybDomid = (w.domains d).domid then
            { w.domains a with prevKeybDomainPtr := none, prevKeybDomid := -1 }
          else w.domains a).prevKeybDomainPtr = none := by
      split
      · rfl
      · exact ha
    apply living_remap hw (hfields Domain.identity fun _ => rfl)
      (fun a _ => hfields Domain.lastDevslot (fun _ => rfl) a)
      (fun hdiverting => hdiverting.remap (hfields Domain.initialised fun _ => rfl)
        (fun a h => (hfields Domain.divertInfo (fun _ => rfl) a).symm.trans h)
        fun a _ h => (hfields Domain.divertInfo (fun _ => rfl) a).trans h) hforgets
    intro _ hsound
    apply hsound.remap (hfields Domain.identity fun _ => rfl)
      (hfields Domain.divertInfo fun _ => rfl)
    intro a ha
    dsimp only
    split
    · exact nofun
    · exact ha

/-- What resetting a domain leaves of the keyboards that are remembered. -/
structure PrevReset (d : DomPtr) (w w' : World F) : Prop where
  initialised : ∀ a, (w'.domains a).initialised = (w.domains a).initialised
  divertInfo : ∀ a, (w'.domains a).divertInfo = (w.domains a).divertInfo
  domid : ∀ a, (w'.domains a).domid = (w.domains a).domid
  forgotten : ∀ a, w'.Known a → (w'.domains a).prevKeybDomid = (w.domains d).domid →
    (w'.domains a).prevKeybDomid = -1

theorem resetPrevKeybDomain_resets (d : DomPtr) (w : World F) :
    wlp (resetPrevKeybDomain d) (fun _ w' => PrevReset d w w') w := by
  have hforgotten : wlp (resetPrevKeybDomain d) (fun _ w' => ∀ a, w'.Known a →
      (w'.domains a).prevKeybDomid = (w.domains d).domid →
      (w'.domains a).prevKeybDomid = -1) w := by
    rw [resetPrevKeybDomain, wlp_modify]
    split
    · rename_i hunnamed
      exact fun a _ heq => heq.trans hunnamed
    · intro a
      rw [World.Known]
      dsimp only
      split
      · exact fun _ _ => rfl
      · rename_i hkept
        exact fun ha heq => absurd ⟨ha, heq⟩ hkept
  intro _ w' hrun
  constructor
  · exact resetPrevKeybDomain_keeps (fun _ => rfl) d w _ w' hrun
  · exact resetPrevKeybDomain_keeps (fun _ => rfl) d w _ w' hrun
  · exact resetPrevKeybDomain_keeps (fun _ => rfl) d w _ w' hrun
  · exact hforgotten _ w' hrun

/-- No other entry diverts anything to `d`. -/
structure Undiverted (w : World F) (d : DomPtr) : Prop where
  key : ∀ a, a ≠ d → w.diverted a DivertInfo.keyDomain ≠ some d
  mouse : ∀ a, a ≠ d → w.diverted a DivertInfo.mouseDomain ≠ some d

theorem Undiverted.congr {w w' : World F} {d : DomPtr} (h : Undiverted w d)
    (hdivert : ∀ a, a ≠ d → (w'.domains a).divertInfo = (w.domains a).divertInfo) :
    Undiverted w' d where
  key a ha := by
    rw [World.diverted, hdivert a ha]
    exact h.key a ha
  mouse a ha := by
    rw [World.diverted, hdivert a ha]
    exact h.mouse a ha

theorem diverted_forget {d : DomPtr} (w : World F) (a : DomPtr)
    (target : DivertInfo → Option DomPtr)
    (htarget : ∀ dv : DivertInfo,
      target (dv.forget d) = if target dv = some d then none else target dv) :
    ((w.domains a).divertInfo.map (DivertInfo.forget d)).bind target =
      if w.diverted a target = some d then none else w.diverted a target := by
  rw [World.diverted]
  cases (w.domains a).divertInfo with
  | none => rfl
  | some dv => exact htarget dv

/-- The diverts to an entry that is gone are forgotten, and no pointer is lost with them. -/
theorem Sound.forget {d : DomPtr} (hw : Sound w) (hd : ¬w.Known d) :
    Sound { w with domains := fun i =>
      { w.domains i with divertInfo := (w.domains i).divertInfo.map (DivertInfo.forget d) } } := by
  have hkey (a : DomPtr) := diverted_forget (d := d) w a DivertInfo.keyDomain fun _ => rfl
  have hmouse (a : DomPtr) := diverted_forget (d := d) w a DivertInfo.mouseDomain fun _ => rfl
  have hvalid {p : Option DomPtr} (hp : w.Valid p) : w.Valid (if p = some d then none else p) := by
    split
    · exact .none
    · exact hp
  refine { hw with keyDomain := ?_, mouseDomain := ?_, follows := ?_ }
  · intro a k hk
    apply hvalid (hw.keyDomain a)
    rw [← hkey]
    exact hk
  · intro a m hm
    apply hvalid (hw.mouseDomain a)
    rw [← hmouse]
    exact hm
  · intro p m hp hm
    have hmd : m ≠ d := by
      intro heq
      rw [heq] at hm
      exact hd (hw.mouseDest d hm)
    have hfollows := hw.follows p m hp hm
    refine (hmouse p).trans ?_
    rw [hfollows, if_neg fun heq => hmd (Option.some.inj heq)]

theorem checkDivertsForTheDead_evolves {d : DomPtr} (hd : L.sound w → ¬w.Known d) :
    Evolves L T (checkDivertsForTheDead d) w := by
  apply moves_modify
  intro hw
  apply living_remap hw
  · exact fun _ => rfl
  · exact fun _ _ => rfl
  · intro hdiverting
    apply hdiverting.remap
    · exact fun _ => rfl
    · exact fun _ => Option.map_eq_none_iff.mp
    · exact fun _ _ => Option.map_eq_none_iff.mpr
  · exact fun _ h => h
  · exact fun hsound hs => hs.forget (hd hsound)

theorem domain_gone_removed (x : Domain F) : Removed x.gone :=
  ⟨rfl, rfl⟩

/-- An entry is cleared, and the routing forgets it. -/
def dropDomain (d : DomPtr) : WorldM F Unit := do
  modifyDomain d Domain.gone
  inputDomainGone d

def World.dropped (w : World F) (d : DomPtr) : World F :=
  { w.setDomain d (w.domains d).gone with
    routing := { w.routing.forget d with
      mousePressed := (w.routing.forget d).mousePressed.eraseP fun mb => mb.domain = some d } }

theorem dropDomain_eq (d : DomPtr) :
    (dropDomain d : WorldM F Unit) = modify fun w => w.dropped d :=
  rfl

theorem forgetDomain_eq [Double F] (inject : Inject F) (d : DomPtr) :
    forgetDomain inject d = (do
      resetPrevKeybDomain d
      dropDomain d
      switcherDomainGone inject d
      checkDivertsForTheDead d) :=
  rfl

/-- Forgetting a domain leaves the mouse with the parent it had, or with none. -/
theorem forget_mouseParent {r : Routing F} (h : (r.forget d).mouseParent = some p) :
    r.mouseParent = some p ∧ p ≠ d := by
  unfold Routing.forget at h
  dsimp only at h
  split_ifs at h
  all_goals simp_all

theorem forget_mouseDest {r : Routing F} (h : (r.forget d).mouseDest = some p) :
    r.mouseDest = some p ∧ p ≠ d := by
  unfold Routing.forget at h
  dsimp only at h
  split_ifs at h
  all_goals simp_all

theorem forget_keybDest {r : Routing F} (h : (r.forget d).keybDest = some p) :
    r.keybDest = some p ∧ p ≠ d := by
  unfold Routing.forget at h
  dsimp only at h
  split_ifs at h
  all_goals simp_all

theorem forget_keybParent {r : Routing F} (h : (r.forget d).keybParent = some p) :
    r.keybParent = some p ∧ p ≠ d := by
  unfold Routing.forget at h
  dsimp only at h
  split_ifs at h
  all_goals simp_all

theorem forget_mousePressed (r : Routing F) (d : DomPtr) :
    (r.forget d).mousePressed = r.mousePressed := by
  unfold Routing.forget
  dsimp only
  split_ifs
  all_goals rfl

section
variable {d : DomPtr}

theorem dropped_self : (w.dropped d).domains d = (w.domains d).gone :=
  setDomain_self

theorem dropped_of_ne (h : a ≠ d) : (w.dropped d).domains a = w.domains a :=
  setDomain_of_ne h

theorem dropped_known (h : (w.dropped d).Known a) : a ≠ d ∧ w.Known a := by
  by_cases had : a = d
  · rw [World.Known, had, dropped_self] at h
    cases h
  · rw [World.Known, dropped_of_ne had] at h
    exact ⟨had, h⟩

theorem Tracked.dropped (hw : Tracked w) : Tracked (w.dropped d) where
  devslot a ha := by
    by_cases had : a = d
    · rw [had, dropped_self] at ha
      exact absurd rfl ha
    · rw [dropped_of_ne had] at ha ⊢
      exact hw.devslot a ha
  pressed mb hmb := by
    have hold : mb ∈ (w.routing.forget d).mousePressed := List.mem_of_mem_eraseP hmb
    rw [forget_mousePressed] at hold
    exact hw.pressed mb hold
  diverting := by
    constructor
    · intro p hp
      obtain ⟨hparent, hne⟩ := forget_mouseParent hp
      rw [dropped_of_ne hne]
      exact hw.diverting.parent p hparent
    · intro a ha
      by_cases had : a = d
      · rw [had, dropped_self]
        rfl
      · rw [World.Known, dropped_of_ne had] at ha
        rw [dropped_of_ne had]
        exact hw.diverting.spare a ha

theorem Unique.dropped (hw : Unique w) : Unique (w.dropped d) where
  domid a b ha hb := by
    obtain ⟨had, ha⟩ := dropped_known ha
    obtain ⟨hbd, hb⟩ := dropped_known hb
    rw [dropped_of_ne had, dropped_of_ne hbd]
    exact hw.domid a b ha hb
  slot a b ha hb := by
    obtain ⟨had, ha⟩ := dropped_known ha
    obtain ⟨hbd, hb⟩ := dropped_known hb
    rw [dropped_of_ne had, dropped_of_ne hbd]
    exact hw.slot a b ha hb

/-- An entry may be removed: nothing but the routing points to it. -/
structure Spared (w : World F) (d : DomPtr) : Prop where
  undiverted : Undiverted w d
  forgotten : ∀ a, w.Known a → (w.domains a).prevKeybDomainPtr = some d →
    (w.domains a).prevKeybDomid = -1

theorem PrevReset.spared {w w' : World F} (h : PrevReset d w w') (hw : Sound w')
    (hun : Undiverted w d) : Spared w' d where
  undiverted := hun.congr fun a _ => h.divertInfo a
  forgotten a ha hptr := by
    cases hw.prev a ha d hptr with
    | inl hnone => exact hnone
    | inr hknown => exact h.forgotten a ha (hknown.2.symm.trans (h.domid d))

theorem dropDomain_free (d : DomPtr) (w : World F) :
    wlp (dropDomain d) (fun _ w' => ¬w'.Known d) w := by
  rw [dropDomain_eq, wlp_modify]
  exact fun hknown => (dropped_known hknown).1 rfl

theorem dropped_valid {p : Option DomPtr} (hp : w.Valid p) (hd : p ≠ some d) :
    (w.dropped d).Valid p := by
  intro a ha
  have had : a ≠ d := by
    intro heq
    rw [heq] at ha
    exact hd ha
  rw [World.Known, dropped_of_ne had]
  exact hp a ha

theorem dropped_diverted_self (target : DivertInfo → Option DomPtr) :
    (w.dropped d).diverted d target = none := by
  rw [World.diverted, dropped_self]
  rfl

theorem dropped_diverted (had : a ≠ d) (target : DivertInfo → Option DomPtr) :
    (w.dropped d).diverted a target = w.diverted a target := by
  rw [World.diverted, World.diverted, dropped_of_ne had]

theorem Sound.dropped (hw : Sound w) (hspared : Spared w d) : Sound (w.dropped d) where
  mouseDest p hp := by
    obtain ⟨hdest, hne⟩ := forget_mouseDest hp
    exact dropped_valid hw.mouseDest (fun heq => hne (Option.some.inj (hdest.symm.trans heq))) p
      hdest
  mouseParent p hp := by
    obtain ⟨hparent, hne⟩ := forget_mouseParent hp
    exact dropped_valid hw.mouseParent
      (fun heq => hne (Option.some.inj (hparent.symm.trans heq))) p hparent
  keybDest p hp := by
    obtain ⟨hdest, hne⟩ := forget_keybDest hp
    exact dropped_valid hw.keybDest (fun heq => hne (Option.some.inj (hdest.symm.trans heq))) p
      hdest
  keybParent p hp := by
    obtain ⟨hparent, hne⟩ := forget_keybParent hp
    exact dropped_valid hw.keybParent
      (fun heq => hne (Option.some.inj (hparent.symm.trans heq))) p hparent
  keyDomain a := by
    by_cases had : a = d
    · rw [had, dropped_diverted_self]
      exact .none
    · rw [dropped_diverted had]
      exact dropped_valid (hw.keyDomain a) (hspared.undiverted.key a had)
  mouseDomain a := by
    by_cases had : a = d
    · rw [had, dropped_diverted_self]
      exact .none
    · rw [dropped_diverted had]
      exact dropped_valid (hw.mouseDomain a) (hspared.undiverted.mouse a had)
  prev a ha p hp := by
    obtain ⟨had, ha⟩ := dropped_known ha
    rw [dropped_of_ne had] at hp ⊢
    by_cases hpd : p = d
    · rw [hpd] at hp
      exact .inl (hspared.forgotten a ha hp)
    · rw [World.Known, dropped_of_ne hpd]
      exact hw.prev a ha p hp
  follows p m hp hm := by
    obtain ⟨hparent, hne⟩ := forget_mouseParent hp
    rw [dropped_diverted hne]
    exact hw.follows p m hparent (forget_mouseDest hm).1

theorem Living.dropped (hw : Living L w) (hunfocused : ∀ w, ¬L.focused w)
    (hspared : L.sound w → Spared w d) : Living L (w.dropped d) where
  tracked := hw.tracked.dropped
  captured := hw.captured
  unique := hw.unique.dropped
  pvm a ha := by
    by_cases had : a = d
    · rw [had, dropped_self] at ha
      cases ha
    · rw [dropped_of_ne had] at ha
      rw [World.Known, dropped_of_ne had]
      exact hw.pvm a ha
  named a guest ha := by
    by_cases had : a = d
    · rw [had, dropped_self] at ha
      cases ha
    · rw [dropped_of_ne had] at ha ⊢
      exact hw.named a guest ha
  idle := hw.idle
  sound hs := by
    have hbefore := L.sound_before w (w.dropped d) (World.later_of_eq rfl rfl) hs
    exact (hw.sound hbefore).dropped (hspared hbefore)
  focus hf := absurd hf (hunfocused _)

end

/-- An entry is removed; the others stay what they are. -/
theorem dropDomain_evolves (hunfocused : ∀ w, ¬L.focused w) {d : DomPtr} (hlost : T.lost d)
    (hd : T.mine d → ¬w.Known d) (hspared : L.sound w → Spared w d) :
    Evolves L T (dropDomain d) w := by
  rw [dropDomain_eq]
  apply moves_modify
  intro hw
  constructor
  · exact hw.dropped hunfocused hspared
  · exact { Evolved.refl T w with
      client := by
        intro a
        by_cases had : a = d
        · rw [had, dropped_self]
          exact .inr rfl
        · rw [dropped_of_ne had]
          exact .inl rfl
      named := fun a _ _ => setDomain_congr (d := d) (x := (w.domains d).gone) Domain.domid rfl a
      kept := by
        intro a ha hknown
        have had : a ≠ d := by
          intro heq
          rw [heq] at ha hknown
          exact hd ha hknown
        rw [World.Known, dropped_of_ne had]
        exact hknown
      domains := by
        intro a _
        by_cases had : a = d
        · rw [had, dropped_self]
          exact .inr ⟨domain_gone_removed _, .inl hlost⟩
        · rw [dropped_of_ne had]
          exact .inl rfl
      remembers := by
        intro a _ _ hun
        refine ⟨hun.unfocused, ?_⟩
        by_cases had : a = d
        · rw [had, dropped_self]
          rfl
        · rw [dropped_of_ne had]
          exact hun.prevPtr }

theorem Living.setSwitcher (hw : Living L w) (hunfocused : ∀ w, ¬L.focused w) (s : Switcher)
    (hidle : s.switching = w.switcher.switching) : Living L { w with switcher := s } :=
  { hw with
    tracked := { hw.tracked with diverting := { hw.tracked.diverting with } }
    unique := { hw.unique with }
    idle := hidle.trans hw.idle
    sound := fun hs => { hw.sound (L.sound_before w { w with switcher := s }
      (World.later_of_eq rfl rfl) hs) with }
    focus := fun hf => absurd hf (hunfocused _) }

theorem modifySwitcher_evolves (hunfocused : ∀ w, ¬L.focused w) (f : Switcher → Switcher)
    (hidle : ∀ s, (f s).switching = s.switching)
    (hcurrent : ∀ s, (f s).current = s.current ∨ (f s).current = none) (w : World F) :
    Evolves L T (modifySwitcher f) w := by
  apply moves_modify
  intro hw
  have hremembers (a : DomPtr) (hun : Unremembering w a) :
      Unremembering { w with switcher := f w.switcher } a := by
    refine ⟨?_, hun.prevPtr⟩
    cases hcurrent w.switcher with
    | inl hsame =>
      rw [hsame]
      exact hun.unfocused
    | inr hnone =>
      rw [hnone]
      exact nofun
  exact ⟨hw.setSwitcher hunfocused _ (hidle _),
    { Evolved.refl T w with remembers := fun a _ _ => hremembers a }⟩

section
variable [Double F] {inject : Inject F} (hinject : InjectRoutes inject)
include hinject

theorem leaveDead_evolves (d : DomPtr) (w : World F) : Evolves L T (leaveDead inject d) w := by
  apply yields_get
  intro _
  apply yields_ite
  · intro _
    apply yields_bind (switchToUivm_evolves hinject false w)
    intro _ w' _ _
    exact moves_pure _
  · intro _
    exact moves_pure _

theorem switcherDomainGone_evolves (hunfocused : ∀ w, ¬L.focused w) (d : DomPtr) (w : World F) :
    Evolves L T (switcherDomainGone inject d) w := by
  apply yields_get
  intro _
  apply yields_ite
  · intro _
    apply yields_bind (modifySwitcher_evolves hunfocused
      (fun s => { s with surfaceCurrent := none }) (fun _ => rfl) (fun _ => .inl rfl) w)
    intro _ w' _ _
    exact leaveDead_evolves hinject d w'
  intro _
  apply yields_ite
  · intro _
    apply yields_bind (modifySwitcher_evolves hunfocused (fun s => { s with current := none })
      (fun _ => rfl) (fun _ => .inr rfl) w)
    intro _ w' _ _
    exact leaveDead_evolves hinject d w'
  · intro _
    exact moves_pure _

/-- What becomes of the entry that the switcher leaves. -/
theorem switcherDomainGone_stays (hunfocused : ∀ w, ¬L.focused w) (d : DomPtr) (hw : Living L w) :
    wlp (switcherDomainGone inject d) (fun _ w' => w'.Known d ↔ w.Known d) w := by
  refine wlp_mono (switcherDomainGone_evolves (T := .none) hinject hunfocused d w hw) ?_
  intro _ w' h
  exact known_congr h.2.1.identity

/-- An entry forgotten, where nothing is known of the focus. -/
theorem forgetDomain_evolves (hunfocused : ∀ w, ¬L.focused w) {d : DomPtr} (hlost : T.lost d)
    (hd : T.mine d → ¬w.Known d) (hspared : L.sound w → Undiverted w d) :
    Evolves L T (forgetDomain inject d) w := by
  rw [forgetDomain_eq]
  apply yields_bind_of ((resetPrevKeybDomain_evolves d w).of_moves (resetPrevKeybDomain_resets d w))
  intro _ w₁ hw₁ h₁ hreset
  have hd₁ (hmine : T.mine d) : ¬w₁.Known d := by
    rw [World.Known, hreset.initialised]
    exact hd hmine
  have hspared₁ (hs : L.sound w₁) : Spared w₁ d := by
    exact hreset.spared (hw₁.sound hs) (hspared (L.sound_before w w₁ h₁.later hs))
  apply yields_bind_of
    ((dropDomain_evolves hunfocused hlost hd₁ hspared₁).of_moves (dropDomain_free d w₁))
  intro _ w₂ hw₂ _ hfree
  apply yields_bind_of ((switcherDomainGone_evolves hinject hunfocused d w₂).of_moves
    (switcherDomainGone_stays hinject hunfocused d hw₂))
  intro _ w₃ _ _ hstays
  exact checkDivertsForTheDead_evolves fun _ => hfree ∘ hstays.mp

end

end InputServer
