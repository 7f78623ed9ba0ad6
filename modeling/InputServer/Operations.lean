import InputServer.Enrolment
import InputServer.PluginProofs

namespace InputServer
open Program
set_option autoImplicit true

variable {F : Type} {L : Regime F} {R : World F → World F → Prop} {w : World F} {d : DomPtr}

instance : Bystanding (World.Later (F := F)) where
  evolved h := h.later
  untold _ hlog hasked _ := ⟨⟨[], hlog.trans (List.append_nil _).symm⟩, le_of_eq hasked.symm⟩
  enrolled _ := later_enrol _ _ _ _
  connected _ := later_enrol _ _ _ _

variable [Bystanding R]

/-- What keeps the daemon's invariant and has nothing to do with the plugin. -/
theorem bystands_of_evolves {m : WorldM F α} (h : Evolves L T m w) :
    Moves (Living L) R m w :=
  h.imp id fun _ _ hw' hevolved => ⟨hw', Bystanding.evolved hevolved⟩

theorem bystands_of_routes {m : WorldM F α} (h : Routes w.scope m w) :
    Moves (Living L) R m w :=
  bystands_of_evolves (T := .none) (evolves_of_routes h)

/-- Entries that exchange slots, or lose them, keep the invariant. -/
theorem Living.reslot (hw : Living L w) {slots : DomPtr → Int}
    (hunique : ∀ a b, w.Known a → w.Known b → 0 ≤ slots a → slots a = slots b → a = b) :
    Living L { w with domains := fun a => { w.domains a with slot := slots a } } := by
  have hlater : w.Later { w with domains := fun a => { w.domains a with slot := slots a } } :=
    ⟨⟨[], (List.append_nil _).symm⟩, Nat.le_refl _⟩
  exact {
    tracked := ⟨hw.tracked.devslot, hw.tracked.pressed, { hw.tracked.diverting with }⟩
    captured := hw.captured
    unique := ⟨hw.unique.domid, hunique⟩
    pvm := hw.pvm
    named := hw.named
    idle := hw.idle
    sound := fun hs => { hw.sound (L.sound_before w _ hlater hs) with }
    focus := fun hf => { hw.focus (L.focused_before w _ hlater hf) with } }

/-- The slots of two entries, exchanged. -/
theorem swap_unique (hw : Unique w) (hd : w.Known d) (he : w.Known e) (a b : DomPtr)
    (ha : w.Known a) (hb : w.Known b)
    (hpos : 0 ≤ (w.domains (Equiv.swap d e a)).slot)
    (heq : (w.domains (Equiv.swap d e a)).slot = (w.domains (Equiv.swap d e b)).slot) :
    a = b := by
  have hknown (c : DomPtr) (hc : w.Known c) : w.Known (Equiv.swap d e c) := by
    by_cases hcd : c = d
    · rw [hcd, Equiv.swap_apply_left]
      exact he
    · by_cases hce : c = e
      · rw [hce, Equiv.swap_apply_right]
        exact hd
      · rw [Equiv.swap_apply_of_ne_of_ne hcd hce]
        exact hc
  exact (Equiv.swap d e).injective (hw.slot _ _ (hknown a ha) (hknown b hb) hpos heq)

/-- Two entries that exchange slots, one after the other. -/
theorem exchanged_eq (he : (w.domains e).slot = slot) :
    (w.setDomain e { w.domains e with slot := (w.domains d).slot }).setDomain d
      { (w.setDomain e { w.domains e with slot := (w.domains d).slot }).domains d with
        slot := slot } =
      { w with domains := fun a =>
        { w.domains a with slot := (w.domains (Equiv.swap d e a)).slot } } := by
  simp only [World.setDomain]
  congr 1
  funext a
  by_cases had : a = d
  · rw [had, Function.update_self, Equiv.swap_apply_left, he]
    by_cases hde : d = e
    · rw [hde, Function.update_self]
    · rw [Function.update_of_ne hde]
  · rw [Function.update_of_ne had]
    by_cases hae : a = e
    · rw [hae, Function.update_self, Equiv.swap_apply_right]
    · rw [Function.update_of_ne hae, Equiv.swap_apply_of_ne_of_ne had hae]

theorem domid_of_domainWithDomid (h : w.domainWithDomid domid = some d) :
    (w.domains d).domid = domid := by
  have hfound := List.find?_some h
  exact of_decide_eq_true (Bool.and_eq_true_iff.mp hfound).2

/-- A slot is given to a domain, in exchange with the domain that has it. -/
theorem inputDaemonSetSlot_lives (domid slot : Int) (w : World F) :
    Moves (Living L) R (inputDaemonSetSlot domid slot) w := by
  apply yields_get
  intro _
  cases hd : w.domainWithDomid domid with
  | none => exact moves_pure _
  | some d =>
    apply yields_ite
    · intro hneg
      apply bystands_of_evolves (T := ⟨fun a => a = d, fun _ => False, False⟩)
      apply modifyDomain_configures rfl
      intro hw
      exact {
        name := ⟨rfl, rfl⟩
        client := rfl
        lastDevslot := rfl
        divertInfo := rfl
        prev := fun h => h
        prevPtr := fun h => h
        pvm := hw.pvm d
        slot := fun _ _ _ _ hpos => absurd hpos (not_le.mpr hneg) }
    · intro _
      cases he : w.domainWithSlot slot with
      | none =>
        apply bystands_of_evolves (T := ⟨fun a => a = d, fun _ => False, False⟩)
        exact setSlot_evolves rfl he
      | some e =>
        intro hw
        rw [wlp_bind, domainSetSlot, modifyDomain, wlp_modify, domainSetSlot, modifyDomain,
          wlp_modify]
        have hswapped := exchanged_eq (d := d) (slot_of_domainWithSlot he)
        have hbeside : R w (World.setDomain (w.setDomain e { w.domains e with
            slot := (w.domains d).slot }) d { (w.setDomain e { w.domains e with
            slot := (w.domains d).slot }).domains d with slot := slot }) := by
          rw [hswapped]
          exact Bystanding.untold rfl rfl rfl fun _ => rfl
        change Living L (World.setDomain (w.setDomain e { w.domains e with
            slot := (w.domains d).slot }) d { (w.setDomain e { w.domains e with
            slot := (w.domains d).slot }).domains d with slot := slot }) ∧ _ ∧ True
        refine ⟨?_, hbeside, trivial⟩
        rw [hswapped]
        apply hw.reslot
        intro a b ha hb hpos heq
        exact swap_unique hw.unique (known_of_firstDomain hd) (known_of_domainWithSlot he) a b ha hb
          hpos heq

/-- What changes in an entry that stays the guest it is: how it ends, and what it diverts. -/
structure Rediverts (f : Domain F → Domain F) : Prop where
  identity : ∀ x, (f x).identity = x.identity
  lastDevslot : ∀ x, (f x).lastDevslot = x.lastDevslot
  prevPtr : ∀ x, (f x).prevKeybDomainPtr = x.prevKeybDomainPtr
  prevDomid : ∀ x, (f x).prevKeybDomid = x.prevKeybDomid
  kept : ∀ x, (f x).divertInfo = none → x.divertInfo = none

theorem Rediverts.sound {f : Domain F → Domain F} (h : Rediverts f) (hw : Sound w)
    (hkey : w.Valid ((f (w.domains d)).divertInfo.bind DivertInfo.keyDomain))
    (hmouse : (f (w.domains d)).divertInfo.bind DivertInfo.mouseDomain =
      w.diverted d DivertInfo.mouseDomain) : Sound (w.setDomain d (f (w.domains d))) := by
  apply hw.setDomain (SameGuest.name (h.identity _)) hkey hmouse
  intro hprev
  rw [World.PrevOf, h.prevPtr, h.prevDomid]
  exact hprev

theorem modifyDomain_lives {f : Domain F → Domain F} (hf : Rediverts f) (d : DomPtr) (w : World F)
    (hspare : ∀ x, ¬w.Known d → x.divertInfo = none → (f x).divertInfo = none)
    (hsound : L.sound w → Sound w → Sound (w.setDomain d (f (w.domains d)))) :
    Yields (Living L) R (fun _ w' => w' = w.setDomain d (f (w.domains d)))
      (modifyDomain d f) w := by
  have hsame {β : Type} (g : Domain F → β) (hg : ∀ x, g (f x) = g x) (a : DomPtr) :
      g ((w.setDomain d (f (w.domains d))).domains a) = g (w.domains a) :=
    setDomain_congr g (hg _) a
  apply yields_modify
  intro hw
  have hdiverting (h : Diverting w) : Diverting (w.setDomain d (f (w.domains d))) := by
    apply h.remap (hsame Domain.initialised fun x => congrArg Identity.initialised (hf.identity x))
    · intro a ha
      by_cases had : a = d
      · rw [had, setDomain_self] at ha
        rw [had]
        exact hf.kept _ ha
      · rwa [setDomain_of_ne had] at ha
    · intro a hspared ha
      by_cases had : a = d
      · rw [had] at hspared ha
        rw [had, setDomain_self]
        exact hspare _ hspared ha
      · rwa [setDomain_of_ne had]
  have hremap := living_remap (T := .none)
    (f := (w.setDomain d (f (w.domains d))).domains) hw (hsame Domain.identity hf.identity)
    (fun a _ => hsame Domain.lastDevslot hf.lastDevslot a) hdiverting
    (fun a => (hsame Domain.prevKeybDomainPtr hf.prevPtr a).trans) hsound
  exact ⟨hremap.1, Bystanding.evolved hremap.2, rfl⟩

theorem switcherUnfocusGpu_lives (w : World F) : Moves (Living L) R switcherUnfocusGpu w := by
  have hlater : w.Later { w with switcher := { w.switcher with surfaceCurrent := none } } :=
    ⟨⟨[], (List.append_nil _).symm⟩, Nat.le_refl _⟩
  apply moves_modify
  intro hw
  refine ⟨?_, Bystanding.untold rfl rfl rfl fun _ => rfl⟩
  exact { hw with
    tracked := { hw.tracked with diverting := { hw.tracked.diverting with } }
    unique := { hw.unique with }
    sound := fun hs => { hw.sound (L.sound_before w _ hlater hs) with }
    focus := fun hf => { hw.focus (L.focused_before w _ hlater hf) with surface := nofun } }

/-- The divert info that a domain gets, where it has none. -/
theorem modifyDivert_rediverts (f : DivertInfo → DivertInfo) :
    Rediverts fun x : Domain F => { x with
      divertInfo := some (f (x.divertInfo.getD freshDivert)) } where
  identity _ := rfl
  lastDevslot _ := rfl
  prevPtr _ := rfl
  prevDomid _ := rfl
  kept _ h := absurd h (Option.some_ne_none _)

/-- A divert of the keyboard, and what does not concern the targets of the diverts. -/
theorem modifyDivert_lives {f : DivertInfo → DivertInfo} (hd : w.Known d)
    (hkey : ∀ dv, (f dv).keyDomain = dv.keyDomain ∨ w.Valid (f dv).keyDomain)
    (hmouse : ∀ dv, (f dv).mouseDomain = dv.mouseDomain) :
    Yields (Living L) R (fun _ w' => w'.Known d) (modifyDivert d f) w := by
  apply (modifyDomain_lives (modifyDivert_rediverts f) d w (fun _ h => absurd hd h) ?_).mono
  · intro _ w' _ _ hw'
    rw [hw', World.Known, setDomain_self]
    exact hd
  · intro _ hs
    apply (modifyDivert_rediverts f).sound hs
    · change w.Valid (f ((w.domains d).divertInfo.getD freshDivert)).keyDomain
      cases hdv : (w.domains d).divertInfo with
      | none => exact (hkey freshDivert).elim (fun hsame => hsame ▸ .none) id
      | some dv =>
        cases hkey dv with
        | inl hsame =>
          have hold := hs.keyDomain d
          rw [World.diverted, hdv] at hold
          rw [Option.getD_some, hsame]
          exact hold
        | inr hvalid => exact hvalid
    · change (f ((w.domains d).divertInfo.getD freshDivert)).mouseDomain = _
      rw [hmouse, World.diverted]
      cases (w.domains d).divertInfo with
      | none => rfl
      | some dv => rfl

/-- The mouse is with `d`, or with the domain that `d` diverts it to. -/
structure MouseAt (w : World F) (d : DomPtr) : Prop where
  dest : w.routing.mouseDest = some ((w.diverted d DivertInfo.mouseDomain).getD d)
  parent : w.routing.mouseParent = (w.diverted d DivertInfo.mouseDomain).map fun _ => d

theorem diverted_congr {w' : World F} (h : (w'.domains d).divertInfo = (w.domains d).divertInfo)
    (target : DivertInfo → Option DomPtr) : w'.diverted d target = w.diverted d target := by
  rw [World.diverted, World.diverted, h]

theorem MouseAt.congr {w' : World F} (h : MouseAt w d)
    (hdivert : (w'.domains d).divertInfo = (w.domains d).divertInfo)
    (hdest : w'.routing.mouseDest = w.routing.mouseDest)
    (hparent : w'.routing.mouseParent = w.routing.mouseParent) : MouseAt w' d where
  dest := by
    rw [diverted_congr hdivert, hdest]
    exact h.dest
  parent := by
    rw [diverted_congr hdivert, hparent]
    exact h.parent

/-- The mouse was set, and the keyboard stays. -/
structure MouseSet (d : DomPtr) (w w' : World F) : Prop where
  mouse : MouseAt w' d
  domains : w'.domains = w.domains
  keybDest : w'.routing.keybDest = w.routing.keybDest
  keybParent : w'.routing.keybParent = w.routing.keybParent

theorem setMouseDomain_sets (d : DomPtr) (w : World F) :
    wlp (setMouseDomain d) (fun _ w' => MouseSet d w w') w := by
  rw [setMouseDomain, wlp_bind, wlp_get]
  split
  · rename_i mouse hmouse
    rw [modifyRouting, wlp_modify]
    refine ⟨⟨?_, ?_⟩, rfl, rfl, rfl⟩
    · change some mouse = some ((w.diverted d DivertInfo.mouseDomain).getD d)
      rw [hmouse]
      rfl
    · change some d = (w.diverted d DivertInfo.mouseDomain).map fun _ => d
      rw [hmouse]
      rfl
  · rename_i hmouse
    rw [modifyRouting, wlp_modify]
    refine ⟨⟨?_, ?_⟩, rfl, rfl, rfl⟩
    · change some d = some ((w.diverted d DivertInfo.mouseDomain).getD d)
      rw [hmouse]
      rfl
    · change none = (w.diverted d DivertInfo.mouseDomain).map fun _ => d
      rw [hmouse]
      rfl

theorem inputSetMouse_sets (d : DomPtr) (w : World F) :
    wlp (inputSetMouse d) (fun _ w' => MouseSet d w w') w := by
  rw [inputSetMouse, wlp_bind, modifyRouting, wlp_modify]
  refine wlp_mono (setMouseDomain_sets d _) ?_
  exact fun _ _ h => ⟨h.mouse, h.domains, h.keybDest, h.keybParent⟩

/-- What the pointers point to, but for the mouse's. -/
structure SoundButMouse (w : World F) : Prop where
  keybDest : w.Valid w.routing.keybDest
  keybParent : w.Valid w.routing.keybParent
  keyDomain : ∀ a, w.Valid (w.diverted a DivertInfo.keyDomain)
  mouseDomain : ∀ a, w.Valid (w.diverted a DivertInfo.mouseDomain)
  prev : ∀ a, w.Known a → w.PrevOk a

theorem SoundButMouse.sound (hw : SoundButMouse w) (hd : w.Known d) (hmouse : MouseAt w d) :
    Sound w where
  mouseDest m hm := by
    rw [hmouse.dest] at hm
    cases hdivert : w.diverted d DivertInfo.mouseDomain with
    | none =>
      rw [hdivert] at hm
      cases hm
      exact hd
    | some mouse =>
      rw [hdivert] at hm
      cases hm
      exact hw.mouseDomain d mouse hdivert
  mouseParent p hp := by
    rw [hmouse.parent] at hp
    obtain ⟨_, _, heq⟩ := Option.map_eq_some_iff.mp hp
    rw [← heq]
    exact hd
  keybDest := hw.keybDest
  keybParent := hw.keybParent
  keyDomain := hw.keyDomain
  mouseDomain := hw.mouseDomain
  prev := hw.prev
  follows p m hp hm := by
    rw [hmouse.parent] at hp
    obtain ⟨mouse, hdivert, heq⟩ := Option.map_eq_some_iff.mp hp
    rw [hmouse.dest, hdivert] at hm
    cases hm
    rw [← heq]
    exact hdivert

/-- The pointers are sound again once the mouse is set anew. -/
theorem MouseSet.sound {w' : World F} (h : MouseSet d w w') (hw : SoundButMouse w)
    (hd : w.Known d) : Sound w' := by
  have hvalid {p : Option DomPtr} (hp : w.Valid p) : w'.Valid p := by
    intro a ha
    rw [World.Known, h.domains]
    exact hp a ha
  have hdiverted : w'.diverted = w.diverted := by
    funext a target
    rw [World.diverted, World.diverted, h.domains]
  apply SoundButMouse.sound (d := d) _ (hvalid (.some hd) d rfl) h.mouse
  constructor
  · rw [h.keybDest]
    exact hvalid hw.keybDest
  · rw [h.keybParent]
    exact hvalid hw.keybParent
  · rw [hdiverted]
    exact fun a => hvalid (hw.keyDomain a)
  · rw [hdiverted]
    exact fun a => hvalid (hw.mouseDomain a)
  · intro a ha p hp
    rw [World.Known, h.domains] at ha
    rw [h.domains] at hp
    rw [World.Known, h.domains]
    exact hw.prev a ha p hp

/-- A divert of the mouse changes, and nothing else that the pointers depend on. -/
structure RedivertsMouse (w : World F) (d : DomPtr) (f : Domain F → Domain F) : Prop where
  rediverts : Rediverts f
  key : (f (w.domains d)).divertInfo.bind DivertInfo.keyDomain =
    w.diverted d DivertInfo.keyDomain
  mouse : w.Valid ((f (w.domains d)).divertInfo.bind DivertInfo.mouseDomain)

section
variable {f : Domain F → Domain F}

theorem RedivertsMouse.name (h : RedivertsMouse w d f) : SameName w d (f (w.domains d)) :=
  SameGuest.name (h.rediverts.identity _)

theorem RedivertsMouse.soundButMouse (h : RedivertsMouse w d f) (hw : Sound w) :
    SoundButMouse (w.setDomain d (f (w.domains d))) where
  keybDest := hw.keybDest.setDomain h.name
  keybParent := hw.keybParent.setDomain h.name
  keyDomain a := by
    apply World.Valid.setDomain h.name
    by_cases had : a = d
    · rw [World.diverted, had, setDomain_self, h.key]
      exact hw.keyDomain d
    · rw [World.diverted, setDomain_of_ne had]
      exact hw.keyDomain a
  mouseDomain a := by
    apply World.Valid.setDomain h.name
    by_cases had : a = d
    · rw [World.diverted, had, setDomain_self]
      exact h.mouse
    · rw [World.diverted, setDomain_of_ne had]
      exact hw.mouseDomain a
  prev a ha := by
    apply h.name.prevOk _ a (hw.prev a ((h.name.known a).mp ha))
    intro hprev
    rw [World.PrevOf, h.rediverts.prevPtr, h.rediverts.prevDomid]
    exact hprev

/-- A divert that the mouse does not follow changes. -/
theorem RedivertsMouse.sound (h : RedivertsMouse w d f) (hw : Sound w)
    (hparent : w.routing.mouseParent ≠ some d) : Sound (w.setDomain d (f (w.domains d))) :=
  { h.soundButMouse hw with
    mouseDest := hw.mouseDest.setDomain h.name
    mouseParent := hw.mouseParent.setDomain h.name
    follows := by
      intro p m hp hm
      have hpd : p ≠ d := by
        intro heq
        rw [heq] at hp
        exact hparent hp
      rw [World.diverted, setDomain_of_ne hpd]
      exact hw.follows p m hp hm }

/-- Where only the pointers are followed. -/
def Regime.pointers : Regime F where
  sound _ := True
  focused _ := False
  sound_before _ _ _ h := h
  focused_before _ _ _ h := h

/-- A regime in which the pointers are not followed. -/
def Regime.unsound (L : Regime F) : Regime F :=
  { L with
    sound := fun _ => False
    sound_before := fun _ _ _ => id }

theorem Living.pointers (h : Living L w) (hs : Sound w) : Living .pointers w :=
  { h with sound := fun _ => hs, focus := False.elim }

omit [Bystanding R] in
/-- What keeps the invariant but for the pointers, and the pointers, keeps both. -/
theorem moves_sound {m : WorldM F α} (hunsound : Moves (Living L.unsound) R m w)
    (hsound : Yields (Living .bare) World.Later (fun _ w' => Sound w → Sound w') m w) :
    Moves (Living L) R m w := by
  intro hw a w' hrun
  have hw₀ : Living L.unsound w := { hw with sound := False.elim }
  obtain ⟨hw', hr, _⟩ := hunsound hw₀ a w' hrun
  obtain ⟨_, hlater, hkeeps⟩ := hsound hw.bare a w' hrun
  exact ⟨{ hw' with sound := fun hs => hkeeps (hw.sound (L.sound_before w w' hlater hs)) }, hr,
    trivial⟩

theorem routes_sound {m : WorldM F α} (h : Routes w.scope m w) :
    Yields (Living .bare) R (fun _ w' => Sound w → Sound w') m w := by
  intro hw a w' hrun
  obtain ⟨hw', hr, _⟩ := bystands_of_routes (L := .bare) (R := R) h hw a w' hrun
  refine ⟨hw', hr, ?_⟩
  intro hs
  exact (bystands_of_routes (R := R) h (hw.pointers hs) a w' hrun).1.sound trivial

/-- Another domain gets the diverted mouse, or the mouse comes back. -/
theorem redivertMouse_lives (hf : RedivertsMouse w d f) (hd : w.Known d) :
    Moves (Living L) R (do
      modifyDomain d f
      syncMouseDomain (some d)) w := by
  have hmodify {L' : Regime F} {R' : World F → World F → Prop} [Bystanding R']
      (hunsound : ∀ w, ¬L'.sound w) : Yields (Living L') R'
        (fun _ w' => w' = w.setDomain d (f (w.domains d))) (modifyDomain d f) w := by
    apply modifyDomain_lives hf.rediverts
    · exact fun _ h => absurd hd h
    · exact fun hs => absurd hs (hunsound w)
  have hknown : (w.setDomain d (f (w.domains d))).Known d := (hf.name.known d).mpr hd
  apply moves_sound
  · apply yields_bind_of (hmodify fun _ => id)
    intro _ w₁ _ _ hw₁
    rw [hw₁]
    exact bystands_of_routes (syncMouseDomain_routes id fun _ => .some hknown)
  · apply yields_bind_of (hmodify fun _ => id)
    intro _ w₁ _ _ hw₁
    rw [hw₁]
    apply yields_get
    intro _
    apply yields_ite
    · intro _
      rw [deref, pure_bind]
      apply yields_bind_of ((bystands_of_routes (inputSetMouse_routes id fun _ => hknown)).of_moves
        (inputSetMouse_sets d _))
      intro _ w₂ _ _ hset
      apply (routes_sound (dupMouseClicks_routes _ w₂)).mono
      exact fun _ _ _ _ hkeeps hs => hkeeps (hset.sound (hf.soundButMouse hs) hknown)
    · intro hother
      apply (routes_sound (dupMouseClicks_routes _ _)).mono
      exact fun _ _ _ _ hkeeps hs => hkeeps (hf.sound hs fun hparent => hother (.inl hparent))

/-- The divert of the mouse is set, and the mouse follows it. -/
theorem modifyDivert_syncs {f : DivertInfo → DivertInfo} (hd : w.Known d)
    (hkey : ∀ dv, (f dv).keyDomain = dv.keyDomain)
    (hmouse : ∀ dv, w.Valid (f dv).mouseDomain) :
    Moves (Living L) R (do
      modifyDivert d f
      syncMouseDomain (some d)) w := by
  apply redivertMouse_lives _ hd
  constructor
  · exact modifyDivert_rediverts f
  · change (f ((w.domains d).divertInfo.getD freshDivert)).keyDomain = _
    rw [hkey, World.diverted]
    cases (w.domains d).divertInfo with
    | none => rfl
    | some dv => rfl
  · exact hmouse _

end

theorem inputDaemonDivertMouseFocus_lives (sender : Int) (uuid : String)
    (s1 s2 s3 s4 d1 d2 d3 d4 : UInt32) (w : World F) :
    Moves (Living L) R (inputDaemonDivertMouseFocus sender uuid s1 s2 s3 s4 d1 d2 d3 d4) w := by
  apply yields_get
  intro _
  cases hd : w.domainWithDomid sender with
  | none => exact moves_pure _
  | some d =>
    cases htd : w.domainWithUuid uuid with
    | none => exact moves_pure _
    | some td =>
      apply yields_ite
      · intro _
        exact moves_pure _
      · intro _
        rw [← bind_assoc]
        apply yields_bind (modifyDivert_syncs (known_of_firstDomain hd) ?_ ?_)
        · intro _ w₁ _ _
          exact moves_pure _
        · exact fun _ => rfl
        · exact fun _ => .some (known_of_firstDomain htd)

theorem inputDaemonSetDivertKeyboardFilter_lives (sender : Int) (filter : List UInt32)
    (w : World F) : Moves (Living L) R (inputDaemonSetDivertKeyboardFilter sender filter) w := by
  apply yields_get
  intro _
  split
  · exact moves_pure _
  · rename_i d hd
    have hknown : w.Known d := known_of_firstDomain hd
    apply yields_ite
    · intro _
      apply yields_bind (modifyDivert_lives hknown ?_ ?_).moves
      · intro _ w₁ _ _
        exact moves_pure _
      · exact fun _ => .inl rfl
      · exact fun _ => rfl
    · intro _
      apply yields_bind (modifyDivert_lives hknown ?_ ?_).moves
      · intro _ w₁ _ _
        exact moves_pure _
      · exact fun _ => .inl rfl
      · exact fun _ => rfl

theorem inputDaemonStopMouseDivert_lives (sender : Int) (w : World F) :
    Moves (Living L) R (inputDaemonStopMouseDivert sender) w := by
  apply yields_get
  intro _
  cases hd : w.domainWithDomid sender with
  | none => exact bystands_of_routes (syncMouseDomain_routes id fun _ => nofun)
  | some d =>
    apply redivertMouse_lives _ (known_of_firstDomain hd)
    constructor
    · exact ⟨fun _ => rfl, fun _ => rfl, fun _ => rfl, fun _ => rfl,
        fun _ => Option.map_eq_none_iff.mp⟩
    · rw [World.diverted]
      cases (w.domains d).divertInfo with
      | none => rfl
      | some dv => rfl
    · cases (w.domains d).divertInfo with
      | none => exact .none
      | some dv => exact .none

theorem inputDaemonFocusMode_lives (sender mode : Int) (w : World F) :
    Moves (Living L) R (inputDaemonFocusMode sender mode) w := by
  apply yields_get
  intro _
  split
  · exact moves_pure _
  · rename_i d hd
    have hknown : w.Known d := known_of_firstDomain hd
    apply yields_ite
    · intro _
      apply yields_bind (modifyDivert_lives hknown ?_ ?_).moves
      · intro _ w₁ _ _
        exact moves_pure _
      · exact fun _ => .inl rfl
      · exact fun _ => rfl
    · intro _
      apply yields_bind (modifyDivert_lives hknown ?_ ?_).moves
      · intro _ w₁ _ _
        exact moves_pure _
      · exact fun _ => .inl rfl
      · exact fun _ => rfl

theorem inputDaemonTouch_lives (uuid : String) (w : World F) :
    Moves (Living L) R (inputDaemonTouch uuid) w := by
  apply yields_get
  intro _
  split
  · exact moves_pure _
  · apply yields_bind (bystands_of_routes (wiggleCtrlKey_routes _ w))
    intro _ w₁ _ _
    exact moves_pure _

theorem handleSwitcherAbs_lives (d : DomPtr) (enabled : Bool) (w : World F) :
    Moves (Living L) R (handleSwitcherAbs d enabled) w := by
  apply bystands_of_routes
  apply modifyDomain_routes
  · exact fun _ => ⟨rfl, rfl, rfl, rfl, rfl, rfl, rfl, rfl⟩
  · exact fun _ => rfl

theorem handleSwitcherLeds_lives (d : DomPtr) (ledCode : UInt32) (w : World F) :
    Moves (Living L) R (handleSwitcherLeds d ledCode) w := by
  apply bystands_of_routes
  apply modifyDomain_routes
  · exact fun _ => ⟨rfl, rfl, rfl, rfl, rfl, rfl, rfl, rfl⟩
  · exact fun _ => rfl

theorem handleSwitcherShutdown_lives (d : DomPtr) (state : Int) (w : World F) :
    Moves (Living L) R (handleSwitcherShutdown d state) w := by
  have hstate : Moves (Living L) R (modifyDomain d fun x => { x with sstate := state }) w := by
    apply Yields.moves
    have hf : Rediverts fun x : Domain F => { x with sstate := state } :=
      ⟨fun _ => rfl, fun _ => rfl, fun _ => rfl, fun _ => rfl, fun _ h => h⟩
    apply modifyDomain_lives hf
    · exact fun _ _ h => h
    · exact fun _ hs => hf.sound hs (hs.keyDomain d) rfl
  apply yields_bind hstate
  intro _ w₁ _ _
  apply yields_ite
  · intro _
    exact bystands_of_routes (focusExpectDeath_routes d w₁)
  · intro _
    apply yields_ite
    · intro _
      exact bystands_of_routes (focusDontExpectDeath_routes d w₁)
    · intro _
      exact moves_pure _

theorem surfaceDisabled_lives (d : DomPtr) (disabled : Bool) (w : World F) :
    Moves (Living L) R (surfaceDisabled d disabled) w := by
  apply yields_get
  intro _
  apply yields_ite
  · intro _
    exact moves_pure _
  intro _
  have hmine : Evolves L ⟨fun a => a = d, fun _ => False, False⟩
      (modifyDomain d fun x => { x with disabledSurface := disabled }) w := by
    apply modifyDomain_resembles rfl
    · exact fun _ => ⟨rfl, rfl, rfl, rfl, rfl, rfl, rfl, rfl⟩
    · exact fun _ => id
  have hknown : wlp (modifyDomain d fun x => { x with disabledSurface := disabled })
      (fun _ w' => ∀ a, w.Known a → w'.Known a) w := by
    rw [modifyDomain, wlp_modify]
    have hname : SameName w d { w.domains d with disabledSurface := disabled } := ⟨rfl, rfl⟩
    exact fun a => (hname.known a).mpr
  apply yields_bind_of ((bystands_of_evolves hmine).of_moves hknown)
  intro _ w₁ _ _ hkept
  cases huivm : w.domainUivm with
  | none => exact moves_pure _
  | some u =>
    apply yields_ite
    · intro _
      have hu : w₁.scope.target u := hkept u (known_of_domainWithSlot huivm)
      apply yields_bind (bystands_of_routes (switcherSwitchGraphic_routes id hu))
      intro _ w₂ _ _
      exact moves_pure _
    · intro _
      exact moves_pure _

section
variable [Double F]

theorem inputDomainHandleResolutionChange_lives (d : DomPtr) (xres yres : Int) (w : World F) :
    Moves (Living L) R (inputDomainHandleResolutionChange d xres yres) w := by
  apply yields_get
  intro _
  apply yields_ite
  · intro _
    exact moves_pure _
  · intro _
    have hrescale : Routes w.scope (modifyRouting (rescaleMouse (w.domains d) xres yres)) w :=
      modifyRouting_keeps rfl rfl rfl rfl rfl
    apply yields_bind (bystands_of_routes hrescale)
    intro _ w₁ _ _
    exact bystands_of_routes (inputDomainSetMouse_routes _ w₁)

theorem domainCalculateAbsScaling_lives (d : DomPtr) (dims : Option (Int × Int)) (w : World F) :
    Moves (Living L) R (domainCalculateAbsScaling d dims) w := by
  have hscale (f : Domain F → Domain F) (hf : ∀ x, Unaltered x (f x))
      (hslot : ∀ x, (f x).lastDevslot = x.lastDevslot) (w : World F) :
      Moves (Living L) R (modifyDomain d f) w :=
    bystands_of_routes (modifyDomain_routes hf hslot d w)
  apply yields_bind
  · apply hscale
    · exact fun _ => ⟨rfl, rfl, rfl, rfl, rfl, rfl, rfl, rfl⟩
    · exact fun _ => rfl
  intro _ w₁ _ _
  split
  · apply hscale
    · exact fun _ => ⟨rfl, rfl, rfl, rfl, rfl, rfl, rfl, rfl⟩
    · exact fun _ => rfl
  · apply yields_bind
    · apply hscale
      · exact fun _ => ⟨rfl, rfl, rfl, rfl, rfl, rfl, rfl, rfl⟩
      · exact fun _ => rfl
    intro _ w₂ _ _
    apply yields_bind (inputDomainHandleResolutionChange_lives d _ _ w₂)
    intro _ w₃ _ _
    apply hscale
    · exact fun _ => ⟨rfl, rfl, rfl, rfl, rfl, rfl, rfl, rfl⟩
    · exact fun _ => rfl

variable {inject : Inject F} (hinject : InjectRoutes inject)
include hinject

theorem inputDaemonSwitchFocus_lives (domid : Int) (w : World F) :
    Moves (Living L) R (inputDaemonSwitchFocus inject domid) w := by
  apply yields_get
  intro _
  apply yields_ite
  · intro _
    exact switcherUnfocusGpu_lives w
  · intro _
    have hd : w.Valid (w.domainWithDomid domid) := fun _ => known_of_firstDomain
    apply yields_bind (bystands_of_evolves (T := .none) (switcherSwitch_evolves hinject hd false))
    intro _ w₁ _ _
    exact moves_pure _

theorem switchFound_lives (hd : w.Valid p) : Moves (Living L) R (switchFound inject p) w := by
  apply yields_bind (bystands_of_evolves (T := .none) (switcherSwitch_evolves hinject hd false))
  intro _ w₁ _ _
  exact moves_pure _

omit [Double F] in
theorem inputDaemonDivertKeyboardFocus_lives (sender : Int) (uuid : String) (w : World F) :
    Moves (Living L) R (inputDaemonDivertKeyboardFocus inject sender uuid) w := by
  apply yields_get
  intro _
  cases hd : w.domainWithDomid sender with
  | none => exact moves_pure _
  | some d =>
    cases htd : w.domainWithUuid uuid with
    | none => exact moves_pure _
    | some td =>
      apply yields_bind_of (modifyDivert_lives (known_of_firstDomain hd) ?_ ?_)
      · intro _ w₁ _ _ hknown
        have hd₁ : w₁.Valid (some d) := .some hknown
        apply yields_bind (bystands_of_routes (syncKbdDomain_routes hinject fun _ => hd₁))
        intro _ w₂ _ _
        exact moves_pure _
      · exact fun _ => .inr (.some (known_of_firstDomain htd))
      · exact fun _ => rfl

omit [Double F] in
theorem inputDaemonStopKeyboardDivert_lives (sender : Int) (w : World F) :
    Moves (Living L) R (inputDaemonStopKeyboardDivert inject sender) w := by
  apply yields_get
  intro _
  cases hd : w.domainWithDomid sender with
  | none => exact bystands_of_routes (syncKbdDomain_routes hinject fun _ => nofun)
  | some d =>
    have hf : Rediverts fun x : Domain F => { x with
        divertInfo := x.divertInfo.map fun dv => { dv with keyDomain := none } } :=
      ⟨fun _ => rfl, fun _ => rfl, fun _ => rfl, fun _ => rfl,
        fun _ => Option.map_eq_none_iff.mp⟩
    have hsound (hs : Sound w) : Sound (w.setDomain d { w.domains d with
        divertInfo := (w.domains d).divertInfo.map fun dv => { dv with keyDomain := none } }) := by
      apply hf.sound hs
      · cases (w.domains d).divertInfo with
        | none => exact .none
        | some dv => exact .none
      · rw [World.diverted]
        cases (w.domains d).divertInfo with
        | none => rfl
        | some dv => rfl
    apply yields_bind_of (modifyDomain_lives hf d w (fun _ _ => Option.map_eq_none_iff.mpr)
      fun _ => hsound)
    intro _ w₁ _ _ hw₁
    have hd₁ : w₁.Valid (some d) := by
      rw [hw₁]
      refine .some ?_
      rw [World.Known, setDomain_self]
      exact known_of_firstDomain hd
    exact bystands_of_routes (syncKbdDomain_routes hinject fun _ => hd₁)

omit [Double F] hinject in
theorem withDomid_lives (domid : Int) {f : DomPtr → WorldM F Unit} (w : World F)
    (hf : ∀ d, w.Known d → Moves (Living L) R (f d) w) :
    Moves (Living L) R (withDomid domid f) w := by
  apply yields_get
  intro _
  cases hd : w.domainWithDomid domid with
  | none => exact moves_pure _
  | some d => exact hf d (known_of_firstDomain hd)

omit [Double F] hinject in
theorem Living.reroute {r : Routing F} (hw : Living L w)
    (hpressed : r.mousePressed = w.routing.mousePressed)
    (hparent : r.mouseParent = w.routing.mouseParent)
    (hsound : Sound w → Sound { w with routing := r }) : Living L { w with routing := r } := by
  have hlater : w.Later { w with routing := r } :=
    ⟨⟨[], (List.append_nil _).symm⟩, Nat.le_refl _⟩
  exact {
    tracked := {
      devslot := hw.tracked.devslot
      pressed := fun mb hmb => hw.tracked.pressed mb (hpressed ▸ hmb)
      diverting := {
        parent := fun p hp => hw.tracked.diverting.parent p (hparent ▸ hp)
        spare := hw.tracked.diverting.spare } }
    captured := hw.captured
    unique := { hw.unique with }
    pvm := hw.pvm
    named := hw.named
    idle := hw.idle
    sound := fun hs => hsound (hw.sound (L.sound_before w _ hlater hs))
    focus := fun hf => { hw.focus (L.focused_before w _ hlater hf) with } }

omit [Double F] in
/-- The keyboard may be left with nobody, where the mouse has no destination. -/
theorem inputReturnKeyboard_lives (d : DomPtr) (w : World F) :
    Moves (Living L) R (inputReturnKeyboard inject d) w := by
  apply yields_get
  intro _
  apply yields_ite
  · intro _
    exact moves_pure _
  · intro _
    apply yields_bind (bystands_of_routes (takeKeyboard_routes hinject w))
    intro _ w' _ _
    apply moves_modify
    intro hw
    refine ⟨hw.reroute rfl rfl ?_, Bystanding.untold rfl rfl rfl fun _ => rfl⟩
    intro hs
    exact { hs with keybDest := hs.mouseDest, keybParent := .none }

/-- A command of a domain that is there. -/
theorem domainCommand_lives (hd : w.Known d) (c : Command) :
    Moves (Living L) R (domainCommand inject d c) w := by
  apply yields_get
  intro _
  cases c with
  | switch => exact switchFound_lives hinject (.some hd)
  | switchSlot slot => exact switchFound_lives hinject fun _ => known_of_domainWithSlot
  | switchDomid domid => exact switchFound_lives hinject fun _ => known_of_firstDomain
  | keyboardTake => exact bystands_of_routes (inputGiveKeyboard_routes hinject fun _ => hd)
  | keyboardTakeFrom domid =>
    apply withDomid_lives domid w
    intro src hsrc
    exact bystands_of_routes (inputGiveKeyboardFromDomain_routes hinject id hsrc fun _ => hd)
  | keyboardRelease => exact inputReturnKeyboard_lives hinject d w
  | keyboardReleaseTo domid =>
    apply withDomid_lives domid w
    intro dest _
    exact bystands_of_routes (inputReturnKeyboardToDomain_routes hinject id dest d w)

end

end InputServer
