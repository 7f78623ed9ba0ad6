import InputServer.LivingSteps
import InputServer.SwitchOutcome

namespace InputServer
open Program
set_option autoImplicit true

variable {F : Type} {C : Scope} {L : Regime F} {T : Turnover} {w : World F} {d : DomPtr}

/-- The display can follow a switch to the UIVM, and that is not `d`. -/
def ShowsUivm (w w' : World F) (d : DomPtr) : Prop :=
  ∃ u, u ≠ d ∧ w.domainUivm = some u ∧ Shows w w' u

/-- No clock that is read shows a time at which the domain in the slot is expected to die. -/
def Unexpected (w w' : World F) (slot : Int) : Prop :=
  ∀ n, w.asked ≤ n → n < w'.asked →
    ¬(0 ≤ secondsBetween (w.deathWindow slot) (w.answers n).time ∧
      secondsBetween (w.deathWindow slot) (w.answers n).time ≤ DEATH_WINDOW_LENGTH)

/-- A PVM that leaves the display to the UIVM as it dies. -/
structure LeavesPvm (w w' : World F) (d : DomPtr) : Prop where
  isPvm : (w.domains d).isPvm = true
  running : (w.domains d).sstate ≠ SWITCHER_SHUTDOWN_REBOOT
  slot : 0 ≤ (w.domains d).slot ∧ (w.domains d).slot < NSLOTS
  unexpected : Unexpected w w' (w.domains d).slot

/-- The focus does not stay on an entry that is forgotten. -/
def ForgetSafe (w w' : World F) (d : DomPtr) : Prop :=
  if w.sameDomid d w.switcher.surfaceCurrent then
    (w.domains d).sstate ≠ SWITCHER_SHUTDOWN_REBOOT ∧ ShowsUivm w w' d
  else (w.domains d).hasSecondaryGpu = true

theorem ShowsUivm.until {w w' w'' : World F} (h : ShowsUivm w w' d)
    (hasked : w''.asked ≤ w'.asked) : ShowsUivm w w'' d := by
  obtain ⟨u, hud, hu, hshows⟩ := h
  exact ⟨u, hud, hu, hshows.of_later rfl (Nat.le_refl _) hasked rfl⟩

theorem LeavesPvm.until {w w' w'' : World F} (h : LeavesPvm w w' d)
    (hasked : w''.asked ≤ w'.asked) : LeavesPvm w w'' d :=
  { h with
    unexpected := fun n hn hn' => h.unexpected n hn (Nat.lt_of_lt_of_le hn' hasked) }

theorem ForgetSafe.until {w w' w'' : World F} (h : ForgetSafe w w' d)
    (hasked : w''.asked ≤ w'.asked) : ForgetSafe w w'' d := by
  rw [ForgetSafe] at h ⊢
  by_cases hsame : w.sameDomid d w.switcher.surfaceCurrent = true
  · rw [if_pos hsame] at h ⊢
    exact ⟨h.1, h.2.until hasked⟩
  · rw [if_neg hsame] at h ⊢
    exact h

/-- The focus does not stay on a domain that is gone, and does not come to it as it goes. -/
def GoneSafe (w w' : World F) (d : DomPtr) : Prop :=
  (LeavesPvm w w' d ∧ ShowsUivm w w' d) ∨
    ((w.switcher.current = some d → ForgetSafe w w' d) ∧
      ((w.domains d).isPvm = true → (w.domains d).sstate ≠ SWITCHER_SHUTDOWN_REBOOT →
        w.domainUivm ≠ some d))

/-- The focus went to the UIVM, or the display did not follow. -/
def TriesUivm (w w' : World F) : Prop :=
  (∃ u, w.domainUivm = some u ∧ w'.switcher.current = some u) ∨
    (FocusStays w w' ∧ ∀ u, w.domainUivm = some u → ¬Shows w w' u)

theorem focusDontExpectDeath_routes (d : DomPtr) (w : World F) :
    Routes C (focusDontExpectDeath d) w := by
  apply yields_get
  intro _
  apply yields_ite
  · intro _
    exact moves_pure _
  · intro _
    apply modify_unmoved ⟨rfl, rfl, rfl, rfl, rfl, Nat.le_refl _, rfl, rfl⟩
    exact rfl

theorem focusExpectDeath_routes (d : DomPtr) (w : World F) :
    Routes C (focusExpectDeath d) w := by
  apply yields_get
  intro _
  apply yields_ite
  · intro _
    exact moves_pure _
  · intro _
    apply yields_bind (gettimeofday_routes w)
    intro _ w' _ _
    apply modify_unmoved ⟨rfl, rfl, rfl, rfl, rfl, Nat.le_refl _, rfl, rfl⟩
    exact rfl

theorem expectingDeath_ends (slot : Int) (w : World F) :
    Yields (InScope C) (Routed C) (fun expected w' =>
      FocusStays w w' ∧ (expected = true → ¬Unexpected w w' slot)) (expectingDeath slot) w := by
  apply yields_bind_of (ask_answers _ w)
  intro now w₁ _ _ hask
  obtain ⟨hnow, hw₁⟩ := hask
  apply yields_get
  intro _
  apply yields_pure
  intro _
  rw [hw₁]
  refine ⟨⟨rfl, rfl⟩, ?_⟩
  intro hexpected hno
  apply hno w.asked (Nat.le_refl _) (Nat.lt_succ_self _)
  rw [hnow] at hexpected
  exact of_decide_eq_true hexpected

theorem TriesUivm.after {w w₁ w' : World F} (h : TriesUivm w₁ w') (hr : Routed C w w₁)
    (hstay : FocusStays w w₁) : TriesUivm w w' := by
  rw [TriesUivm, hr.domainUivm] at h
  cases h with
  | inl hmoved => exact .inl hmoved
  | inr hstay' =>
    refine .inr ⟨hstay.trans hstay'.1, ?_⟩
    intro u hu hshows
    exact hstay'.2 u hu (hshows.of_later (hr.domains u) hr.asked (Nat.le_refl _) hr.answers)

/-- The focus and the display are on initialised entries or on the one that goes. -/
structure Leaving (w : World F) (d : DomPtr) : Prop where
  gone : ¬w.Known d
  focused : Focused w
  known : ∀ c, w.switcher.current = some c → c = d ∨ w.Known c
  surface : ∀ c, w.switcher.surfaceCurrent = some c → c = d ∨ w.Known c

theorem Leaving.focusLive (h : Leaving w d) (hcurrent : w.switcher.current ≠ some d)
    (hsurface : w.switcher.surfaceCurrent ≠ some d) : FocusLive w where
  focused := h.focused
  known c hc := by
    cases h.known c hc with
    | inl heq =>
      rw [heq] at hc
      exact absurd hc hcurrent
    | inr hknown => exact hknown
  surface c hc := by
    cases h.surface c hc with
    | inl heq =>
      rw [heq] at hc
      exact absurd hc hsurface
    | inr hknown => exact hknown

theorem sameDomid_self (w : World F) (d : DomPtr) : w.sameDomid d (some d) = true :=
  decide_eq_true rfl

theorem sameDomid_congr {w w' : World F} (h : ∀ a, (w'.domains a).domid = (w.domains a).domid)
    (p : Option DomPtr) : w'.sameDomid d p = w.sameDomid d p := by
  simp only [World.sameDomid, h]

section
variable [Double F] {inject : Inject F} (hinject : InjectRoutes inject)
include hinject

theorem switchToUivm_ends (hC : ¬C.nested) (hstill : ¬C.still)
    (hfree : w.switcher.switching = false) (mouseSwitch : Bool) :
    Yields (InScope C) (Routed C) (fun _ w' => TriesUivm w w')
      (switcherSwitch inject w.domainUivm mouseSwitch) w := by
  intro hw
  cases hu : w.domainUivm with
  | none =>
    rw [switcherSwitch, wlp_bind, wlp_get, wlp_pure]
    refine ⟨hw, .refl C w, .inr ⟨⟨rfl, rfl⟩, ?_⟩⟩
    intro u hfound
    rw [hu] at hfound
    cases hfound
  | some u =>
    have hknown : w.Known u := known_of_domainWithSlot hu
    have ht : C.target u := hw.targets.uivm u hu
    have hends := switcherSwitch_ends hinject hC hstill hfree (fun _ => hknown) ht mouseSwitch hw
    refine wlp_mono hends ?_
    intro switched w' h
    refine ⟨h.1, h.2.1, ?_⟩
    cases switched with
    | true => exact .inl ⟨u, hu, h.2.2⟩
    | false =>
      refine .inr ⟨h.2.2.1, ?_⟩
      intro u' hfound
      rw [hu] at hfound
      cases hfound
      exact h.2.2.2

theorem focusDomainGone_ends (hC : ¬C.nested) (hstill : ¬C.still)
    (hfree : w.switcher.switching = false) (d : DomPtr) :
    Yields (InScope C) (Routed C) (fun _ w' => ((w.domains d).isPvm = true ∧ TriesUivm w w') ∨
      (FocusStays w w' ∧ ¬LeavesPvm w w' d)) (focusDomainGone inject d) w := by
  apply yields_get
  intro _
  apply yields_ite
  · intro hnone
    apply yields_pure
    intro _
    refine .inr ⟨⟨rfl, rfl⟩, ?_⟩
    intro hleaves
    obtain h | h | h := hnone
    · exact h hleaves.isPvm
    · exact absurd hleaves.slot.1 (not_le.mpr h)
    · exact absurd hleaves.slot.2 (not_lt.mpr h)
  intro hslot
  have hpvm : (w.domains d).isPvm = true := by
    by_contra hno
    exact hslot (.inl hno)
  apply yields_bind_of (expectingDeath_ends _ w)
  intro expected w₁ _ h₁ hexpect
  apply yields_ite
  · intro hexpected
    apply yields_pure
    intro _
    refine .inr ⟨hexpect.1, ?_⟩
    intro hleaves
    exact hexpect.2 hexpected hleaves.unexpected
  · intro _
    apply yields_get
    intro _
    have hfree₁ := h₁.switching.trans hfree
    apply yields_bind_of (switchToUivm_ends hinject hC hstill hfree₁ false)
    intro _ w₂ _ _ htries
    apply yields_pure
    intro _
    exact .inl ⟨hpvm, htries.after h₁ hexpect.1⟩

theorem leavePvm_ends (hC : ¬C.nested) (hstill : ¬C.still)
    (hfree : w.switcher.switching = false) (d : DomPtr) :
    Yields (InScope C) (Routed C) (fun _ w' =>
      ((w.domains d).isPvm = true ∧ (w.domains d).sstate ≠ SWITCHER_SHUTDOWN_REBOOT ∧
        TriesUivm w w') ∨ (FocusStays w w' ∧ ¬LeavesPvm w w' d)) (leavePvm inject d) w := by
  apply yields_get
  intro _
  apply yields_ite
  · intro hpvm
    apply (focusDomainGone_ends hinject hC hstill hfree d).mono
    intro _ w' _ _ hends
    exact hends.imp_left fun htries => ⟨htries.1, hpvm.2, htries.2⟩
  · intro hno
    apply yields_pure
    intro _
    exact .inr ⟨⟨rfl, rfl⟩, fun hleaves => hno ⟨hleaves.isPvm, hleaves.running⟩⟩

theorem switchToUivm_turns (hs : C.sound) (hC : ¬C.nested) (hstill : ¬C.still)
    (hfree : w.switcher.switching = false) (mouseSwitch : Bool) :
    Yields (InScope C) (Routed C) (fun _ w' => ∀ a, KeyTurned w w' a)
      (switcherSwitch inject w.domainUivm mouseSwitch) w := by
  intro hw
  cases hu : w.domainUivm with
  | none =>
    rw [switcherSwitch, wlp_bind, wlp_get, wlp_pure]
    exact ⟨hw, .refl C w, KeyTurned.refl w⟩
  | some u =>
    have ht : C.target u := hw.targets.uivm u hu
    exact switcherSwitch_turns hinject hC hstill hs hfree (known_of_domainWithSlot hu) ht
      mouseSwitch hw

/-- A PVM that dies leaves no new divert behind but to where the mouse is diverted. -/
theorem leavePvm_turns (hs : C.sound) (hC : ¬C.nested) (hstill : ¬C.still)
    (hfree : w.switcher.switching = false) (d : DomPtr) :
    Yields (InScope C) (Routed C) (fun _ w' => ∀ a, KeyTurned w w' a) (leavePvm inject d) w := by
  have hnone {w' : World F} : Yields (InScope C) (Routed C) (fun _ w'' => ∀ a, KeyTurned w' w'' a)
      (pure () : WorldM F Unit) w' := yields_pure _ fun _ => KeyTurned.refl w'
  apply yields_get
  intro _
  apply yields_ite
  · intro _
    apply yields_get
    intro _
    apply yields_ite
    · intro _
      exact hnone
    intro _
    have hasked : wlp (expectingDeath (w.domains d).slot) (fun _ w' => SameDomains w w') w := by
      intro _ w' hrun
      cases hrun
      rfl
    apply yields_bind_of ((expectingDeath_ends _ w).moves.of_moves hasked)
    intro expected w₁ _ h₁ hsame
    apply yields_ite
    · intro _
      exact yields_pure _ fun _ => hsame.keyTurned
    · intro _
      apply yields_get
      intro _
      apply yields_bind_of
        (switchToUivm_turns hinject hs hC hstill (h₁.switching.trans hfree) false)
      intro _ w₂ _ _ hturned
      exact yields_pure _ fun _ a => (hsame.keyTurned a).trans (hturned a) (h₁.diverted a)
  · intro _
    exact hnone

omit hinject [Double F] in
theorem Undiverted.turned {w w' : World F} (h : Undiverted w d) (hr : Routed C w w')
    (hturned : ∀ a, KeyTurned w w' a) : Undiverted w' d where
  key a ha hd := (hturned a d hd).elim (h.key a ha) (h.mouse a ha)
  mouse a ha := by
    rw [hr.diverted]
    exact h.mouse a ha

theorem leaveDead_ends (hC : ¬C.nested) (hstill : ¬C.still)
    (hfree : w.switcher.switching = false) (d : DomPtr) :
    Yields (InScope C) (Routed C) (fun _ w' => TriesUivm w w' ∨
      (w.domains d).sstate = SWITCHER_SHUTDOWN_REBOOT) (leaveDead inject d) w := by
  apply yields_get
  intro _
  apply yields_ite
  · intro _
    apply yields_bind_of (switchToUivm_ends hinject hC hstill hfree false)
    intro _ w₁ _ _ htries
    exact yields_pure _ fun _ => .inl htries
  · intro hreboot
    exact yields_pure _ fun _ => .inr (not_not.mp hreboot)

/-- A focus that is left for the UIVM is on no entry that is gone. -/
theorem leaveDead_focus (hw : Living .bare w) (h : Leaving w d)
    (hsurface : w.switcher.surfaceCurrent ≠ some d) :
    wlp (leaveDead inject d) (fun _ w' => (w.switcher.current = some d →
      (w.domains d).sstate ≠ SWITCHER_SHUTDOWN_REBOOT ∧ ShowsUivm w w' d) → FocusLive w') w := by
  have hleaves := leaveDead_ends (C := w.scope) hinject id id hw.idle d hw.inScope
  refine wlp_mono hleaves ?_
  intro _ w' h' hsafe
  obtain ⟨_, hr, hend⟩ := h'
  by_cases hcurrent : w.switcher.current = some d
  · obtain ⟨hrunning, u, _, hu, hshows⟩ := hsafe hcurrent
    have htries := hend.resolve_right hrunning
    have hmoved : w'.switcher.current = some u := by
      cases htries with
      | inl hmoved =>
        obtain ⟨u', hu', hmoved⟩ := hmoved
        rw [hu] at hu'
        cases hu'
        exact hmoved
      | inr hstay => exact absurd hshows (hstay.2 u hu)
    have hknown : w.Known u := known_of_domainWithSlot hu
    refine ⟨hr.focused h.focused, ?_, ?_⟩
    · rw [hmoved]
      exact .some ((hr.known u).mpr hknown)
    · apply hr.surface.valid hr
      intro c hc
      cases h.surface c hc with
      | inl heq =>
        rw [heq] at hc
        exact absurd hc hsurface
      | inr hknown => exact hknown
  · exact (h.focusLive hcurrent hsurface).routed hr

/-- The switcher leaves the domain that is gone. -/
theorem switcherDomainGone_focus (hw : Living .bare w) (h : Leaving w d) :
    wlp (switcherDomainGone inject d) (fun _ w' =>
      (w.switcher.current = some d → ForgetSafe w w' d) → FocusLive w') w := by
  rw [switcherDomainGone, wlp_bind, wlp_get]
  apply wlp_ite
  · intro hsame
    rw [wlp_bind, modifySwitcher, wlp_modify]
    have hw₁ : Living .bare { w with switcher := { w.switcher with surfaceCurrent := none } } :=
      hw.setSwitcher (fun _ => id) _ rfl
    have hleaving : Leaving { w with switcher := { w.switcher with surfaceCurrent := none } } d :=
      ⟨h.gone, h.focused, h.known, fun _ hnone => by cases hnone⟩
    refine wlp_mono (leaveDead_focus hinject hw₁ hleaving (fun h => by cases h)) ?_
    intro _ w' hfocus hsafe
    apply hfocus
    intro hcurrent
    have hsafe := hsafe hcurrent
    rw [ForgetSafe, if_pos hsame] at hsafe
    exact hsafe
  intro hother
  have hsurface : w.switcher.surfaceCurrent ≠ some d := by
    intro heq
    rw [heq] at hother
    exact hother (sameDomid_self w d)
  apply wlp_ite
  · intro _
    rw [wlp_bind, modifySwitcher, wlp_modify]
    have hw₁ : Living .bare { w with switcher := { w.switcher with current := none } } :=
      hw.setSwitcher (fun _ => id) _ rfl
    have hleaving : Leaving { w with switcher := { w.switcher with current := none } } d :=
      ⟨h.gone, (fun _ hnone => by cases hnone), (fun _ hnone => by cases hnone), h.surface⟩
    refine wlp_mono (leaveDead_focus hinject hw₁ hleaving hsurface) ?_
    intro _ w' hfocus _
    exact hfocus (fun h => by cases h)
  · intro hgpu
    rw [wlp_pure]
    intro hsafe
    apply h.focusLive _ hsurface
    intro hcurrent
    have hsafe := hsafe hcurrent
    rw [ForgetSafe, if_neg hother] at hsafe
    rw [hcurrent] at hgpu
    exact hgpu ⟨sameDomid_self w d, hsafe⟩

end

/-- What forgetting an entry leaves as it is. -/
structure Forgetting (d : DomPtr) (w w' : World F) : Prop where
  others : ∀ a, a ≠ d → (w'.domains a).identity = (w.domains a).identity
  domid : ∀ a, (w'.domains a).domid = (w.domains a).domid
  sstate : (w'.domains d).sstate = (w.domains d).sstate
  gpu : (w'.domains d).hasSecondaryGpu = (w.domains d).hasSecondaryGpu
  switcher : w'.switcher = w.switcher
  answers : w'.answers = w.answers
  asked : w'.asked = w.asked
  log : w'.log = w.log

theorem Forgetting.refl (d : DomPtr) (w : World F) : Forgetting d w w where
  others _ _ := rfl
  domid _ := rfl
  sstate := rfl
  gpu := rfl
  switcher := rfl
  answers := rfl
  asked := rfl
  log := rfl

theorem Forgetting.trans {w w' w'' : World F} (h : Forgetting d w w') (h' : Forgetting d w' w'') :
    Forgetting d w w'' where
  others a ha := (h'.others a ha).trans (h.others a ha)
  domid a := (h'.domid a).trans (h.domid a)
  sstate := h'.sstate.trans h.sstate
  gpu := h'.gpu.trans h.gpu
  switcher := h'.switcher.trans h.switcher
  answers := h'.answers.trans h.answers
  asked := h'.asked.trans h.asked
  log := h'.log.trans h.log

section
variable {w w' : World F}

theorem Forgetting.known (h : Forgetting d w w') {a : DomPtr} (ha : a ≠ d) :
    w'.Known a ↔ w.Known a := by
  have hinit : (w'.domains a).initialised = (w.domains a).initialised :=
    congrArg Identity.initialised (h.others a ha)
  rw [World.Known, World.Known, hinit]

theorem Forgetting.leaving (h : Forgetting d w w') (hd : ¬w'.Known d) (hlive : FocusLive w) :
    Leaving w' d where
  gone := hd
  focused := by
    rw [Focused, h.switcher, h.log]
    intro c hc
    rw [h.domid]
    exact hlive.focused c hc
  known := by
    rw [h.switcher]
    intro c hc
    by_cases hcd : c = d
    · exact .inl hcd
    · exact .inr ((h.known hcd).mpr (hlive.known c hc))
  surface := by
    rw [h.switcher]
    intro c hc
    by_cases hcd : c = d
    · exact .inl hcd
    · exact .inr ((h.known hcd).mpr (hlive.surface c hc))

theorem Forgetting.showsUivm {w'' : World F} (h : Forgetting d w w') (hd : ¬w'.Known d)
    (hshows : ShowsUivm w w'' d) : ShowsUivm w' w'' d := by
  obtain ⟨u, hud, hu, hshows⟩ := hshows
  have hidentity := h.others u hud
  have hslot : (w'.domains u).slot = (w.domains u).slot := congrArg Identity.slot hidentity
  refine ⟨u, hud, ?_, ?_⟩
  · have hzero : (w'.domains u).slot = 0 := hslot.trans (slot_of_domainWithSlot hu)
    apply domainWithSlot_of_imp _ hu ((h.known hud).mpr (known_of_domainWithSlot hu)) hzero
    intro a ha hzero
    have had : a ≠ d := by
      intro heq
      rw [heq] at ha
      exact hd ha
    have hsame : (w'.domains a).slot = (w.domains a).slot :=
      congrArg Identity.slot (h.others a had)
    exact ⟨(h.known had).mp ha, hsame.symm.trans hzero⟩
  · exact hshows.of_later hidentity (Nat.le_of_eq h.asked.symm) (Nat.le_refl _) h.answers

theorem Forgetting.safe {w'' : World F} (h : Forgetting d w w') (hd : ¬w'.Known d)
    (hsafe : ForgetSafe w w'' d) : ForgetSafe w' w'' d := by
  rw [ForgetSafe, h.switcher, sameDomid_congr h.domid, h.sstate, h.gpu]
  rw [ForgetSafe] at hsafe
  by_cases hsame : w.sameDomid d w.switcher.surfaceCurrent = true
  · rw [if_pos hsame] at hsafe ⊢
    exact ⟨hsafe.1, h.showsUivm hd hsafe.2⟩
  · rw [if_neg hsame] at hsafe ⊢
    exact hsafe

end

theorem resetPrevKeybDomain_forgetting (d : DomPtr) (w : World F) :
    wlp (resetPrevKeybDomain d) (fun _ w' => Forgetting d w w' ∧ (w'.Known d ↔ w.Known d)) w := by
  have hkeeps {β : Type} (g : Domain F → β)
      (hg : ∀ x, g { x with prevKeybDomainPtr := none, prevKeybDomid := -1 } = g x) :=
    resetPrevKeybDomain_keeps hg d w
  have hrest : wlp (resetPrevKeybDomain d) (fun _ w' => w'.switcher = w.switcher ∧
      w'.answers = w.answers ∧ w'.asked = w.asked ∧ w'.log = w.log) w := by
    rw [resetPrevKeybDomain, wlp_modify]
    split
    · exact ⟨rfl, rfl, rfl, rfl⟩
    · exact ⟨rfl, rfl, rfl, rfl⟩
  intro _ w' hrun
  have hid := hkeeps Domain.identity (fun _ => rfl) _ w' hrun
  have hinit := hkeeps Domain.initialised (fun _ => rfl) _ w' hrun d
  have hrest := hrest _ w' hrun
  constructor
  · constructor
    · exact fun a _ => hid a
    · exact hkeeps Domain.domid (fun _ => rfl) _ w' hrun
    · exact hkeeps Domain.sstate (fun _ => rfl) _ w' hrun d
    · exact hkeeps Domain.hasSecondaryGpu (fun _ => rfl) _ w' hrun d
    · exact hrest.1
    · exact hrest.2.1
    · exact hrest.2.2.1
    · exact hrest.2.2.2
  · rw [World.Known, World.Known, hinit]

theorem dropDomain_forgetting (d : DomPtr) (w : World F) :
    wlp (dropDomain d) (fun _ w' => Forgetting d w w' ∧ ¬w'.Known d) w := by
  rw [dropDomain_eq, wlp_modify]
  constructor
  · exact { Forgetting.refl d w with
      others := fun a ha => congrArg Domain.identity (Function.update_of_ne ha _ _)
      domid := setDomain_congr (d := d) (x := (w.domains d).gone) Domain.domid rfl
      sstate := setDomain_congr (d := d) (x := (w.domains d).gone) Domain.sstate rfl d
      gpu := setDomain_congr (d := d) (x := (w.domains d).gone) Domain.hasSecondaryGpu rfl d }
  · exact fun hknown => (dropped_known hknown).1 rfl

theorem checkDivertsForTheDead_stays (d : DomPtr) (w : World F) :
    wlp (checkDivertsForTheDead d) (fun _ w' =>
      (∀ a, (w'.domains a).identity = (w.domains a).identity) ∧ w'.switcher = w.switcher ∧
        w'.log = w.log ∧ w'.asked = w.asked) w := by
  rw [checkDivertsForTheDead, wlp_modify]
  exact ⟨fun _ => rfl, rfl, rfl, rfl⟩

/-- A step that changes nothing that tells whether `d` is safe to go. -/
structure Unnoticed (d : DomPtr) (w w' : World F) : Prop where
  self : (w'.domains d).identity = (w.domains d).identity
  sstate : (w'.domains d).sstate = (w.domains d).sstate
  uivm : w'.domainUivm = w.domainUivm
  shown : ∀ u, w.domainUivm = some u → (w'.domains u).identity = (w.domains u).identity
  surface : w'.sameDomid d w.switcher.surfaceCurrent = w.sameDomid d w.switcher.surfaceCurrent
  switcher : w'.switcher = w.switcher
  deathWindow : w'.deathWindow = w.deathWindow
  answers : w'.answers = w.answers
  asked : w.asked ≤ w'.asked
  undiverted : Undiverted w d → Undiverted w' d

/-- What has to hold of a domain that goes: the focus does not stay on it, where the focus is
followed, and no other entry's divert leads to it, where the pointers are. -/
structure Departs (L : Regime F) (w w' : World F) (d : DomPtr) : Prop where
  focus : L.focused w' → GoneSafe w w' d
  spared : L.sound w' → Undiverted w d

section
variable {w w₁ w' : World F}

theorem Unnoticed.showsUivm (h : Unnoticed d w w₁) (hshows : ShowsUivm w w' d) :
    ShowsUivm w₁ w' d := by
  obtain ⟨u, hud, hu, hshows⟩ := hshows
  refine ⟨u, hud, h.uivm.trans hu, ?_⟩
  exact hshows.of_later (h.shown u hu) h.asked (Nat.le_refl _) h.answers

theorem Unnoticed.leavesPvm (h : Unnoticed d w w₁) (hleaves : LeavesPvm w w' d) :
    LeavesPvm w₁ w' d := by
  have hslot : (w₁.domains d).slot = (w.domains d).slot := congrArg Identity.slot h.self
  have hpvm : (w₁.domains d).isPvm = (w.domains d).isPvm := congrArg Identity.isPvm h.self
  constructor
  · exact hpvm.trans hleaves.isPvm
  · rw [h.sstate]
    exact hleaves.running
  · rw [hslot]
    exact hleaves.slot
  · rw [hslot, Unexpected, h.deathWindow, h.answers]
    exact fun n hn hn' => hleaves.unexpected n (Nat.le_trans h.asked hn) hn'

theorem Unnoticed.forgetSafe (h : Unnoticed d w w₁) (hsafe : ForgetSafe w w' d) :
    ForgetSafe w₁ w' d := by
  have hgpu : (w₁.domains d).hasSecondaryGpu = (w.domains d).hasSecondaryGpu :=
    congrArg Identity.hasSecondaryGpu h.self
  rw [ForgetSafe, h.switcher, h.surface, h.sstate, hgpu]
  rw [ForgetSafe] at hsafe
  by_cases hsame : w.sameDomid d w.switcher.surfaceCurrent = true
  · rw [if_pos hsame] at hsafe ⊢
    exact ⟨hsafe.1, h.showsUivm hsafe.2⟩
  · rw [if_neg hsame] at hsafe ⊢
    exact hsafe

theorem ForgetSafe.routed (h : ForgetSafe w w' d) (hr : Routed C w w₁)
    (hstay : FocusStays w w₁) : ForgetSafe w₁ w' d := by
  have hgpu : (w₁.domains d).hasSecondaryGpu = (w.domains d).hasSecondaryGpu :=
    congrArg Identity.hasSecondaryGpu (hr.domains d)
  have hsame : w₁.sameDomid d w.switcher.surfaceCurrent =
      w.sameDomid d w.switcher.surfaceCurrent := sameDomid_congr hr.domid _
  rw [ForgetSafe, hstay.surface, hsame, hgpu]
  rw [ForgetSafe] at h
  by_cases hsame : w.sameDomid d w.switcher.surfaceCurrent = true
  · rw [if_pos hsame] at h ⊢
    obtain ⟨hrunning, u, hud, hu, hshows⟩ := h
    refine ⟨hr.running d hrunning, u, hud, hr.domainUivm.trans hu, ?_⟩
    exact hshows.of_later (hr.domains u) hr.asked (Nat.le_refl _) hr.answers
  · rw [if_neg hsame] at h ⊢
    exact h

theorem Unnoticed.goneSafe (h : Unnoticed d w w₁) (hsafe : GoneSafe w w' d) :
    GoneSafe w₁ w' d := by
  have hpvm : (w₁.domains d).isPvm = (w.domains d).isPvm := congrArg Identity.isPvm h.self
  cases hsafe with
  | inl hleaves => exact .inl ⟨h.leavesPvm hleaves.1, h.showsUivm hleaves.2⟩
  | inr hforget =>
    refine .inr ⟨?_, ?_⟩
    · rw [h.switcher]
      exact fun hcurrent => h.forgetSafe (hforget.1 hcurrent)
    · rw [hpvm, h.sstate, h.uivm]
      exact hforget.2

theorem Unnoticed.departs (h : Unnoticed d w w₁) (hdeparts : Departs L w w' d) :
    Departs L w₁ w' d where
  focus hf := h.goneSafe (hdeparts.focus hf)
  spared hs := h.undiverted (hdeparts.spared hs)

/-- A PVM that left the display to the UIVM, or kept it, is safe to forget. -/
theorem GoneSafe.forgetSafe (h : GoneSafe w w' d) (hr : Routed C w w₁)
    (hends : ((w.domains d).isPvm = true ∧ (w.domains d).sstate ≠ SWITCHER_SHUTDOWN_REBOOT ∧
      TriesUivm w w₁) ∨ (FocusStays w w₁ ∧ ¬LeavesPvm w w₁ d))
    (hasked : w₁.asked ≤ w'.asked) (hcurrent : w₁.switcher.current = some d) :
    ForgetSafe w₁ w' d := by
  have hstays (hstay : FocusStays w w₁)
      (hforget : w.switcher.current = some d → ForgetSafe w w' d) : ForgetSafe w₁ w' d :=
    (hforget (hstay.current.symm.trans hcurrent)).routed hr hstay
  obtain ⟨hpvm, hrunning, htries⟩ | ⟨hstay, hno⟩ := hends
  · obtain ⟨u, hu, hmoved⟩ | ⟨hstay, hno⟩ := htries
    · rw [hcurrent] at hmoved
      cases hmoved
      obtain ⟨_, u, hud, hu', _⟩ | ⟨_, huivm⟩ := h
      · rw [hu] at hu'
        cases hu'
        exact absurd rfl hud
      · exact absurd hu (huivm hpvm hrunning)
    · obtain ⟨_, u, _, hu, hshows⟩ | ⟨hforget, _⟩ := h
      · exact absurd (hshows.of_later rfl (Nat.le_refl _) hasked rfl) (hno u hu)
      · exact hstays hstay hforget
  · obtain ⟨hleaves, _⟩ | ⟨hforget, _⟩ := h
    · exact absurd (hleaves.until hasked) hno
    · exact hstays hstay hforget

end

theorem markDetached (d : DomPtr) (w : World F) :
    Evolves L T (modifyDomain d fun x => { x with vkbdBackend := false }) w := by
  apply modifyDomain_unaltered
  · exact fun _ => ⟨rfl, rfl, rfl, rfl, rfl, rfl, rfl, rfl⟩
  · exact fun _ => rfl

theorem modifyDomain_mark (d : DomPtr) (w : World F) :
    wlp (modifyDomain d fun x => { x with vkbdBackend := false }) (fun _ w' =>
      (∀ a, (w'.domains a).identity = (w.domains a).identity) ∧ Unnoticed d w w' ∧
        w'.log = w.log) w := by
  rw [modifyDomain, wlp_modify]
  have hkept {β : Type} (g : Domain F → β)
      (hg : ∀ x : Domain F, g { x with vkbdBackend := false } = g x) (a : DomPtr) :
      g ((w.setDomain d { w.domains d with vkbdBackend := false }).domains a) =
        g (w.domains a) :=
    setDomain_congr g (hg _) a
  have hid := hkept Domain.identity fun _ => rfl
  refine ⟨hid, ?_, rfl⟩
  constructor
  · exact hid d
  · exact hkept Domain.sstate (fun _ => rfl) d
  · exact World.firstDomain_congr (Q := fun i => i.slot = 0) hid fun _ => rfl
  · exact fun u _ => hid u
  · exact sameDomid_congr (hkept Domain.domid fun _ => rfl) _
  · rfl
  · rfl
  · rfl
  · exact Nat.le_refl _
  · exact fun hun => hun.congr fun a _ => hkept Domain.divertInfo (fun _ => rfl) a

/-- A regime in which the focus is not followed. -/
def Regime.unfocused (L : Regime F) : Regime F :=
  { L with
    focused := fun _ => False
    focused_before := fun _ _ _ => id }

section
variable [Double F] {inject : Inject F} (hinject : InjectRoutes inject)
include hinject

/-- Forgetting a domain leaves the focus on a domain that is there, where it is safe to do. -/
theorem forgetDomain_focus (hlive : FocusLive w) (hlost : T.lost d)
    (hd : T.mine d → ¬w.Known d) : Yields (Living .bare) (Evolved T) (fun _ w' =>
      (w.switcher.current = some d → ForgetSafe w w' d) → FocusLive w')
      (forgetDomain inject d) w := by
  rw [forgetDomain_eq]
  apply yields_bind_of
    ((resetPrevKeybDomain_evolves d w).of_moves (resetPrevKeybDomain_forgetting d w))
  intro _ w₁ _ _ h₁
  have hd₁ (hmine : T.mine d) : ¬w₁.Known d := fun hknown => hd hmine (h₁.2.mp hknown)
  apply yields_bind_of
    ((dropDomain_evolves (fun _ => id) hlost hd₁ False.elim).of_moves (dropDomain_forgetting d w₁))
  intro _ w₃ hw₃ _ h₂
  have hforget := h₁.1.trans h₂.1
  have hgone : ¬w₃.Known d := h₂.2
  have hleaving := hforget.leaving hgone hlive
  apply yields_bind_of ((switcherDomainGone_evolves hinject (fun _ => id) d w₃).of_moves
    (switcherDomainGone_focus hinject hw₃ hleaving))
  intro _ w₄ _ _ hfocus
  apply ((checkDivertsForTheDead_evolves (L := .bare) False.elim).of_moves
    (checkDivertsForTheDead_stays d w₄)).mono
  intro _ w₅ _ _ hstays hsafe
  obtain ⟨hid, hswitcher, hlog, hasked⟩ := hstays
  have hlive₄ : FocusLive w₄ := by
    apply hfocus
    rw [hforget.switcher]
    intro hcurrent
    exact hforget.safe hgone ((hsafe hcurrent).until (Nat.le_of_eq hasked.symm))
  exact hlive₄.of_identity hid hswitcher hlog

/-- A domain that goes leaves the focus on one that is there, where it is safe to go. -/
theorem domainGone_focus (hlive : FocusLive w) (hlost : T.lost d)
    (hd : T.mine d → ¬w.Known d) : Yields (Living .bare) (Evolved T)
      (fun _ w' => GoneSafe w w' d → FocusLive w') (domainGone inject d) w := by
  apply yields_bind_of ((markDetached d w).of_moves (modifyDomain_mark d w))
  intro _ w₁ hw₁ _ hmarked
  obtain ⟨hid, hunnoticed, hlog⟩ := hmarked
  have hlive₁ := hlive.of_identity hid hunnoticed.switcher hlog
  have hleave := (leavePvm_ends (C := w₁.scope) hinject id id hw₁.idle d).mono
    fun _ w₂ _ hr hends => And.intro hr hends
  apply yields_bind_of (evolves_of_yields hleave T)
  intro _ w₂ _ _ hleft
  obtain ⟨hr, hends⟩ := hleft
  have hd₂ (hmine : T.mine d) : ¬w₂.Known d := by
    rw [hr.known, known_congr hid]
    exact hd hmine
  apply (forgetDomain_focus hinject (hlive₁.routed hr) hlost hd₂).mono
  intro _ w' _ hevolved hfocus hsafe
  apply hfocus
  intro hcurrent
  exact (hunnoticed.goneSafe hsafe).forgetSafe hr hends hevolved.asked hcurrent

/-- A domain goes that no other one diverts anything to, where the focus is not followed. -/
theorem domainGone_unfocused (hunfocused : ∀ w, ¬L.focused w) (hlost : T.lost d)
    (hd : T.mine d → ¬w.Known d) (hspared : L.sound w → Undiverted w d) :
    Evolves L T (domainGone inject d) w := by
  apply yields_bind_of ((markDetached d w).of_moves (modifyDomain_mark d w))
  intro _ w₁ hw₁ h₁ hmarked
  obtain ⟨hid, hunnoticed, _⟩ := hmarked
  have hleave : Yields (InScope w₁.scope) (Routed w₁.scope) (fun _ w₂ => Routed w₁.scope w₁ w₂ ∧
      (Sound w₁ → ∀ a, KeyTurned w₁ w₂ a)) (leavePvm inject d) w₁ := by
    intro hscope a w₂ hrun
    have hends := leavePvm_ends (C := w₁.scope) hinject id id hw₁.idle d hscope a w₂ hrun
    refine ⟨hends.1, hends.2.1, hends.2.1, ?_⟩
    intro hs
    exact (leavePvm_turns (C := w₁.scope) hinject hs id id hw₁.idle d hscope a w₂ hrun).2.2
  apply yields_bind_of (evolves_of_yields hleave T)
  intro _ w₂ _ h₂ hleft
  obtain ⟨hr, hturned⟩ := hleft
  apply forgetDomain_evolves hinject hunfocused hlost
  · rw [hr.known, known_congr hid]
    exact hd
  · intro hs
    have hs₁ := L.sound_before w₁ w₂ h₂.later hs
    have hundiverted := hunnoticed.undiverted (hspared (L.sound_before w w₁ h₁.later hs₁))
    exact hundiverted.turned hr (hturned (hw₁.sound hs₁))

omit hinject [Double F] in
/-- What keeps the invariant but for the focus, and the focus where it needs to, keeps both. -/
theorem evolves_focus {m : WorldM F α} (hunfocused : Evolves L.unfocused T m w)
    (hfocus : FocusLive w → Yields (Living .bare) (Evolved T)
      (fun _ w' => L.focused w' → FocusLive w') m w) : Evolves L T m w := by
  intro hw
  have hw₀ : Living L.unfocused w := { hw with focus := False.elim }
  intro a w' hrun
  obtain ⟨hw', hevolved, _⟩ := hunfocused hw₀ a w' hrun
  refine ⟨{ hw' with focus := ?_ }, hevolved, trivial⟩
  intro hf
  have hlive := hw.focus (L.focused_before w w' hevolved.later hf)
  exact (hfocus hlive hw.bare a w' hrun).2.2 hf

/-- A domain goes that is safe to go. -/
theorem domainGone_evolves (hlost : T.lost d) (hd : T.mine d → ¬w.Known d)
    (hsafe : ∀ w', w.Later w' → Departs L w w' d) : Evolves L T (domainGone inject d) w := by
  apply evolves_focus
  · apply domainGone_unfocused hinject (fun _ => id) hlost hd
    exact (hsafe w (World.later_of_eq rfl rfl)).spared
  · intro hlive
    apply (domainGone_focus hinject hlive hlost hd).mono
    intro _ w' _ hevolved hfocus hfocused
    exact hfocus ((hsafe w' hevolved.later).focus hfocused)

/-- What has to hold of a domain whose vkbd is detached. -/
structure Detaches (L : Regime F) (w w' : World F) (d : DomPtr) : Prop where
  focus : L.focused w' → w.switcher.current = some d → ForgetSafe w w' d
  spared : L.sound w' → Undiverted w d

theorem domainDetachVkbd_evolves (hlost : T.lost d) (hd : T.mine d → ¬w.Known d)
    (hsafe : (w.domains d).vkbdBackend = true → ∀ w', w.Later w' → Detaches L w w' d) :
    Evolves L T (domainDetachVkbd inject d) w := by
  apply yields_get
  intro _
  apply yields_ite
  · intro hbackend
    apply yields_bind_of ((markDetached d w).of_moves (modifyDomain_mark d w))
    intro _ w₁ _ h₁ hmarked
    obtain ⟨hid, hunnoticed, _⟩ := hmarked
    rw [← known_congr hid] at hd
    apply evolves_focus
    · apply forgetDomain_evolves hinject (fun _ => id) hlost hd
      exact fun hs => hunnoticed.undiverted ((hsafe hbackend w₁ h₁.later).spared hs)
    intro hlive
    apply (forgetDomain_focus hinject hlive hlost hd).mono
    intro _ w' _ hevolved hfocus hfocused
    apply hfocus
    rw [hunnoticed.switcher]
    intro hcurrent
    exact hunnoticed.forgetSafe
      ((hsafe hbackend w' (h₁.later.trans hevolved.later)).focus hfocused hcurrent)
  · intro _
    exact moves_pure _

omit hinject [Double F] in
/-- No divert leads to an entry that is free. -/
theorem Sound.undiverted (hw : Sound w) (hd : ¬w.Known d) : Undiverted w d where
  key a _ hkey := hd (hw.keyDomain a d hkey)
  mouse a _ hmouse := hd (hw.mouseDomain a d hmouse)

/-- An entry that is not initialised is given back. -/
theorem domainRelease_evolves (hlost : T.lost d) (hd : ¬w.Known d) :
    Evolves L T (domainRelease inject d) w := by
  have hunfocused (w₁ : World F) (hlater : w.Later w₁) (hw₁ : Living L w) (hf : L.focused w₁) :
      w.switcher.current ≠ some d :=
    fun hcurrent => hd ((hw₁.focus (L.focused_before w w₁ hlater hf)).known d hcurrent)
  apply yields_get
  intro hw
  apply yields_ite
  · intro _
    exact yields_throw _
  intro _
  have hdetach (T' : Turnover) (hlost' : T'.lost d) :
      Evolves L T' (domainDetachVkbd inject d) w := by
    apply domainDetachVkbd_evolves hinject hlost' (fun _ => hd)
    intro _ w' hlater
    constructor
    · exact fun hf hcurrent => absurd hcurrent (hunfocused w' hlater hw hf)
    · exact fun hs => (hw.sound (L.sound_before w w' hlater hs)).undiverted hd
  have hstays : wlp (domainDetachVkbd inject d) (fun _ w' => ¬w'.Known d) w := by
    refine wlp_mono (hdetach ⟨fun _ => False, fun a => a = d, False⟩ rfl hw) ?_
    intro _ w' h
    exact h.2.1.unknown id hd
  apply yields_bind_of ((hdetach T hlost).of_moves hstays)
  intro _ w₁ hw₁ _ hd₁
  apply evolves_focus
  · apply forgetDomain_evolves hinject (fun _ => id) hlost fun _ => hd₁
    exact fun hs => (hw₁.sound hs).undiverted hd₁
  intro hlive
  apply (forgetDomain_focus hinject hlive hlost fun _ => hd₁).mono
  intro _ w' _ _ hfocus _
  apply hfocus
  exact fun hcurrent => absurd (hlive.known d hcurrent) hd₁

end

end InputServer
