import InputServer.Departures

namespace InputServer
open Program
set_option autoImplicit true

variable {F : Type} {C : Scope} {L : Regime F} {T : Turnover} {w : World F} {d e : DomPtr}

/-- What asking about the domain of an entry, and noting the answers there, leaves as it is. -/
structure Prepared (e : DomPtr) (w w' : World F) : Prop where
  others : ∀ a, a ≠ e → w'.domains a = w.domains a
  known : (w'.domains e).initialised = (w.domains e).initialised
  domid : (w'.domains e).domid = (w.domains e).domid
  slot : (w'.domains e).slot = (w.domains e).slot
  divertInfo : (w'.domains e).divertInfo = (w.domains e).divertInfo
  switcher : w'.switcher = w.switcher
  deathWindow : w'.deathWindow = w.deathWindow
  answers : w'.answers = w.answers
  asked : w.asked ≤ w'.asked
  log : w'.log = w.log

theorem Prepared.refl (e : DomPtr) (w : World F) : Prepared e w w where
  others _ _ := rfl
  known := rfl
  domid := rfl
  slot := rfl
  divertInfo := rfl
  switcher := rfl
  deathWindow := rfl
  answers := rfl
  asked := Nat.le_refl _
  log := rfl

theorem Prepared.trans {w w' w'' : World F} (h : Prepared e w w') (h' : Prepared e w' w'') :
    Prepared e w w'' where
  others a ha := (h'.others a ha).trans (h.others a ha)
  known := h'.known.trans h.known
  domid := h'.domid.trans h.domid
  slot := h'.slot.trans h.slot
  divertInfo := h'.divertInfo.trans h.divertInfo
  switcher := h'.switcher.trans h.switcher
  deathWindow := h'.deathWindow.trans h.deathWindow
  answers := h'.answers.trans h.answers
  asked := Nat.le_trans h.asked h'.asked
  log := h'.log.trans h.log

instance (e : DomPtr) : IsPreorder (World F) (Prepared e) where
  refl := Prepared.refl e
  trans _ _ _ := Prepared.trans

/-- Steps that only prepare an entry. -/
abbrev Prepares (e : DomPtr) (m : WorldM F α) (w : World F) : Prop :=
  Moves (fun _ => True) (Prepared e) m w

theorem Prepares.outcome {m : WorldM F α} (h : Prepares e m w) :
    wlp m (fun _ w' => Prepared e w w') w :=
  wlp_mono (h trivial) fun _ _ h' => h'.2.1

/-- Steps that only ask. -/
def Asked (w w' : World F) : Prop :=
  ∃ n, w' = { w with asked := w.asked + n }

instance : IsPreorder (World F) Asked where
  refl _ := ⟨0, rfl⟩
  trans w w' w'' h h' := by
    obtain ⟨n, hn⟩ := h
    obtain ⟨n', hn'⟩ := h'
    refine ⟨n + n', ?_⟩
    rw [hn', hn, Nat.add_assoc]

abbrev Asks (m : WorldM F α) (w : World F) : Prop :=
  Moves (fun _ => True) Asked m w

theorem Asked.prepared {w w' : World F} (h : Asked w w') (e : DomPtr) : Prepared e w w' := by
  obtain ⟨n, hn⟩ := h
  rw [hn]
  exact { Prepared.refl e w with asked := Nat.le_add_right _ _ }

theorem Asked.unmoved {w w' : World F} (h : Asked w w') : Unmoved w w' ∧ w'.plug = w.plug := by
  obtain ⟨n, hn⟩ := h
  rw [hn]
  exact ⟨⟨rfl, rfl, rfl, rfl, rfl, Nat.le_add_right _ _, rfl, rfl⟩, rfl⟩

theorem Asked.unnoticed {w w' : World F} (h : Asked w w') (d : DomPtr) : Unnoticed d w w' := by
  obtain ⟨n, hn⟩ := h
  rw [hn]
  exact ⟨rfl, rfl, rfl, fun _ _ => rfl, rfl, rfl, rfl, rfl, Nat.le_add_right _ _,
    fun hun => { hun with }⟩

theorem Asks.outcome {m : WorldM F α} (h : Asks m w) : wlp m (fun _ w' => Asked w w') w :=
  wlp_mono (h trivial) fun _ _ h' => h'.2.1

theorem Asks.prepares {m : WorldM F α} (h : Asks m w) (e : DomPtr) : Prepares e m w := by
  intro _
  refine wlp_mono h.outcome ?_
  intro _ w' hasked
  exact ⟨trivial, hasked.prepared e, trivial⟩

theorem Asks.routes {m : WorldM F α} (h : Asks m w) : Routes C m w := by
  intro hw
  refine wlp_mono h.outcome ?_
  intro _ w' hasked
  obtain ⟨hunmoved, hplug⟩ := hasked.unmoved
  have hcaptured : Captured w'.plug := by
    rw [hplug]
    exact hw.captured
  have hstep := hunmoved.step hcaptured hw
  exact ⟨hstep.1, hstep.2, trivial⟩

theorem ask_asks (f : Answers → α) (w : World F) : Asks (ask f) w := by
  intro _ a w' hrun
  cases hrun
  exact ⟨trivial, ⟨1, rfl⟩, trivial⟩

theorem ask_prepares (f : Answers → α) (e : DomPtr) (w : World F) : Prepares e (ask f) w :=
  (ask_asks f w).prepares e

theorem modifyDomain_prepares {f : Domain F → Domain F}
    (hf : ∀ x, (f x).initialised = x.initialised ∧ (f x).domid = x.domid ∧
      (f x).slot = x.slot ∧ (f x).divertInfo = x.divertInfo)
    (e : DomPtr) (w : World F) : Prepares e (modifyDomain e f) w := by
  apply moves_modify
  intro _
  have hself : (w.setDomain e (f (w.domains e))).domains e = f (w.domains e) := setDomain_self
  obtain ⟨hknown, hdomid, hslot, hdivert⟩ := hf (w.domains e)
  refine ⟨trivial, ?_⟩
  change Prepared e w (w.setDomain e (f (w.domains e)))
  exact { Prepared.refl e w with
    others := fun _ ha => setDomain_of_ne ha
    known := by rw [hself, hknown]
    domid := by rw [hself, hdomid]
    slot := by rw [hself, hslot]
    divertInfo := by rw [hself, hdivert] }

theorem domainReadUuid_prepares (e : DomPtr) (w : World F) : Prepares e (domainReadUuid e) w := by
  apply yields_get
  intro _
  apply yields_bind (ask_prepares _ e w)
  intro vm w₁ _ _
  cases vm with
  | none => exact moves_pure _
  | some vm =>
    apply yields_bind (ask_prepares _ e w₁)
    intro uuid w₂ _ _
    apply modifyDomain_prepares
    exact fun _ => ⟨rfl, rfl, rfl, rfl⟩

theorem domainReadIsPvDomain_prepares (e : DomPtr) (w : World F) :
    Prepares e (domainReadIsPvDomain e) w := by
  apply yields_get
  intro _
  apply yields_bind (ask_prepares _ e w)
  intro info w₁ _ _
  apply modifyDomain_prepares
  exact fun _ => ⟨rfl, rfl, rfl, rfl⟩

theorem domainReadSlot_asks (e : DomPtr) (w : World F) : Asks (domainReadSlot e) w := by
  apply yields_get
  intro _
  apply yields_bind (ask_asks _ w)
  intro slot w₁ _ _
  cases slot with
  | none => exact moves_pure _
  | some s =>
    apply yields_bind (ask_asks _ w₁)
    intro stack w₂ _ _
    split
    · exact moves_pure _
    · exact moves_pure _

theorem allButDead_asks (d : DomPtr) (w : World F) : Asks (allButDead d) w := by
  apply yields_get
  intro _
  apply yields_bind (ask_asks _ w)
  intro info w₁ _ _
  cases info with
  | none => exact moves_pure _
  | some info =>
    apply yields_bind (ask_asks _ w₁)
    intro reported w₂ _ _
    exact moves_pure _

theorem slotHolderDead_asks (slot : Int) (w : World F) : Asks (slotHolderDead slot) w := by
  apply yields_get
  intro _
  split
  · exact moves_pure _
  · exact allButDead_asks _ w

theorem slotOccupiedByDeadDomain_asks (slot domid : Int) (w : World F) :
    Asks (slotOccupiedByDeadDomain slot domid) w := by
  apply yields_get
  intro _
  apply yields_ite
  · intro _
    exact moves_pure _
  intro _
  split
  · exact slotHolderDead_asks slot w
  · apply yields_bind (ask_asks _ w)
    intro known w₁ _ _
    apply yields_ite
    · intro _
      exact slotHolderDead_asks slot w₁
    · intro _
      exact moves_pure _

/-- What stands for the domain of an entry is the same in two values of it. -/
structure Resembles (x y : Domain F) : Prop where
  initialised : y.initialised = x.initialised
  client : y.client = x.client
  domid : y.domid = x.domid
  slot : y.slot = x.slot
  lastDevslot : y.lastDevslot = x.lastDevslot
  divertInfo : y.divertInfo = x.divertInfo
  prevPtr : y.prevKeybDomainPtr = x.prevKeybDomainPtr
  prevDomid : y.prevKeybDomid = x.prevKeybDomid

theorem Resembles.configures {x : Domain F} (h : Resembles (w.domains d) x) (hw : Unique w)
    (hpvm : x.isPvm = true → w.Known d) : Configures w d x where
  name := ⟨h.initialised, h.domid⟩
  client := h.client
  lastDevslot := h.lastDevslot
  divertInfo := h.divertInfo
  prev := by
    rw [World.PrevOf, h.prevPtr, h.prevDomid]
    exact id
  prevPtr := h.prevPtr.trans
  pvm := hpvm
  slot a had hd ha hpos heq := by
    rw [h.slot] at hpos heq
    exact had (hw.slot d a hd ha hpos heq.symm).symm

/-- Setting up an entry whose domain stays the one it is. -/
theorem modifyDomain_resembles {f : Domain F → Domain F} (hmine : T.mine d)
    (h : ∀ x, Resembles x (f x)) (hpvm : ∀ x, (f x).isPvm = true → x.isPvm = true) :
    Evolves L T (modifyDomain d f) w := by
  apply modifyDomain_configures hmine
  intro hw
  exact (h _).configures hw.unique fun htrue => hw.pvm d (hpvm _ htrue)

theorem domainReadUuid_evolves (d : DomPtr) (w : World F) : Evolves L T (domainReadUuid d) w := by
  apply yields_get
  intro _
  apply yields_bind (evolves_of_routes (ask_routes _ w))
  intro vm w₁ _ _
  cases vm with
  | none => exact moves_pure _
  | some vm =>
    apply yields_bind (evolves_of_routes (ask_routes _ w₁))
    intro uuid w₂ _ _
    apply modifyDomain_unaltered
    · exact fun _ => ⟨rfl, rfl, rfl, rfl, rfl, rfl, rfl, rfl⟩
    · exact fun _ => rfl

theorem domainReadIsPvDomain_evolves (hmine : T.mine d) (w : World F) :
    Evolves L T (domainReadIsPvDomain d) w := by
  apply yields_get
  intro _
  apply yields_bind (evolves_of_routes (ask_routes _ w))
  intro info w₁ _ _
  apply modifyDomain_resembles hmine
  · exact fun _ => ⟨rfl, rfl, rfl, rfl, rfl, rfl, rfl, rfl⟩
  · exact fun _ => id

theorem domainReadHasSecondaryGpu_evolves (hmine : T.mine d) (w : World F) :
    Evolves L T (domainReadHasSecondaryGpu d) w := by
  apply yields_get
  intro _
  apply yields_ite
  · intro _
    apply modifyDomain_resembles hmine
    · exact fun _ => ⟨rfl, rfl, rfl, rfl, rfl, rfl, rfl, rfl⟩
    · exact fun _ => id
  · intro _
    apply yields_bind (evolves_of_routes (dbRead_routes _ w))
    intro gpu w₁ _ _
    apply modifyDomain_resembles hmine
    · exact fun _ => ⟨rfl, rfl, rfl, rfl, rfl, rfl, rfl, rfl⟩
    · exact fun _ => id

theorem xenVkbdBackendCreate_routes (d : DomPtr) (w : World F) :
    Routes C (xenVkbdBackendCreate d) w := by
  apply yields_bind (ask_routes _ w)
  intro registered w₁ _ _
  apply yields_ite
  · intro _
    apply modifyDomain_routes
    · exact fun _ => ⟨rfl, rfl, rfl, rfl, rfl, rfl, rfl, rfl⟩
    · exact fun _ => rfl
  · intro _
    exact moves_pure _

theorem onstartSendconfig_evolves (d : DomPtr) (w : World F) :
    Evolves L T (onstartSendconfig d) w := by
  apply yields_get
  intro _
  apply yields_ite
  · intro _
    apply yields_bind (evolves_of_routes (onPlug_routes fun p => sendPluginDevEvent_keepsDest _ _ p))
    intro _ w₁ _ _
    exact evolves_of_routes (sendSlot_routes d _ w₁)
  · intro _
    exact evolves_of_routes (sendSlot_routes d _ w)

section
variable [Double F] {inject : Inject F} (hinject : InjectRoutes inject)
include hinject

theorem focusInitialSwitch_evolves (hd : w.Known d) :
    Evolves L T (focusInitialSwitch inject d) w := by
  apply yields_bind_of (evolves_routed (ask_routes _ w))
  intro focusUuid w₁ _ _ h₁
  apply yields_get
  intro _
  have hd₁ : w₁.Valid (some d) := .some ((h₁.known d).mpr hd)
  have hlast (w' : World F) : Evolves L T (do
      let now ← gettimeofday
      modifyDomain d fun x => { x with lastInputEvent := now }) w' := by
    apply yields_bind (evolves_of_routes (gettimeofday_routes w'))
    intro now w'' _ _
    apply modifyDomain_unaltered
    · exact fun _ => ⟨rfl, rfl, rfl, rfl, rfl, rfl, rfl, rfl⟩
    · exact fun _ => rfl
  apply yields_ite
  · intro _
    apply yields_bind (switcherSwitch_evolves hinject hd₁ false)
    intro _ w₂ _ _
    exact hlast w₂
  · intro _
    exact hlast w₁

theorem focusUpdateDomain_evolves (hd : w.Known d) :
    Evolves L T (focusUpdateDomain inject d) w := by
  apply yields_get
  intro _
  apply yields_ite
  · intro _
    exact moves_pure _
  · intro _
    apply yields_bind_of (evolves_routed (focusDontExpectDeath_routes d w))
    intro _ w₁ _ _ hr
    exact focusInitialSwitch_evolves hinject ((hr.known d).mpr hd)

theorem switcherS3_evolves (d : DomPtr) (w : World F) : Evolves L T (switcherS3 inject d) w := by
  apply yields_get
  intro _
  apply yields_ite
  · intro _
    exact moves_pure _
  · intro _
    apply yields_bind (switchToUivm_evolves hinject false w)
    intro _ w₁ _ _
    exact moves_pure _

/-- A domain that sleeps is the guest that it was. -/
theorem sleepDomain_evolves (d : DomPtr) (w : World F) : Evolves L T (sleepDomain inject d) w := by
  apply yields_bind (evolves_of_routes (gettimeofday_routes w))
  intro now w₁ _ _
  apply yields_bind
  · apply modifyDomain_sameGuest
    · exact fun _ => rfl
    · exact fun _ => rfl
    · exact fun _ => rfl
    · exact fun _ _ _ => nofun
    · exact fun _ _ => rfl
  intro _ w₂ _ _
  apply yields_bind (resetPrevKeybDomain_evolves d w₂)
  intro _ w₃ _ _
  exact switcherS3_evolves hinject d w₃

theorem domainPowerState_evolves (path : String) (d : DomPtr) (w : World F) :
    Evolves L T (domainPowerState inject path d) w := by
  apply yields_bind (evolves_of_routes (ask_routes _ w))
  intro state w₁ _ _
  cases state with
  | none => exact moves_pure _
  | some s =>
    apply yields_ite
    · intro _
      exact sleepDomain_evolves hinject d w₁
    · intro _
      exact moves_pure _

/-- A dead domain leaves its slot, where it is safe to go. -/
theorem reclaim_evolves (hreclaims : T.reclaims) (hd : T.mine d → ¬w.Known d)
    (hsafe : ∀ w', w.Later w' → .reclaimed d ∈ w.since w' → Departs L w w' d) :
    Evolves L T (do
      happens (.reclaimed d)
      domainGone inject d) w := by
  have hall : Yields (Living L) (Evolved { T with lost := fun a => T.lost a ∨ a = d })
      (fun _ w' => .reclaimed d ∈ w.since w') (do
        happens (.reclaimed d)
        domainGone inject d) w := by
    have hlogged : wlp (happens (.reclaimed d))
        (fun _ w' => w' = { w with log := w.log ++ [.reclaimed d] }) w := by
      rw [happens, wlp_modify]
    apply yields_bind_of ((evolves_of_routes (happens_reclaimed d w)).of_moves hlogged)
    intro _ w₁ _ _ hw₁
    have hin (w' : World F) (hlater : w₁.Later w') :
        w.Later w' ∧ .reclaimed d ∈ w.since w' := by
      obtain ⟨new, hnew⟩ := hlater.log
      have hlog : w'.log = w.log ++ ([.reclaimed d] ++ new) := by
        rw [hnew, hw₁, List.append_assoc]
      have hasked := hlater.asked
      rw [hw₁] at hasked
      refine ⟨⟨⟨_, hlog⟩, hasked⟩, ?_⟩
      rw [since_eq hlog]
      exact List.mem_cons_self
    have hunnoticed : Unnoticed d w w₁ := by
      rw [hw₁]
      exact ⟨rfl, rfl, rfl, fun _ _ => rfl, rfl, rfl, rfl, rfl, Nat.le_refl _,
        fun hun => { hun with }⟩
    have hd₁ (hm : T.mine d) : ¬w₁.Known d := by
      rw [hw₁]
      exact hd hm
    have hgone := domainGone_evolves (L := L)
      (T := { T with lost := fun a => T.lost a ∨ a = d }) hinject (.inr rfl) hd₁
      (fun w' hlater => hunnoticed.departs (hsafe w' (hin w' hlater).1 (hin w' hlater).2))
    apply hgone.mono
    intro _ w' _ hevolved _
    exact (hin w' hevolved.later).2
  intro hw
  refine wlp_mono (hall hw) ?_
  intro _ w' h
  exact ⟨h.1, h.2.1.reclaimed hreclaims h.2.2, trivial⟩

theorem reclaimSlot_evolves (hreclaims : T.reclaims)
    (hmine : ∀ e, T.mine e → (w.domains e).domid = domid)
    (hsafe : ∀ dead w', (w.domains dead).domid ≠ domid → w.Later w' →
      .reclaimed dead ∈ w.since w' → Departs L w w' dead) :
    Evolves L T (reclaimSlot inject slot domid) w := by
  have hasks := slotOccupiedByDeadDomain_asks slot domid w
  apply yields_bind_of ((evolves_of_routes hasks.routes).of_moves hasks.outcome)
  intro occupied w₁ _ h₁ hasked
  apply yields_ite
  · intro _
    apply yields_get
    intro _
    cases hdead : w₁.domainWithSlotAndNotDomid slot domid with
    | none => exact moves_pure _
    | some dead =>
      obtain ⟨n, hn⟩ := hasked
      have hother : (w.domains dead).domid ≠ domid := by
        have hfound := List.find?_some hdead
        rw [hn] at hfound
        exact (of_decide_eq_true (Bool.and_eq_true_iff.mp hfound).2).2
      apply reclaim_evolves hinject hreclaims
      · exact fun hm => absurd (hmine dead hm) hother
      · intro w' hlater hin
        have hsince : w₁.since w' = w.since w' := by
          rw [World.since, World.since, hn]
        rw [hsince] at hin
        exact (Asked.unnoticed ⟨n, hn⟩ dead).departs
          (hsafe dead w' hother (h₁.later.trans hlater) hin)
  · intro _
    exact moves_pure _

theorem startDomain_evolves (hmine : T.mine d) (hd : w.Known d) :
    Evolves L T (startDomain inject d) w := by
  apply yields_bind
  · apply modifyDomain_resembles hmine
    · exact fun _ => ⟨rfl, rfl, rfl, rfl, rfl, rfl, rfl, rfl⟩
    · exact fun _ => nofun
  intro _ w₁ _ h₁
  apply yields_bind (domainPowerState_evolves hinject _ d w₁)
  intro _ w₂ _ h₂
  apply yields_bind (evolves_of_routes (xenVkbdBackendCreate_routes d w₂))
  intro _ w₃ _ h₃
  apply yields_bind (domainReadHasSecondaryGpu_evolves hmine w₃)
  intro _ w₄ _ h₄
  apply yields_bind (evolves_of_routes (domainMouseSwitchConfig_routes d w₄))
  intro _ w₅ _ h₅
  have hevolved := (((h₁.trans h₂).trans h₃).trans h₄).trans h₅
  apply yields_bind (focusUpdateDomain_evolves hinject (hevolved.kept d hmine hd))
  intro _ w₆ _ _
  exact onstartSendconfig_evolves d w₆

end

end InputServer
