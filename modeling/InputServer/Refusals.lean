import InputServer.Reachable

namespace InputServer
open Program
set_option autoImplicit true

variable {F : Type} {w w' : World F} {d : DomPtr}

/-- The table, the focus and the destinations of the input are as they were. -/
structure Unchanged (w w' : World F) : Prop where
  known : ∀ a, w'.Known a ↔ w.Known a
  domid : ∀ a, w.Known a → (w'.domains a).domid = (w.domains a).domid
  slot : ∀ a, w.Known a → (w'.domains a).slot = (w.domains a).slot
  focus : w'.switcher.current = w.switcher.current
  mouse : w'.routing.mouseDest = w.routing.mouseDest
  keyboard : w'.routing.keybDest = w.routing.keybDest
  display : w'.switcher.surfaceCurrent = w.switcher.surfaceCurrent

section
variable [Double F] {inject : Inject F} {w₀ : World F} {acts : List Activity}

/-- A domain that connects has no slot in the end: its domid is registered already, or the slot
that it reads is -1 or held by a domain that is not dead. -/
def Refuses (inject : Inject F) (domid : Int) (w : World F) : Prop :=
  ∃ d w₁, w.emptyDomain = some d ∧
    slotFor inject d domid (w.connected d domid) = .ok (none, w₁)

/-- The entry of a domain that connects stays initialised, whether it gets a slot or not. -/
theorem domainCreate_known (hinject : InjectRoutes inject) (hw : Living .bare w)
    (he : w.emptyDomain = some d) (domid : Int) (pvm : Bool) :
    wlp (domainCreate inject domid pvm) (fun _ w' => w'.Known d) w := by
  have hevolved := domainCreate_evolved hinject hw he
    (fun _ _ _ _ => ⟨False.elim, False.elim⟩) domid pvm
  refine wlp_mono hevolved ?_
  intro _ w' h
  exact h.2.kept d rfl (connected_arriving hw (empty_of_emptyDomain he) domid).known

theorem domainCreate_changes (hinject : InjectRoutes inject) (hw : Living .bare w)
    (hrefused : Refuses inject domid w) (pvm : Bool) :
    wlp (domainCreate inject domid pvm) (fun _ w' => ¬Unchanged w w') w := by
  obtain ⟨d, _, he, _⟩ := hrefused
  refine wlp_mono (domainCreate_known hinject hw he domid pvm) ?_
  intro _ w' hknown hsame
  exact empty_of_emptyDomain he ((hsame.known d).mp hknown)

theorem slotFor_taken (d : DomPtr) (h : w.domainWithDomid domid ≠ none) :
    slotFor inject d domid w = .ok (none, w) := by
  have htaken : wp (slotFor inject d domid) (fun slot w' => slot = none ∧ w' = w) w := by
    rw [slotFor, wp_bind, wp_get, if_pos h, wp_pure]
    exact ⟨rfl, rfl⟩
  obtain ⟨_, _, hrun, rfl, rfl⟩ := htaken
  exact hrun

/-- A domain that `switcher_domid` refuses stays in the table. -/
theorem refused_connection_stays (h₀ : w₀.Initial) (hrun : Run Activity.Step w₀ acts w)
    (hrefused : Refuses (inputInject depth) domid w)
    (hok : domainCreate (inputInject depth) domid pvm w = .ok ((), w')) : ¬Unchanged w w' :=
  domainCreate_changes (inputInject_routes depth) (reachable_living h₀ hrun) hrefused pvm () w' hok

end

/-- One domain is connected. -/
def connectedOnce : World ℚ :=
  Activity.reached 5 [.op (.rpcConnect 5 false)] (startWorld (fun _ => told "1") [])

theorem connectedOnce_run : Run Activity.Step (startWorld (fun _ => told "1") [])
    [.op (.rpcConnect 5 false)] connectedOnce := by
  apply run_reached
  · intro a ha w
    simp only [List.mem_singleton] at ha
    rw [ha]
    trivial
  · decide +kernel

/-- The state after a run, where it does not fail. -/
theorem ok_of_isOk {x : Except Fault (Unit × World F)} (h : x.isOk = true) :
    ∃ w', x = .ok ((), w') := by
  cases x with
  | error e => cases h
  | ok r => exact ⟨r.2, rfl⟩

theorem connectedOnce_refuses : Refuses (inputInject 5) 5 connectedOnce := by
  have hempty : (connectedOnce.emptyDomain.elim 0 fun d => d.val) = 1 := by
    decide +kernel
  cases he : connectedOnce.emptyDomain with
  | none =>
    rw [he] at hempty
    cases hempty
  | some d =>
    rw [he] at hempty
    have hd : d = secondEntry := Fin.ext hempty
    have htaken : ((connectedOnce.connected secondEntry 5).domainWithDomid 5).isSome = true := by
      decide +kernel
    refine ⟨d, connectedOnce.connected secondEntry 5, he, ?_⟩
    have hfound := Option.isSome_iff_ne_none.mp htaken
    rw [hd]
    exact slotFor_taken secondEntry hfound

theorem connectedOnce_again :
    ∃ w', domainCreate (inputInject 5) 5 false connectedOnce = .ok ((), w') := by
  apply ok_of_isOk
  decide +kernel

theorem refused_connection_stays_again :
    ∃ w', domainCreate (inputInject 5) 5 false connectedOnce = .ok ((), w') ∧
      ¬Unchanged connectedOnce w' := by
  obtain ⟨w', hok⟩ := connectedOnce_again
  refine ⟨w', hok, ?_⟩
  exact refused_connection_stays (startWorld_initial _ _) connectedOnce_run
    connectedOnce_refuses hok

/-- A domid connects twice. -/
theorem refused_connection_changes :
    ∃ w w' : World ℚ, Run Activity.Step (startWorld (fun _ => told "1") [])
        [.op (.rpcConnect 5 false)] w ∧ Refuses (inputInject 5) 5 w ∧
      domainCreate (inputInject 5) 5 false w = .ok ((), w') ∧ ¬Unchanged w w' := by
  obtain ⟨w', hok⟩ := connectedOnce_again
  refine ⟨connectedOnce, w', connectedOnce_run, connectedOnce_refuses, hok, ?_⟩
  have hw := reachable_living (startWorld_initial _ _) connectedOnce_run
  exact domainCreate_changes (inputInject_routes 5) hw connectedOnce_refuses false () w' hok

/-- The slot that a domain asks for, and whether a dead domain is in it. -/
def slotClaim (d : DomPtr) : WorldM F (Int × Bool) := do
  domainReadUuid d
  domainReadIsPvDomain d
  let slot ← domainReadSlot d
  let w ← get
  if slot < 0 ∨ NDOMAIN_MAX ≤ slot then pure (slot, false)
  else do
    let dead ← slotOccupiedByDeadDomain slot (w.domains d).domid
    pure (slot, dead)

/-- The slot that a domain asks for is one of the table, and free or held by a dead domain. -/
def Grants (d : DomPtr) (w : World F) : Prop :=
  ∃ slot dead w₁, slotClaim d w = .ok ((slot, dead), w₁) ∧ 0 ≤ slot ∧ slot < NDOMAIN_MAX ∧
    (dead = true ∨ w₁.domainWithSlot slot = none)

/-- The initialised entries are as they were, but for those of dead domains. -/
structure TableKept (w w' : World F) : Prop where
  added : ∀ a, w'.Known a → w.Known a
  kept : ∀ a, w.Known a → .reclaimed a ∈ w.since w' ∨ (w'.Known a ∧
    (w'.domains a).domid = (w.domains a).domid ∧ (w'.domains a).slot = (w.domains a).slot)

section
variable [Double F] {inject : Inject F} (hinject : InjectRoutes inject)
include hinject

theorem forgetDomain_unknown (hlost : T.lost d) (hd : ¬T.mine d) :
    Yields (Living .bare) (Evolved T) (fun _ w' => ¬w'.Known d) (forgetDomain inject d) w := by
  rw [forgetDomain_eq]
  apply yields_bind (resetPrevKeybDomain_evolves d w)
  intro _ w₁ _ _
  have hgone := (dropDomain_evolves (L := .bare) (w := w₁) (fun _ => id) hlost
    (fun hmine => absurd hmine hd) False.elim).of_moves (dropDomain_forgetting d w₁)
  apply yields_bind_of hgone
  intro _ w₂ _ _ h₂
  have hrest : Evolves .bare T (do
      switcherDomainGone inject d
      checkDivertsForTheDead d) w₂ := by
    apply yields_bind (switcherDomainGone_evolves hinject (fun _ => id) d w₂)
    intro _ w₃ _ _
    exact checkDivertsForTheDead_evolves False.elim
  apply hrest.mono
  intro _ w' _ hevolved _
  exact hevolved.unknown hd h₂.2

/-- A domain that is gone is no longer initialised. -/
theorem domainGone_unknown (hlost : T.lost d) (hd : ¬T.mine d) :
    Yields (Living .bare) (Evolved T) (fun _ w' => ¬w'.Known d) (domainGone inject d) w := by
  apply yields_bind (markDetached d w)
  intro _ w₁ hw₁ _
  have hleave := (leavePvm_ends (C := w₁.scope) hinject id id hw₁.idle d).mono
    fun _ w₂ _ hr _ => hr
  apply yields_bind_of (evolves_of_yields hleave T)
  intro _ w₂ _ _ _
  exact forgetDomain_unknown hinject hlost hd

omit hinject [Double F] in
/-- A slot is free where nobody else has it. -/
theorem domainWithSlot_none (h : ∀ a, w.Known a → (w.domains a).slot ≠ slot) :
    w.domainWithSlot slot = none := by
  apply List.find?_eq_none.mpr
  intro a _ hfound
  obtain ⟨hknown, hslot⟩ := Bool.and_eq_true_iff.mp hfound
  exact h a hknown (of_decide_eq_true hslot)

/-- A slot is free once the dead domain that held it was removed. -/
theorem reclaimSlot_frees (hw : Living .bare w) (hpos : 0 ≤ slot)
    (hother : ∀ a, w.Known a → (w.domains a).domid ≠ domid)
    (hdead : slotOccupiedByDeadDomain slot domid w = .ok (dead, w₁)) :
    wlp (reclaimSlot inject slot domid) (fun _ w' => w'.domainWithSlot slot = none ↔
      dead = true ∨ w₁.domainWithSlot slot = none) w := by
  have hasks := slotOccupiedByDeadDomain_asks slot domid w
  have hw₁ := (evolves_of_routes (T := .none) hasks.routes hw dead w₁ hdead).1
  obtain ⟨n, hn⟩ := hasks.outcome dead w₁ hdead
  rw [reclaimSlot, wlp_bind]
  intro occupied w₂ hrun
  rw [hdead] at hrun
  cases hrun
  apply wlp_ite
  · intro hyes
    rw [wlp_bind, wlp_get]
    cases hfound : w₁.domainWithSlotAndNotDomid slot domid with
    | none =>
      rw [wlp_pure]
      refine iff_of_true ?_ (Or.inl hyes)
      apply domainWithSlot_none
      intro a ha hslot
      have hno := List.find?_eq_none.mp hfound a (List.mem_finRange a)
      have hnot : (w₁.domains a).domid ≠ domid := by
        rw [hn] at ha ⊢
        exact hother a ha
      exact hno (Bool.and_eq_true_iff.mpr ⟨ha, decide_eq_true ⟨hslot, hnot⟩⟩)
    | some e =>
      have he := known_of_firstDomain hfound
      have htaken := List.find?_some hfound
      have hslot : (w₁.domains e).slot = slot :=
        (of_decide_eq_true (Bool.and_eq_true_iff.mp htaken).2).1
      rw [wlp_bind]
      intro _ w₂ hlogged
      have hw₂ := (evolves_of_routes (T := .none) (happens_reclaimed e w₁) hw₁ () w₂ hlogged).1
      have hdomains : w₂.domains = w₁.domains := by
        cases hlogged
        rfl
      have hgone : Yields (Living .bare) (Evolved ⟨fun _ => False, fun a => a = e, False⟩)
          (fun _ w' => ¬w'.Known e) (domainGone inject e) w₂ :=
        domainGone_unknown hinject rfl id
      refine wlp_mono (hgone hw₂) ?_
      intro _ w' h
      obtain ⟨_, hevolved, hne⟩ := h
      refine iff_of_true ?_ (Or.inl hyes)
      apply domainWithSlot_none
      intro a ha hslot'
      have hsame := hevolved.before id ha
      rw [hdomains] at hsame
      have hold : w₁.Known a := (congrArg Identity.initialised hsame).symm.trans ha
      have hslot₁ : (w₁.domains a).slot = slot := (congrArg Identity.slot hsame).symm.trans hslot'
      have hea : a = e := by
        apply hw₁.unique.slot a e hold he
        · rw [hslot₁]
          exact hpos
        · exact hslot₁.trans hslot.symm
      rw [hea] at ha
      exact hne ha
  · intro hno
    rw [wlp_pure]
    exact ⟨Or.inr, fun h => h.resolve_left hno⟩

/-- Setting up an entry succeeds where its slot is granted. -/
theorem domainSetup_grants (hd : ¬w.Known d) (hw : Living .bare w)
    (hother : ∀ a, w.Known a → (w.domains a).domid ≠ (w.domains d).domid) :
    wlp (domainSetup inject d) (fun done _ => done = true ↔ Grants d w) w := by
  rw [domainSetup, wlp_bind]
  intro _ w₁ h₁
  have hp₁ := (domainReadUuid_prepares d w).outcome () w₁ h₁
  have hw₁ := (domainReadUuid_evolves (T := .none) d w hw () w₁ h₁).1
  rw [wlp_bind]
  intro _ w₂ h₂
  have hp₂ := hp₁.trans ((domainReadIsPvDomain_prepares d w₁).outcome () w₂ h₂)
  have hw₂ := (domainReadIsPvDomain_evolves (T := ⟨fun a => a = d, fun _ => False, False⟩) rfl w₁
    hw₁ () w₂ h₂).1
  have hassign : wlp (domainAssignSlot inject d) (fun assigned _ =>
      assigned = true ↔ Grants d w) w₂ := by
    rw [domainAssignSlot, wlp_bind]
    intro slot w₃ h₃
    have hslots := domainReadSlot_asks d w₂
    have hw₃ := (evolves_of_routes (T := .none) hslots.routes hw₂ slot w₃ h₃).1
    have hprepared := hp₂.trans (Asked.prepared (hslots.outcome slot w₃ h₃) d)
    have hother₃ (a : DomPtr) (ha : w₃.Known a) :
        (w₃.domains a).domid ≠ (w₃.domains d).domid := by
      have had : a ≠ d := by
        intro heq
        rw [heq, World.Known, hprepared.known] at ha
        exact hd ha
      rw [World.Known, hprepared.others a had] at ha
      rw [hprepared.others a had, hprepared.domid]
      exact hother a ha
    have hclaim : slotClaim d w = (if slot < 0 ∨ NDOMAIN_MAX ≤ slot then pure (slot, false)
        else do
          let dead ← slotOccupiedByDeadDomain slot (w₃.domains d).domid
          pure (slot, dead) : WorldM F (Int × Bool)) w₃ := by
      rw [slotClaim, bind_ok h₁, bind_ok h₂, bind_ok h₃, bind_ok (get_apply w₃)]
    rw [wlp_bind, wlp_get]
    by_cases hslot : slot < 0 ∨ NDOMAIN_MAX ≤ slot
    · rw [if_pos hslot] at hclaim ⊢
      rw [wlp_pure]
      apply iff_of_false
      · exact Bool.false_ne_true
      · rintro ⟨slot', dead, w', hrun, hpos, hmax, _⟩
        rw [hclaim, pure_apply] at hrun
        cases hrun
        exact hslot.elim (not_lt.mpr hpos) (not_le.mpr hmax)
    · rw [if_neg hslot] at hclaim ⊢
      have hbounds : 0 ≤ slot ∧ slot < NDOMAIN_MAX := by
        omega
      rw [wlp_bind]
      intro _ w₄ h₄
      obtain ⟨dead, w₅, hdead⟩ : ∃ dead w₅,
          slotOccupiedByDeadDomain slot (w₃.domains d).domid w₃ = .ok (dead, w₅) := by
        cases hrun : slotOccupiedByDeadDomain slot (w₃.domains d).domid w₃ with
        | error e =>
          rw [reclaimSlot, bind_apply, hrun] at h₄
          cases h₄
        | ok r => exact ⟨r.1, r.2, rfl⟩
      rw [bind_ok hdead, pure_apply] at hclaim
      have hfree : w₄.domainWithSlot slot = none ↔
          dead = true ∨ w₅.domainWithSlot slot = none :=
        reclaimSlot_frees hinject hw₃ hbounds.1 hother₃ hdead () w₄ h₄
      have hgrants : Grants d w ↔ w₄.domainWithSlot slot = none := by
        rw [hfree]
        constructor
        · rintro ⟨slot', dead', w', hrun, _, _, hgranted⟩
          rw [hclaim] at hrun
          cases hrun
          exact hgranted
        · intro hgranted
          exact ⟨slot, dead, w₅, hclaim, hbounds.1, hbounds.2, hgranted⟩
      rw [wlp_bind, wlp_get]
      apply wlp_ite
      · intro htaken
        rw [wlp_pure]
        exact iff_of_false Bool.false_ne_true fun hgranted => htaken (hgrants.mp hgranted)
      · intro hfree
        rw [wlp_bind]
        intro _ w₆ _
        rw [wlp_pure]
        exact iff_of_true rfl (hgrants.mpr (not_not.mp hfree))
  rw [wlp_bind]
  refine wlp_mono hassign ?_
  intro assigned w₃ hgrants
  apply wlp_ite
  · intro hyes
    rw [wlp_bind]
    intro _ w₄ _
    rw [wlp_bind]
    intro _ w₅ _
    rw [wlp_bind]
    intro _ w₆ _
    rw [wlp_pure]
    exact iff_of_true rfl (hgrants.mp hyes)
  · intro hno
    rw [wlp_pure]
    exact iff_of_false Bool.false_ne_true fun hgranted => hno (hgrants.mpr hgranted)

omit hinject [Double F] in
theorem TableKept.refl (w : World F) : TableKept w w where
  added _ ha := ha
  kept _ ha := .inr ⟨ha, rfl, rfl⟩

omit hinject in
/-- A table is kept where the entry that was tried is not initialised in the end. -/
theorem tableKept_iff (hd : ¬w.Known d)
    (h : Evolved (.attachment d) (w.attached d domid) w') : TableKept w w' ↔ ¬w'.Known d := by
  have hlog : (w.attached d domid).log = w.log := List.append_nil w.log
  have hsince : (w.attached d domid).since w' = w.since w' := by
    rw [World.since, World.since, hlog]
  have hothers (a : DomPtr) (ha : a ≠ d) : (w.attached d domid).domains a = w.domains a :=
    enrol_of_ne ha
  constructor
  · intro hkept hknown
    exact hd (hkept.added d hknown)
  · intro hgone
    constructor
    · intro a ha
      have had : a ≠ d := by
        intro heq
        rw [heq] at ha
        exact hgone ha
      have hsame := h.before (T := .attachment d) had ha
      rw [hothers a had] at hsame
      exact (congrArg Identity.initialised hsame).symm.trans ha
    · intro a ha
      have had : a ≠ d := by
        intro heq
        rw [heq] at ha
        exact hd ha
      have hdomain := h.domains a had
      rw [hothers a had, hsince] at hdomain
      cases hdomain with
      | inl hsame =>
        refine .inr ⟨(congrArg Identity.initialised hsame).trans ha, ?_, ?_⟩
        · exact congrArg Identity.domid hsame
        · exact congrArg Identity.slot hsame
      | inr hremoved =>
        obtain ⟨_, hlost | hreclaimed⟩ := hremoved
        · exact absurd hlost had
        · exact .inl hreclaimed.2

/-- What a new domain leaves in the table when no vkbd was attached to it. -/
theorem attachNewDomain_kept (hw : Living .bare w) (hnew : w.domainWithDomid domid = none) :
    wlp (attachNewDomain inject domid) (fun attached w' => attached = false → (TableKept w w' ↔
      ¬∃ d, w.emptyDomain = some d ∧ Grants d (w.attached d domid))) w := by
  cases he : w.emptyDomain with
  | none =>
    rw [attachNewDomain, wlp_bind, wlp_get, he, wlp_pure]
    intro _
    apply iff_of_true (TableKept.refl w)
    rintro ⟨d, hd, _⟩
    cases hd
  | some d =>
    have hd := empty_of_emptyDomain he
    have hself : (w.attached d domid).domains d = Domain.fresh domid none false 1 := enrol_self
    have hother (a : DomPtr) (ha : (w.attached d domid).Known a) :
        ((w.attached d domid).domains a).domid ≠ ((w.attached d domid).domains d).domid := by
      have had : a ≠ d := by
        intro heq
        rw [heq] at ha
        exact attached_unknown w d domid ha
      rw [World.Known, World.attached, enrol_of_ne had] at ha
      rw [hself, World.attached, enrol_of_ne had]
      intro heq
      have hno := List.find?_eq_none.mp hnew a (List.mem_finRange a)
      exact hno (Bool.and_eq_true_iff.mpr ⟨ha, decide_eq_true heq⟩)
    intro attached w' hrun _
    rw [attachNewDomain_eq he] at hrun
    have hunknown : w.domainWithDomid domid = none := hnew
    have hsetup := domainSetup_attached hinject hw he hunknown
      (fun _ _ => False.elim) fun _ _ _ _ => ⟨False.elim, False.elim⟩
    have hgrants := domainSetup_grants hinject (attached_unknown w d domid)
      (attached_living hw hd domid) hother
    have hall : wlp (do
        resetEntry d (Domain.fresh domid none false 1)
        let done ← domainSetup inject d
        finishAttach inject d done) (fun _ w' => Evolved (.attachment d) (w.attached d domid) w' ∧
          (w'.Known d ↔ Grants d (w.attached d domid))) w := by
      rw [wlp_bind]
      refine wlp_mono (resetEntry_eq d _ w) ?_
      intro _ w₁ hw₁
      rw [hw₁, wlp_bind]
      intro done w₂ h₂
      obtain ⟨hw₂, hevolved, hknown⟩ := hsetup done w₂ h₂
      have hfinish := finishAttach_evolves (T := .attachment d) hinject (fun _ => Iff.rfl)
        rfl hknown hw₂
      refine wlp_mono hfinish ?_
      intro _ w₃ h₃
      exact ⟨hevolved.trans h₃.2.1, h₃.2.2.trans (hgrants done w₂ h₂)⟩
    obtain ⟨hevolved, hknown⟩ := hall attached w' hrun
    rw [tableKept_iff hd hevolved, hknown]
    apply not_congr
    constructor
    · exact fun hgranted => ⟨d, rfl, hgranted⟩
    · rintro ⟨d', hd', hgranted⟩
      cases hd'
      exact hgranted

/-- Where the table stays as it was, if no vkbd was attached. -/
theorem inputDaemonAttachVkbd_kept (hw : Living .bare w) (domid : Int) :
    wlp (inputDaemonAttachVkbd inject domid) (fun attached w' => attached = false →
      (TableKept w w' ↔ ¬(w.domainWithDomid domid = none ∧
        ∃ d, w.emptyDomain = some d ∧ Grants d (w.attached d domid)))) w := by
  rw [inputDaemonAttachVkbd, wlp_bind, wlp_get]
  cases hfound : w.domainWithDomid domid with
  | none =>
    refine wlp_mono (attachNewDomain_kept hinject hw hfound) ?_
    intro attached w' hkept hfailed
    rw [hkept hfailed, and_iff_right rfl]
  | some d =>
    have hattach := attachVkbdTo_evolves (T := .none) hinject (known_of_firstDomain hfound) hw
    refine wlp_mono hattach ?_
    intro attached w' h hfailed
    rw [h.2.2 hfailed]
    exact iff_of_true (TableKept.refl w) fun hnew => by cases hnew.1

end

section
variable [Double F] {w₀ : World F} {acts : List Activity}

/-- A failed attach keeps the table, unless the domain is new and got a slot. -/
theorem failed_attach_kept (h₀ : w₀.Initial) (hrun : Run Activity.Step w₀ acts w)
    (hok : inputDaemonAttachVkbd (inputInject depth) domid w = .ok (false, w')) :
    TableKept w w' ↔ ¬(w.domainWithDomid domid = none ∧
      ∃ d, w.emptyDomain = some d ∧ Grants d (w.attached d domid)) :=
  inputDaemonAttachVkbd_kept (inputInject_routes depth) (reachable_living h₀ hrun) domid false w'
    hok rfl

end

/-- The state after an attach that failed. -/
theorem failed_of_check {x : Except Fault (Bool × World F)} {P : World F → Bool}
    (h : x.toOption.any (fun r => !r.1 && P r.2) = true) :
    ∃ w', x = .ok (false, w') ∧ P w' = true := by
  cases x with
  | error e => cases h
  | ok r =>
    obtain ⟨attached, w'⟩ := r
    cases attached with
    | true => cases h
    | false => exact ⟨w', rfl, h⟩

/-- The slot of the domain that is to be attached is taken. -/
theorem failed_attach_kept_taken :
    ∃ w', inputDaemonAttachVkbd (inputInject 5) 6 connectedOnce = .ok (false, w') ∧
      (TableKept connectedOnce w' ↔ ¬(connectedOnce.domainWithDomid 6 = none ∧
        ∃ d, connectedOnce.emptyDomain = some d ∧ Grants d (connectedOnce.attached d 6))) := by
  obtain ⟨w', hok, _⟩ : ∃ w', inputDaemonAttachVkbd (inputInject 5) 6 connectedOnce =
      .ok (false, w') ∧ (fun _ => true : World ℚ → Bool) w' = true := by
    apply failed_of_check
    decide +kernel
  exact ⟨w', hok, failed_attach_kept (startWorld_initial _ _) connectedOnce_run hok⟩

/-- A vkbd for a new domain that is no PV domain. -/
theorem failed_attach_left :
    ∃ w' : World ℚ, inputDaemonAttachVkbd (inputInject 5) 5 (startWorld (fun _ => told "1") []) =
      .ok (false, w') ∧ ¬TableKept (startWorld (fun _ => told "1") []) w' := by
  obtain ⟨w', hok, hknown⟩ : ∃ w', inputDaemonAttachVkbd (inputInject 5) 5
      (startWorld (fun _ => told "1") []) = .ok (false, w') ∧
        (fun w : World ℚ => (w.domains firstEntry).initialised) w' = true := by
    apply failed_of_check
    decide +kernel
  refine ⟨w', hok, ?_⟩
  intro hkept
  cases hkept.added firstEntry hknown

end InputServer
