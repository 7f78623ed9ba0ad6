import InputServer.RepeatedClicks

namespace InputServer
open Program
set_option autoImplicit true

/-- `current_grab`, and the descriptors and grabs of `input_dev`. -/
structure Grabs where
  current : Int
  fds : Fin N_DEVS → Int
  grab : Fin N_DEVS → Int

/-- `update_grabs`, where some devices refuse the request. -/
def updateGrabs (refuses : Fin N_DEVS → Bool) (g : Grabs) : Grabs :=
  { g with
    grab := fun i =>
      if g.fds i ≠ -1 ∧ g.grab i ≠ g.current ∧ ¬refuses i then g.current else g.grab i }

def doGrab (refuses : Fin N_DEVS → Bool) (g : Grabs) (grab : Int) : Grabs :=
  updateGrabs refuses { g with current := grab }

/-- A computation of the bus methods that lists what they give to `do_grab`. -/
abbrev Grabbing (F : Type) := Ledger Fault (World F) Int

namespace Grabbing

section
variable {F : Type}

def inputSetMouse (d : DomPtr) : Grabbing F Unit := do
  beside (modifyRouting fun r => { r with
    keybWaitsForClick := !r.keybWaitsForClick || r.keybDest ≠ some d })
  note 1
  beside (setMouseDomain d)

def syncMouseDomain (d : Option DomPtr) : Grabbing F Unit := do
  let w ← beside get
  if w.routing.mouseParent = d ∨ w.routing.mouseDest = d then do
    inputSetMouse (← beside (deref d))
    beside (dupMouseClicks d)
  else beside (dupMouseClicks d)

def inputDaemonDivertMouseFocus (sender : Int) (uuid : String)
    (s1 s2 s3 s4 d1 d2 d3 d4 : UInt32) : Grabbing F (Option BusError) := do
  let w ← beside get
  match w.domainWithDomid sender, w.domainWithUuid uuid with
  | none, _ => pure (some .noSrcId)
  | some _, none => pure (some .badUuid)
  | some d, some td =>
    if emptyFrame s1 s2 s3 s4 ∨ emptyFrame d1 d2 d3 d4 then pure (some .badFrame)
    else do
      beside (modifyDivert d fun dv => { dv with
        sframe := orderedFrame s1 s2 s3 s4, dframe := orderedFrame d1 d2 d3 d4
        mouseDomain := some td })
      syncMouseDomain (some d)
      pure none

def inputDaemonStopMouseDivert (sender : Int) : Grabbing F Unit := do
  let w ← beside get
  let d := w.domainWithDomid sender
  match d with
  | none => syncMouseDomain none
  | some d => do
    beside (modifyDomain d fun x => { x with
      divertInfo := x.divertInfo.map fun dv => { dv with mouseDomain := none } })
    syncMouseDomain (some d)

variable (inject : Inject F)

def inputSetKeyb (d : DomPtr) : Grabbing F Unit := do
  beside (leaveKeyboard inject false)
  beside (modifyRouting fun r => { r with keybWaitsForClick := false })
  note 1
  beside (setKbdDomain d)

def syncKbdDomain (d : Option DomPtr) : Grabbing F Unit := do
  let w ← beside get
  if w.routing.keybParent = d ∨ w.routing.keybDest = d then do
    inputSetKeyb inject (← beside (deref d))
  else pure ()

def inputDaemonDivertKeyboardFocus (sender : Int) (uuid : String) :
    Grabbing F (Option BusError) := do
  let w ← beside get
  match w.domainWithDomid sender, w.domainWithUuid uuid with
  | none, _ => pure (some .noSrcId)
  | some _, none => pure (some .badUuid)
  | some d, some td => do
    beside (modifyDivert d fun dv => { dv with keyDomain := some td })
    syncKbdDomain inject (some d)
    pure none

def inputDaemonStopKeyboardDivert (sender : Int) : Grabbing F Unit := do
  let w ← beside get
  match w.domainWithDomid sender with
  | none => syncKbdDomain inject none
  | some d => do
    beside (modifyDomain d fun x => { x with
      divertInfo := x.divertInfo.map fun dv => { dv with keyDomain := none } })
    syncKbdDomain inject (some d)

end

end Grabbing

section
variable {F : Type}

theorem annotates_syncMouseDomain (d : Option DomPtr) :
    Annotates (Grabbing.syncMouseDomain d) (syncMouseDomain d : WorldM F Unit) := by
  apply annotates_bind (annotates_beside _)
  intro w
  apply annotates_ite _ (annotates_beside _)
  apply annotates_bind (annotates_beside _)
  intro d'
  apply annotates_bind _ fun _ => annotates_beside _
  apply annotates_bind (annotates_beside _)
  intro _
  exact annotates_note 1 (annotates_beside _)

theorem annotates_divertMouseFocus (sender : Int) (uuid : String)
    (s1 s2 s3 s4 d1 d2 d3 d4 : UInt32) :
    Annotates (Grabbing.inputDaemonDivertMouseFocus sender uuid s1 s2 s3 s4 d1 d2 d3 d4)
      (inputDaemonDivertMouseFocus sender uuid s1 s2 s3 s4 d1 d2 d3 d4 :
        WorldM F (Option BusError)) := by
  apply annotates_bind (annotates_beside _)
  intro w
  cases w.domainWithDomid sender with
  | none => exact annotates_pure _
  | some d =>
    cases w.domainWithUuid uuid with
    | none => exact annotates_pure _
    | some td =>
      apply annotates_ite (annotates_pure _)
      apply annotates_bind (annotates_beside _)
      intro _
      exact annotates_bind (annotates_syncMouseDomain _) fun _ => annotates_pure _

theorem annotates_stopMouseDivert (sender : Int) :
    Annotates (Grabbing.inputDaemonStopMouseDivert sender)
      (inputDaemonStopMouseDivert sender : WorldM F Unit) := by
  apply annotates_bind (annotates_beside _)
  intro w
  cases w.domainWithDomid sender with
  | none => exact annotates_syncMouseDomain none
  | some d => exact annotates_bind (annotates_beside _) fun _ => annotates_syncMouseDomain _

variable (inject : Inject F)

theorem annotates_syncKbdDomain (d : Option DomPtr) :
    Annotates (Grabbing.syncKbdDomain inject d) (syncKbdDomain inject d) := by
  apply annotates_bind (annotates_beside _)
  intro w
  apply annotates_ite _ (annotates_pure _)
  apply annotates_bind (annotates_beside _)
  intro d'
  apply annotates_bind (annotates_beside _)
  intro _
  apply annotates_bind (annotates_beside _)
  intro _
  exact annotates_note 1 (annotates_beside _)

theorem annotates_divertKeyboardFocus (sender : Int) (uuid : String) :
    Annotates (Grabbing.inputDaemonDivertKeyboardFocus inject sender uuid)
      (inputDaemonDivertKeyboardFocus inject sender uuid) := by
  apply annotates_bind (annotates_beside _)
  intro w
  cases w.domainWithDomid sender with
  | none => exact annotates_pure _
  | some d =>
    cases w.domainWithUuid uuid with
    | none => exact annotates_pure _
    | some td =>
      apply annotates_bind (annotates_beside _)
      intro _
      exact annotates_bind (annotates_syncKbdDomain inject _) fun _ => annotates_pure _

theorem annotates_stopKeyboardDivert (sender : Int) :
    Annotates (Grabbing.inputDaemonStopKeyboardDivert inject sender)
      (inputDaemonStopKeyboardDivert inject sender) := by
  apply annotates_bind (annotates_beside _)
  intro w
  cases w.domainWithDomid sender with
  | none => exact annotates_syncKbdDomain inject none
  | some d => exact annotates_bind (annotates_beside _) fun _ => annotates_syncKbdDomain inject _

end

/-- The bus methods by which a domain diverts its input. -/
inductive DivertMethod where
  | divertMouseFocus (uuid : String) (s1 s2 s3 s4 d1 d2 d3 d4 : UInt32)
  | divertKeyboardFocus (uuid : String)
  | setDivertKeyboardFilter (filter : List UInt32)
  | stopMouseDivert
  | stopKeyboardDivert
  | focusMode (mode : Int)

section
variable {F : Type} (inject : Inject F) (sender : Int)

def DivertMethod.run : DivertMethod → WorldM F Unit
  | divertMouseFocus uuid s1 s2 s3 s4 d1 d2 d3 d4 =>
    discard (inputDaemonDivertMouseFocus sender uuid s1 s2 s3 s4 d1 d2 d3 d4)
  | divertKeyboardFocus uuid => discard (inputDaemonDivertKeyboardFocus inject sender uuid)
  | setDivertKeyboardFilter filter => discard (inputDaemonSetDivertKeyboardFilter sender filter)
  | stopMouseDivert => inputDaemonStopMouseDivert sender
  | stopKeyboardDivert => inputDaemonStopKeyboardDivert inject sender
  | focusMode mode => discard (inputDaemonFocusMode sender mode)

/-- The method, with what it grabs. -/
def DivertMethod.grabbing : DivertMethod → Grabbing F Unit
  | divertMouseFocus uuid s1 s2 s3 s4 d1 d2 d3 d4 =>
    discard (Grabbing.inputDaemonDivertMouseFocus sender uuid s1 s2 s3 s4 d1 d2 d3 d4)
  | divertKeyboardFocus uuid =>
    discard (Grabbing.inputDaemonDivertKeyboardFocus inject sender uuid)
  | setDivertKeyboardFilter filter =>
    beside (discard (inputDaemonSetDivertKeyboardFilter sender filter))
  | stopMouseDivert => Grabbing.inputDaemonStopMouseDivert sender
  | stopKeyboardDivert => Grabbing.inputDaemonStopKeyboardDivert inject sender
  | focusMode mode => beside (discard (inputDaemonFocusMode sender mode))

/-- Without what it grabs it is the method. -/
theorem annotates_divertMethod (m : DivertMethod) :
    Annotates (m.grabbing inject sender) (m.run inject sender) := by
  cases m with
  | divertMouseFocus uuid s1 s2 s3 s4 d1 d2 d3 d4 =>
    exact annotates_bind (annotates_divertMouseFocus sender uuid s1 s2 s3 s4 d1 d2 d3 d4)
      fun _ => annotates_pure _
  | divertKeyboardFocus uuid =>
    exact annotates_bind (annotates_divertKeyboardFocus inject sender uuid) fun _ => annotates_pure _
  | setDivertKeyboardFilter filter => exact annotates_beside _
  | stopMouseDivert => exact annotates_stopMouseDivert sender
  | stopKeyboardDivert => exact annotates_stopKeyboardDivert inject sender
  | focusMode mode => exact annotates_beside _

end

section
variable {F : Type}

structure SameFocus (r r' : Routing F) : Prop where
  mouseDest : r'.mouseDest = r.mouseDest
  mouseParent : r'.mouseParent = r.mouseParent
  keybDest : r'.keybDest = r.keybDest
  keybParent : r'.keybParent = r.keybParent
  keybWaitsForClick : r'.keybWaitsForClick = r.keybWaitsForClick

/-- The method returns, and neither where the input goes nor what is grabbed has changed. -/
def Harmless (inject : Inject F) (sender : Int) (m : DivertMethod) (w : World F) : Prop :=
  ∃ w' calls, m.grabbing inject sender (w, []) = .ok ((), w', calls) ∧
    SameFocus w.routing w'.routing ∧ ∀ refuses g, calls.foldl (doGrab refuses) g = g

/-- No domain pointer that a stopped divert is compared with is null. -/
def DivertMethod.Sheltered (r : Routing F) : DivertMethod → Prop
  | stopMouseDivert => r.mouseParent ≠ none ∧ r.mouseDest ≠ none
  | stopKeyboardDivert => r.keybParent ≠ none ∧ r.keybDest ≠ none
  | _ => True

variable {inject : Inject F} {sender : Int} {m : DivertMethod} {w : World F}

theorem harmless_of_idle (h : m.grabbing inject sender (w, []) = .ok ((), w, [])) :
    Harmless inject sender m w :=
  ⟨w, [], h, ⟨rfl, rfl, rfl, rfl, rfl⟩, fun _ _ => rfl⟩

theorem not_harmless_of_fault (h : m.grabbing inject sender (w, []) = .error e) :
    ¬Harmless inject sender m w := by
  intro hharmless
  obtain ⟨w', calls, hrun, -⟩ := hharmless
  rw [h] at hrun
  cases hrun

theorem syncMouseDomain_none_spared
    (h : w.routing.mouseParent ≠ none ∧ w.routing.mouseDest ≠ none) :
    Grabbing.syncMouseDomain none (w, []) = .ok ((), w, []) := by
  unfold Grabbing.syncMouseDomain
  rw [bind_ok (beside_ok (get_apply w)), if_neg (not_or.2 h)]
  exact beside_ok (dupMouseClicks_idle none w)

theorem syncMouseDomain_none_faults
    (h : ¬(w.routing.mouseParent ≠ none ∧ w.routing.mouseDest ≠ none)) :
    Grabbing.syncMouseDomain none (w, []) = .error (.segv, []) := by
  rw [← not_or, not_not] at h
  unfold Grabbing.syncMouseDomain
  rw [bind_ok (beside_ok (get_apply w)), if_pos h]
  rfl

theorem syncKbdDomain_none_spared (h : w.routing.keybParent ≠ none ∧ w.routing.keybDest ≠ none) :
    Grabbing.syncKbdDomain inject none (w, []) = .ok ((), w, []) := by
  unfold Grabbing.syncKbdDomain
  rw [bind_ok (beside_ok (get_apply w)), if_neg (not_or.2 h)]
  rfl

theorem syncKbdDomain_none_faults
    (h : ¬(w.routing.keybParent ≠ none ∧ w.routing.keybDest ≠ none)) :
    Grabbing.syncKbdDomain inject none (w, []) = .error (.segv, []) := by
  rw [← not_or, not_not] at h
  unfold Grabbing.syncKbdDomain
  rw [bind_ok (beside_ok (get_apply w)), if_pos h]
  rfl

/-- What an unknown sender does: stopping a divert compares null with where the input goes, and
the other methods refuse. -/
theorem grabbing_unknown (inject : Inject F) (m : DivertMethod)
    (hunknown : w.domainWithDomid sender = none) :
    m.grabbing inject sender (w, []) = match m with
      | .stopMouseDivert => Grabbing.syncMouseDomain none (w, [])
      | .stopKeyboardDivert => Grabbing.syncKbdDomain inject none (w, [])
      | _ => .ok ((), w, []) := by
  cases m with
  | divertMouseFocus uuid s1 s2 s3 s4 d1 d2 d3 d4 =>
    have hrun : Grabbing.inputDaemonDivertMouseFocus sender uuid s1 s2 s3 s4 d1 d2 d3 d4 (w, []) =
        .ok (some .noSrcId, w, []) := by
      unfold Grabbing.inputDaemonDivertMouseFocus
      rw [bind_ok (beside_ok (get_apply w)), hunknown]
      rfl
    exact discard_ok hrun
  | divertKeyboardFocus uuid =>
    have hrun : Grabbing.inputDaemonDivertKeyboardFocus inject sender uuid (w, []) =
        .ok (some .noSrcId, w, []) := by
      unfold Grabbing.inputDaemonDivertKeyboardFocus
      rw [bind_ok (beside_ok (get_apply w)), hunknown]
      rfl
    exact discard_ok hrun
  | setDivertKeyboardFilter filter =>
    have hrun : inputDaemonSetDivertKeyboardFilter sender filter w = .ok (some .noSrcId, w) := by
      unfold inputDaemonSetDivertKeyboardFilter
      rw [bind_ok (get_apply w), hunknown]
      rfl
    exact beside_ok (discard_ok hrun)
  | stopMouseDivert =>
    change Grabbing.inputDaemonStopMouseDivert sender (w, []) = _
    unfold Grabbing.inputDaemonStopMouseDivert
    rw [bind_ok (beside_ok (get_apply w)), hunknown]
  | stopKeyboardDivert =>
    change Grabbing.inputDaemonStopKeyboardDivert inject sender (w, []) = _
    unfold Grabbing.inputDaemonStopKeyboardDivert
    rw [bind_ok (beside_ok (get_apply w)), hunknown]
  | focusMode mode =>
    have hrun : inputDaemonFocusMode sender mode w = .ok (some .noSrcId, w) := by
      unfold inputDaemonFocusMode
      rw [bind_ok (get_apply w), hunknown]
      rfl
    exact beside_ok (discard_ok hrun)

/-- A method is harmless from a sender without a domain exactly when it is sheltered. -/
theorem unknown_sender_harmless_iff (inject : Inject F) (m : DivertMethod)
    (hunknown : w.domainWithDomid sender = none) :
    Harmless inject sender m w ↔ m.Sheltered w.routing := by
  have hrun := grabbing_unknown inject m hunknown
  cases m with
  | stopMouseDivert =>
    constructor
    · intro h
      by_contra hbare
      exact not_harmless_of_fault (hrun.trans (syncMouseDomain_none_faults hbare)) h
    · intro h
      exact harmless_of_idle (hrun.trans (syncMouseDomain_none_spared h))
  | stopKeyboardDivert =>
    constructor
    · intro h
      by_contra hbare
      exact not_harmless_of_fault (hrun.trans (syncKbdDomain_none_faults hbare)) h
    · intro h
      exact harmless_of_idle (hrun.trans (syncKbdDomain_none_spared h))
  | divertMouseFocus | divertKeyboardFocus | setDivertKeyboardFilter | focusMode =>
    exact iff_of_true (harmless_of_idle hrun) trivial

end

theorem startWorld_unknown (answers : Nat → Answers) (sends : List SendOutcome) (sender : Int) :
    (startWorld answers sends).domainWithDomid sender = none := by
  apply List.find?_eq_none.2
  intro d _ h
  exact Bool.false_ne_true (Bool.and_eq_true_iff.1 h).1

/-- The mouse follows a divert, and somebody that the table does not know stops one. -/
theorem unknown_sender_harmless_diverted :
    Harmless (inputInject 1) 9 .stopMouseDivert heldClick := by
  have hunknown : heldClick.domainWithDomid 9 = none := by
    apply List.find?_eq_none.2
    intro d _ h
    exact Bool.false_ne_true (Bool.and_eq_true_iff.1 h).1
  apply (unknown_sender_harmless_iff (inputInject 1) .stopMouseDivert hunknown).2
  exact ⟨by decide, by decide⟩

/-- Nothing is diverted, so that null is where the mouse's parent is. -/
theorem stop_divert_dereferences_null : ¬∀ (inject : Inject ℚ) (sender : Int) (m : DivertMethod)
    (w : World ℚ), w.domainWithDomid sender = none → Harmless inject sender m w := by
  intro h
  let w := startWorld (fun _ => told "") []
  have hunknown := startWorld_unknown (fun _ => told "") [] 9
  have hrun := grabbing_unknown (inputInject 1) .stopMouseDivert hunknown
  have hfault : Grabbing.syncMouseDomain none (w, []) = .error (.segv, []) := by
    apply syncMouseDomain_none_faults
    intro hspared
    exact hspared.1 rfl
  exact not_harmless_of_fault (hrun.trans hfault) (h _ 9 _ w hunknown)

end InputServer
