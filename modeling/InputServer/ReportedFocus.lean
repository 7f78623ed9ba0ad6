import InputServer.Reachable

namespace InputServer
open Program
set_option autoImplicit true

variable {F : Type} {w w' w'' : World F}

def World.switcherGetFocus (w : World F) : Int :=
  w.switcher.current.elim 0 fun d => (w.domains d).domid

/-- The reported focus is no domain, or an initialised one that the focus was switched to last. -/
def FocusReported (w : World F) : Prop :=
  w.switcherGetFocus = 0 ∨ ∃ d, w.Known d ∧ (w.domains d).domid = w.switcherGetFocus ∧
    lastSwitched w.log = some w.switcherGetFocus

theorem FocusLive.reported (h : FocusLive w) : FocusReported w := by
  rw [FocusReported, World.switcherGetFocus]
  cases hc : w.switcher.current with
  | none => exact .inl rfl
  | some d => exact .inr ⟨d, h.known d hc, rfl, h.focused d hc⟩

theorem GoneSafe.until (h : GoneSafe w w' d) (hasked : w''.asked ≤ w'.asked) :
    GoneSafe w w'' d := by
  cases h with
  | inl h => exact .inl ⟨h.1.until hasked, h.2.until hasked⟩
  | inr h => exact .inr ⟨fun hcurrent => (h.1 hcurrent).until hasked, h.2⟩

theorem since_mono (h : w.Later w'') (h' : w''.Later w') (hh : happening ∈ w.since w'') :
    happening ∈ w.since w' := by
  obtain ⟨new, hnew⟩ := h.log
  obtain ⟨new', hnew'⟩ := h'.log
  rw [since_eq hnew] at hh
  have hall : w'.log = w.log ++ (new ++ new') := by
    rw [hnew', hnew, List.append_assoc]
  rw [since_eq hall]
  exact List.mem_append_left _ hh

/-- What is safe until a later state is safe until an earlier one. -/
theorem Op.FocusSafe.until {op : Op} (h : op.FocusSafe w w') (hlater : w.Later w'')
    (hlater' : w''.Later w') : op.FocusSafe w w'' := by
  cases op with
  | rpcConnect domid pvm =>
    intro d hd
    exact (h d (since_mono hlater hlater' hd)).until hlater'.asked
  | attachVkbd domid =>
    intro d hd
    exact (h d (since_mono hlater hlater' hd)).until hlater'.asked
  | rpcDisconnect d => exact GoneSafe.until h hlater'.asked
  | detachVkbd domid =>
    intro d hd hbackend hcurrent
    exact (h d hd hbackend hcurrent).until hlater'.asked
  | _ => trivial

theorem Activity.FocusSafe.until {a : Activity} (h : a.FocusSafe w w') (hlater : w.Later w'')
    (hlater' : w''.Later w') : a.FocusSafe w w'' := by
  cases a with
  | op o => exact Op.FocusSafe.until h hlater hlater'
  | receive o incoming => trivial

/-- The focus is followed for as long as the activity that began in `w` is safe. -/
def Regime.following (a : Activity) (w : World F) : Regime F where
  sound _ := False
  focused w' := w.Later w' → a.FocusSafe w w'
  sound_before _ _ _ := id
  focused_before _ _ hlater hfollow hbefore :=
    (hfollow (hbefore.trans hlater)).until hbefore hlater

section
variable [Double F] {w₀ : World F} {acts : List Activity}

theorem Activity.Step.focusLive {a : Activity} (hstep : a.Step w w') (hsafe : a.FocusSafe w w')
    (hw : Living .bare w) (hlive : FocusLive w) : Living .bare w' ∧ FocusLive w' := by
  obtain ⟨hvalid, depth, hok⟩ := hstep
  have hfollowing : Living (.following a w) w := { hw with
    sound := False.elim
    focus := fun _ => hlive }
  have hlives : Lives (.following a w) (a.run (inputInject depth)) w := by
    apply a.lives (inputInject_routes depth) hvalid
    exact fun w' hlater => ⟨fun hfollow => hfollow hlater, False.elim⟩
  have hw' := (hlives hfollowing () w' hok).1
  exact ⟨hw'.bare, hw'.focus fun _ => hsafe⟩

/-- In a run that never leaves the focus on a domain that goes, the reported focus is live. -/
theorem reported_focus_live (h₀ : w₀.Initial)
    (hrun : Run (fun a w w' => a.Step w w' ∧ a.FocusSafe w w') w₀ acts w) : FocusReported w := by
  have hlive : Living .bare w ∧ FocusLive w := by
    apply hrun.invariant (I := fun _ w => Living .bare w ∧ FocusLive w) ⟨h₀.living, h₀.focusLive⟩
    intro _ a w w' hw hstep
    exact hstep.1.focusLive hstep.2 hw.1 hw.2
  exact hlive.2.reported

/-- A domain connects and is switched to, and no other one is reclaimed for it. -/
theorem reported_focus_live_switched :
    FocusReported (Activity.reached 5 [.op (.switchFocus 5)]
      (Activity.reached 5 [.op (.rpcConnect 5 false)] (startWorld (fun _ => told "1") []))) := by
  have hconnect : Activity.Step (.op (.rpcConnect 5 false)) (startWorld (fun _ => told "1") [])
      (Activity.reached 5 [.op (.rpcConnect 5 false)] (startWorld (fun _ => told "1") [])) := by
    apply step_reached
    · trivial
    · decide +kernel
  have hnone (d : DomPtr) : .reclaimed d ∉ (startWorld (fun _ => told "1") []).since
      (Activity.reached 5 [.op (.rpcConnect 5 false)] (startWorld (fun _ => told "1") [])) := by
    revert d
    decide +kernel
  have hfocus : Activity.Step (.op (.switchFocus 5))
      (Activity.reached 5 [.op (.rpcConnect 5 false)] (startWorld (fun _ => told "1") []))
      (Activity.reached 5 [.op (.switchFocus 5)]
        (Activity.reached 5 [.op (.rpcConnect 5 false)] (startWorld (fun _ => told "1") []))) := by
    apply step_reached
    · trivial
    · decide +kernel
  have hsafe : Activity.FocusSafe (startWorld (fun _ => told "1") [])
      (Activity.reached 5 [.op (.rpcConnect 5 false)] (startWorld (fun _ => told "1") []))
      (.op (.rpcConnect 5 false)) := fun d hd => absurd hd (hnone d)
  exact reported_focus_live (startWorld_initial _ _)
    (Run.snoc (Run.snoc .nil ⟨hconnect, hsafe⟩) ⟨hfocus, trivial⟩)

end

/-- The domain in focus disconnects, and there is no UIVM to switch to. -/
def focusedDeath : List Activity :=
  [.op (.rpcConnect 5 false), .op (.switchFocus 5), .op (.rpcDisconnect firstEntry)]

theorem reported_focus_stale :
    ∃ w : World ℚ, Run Activity.Step (startWorld (fun _ => told "1") []) focusedDeath w ∧
      ¬FocusReported w := by
  refine ⟨Activity.reached 5 focusedDeath (startWorld (fun _ => told "1") []), ?_, ?_⟩
  · apply run_reached
    · intro a ha w
      simp only [focusedDeath, List.mem_cons, List.not_mem_nil, or_false] at ha
      obtain rfl | rfl | rfl := ha <;> trivial
    · decide +kernel
  · generalize hw : Activity.reached 5 focusedDeath (startWorld (fun _ => told "1") []) = w
    have hfocused : (w.switcher.current.elim 1 fun d => d.val) = 0 := by
      rw [← hw]
      decide +kernel
    have hdomid : (w.domains firstEntry).domid = 5 := by
      rw [← hw]
      decide +kernel
    have hempty : ∀ d, (w.domains d).initialised = false := by
      rw [← hw]
      decide +kernel
    intro hreported
    cases hreported with
    | inl hnone =>
      rw [World.switcherGetFocus] at hnone
      cases hc : w.switcher.current with
      | none =>
        rw [hc] at hfocused
        cases hfocused
      | some d =>
        rw [hc] at hfocused hnone
        have hd : d = firstEntry := Fin.ext hfocused
        rw [Option.elim_some, hd, hdomid] at hnone
        cases hnone
    | inr hlive =>
      obtain ⟨d, hd, _⟩ := hlive
      rw [World.Known, hempty d] at hd
      cases hd

end InputServer
