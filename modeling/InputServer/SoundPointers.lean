import InputServer.ReportedFocus

namespace InputServer
open Program
set_option autoImplicit true

variable {F : Type} {w w' w'' : World F}

/-- What is safe until a later state is safe until an earlier one. -/
theorem Op.PointerSafe.until {op : Op} (h : op.PointerSafe w w') (hlater : w.Later w'')
    (hlater' : w''.Later w') : op.PointerSafe w w'' := by
  cases op with
  | rpcConnect domid pvm => exact fun d hd => h d (since_mono hlater hlater' hd)
  | attachVkbd domid => exact ⟨fun d hd => h.1 d (since_mono hlater hlater' hd), h.2⟩
  | rpcDisconnect d => exact h
  | detachVkbd domid => exact h
  | _ => trivial

theorem Activity.PointerSafe.until {a : Activity} (h : a.PointerSafe w w') (hlater : w.Later w'')
    (hlater' : w''.Later w') : a.PointerSafe w w'' := by
  cases a with
  | op o => exact Op.PointerSafe.until h hlater hlater'
  | receive o incoming => trivial

/-- The pointers are followed for as long as the activity that began in `w` is safe for them. -/
def Regime.pointing (a : Activity) (w : World F) : Regime F where
  sound w' := w.Later w' → a.PointerSafe w w'
  focused _ := False
  sound_before _ _ hlater hpoint hbefore :=
    (hpoint (hbefore.trans hlater)).until hbefore hlater
  focused_before _ _ _ := id

theorem World.Initial.sound (h : w.Initial) : Sound w := by
  have hnone {p : Option DomPtr} (hp : p = none) : w.Valid p := hp ▸ .none
  have hdivert (a : DomPtr) (target : DivertInfo → Option DomPtr) : w.diverted a target = none := by
    rw [World.diverted, h.undiverted a]
    rfl
  obtain ⟨hdest, hparent, hkeyb, hkeybParent⟩ := h.unrouted
  constructor
  · exact hnone hdest
  · exact hnone hparent
  · exact hnone hkeyb
  · exact hnone hkeybParent
  · exact fun a => hnone (hdivert a DivertInfo.keyDomain)
  · exact fun a => hnone (hdivert a DivertInfo.mouseDomain)
  · intro a ha
    rw [World.Known, h.empty] at ha
    cases ha
  · intro p m hp
    rw [hparent] at hp
    cases hp

section
variable [Double F] {w₀ : World F} {acts : List Activity}

theorem Activity.Step.sound {a : Activity} (hstep : a.Step w w') (hsafe : a.PointerSafe w w')
    (hw : Living .bare w) (hs : Sound w) : Living .bare w' ∧ Sound w' := by
  obtain ⟨hvalid, depth, hok⟩ := hstep
  have hpointing : Living (.pointing a w) w := { hw with
    sound := fun _ => hs
    focus := False.elim }
  have hlives : Lives (.pointing a w) (a.run (inputInject depth)) w := by
    apply a.lives (inputInject_routes depth) hvalid
    exact fun w' hlater => ⟨False.elim, fun hpoint => hpoint hlater⟩
  have hw' := (hlives hpointing () w' hok).1
  exact ⟨hw'.bare, hw'.sound fun _ => hsafe⟩

/-- In a run that removes no domain that another one diverts its input to, no pointer of the
routing ever leads to an entry that is free, and the mouse is where its parent diverts it. -/
theorem pointers_sound (h₀ : w₀.Initial)
    (hrun : Run (fun a w w' => a.Step w w' ∧ a.PointerSafe w w') w₀ acts w) : Sound w := by
  have hall : Living .bare w ∧ Sound w := by
    apply hrun.invariant (I := fun _ w => Living .bare w ∧ Sound w) ⟨h₀.living, h₀.sound⟩
    intro _ a w w' hw hstep
    exact hstep.1.sound hstep.2 hw.1 hw.2
  exact hall.2

/-- A domain connects, is switched to, and goes. -/
theorem pointers_sound_gone :
    Sound (Activity.reached 5 [.op (.rpcDisconnect firstEntry)]
      (Activity.reached 5 [.op (.switchFocus 5)]
        (Activity.reached 5 [.op (.rpcConnect 5 false)] (startWorld (fun _ => told "1") [])))) := by
  generalize h₁ : Activity.reached 5 [.op (.rpcConnect 5 false)]
    (startWorld (fun _ => told "1") []) = w₁
  generalize h₂ : Activity.reached 5 [.op (.switchFocus 5)] w₁ = w₂
  have hconnect : Activity.Step (.op (.rpcConnect 5 false))
      (startWorld (fun _ => told "1") []) w₁ := by
    rw [← h₁]
    apply step_reached
    · trivial
    · decide +kernel
  have hnone (d : DomPtr) : .reclaimed d ∉ (startWorld (fun _ => told "1") []).since w₁ := by
    rw [← h₁]
    revert d
    decide +kernel
  have hfocus : Activity.Step (.op (.switchFocus 5)) w₁ w₂ := by
    rw [← h₂, ← h₁]
    apply step_reached
    · trivial
    · decide +kernel
  have hgone : Activity.Step (.op (.rpcDisconnect firstEntry)) w₂
      (Activity.reached 5 [.op (.rpcDisconnect firstEntry)] w₂) := by
    rw [← h₂, ← h₁]
    apply step_reached
    · trivial
    · decide +kernel
  have hundiverted : Undiverted w₂ firstEntry := by
    have hdivert : ∀ a, (w₂.domains a).divertInfo = none := by
      rw [← h₂, ← h₁]
      decide +kernel
    have hnowhere (a : DomPtr) (target : DivertInfo → Option DomPtr) :
        w₂.diverted a target ≠ some firstEntry := by
      rw [World.diverted, hdivert]
      exact (Option.some_ne_none firstEntry).symm
    exact ⟨fun a _ => hnowhere a _, fun a _ => hnowhere a _⟩
  exact pointers_sound (startWorld_initial _ _)
    (Run.snoc (Run.snoc (Run.snoc .nil ⟨hconnect, fun d hd => absurd hd (hnone d)⟩)
      ⟨hfocus, trivial⟩) ⟨hgone, hundiverted⟩)

end

/-- The UIVM diverts its mouse to the domain in focus, which then goes. -/
def divertedDeath : List Activity :=
  [.op (.rpcConnect 5 false), .op (.rpcConnect 7 false), .op (.switchFocus 5),
    .op (.divertMouseFocus 7 "1" 0 0 10 10 0 0 10 10), .op (.rpcDisconnect firstEntry)]

/-- Without the condition the mouse may be left with a domain that is gone: the UIVM is switched to
while its divert still leads there. -/
theorem pointers_dangle :
    ∃ w : World ℚ, Run Activity.Step (startWorld (toldUntil 17 "1" "0") []) divertedDeath w ∧
      ¬Sound w := by
  refine ⟨Activity.reached 5 divertedDeath (startWorld (toldUntil 17 "1" "0") []), ?_, ?_⟩
  · apply run_reached
    · intro a ha w
      simp only [divertedDeath, List.mem_cons, List.not_mem_nil, or_false] at ha
      obtain rfl | rfl | rfl | rfl | rfl := ha <;> trivial
    · decide +kernel
  · have hdest : (Activity.reached 5 divertedDeath
        (startWorld (toldUntil 17 "1" "0") [])).routing.mouseDest = some firstEntry := by
      decide +kernel
    have hfree : ((Activity.reached 5 divertedDeath
        (startWorld (toldUntil 17 "1" "0") [])).domains firstEntry).initialised = false := by
      decide +kernel
    intro hs
    have hknown := hs.mouseDest firstEntry hdest
    rw [World.Known, hfree] at hknown
    cases hknown

end InputServer
