import InputServer.Library.Ledger
import InputServer.Reachable

namespace InputServer
open Program
set_option autoImplicit true

/-- What `dup_mouse_clicks` gives to `input_send`. -/
structure Repeated where
  dest : Option DomPtr
  slot : Int32
  event : InputEvent

namespace Repeating

section
variable {F : Type}

/-- `dup_mouse_clicks`' loop, with the list of what it sends. -/
def dupClicks (d : Option DomPtr) (frame : Frame) (pressed : List MouseButton) :
    List MouseButton → InputEvent → Ledger Fault (World F) Repeated Unit
  | [], _ => pure ()
  | mb :: mbs, e => do
    let w ← beside get
    if w.routing.mousePressed.length < MAX_NUM_PRESSED then
      let ok := !pressed.any fun other => other.domain = d ∧ other.code = mb.code
      if mb.domain ≠ d ∧ ok ∧ mb.inFrame frame then do
        note ⟨d, mb.slot, { e with code := mb.code }⟩
        let e ← beside (inputSend d mb.slot { e with code := mb.code })
        beside (modifyRouting fun r => { r with
          mousePressed := r.mousePressed ++ [{ mb with domain := d }] })
        dupClicks d frame pressed mbs e
      else dupClicks d frame pressed mbs e
    else pure ()

def dupMouseClicks (d : Option DomPtr) : Ledger Fault (World F) Repeated Unit := do
  let w ← beside get
  match w.routing.mouseParent.bind fun parent => (w.domains parent).divertInfo with
  | none => pure ()
  | some dv =>
    let pressed := w.routing.mousePressed
    dupClicks d dv.sframe pressed pressed { type := EV_KEY, code := 0, value := 1 }

end

end Repeating

section
variable {F : Type}

theorem annotates_dupClicks (d : Option DomPtr) (frame : Frame) (pressed : List MouseButton)
    (mbs : List MouseButton) (e : InputEvent) :
    Annotates (Repeating.dupClicks d frame pressed mbs e)
      (dupClicks d frame pressed mbs e : WorldM F Unit) := by
  induction mbs generalizing e with
  | nil => exact annotates_pure ()
  | cons mb mbs ih =>
    apply annotates_bind (annotates_beside _)
    intro w
    apply annotates_ite _ (annotates_pure ())
    apply annotates_ite _ (ih e)
    apply annotates_note
    apply annotates_bind (annotates_beside _)
    intro e'
    apply annotates_bind (annotates_beside _)
    intro _
    exact ih e'

/-- Without the list of what is sent it is `dup_mouse_clicks`. -/
theorem annotates_dupMouseClicks (d : Option DomPtr) :
    Annotates (Repeating.dupMouseClicks d) (dupMouseClicks d : WorldM F Unit) := by
  apply annotates_bind (annotates_beside _)
  intro w
  cases w.routing.mouseParent.bind fun parent => (w.domains parent).divertInfo with
  | none => exact annotates_pure ()
  | some dv => exact annotates_dupClicks d dv.sframe _ _ _

end

/-- The press was strictly inside the frame. -/
def MouseButton.StrictlyInside (mb : MouseButton) (f : Frame) : Prop :=
  (f.x1 < .ofInt mb.x ∧ UInt32.ofInt mb.x < f.x2) ∧ f.y1 < .ofInt mb.y ∧ UInt32.ofInt mb.y < f.y2

/-- Another domain's press of the code lies in the frame, and `d` has none. -/
def WantsClick (d : Option DomPtr) (f : Frame) (before : List MouseButton) (code : UInt16) : Prop :=
  (∃ mb ∈ before, mb.code = code ∧ mb.domain ≠ d ∧ mb.StrictlyInside f) ∧
    ∀ mb ∈ before, mb.domain = d → mb.code ≠ code

/-- The press that is sent for a recorded one. -/
def MouseButton.press (mb : MouseButton) : Repeated :=
  ⟨mb.domain, mb.slot, { type := EV_KEY, code := mb.code, value := 1 }⟩

/-- The presses of the frame are repeated to `d`: each code once, while there is room. -/
structure RepeatsClicks (d : Option DomPtr) (f : Frame) (before new : List MouseButton)
    (sent : List Repeated) : Prop where
  ours : ∀ mb ∈ new, mb.domain = d
  told : sent = new.map MouseButton.press
  once : (new.map MouseButton.code).Nodup
  wanted : ∀ mb ∈ new, WantsClick d f before mb.code
  room : new ≠ [] → (before ++ new).length ≤ MAX_NUM_PRESSED
  complete : (before ++ new).length < MAX_NUM_PRESSED →
    ∀ code, WantsClick d f before code → code ∈ new.map MouseButton.code

section
variable {F : Type}

/-- The source frame of the divert that the mouse follows. -/
def World.sourceFrame (w : World F) : Option Frame :=
  (w.routing.mouseParent.bind fun parent => (w.domains parent).divertInfo).map DivertInfo.sframe

/-- `dup_mouse_clicks` returns and has repeated the presses, after those that there were. -/
def DupRepeats (d : Option DomPtr) (w : World F) : Prop :=
  ∃ w' new sent, Repeating.dupMouseClicks d (w, []) = .ok ((), w', sent) ∧
    w'.routing.mousePressed = w.routing.mousePressed ++ new ∧
    ∀ f, w.sourceFrame = some f → RepeatsClicks d f w.routing.mousePressed new sent

end

section
variable {F : Type} {d : Option DomPtr} {f : Frame}

/-- The lower edge is compared twice, so no press is in the frame. -/
theorem inFrame_eq_false (mb : MouseButton) (f : Frame) : mb.inFrame f = false := by
  unfold MouseButton.inFrame
  apply decide_eq_false
  intro h
  obtain ⟨-, -, habove, hbelow⟩ := h
  exact UInt32.lt_irrefl _ (UInt32.lt_trans habove hbelow)

theorem dupClicks_nothing (pressed mbs : List MouseButton) (e : InputEvent) (w : World F)
    (sent : List Repeated) :
    Repeating.dupClicks d f pressed mbs e (w, sent) = .ok ((), w, sent) := by
  induction mbs with
  | nil => rfl
  | cons mb mbs ih =>
    have hout (ok : Bool) : ¬(mb.domain ≠ d ∧ ok = true ∧ mb.inFrame f = true) := by
      intro h
      rw [inFrame_eq_false] at h
      exact Bool.false_ne_true h.2.2
    unfold Repeating.dupClicks
    rw [bind_ok (beside_ok (get_apply w))]
    by_cases hroom : w.routing.mousePressed.length < MAX_NUM_PRESSED
    · rw [if_pos hroom, if_neg (hout _)]
      exact ih
    · rw [if_neg hroom]
      rfl

/-- `dup_mouse_clicks` changes and sends nothing. -/
theorem dupMouseClicks_nothing (w : World F) (sent : List Repeated) :
    Repeating.dupMouseClicks d (w, sent) = .ok ((), w, sent) := by
  unfold Repeating.dupMouseClicks
  rw [bind_ok (beside_ok (get_apply w))]
  cases w.routing.mouseParent.bind fun parent => (w.domains parent).divertInfo with
  | none => rfl
  | some dv => exact dupClicks_nothing _ _ _ w sent

/-- Nor does the function that keeps no list. -/
theorem dupMouseClicks_idle (d : Option DomPtr) (w : World F) :
    dupMouseClicks d w = .ok ((), w) := by
  rw [← annotates_dupMouseClicks d w [], dupMouseClicks_nothing]
  rfl

theorem dup_repeats_wanted {w : World F} (h : DupRepeats d w) (hf : w.sourceFrame = some f) :
    MAX_NUM_PRESSED ≤ w.routing.mousePressed.length ∨
      ∀ code, ¬WantsClick d f w.routing.mousePressed code := by
  obtain ⟨w', new, sent, hrun, hafter, hrepeats⟩ := h
  rw [dupMouseClicks_nothing] at hrun
  cases hrun
  have hnew : new = [] := List.self_eq_append_right.1 hafter
  subst hnew
  by_cases hfull : MAX_NUM_PRESSED ≤ w.routing.mousePressed.length
  · exact .inl hfull
  · right
    intro code hwants
    have hroom : (w.routing.mousePressed ++ []).length < MAX_NUM_PRESSED := by
      rw [List.append_nil]
      exact Nat.lt_of_not_le hfull
    exact List.not_mem_nil ((hrepeats f hf).complete hroom code hwants)

/-- The presses are repeated exactly where there is none to repeat, or no room for one. -/
theorem dup_repeats_iff (d : Option DomPtr) (w : World F) :
    DupRepeats d w ↔ ∀ f, w.sourceFrame = some f →
      MAX_NUM_PRESSED ≤ w.routing.mousePressed.length ∨
        ∀ code, ¬WantsClick d f w.routing.mousePressed code := by
  constructor
  · intro h f hf
    exact dup_repeats_wanted h hf
  · intro h
    refine ⟨w, [], [], dupMouseClicks_nothing w [], (List.append_nil _).symm, ?_⟩
    intro f hf
    constructor
    · intro mb hmem
      cases hmem
    · rfl
    · exact List.nodup_nil
    · intro mb hmem
      cases hmem
    · intro hne
      exact absurd rfl hne
    · intro hroom code hwants
      rw [List.append_nil] at hroom
      obtain hfull | hnone := h f hf
      · exact absurd hroom (Nat.not_lt_of_le hfull)
      · exact absurd hwants (hnone code)

end

/-- The left button is held in the guest, in the middle of the frame its parent diverts. -/
def heldClick : World ℚ :=
  let w := startWorld (fun _ => told "") []
  { w with
    domains := fun d => { w.domains d with
      divertInfo := some { freshDivert with
        mouseDomain := some secondEntry, sframe := orderedFrame 0 0 100 100 } }
    routing := { w.routing with
      mouseParent := some firstEntry, mouseDest := some secondEntry
      mousePressed := [
        { code := BTN_LEFT, domain := some secondEntry, slot := 6, x := 50, y := 50 }] } }

theorem held_click_not_repeated : ¬∀ (d : Option DomPtr) (w : World ℚ), DupRepeats d w := by
  intro h
  obtain hfull | hnone := dup_repeats_wanted (h (some firstEntry) heldClick) rfl
  · exact absurd hfull (by decide)
  · apply hnone BTN_LEFT
    have hinside : MouseButton.StrictlyInside
        { code := BTN_LEFT, domain := some secondEntry, slot := 6, x := 50, y := 50 }
        (orderedFrame 0 0 100 100) :=
      ⟨⟨by decide, by decide⟩, by decide, by decide⟩
    refine ⟨⟨_, List.mem_singleton_self _, rfl, by decide, hinside⟩, ?_⟩
    intro mb hmem hdomain
    rw [List.mem_singleton.1 hmem] at hdomain
    cases hdomain

end InputServer
