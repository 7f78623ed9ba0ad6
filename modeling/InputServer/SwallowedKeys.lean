import InputServer.Hotkeys
import InputServer.Library.Ledger

namespace InputServer
open Program
set_option autoImplicit true

def eventIsKeyRepeat (e : InputEvent) : Bool :=
  eventIsKey e ∧ e.value = 2

/-- An event that is read, from which device. -/
structure ReadEvent where
  event : InputEvent
  slot : Nat
  type : HidType

section
variable {F : Type} (inject : Inject F)

/-- What becomes of an event that matches no binding. -/
def injectUnmatched (r : ReadEvent) : WorldM F Unit := do
  let w ← get
  let slot := if w.types r.slot = some .keyboard then INPUTSLOT_DEFAULT else .ofNat r.slot
  discard (inject r.event slot r.type)

def inputExecBindingsOrInject (r : ReadEvent) :
    Program Fault (World F × List (InputBinding F)) Unit := do
  if ← inputExecBindings r.event then pure ()
  else zoom Prod.fst (fun w s => (w, s.2)) (injectUnmatched inject r)

/-- `input_exec_bindings_or_inject`, with the list of the events that it eats and of those that it
injects. -/
def Swallowing.inputExecBindingsOrInject (r : ReadEvent) :
    Ledger Fault (World F × List (InputBinding F)) (InputEvent × Bool) Unit := do
  let eaten ← beside (inputExecBindings r.event)
  note (r.event, eaten)
  if eaten then pure ()
  else beside (zoom Prod.fst (fun w s => (w, s.2)) (injectUnmatched inject r))

theorem annotates_execBindingsOrInject (r : ReadEvent) :
    Annotates (Swallowing.inputExecBindingsOrInject inject r)
      (inputExecBindingsOrInject inject r) := by
  apply annotates_bind (annotates_beside _)
  intro eaten
  exact annotates_note _ (annotates_ite (annotates_pure _) (annotates_beside _))

/-- One event of a run; the world may change between two of them. -/
def SwallowStep (r : ReadEvent) (s s' : List (InputBinding F) × List (InputEvent × Bool)) : Prop :=
  ∃ w w', Swallowing.inputExecBindingsOrInject inject r ((w, s.1), s.2) =
    .ok ((), (w', s'.1), s'.2)

/-- The bindings after some events. -/
def bindingsAfter (start : List (InputBinding F)) (events : List InputEvent) :
    List (InputBinding F) :=
  events.foldl (fun bs e => (stepBindings e bs).1) start

/-- After some events, another one matches a binding. -/
def Eats (start : List (InputBinding F)) (events : List InputEvent) (e : InputEvent) : Prop :=
  (stepBindings e (bindingsAfter start events)).2.isSome

end

/-- The key has been released and then pressed. -/
def PressedAgain (code : UInt16) (events : List InputEvent) : Prop :=
  ∃ l₁ l₂ l₃ r p, events = l₁ ++ r :: (l₂ ++ p :: l₃) ∧ eventIsKeyUp r ∧ r.code = code ∧
    eventIsKeyDown p ∧ p.code = code

/-- A key whose press was eaten is not injected until it has been released and pressed again. -/
def StaysSwallowed (log : List (InputEvent × Bool)) : Prop :=
  ∀ l₁ l₂ l₃ e e', log = l₁ ++ (e, true) :: (l₂ ++ (e', false) :: l₃) → e'.code = e.code →
    eventIsKeyDown e' ∨ eventIsKeyRepeat e' → PressedAgain e.code (l₂.map Prod.fst ++ [e'])

/-- A key whose press was eaten neither repeats, nor is pressed without a match, until it has been
released and pressed again. -/
def QuietWhileHeld {F : Type} (start : List (InputBinding F)) (events : List InputEvent) : Prop :=
  ∀ l₁ l₂ l₃ e e', events = l₁ ++ e :: (l₂ ++ e' :: l₃) → Eats start l₁ e → e'.code = e.code →
    eventIsKeyRepeat e' ∨ eventIsKeyDown e' ∧ ¬Eats start (l₁ ++ e :: l₂) e' →
    PressedAgain e.code (l₂ ++ [e'])

section
variable {F : Type} {inject : Inject F}

/-- The events with what becomes of each. -/
def fates : List (InputBinding F) → List InputEvent → List (InputEvent × Bool)
  | _, [] => []
  | bs, e :: es => (e, (stepBindings e bs).2.isSome) :: fates (stepBindings e bs).1 es

theorem fates_append (start : List (InputBinding F)) (es es' : List InputEvent) :
    fates start (es ++ es') = fates start es ++ fates (bindingsAfter start es) es' := by
  induction es generalizing start with
  | nil => rfl
  | cons e es ih => exact congrArg ((e, _) :: ·) (ih _)

theorem fates_events (start : List (InputBinding F)) (es : List InputEvent) :
    (fates start es).map Prod.fst = es := by
  induction es generalizing start with
  | nil => rfl
  | cons e es ih => exact congrArg (e :: ·) (ih _)

theorem fates_length (start : List (InputBinding F)) (es : List InputEvent) :
    (fates start es).length = es.length := by
  rw [← List.length_map (f := Prod.fst), fates_events]

/-- An entry of the list tells of the event at its place whether it was eaten. -/
theorem fates_split {start : List (InputBinding F)} (h : fates start es = l ++ (e, b) :: l') :
    es = l.map Prod.fst ++ e :: l'.map Prod.fst ∧ (b = true ↔ Eats start (l.map Prod.fst) e) := by
  have hevents := congrArg (List.map Prod.fst) h
  rw [fates_events, List.map_append, List.map_cons] at hevents
  refine ⟨hevents, ?_⟩
  rw [hevents, fates_append] at h
  have hlength : (fates start (l.map Prod.fst)).length = l.length := by
    rw [fates_length, List.length_map]
  obtain ⟨-, hrest⟩ := List.append_inj h hlength
  have hentry := (List.cons.inj hrest).1
  rw [← (Prod.mk.inj hentry).2]
  exact Iff.rfl

theorem inputExecBindings_reports {e : InputEvent} {w w' : World F} {bs bs' : List (InputBinding F)}
    (h : inputExecBindings e (w, bs) = .ok (eaten, w', bs')) :
    eaten = (stepBindings e bs).2.isSome ∧ bs' = (stepBindings e bs).1 := by
  rw [inputExecBindings_eq] at h
  cases hmatched : runMatched (stepBindings e bs).2 w with
  | error fault =>
    rw [hmatched] at h
    cases h
  | ok r =>
    rw [hmatched] at h
    cases h
    exact ⟨runMatched_reports _ w r.1 r.2 hmatched, rfl⟩

theorem swallowStep_fates {s s' : List (InputBinding F) × List (InputEvent × Bool)}
    (h : SwallowStep inject r s s') :
    s'.1 = (stepBindings r.event s.1).1 ∧
      s'.2 = s.2 ++ [(r.event, (stepBindings r.event s.1).2.isSome)] := by
  obtain ⟨w, w', hrun⟩ := h
  obtain ⟨eaten, t, hexec, hrest⟩ := run_bind hrun
  obtain ⟨hexec, hlog⟩ := of_beside_ok hexec
  obtain ⟨heaten, hbindings⟩ := inputExecBindings_reports hexec
  rw [← heaten, ← hbindings, ← hlog]
  change (if eaten then pure () else beside (zoom Prod.fst (fun w s => (w, s.2))
    (injectUnmatched inject r))) (t.1, t.2 ++ [(r.event, eaten)]) = _ at hrest
  by_cases hmatched : eaten = true
  · rw [if_pos hmatched] at hrest
    have hafter := (Except.ok.inj hrest).symm
    exact ⟨congrArg (fun x => x.2.1.2) hafter, congrArg (fun x => x.2.2) hafter⟩
  · rw [if_neg hmatched] at hrest
    obtain ⟨hinject, hsame⟩ := of_beside_ok hrest
    obtain ⟨w₁, -, hafter⟩ := zoom_ok hinject
    exact ⟨congrArg Prod.snd hafter, hsame⟩

theorem run_fates {start : List (InputBinding F)}
    {s : List (InputBinding F) × List (InputEvent × Bool)}
    (hrun : Run (SwallowStep inject) (start, []) rs s) :
    s.1 = bindingsAfter start (rs.map ReadEvent.event) ∧
      s.2 = fates start (rs.map ReadEvent.event) := by
  refine hrun.invariant (I := fun rs s => s.1 = bindingsAfter start (rs.map ReadEvent.event) ∧
    s.2 = fates start (rs.map ReadEvent.event)) ⟨rfl, rfl⟩ ?_
  intro rs r s s' hs hstep
  obtain ⟨hbindings, hlog⟩ := hs
  obtain ⟨hbindings', hlog'⟩ := swallowStep_fates hstep
  rw [List.map_append, fates_append, hbindings', hlog', hlog, hbindings]
  refine ⟨?_, rfl⟩
  unfold bindingsAfter
  rw [List.foldl_append]
  rfl

theorem not_eaten_of_repeat (h : eventIsKeyRepeat e) (bs : List (InputBinding F)) :
    (stepBindings e bs).2.isSome = false := by
  have hdown : ¬eventIsKeyDown e := by
    unfold eventIsKeyRepeat at h
    unfold eventIsKeyDown
    rw [decide_eq_true_eq] at h ⊢
    rw [h.2]
    intro hdown
    exact absurd hdown.2 (by decide)
  unfold stepBindings
  rw [if_neg hdown]
  rfl

theorem quiet_of_swallowed {start : List (InputBinding F)} (h : StaysSwallowed (fates start es)) :
    QuietWhileHeld start es := by
  intro l₁ l₂ l₃ e e' hes heats hcode hagain
  have hinjected : (stepBindings e' (bindingsAfter start (l₁ ++ e :: l₂))).2.isSome = false := by
    obtain hrepeat | ⟨-, hunmatched⟩ := hagain
    · exact not_eaten_of_repeat hrepeat _
    · exact Bool.eq_false_iff.2 hunmatched
  have hbetween : bindingsAfter start (l₁ ++ e :: l₂) =
      bindingsAfter (stepBindings e (bindingsAfter start l₁)).1 l₂ := by
    unfold bindingsAfter
    rw [List.foldl_append, List.foldl_cons]
  have hfates : fates start es = fates start l₁ ++ (e, true) ::
      (fates (stepBindings e (bindingsAfter start l₁)).1 l₂ ++ (e', false) ::
        fates (stepBindings e' (bindingsAfter start (l₁ ++ e :: l₂))).1 l₃) := by
    rw [hes, fates_append, fates, fates_append, fates, ← hbetween, hinjected]
    rw [Eats] at heats
    rw [heats]
  have hpressed := h _ _ _ e e' hfates hcode (by
    obtain hrepeat | ⟨hdown, -⟩ := hagain
    · exact .inr hrepeat
    · exact .inl hdown)
  rwa [fates_events] at hpressed

theorem swallowed_of_quiet {start : List (InputBinding F)} (h : QuietWhileHeld start es) :
    StaysSwallowed (fates start es) := by
  intro l₁ l₂ l₃ e e' hlog hcode hagain
  obtain ⟨hes, heats⟩ := fates_split hlog
  have hlog' : fates start es = (l₁ ++ (e, true) :: l₂) ++ (e', false) :: l₃ := by
    rw [hlog, List.append_assoc, List.cons_append]
  obtain ⟨-, hinjected⟩ := fates_split hlog'
  rw [List.map_append, List.map_cons] at hes hinjected
  have hunmatched := mt hinjected.2 Bool.false_ne_true
  apply h _ _ _ e e' hes (heats.1 rfl) hcode
  obtain hdown | hrepeat := hagain
  · exact .inr ⟨hdown, hunmatched⟩
  · exact .inl hrepeat

end

def ctrlRepeat : InputEvent :=
  { type := EV_KEY, code := 29, value := 2 }

def ctrlRelease : InputEvent :=
  { type := EV_KEY, code := 29, value := 0 }

/-- A sequence of one key. -/
def ctrlOnly : List (InputBinding ℚ) :=
  inputAddBinding [29] (by decide) none []

def fromKeyboard (e : InputEvent) : ReadEvent where
  event := e
  slot := 0
  type := .keyboard

/-- Keyboard and mouse are at the first domain. -/
def focusedWorld : World ℚ :=
  let w := startWorld (fun _ => told "") []
  { w with
    routing := { w.routing with keybDest := some firstEntry, mouseDest := some firstEntry }
    types := fun _ => some .keyboard }

theorem ctrlPress_eaten : SwallowStep (inputInject 1) (fromKeyboard ctrlPress) (ctrlOnly, [])
    ((stepBindings ctrlPress ctrlOnly).1, [(ctrlPress, true)]) := by
  refine ⟨focusedWorld, focusedWorld, ?_⟩
  have hexec : inputExecBindings ctrlPress (focusedWorld, ctrlOnly) =
      .ok (true, focusedWorld, (stepBindings ctrlPress ctrlOnly).1) := by
    rw [inputExecBindings_eq]
    rfl
  exact bind_ok (beside_ok hexec)

/-- An event that matches nothing is handed over, whatever becomes of it. -/
theorem unmatched_injected (e : InputEvent) (bs : List (InputBinding ℚ))
    (log : List (InputEvent × Bool)) (hunmatched : (stepBindings e bs).2 = none)
    (hinject : ∃ w', injectUnmatched (inputInject 1) (fromKeyboard e) focusedWorld =
      .ok ((), w')) :
    SwallowStep (inputInject 1) (fromKeyboard e) (bs, log)
      ((stepBindings e bs).1, log ++ [(e, false)]) := by
  obtain ⟨w', hinject⟩ := hinject
  refine ⟨focusedWorld, w', ?_⟩
  have hexec : inputExecBindings e (focusedWorld, bs) =
      .ok (false, focusedWorld, (stepBindings e bs).1) := by
    rw [inputExecBindings_eq, hunmatched]
    rfl
  have hzoom : zoom Prod.fst (fun w s => (w, s.2)) (injectUnmatched (inputInject 1)
      (fromKeyboard e)) (focusedWorld, (stepBindings e bs).1) =
        .ok ((), w', (stepBindings e bs).1) := by
    unfold zoom
    rw [hinject]
  have hbeside : beside (inputExecBindings e) ((focusedWorld, bs), log) =
      .ok (false, (focusedWorld, (stepBindings e bs).1), log) := beside_ok hexec
  rw [Swallowing.inputExecBindingsOrInject]
  have hfirst := bind_ok (k := fun eaten => (do
    note (e, eaten)
    if eaten then pure ()
    else beside (zoom Prod.fst (fun w s => (w, s.2)) (injectUnmatched (inputInject 1)
      (fromKeyboard e))) : Ledger Fault (World ℚ × List (InputBinding ℚ))
        (InputEvent × Bool) Unit)) hbeside
  exact hfirst.trans (beside_ok hzoom)

end InputServer
