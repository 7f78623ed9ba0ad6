import InputServer.Library.Run
import InputServer.Library.SuffixMatcher
import InputServer.Reachable
import InputServer.ShortcutFilter

namespace InputServer
open Program
set_option autoImplicit true

def eventIsKey (e : InputEvent) : Bool :=
  e.type = EV_KEY ∧ e.code < BTN_MOUSE

def eventIsKeyDown (e : InputEvent) : Bool :=
  eventIsKey e ∧ e.value = 1

def eventIsKeyUp (e : InputEvent) : Bool :=
  eventIsKey e ∧ e.value = 0

/-- A registered sequence of keys, without its terminator; `cb` is the callback with its
argument. -/
structure InputBinding (F : Type) where
  binding : List Int
  unterminated : -1 ∉ binding
  cb : Option (WorldM F Int)
  matched : Nat
  down : Bool

section
variable {F : Type}

/-- What the binding's array holds at an index. -/
def InputBinding.key (b : InputBinding F) (i : Nat) : Int :=
  b.binding.getD i (-1)

def inputAddBinding (tab : List Int) (h : -1 ∉ tab) (cb : Option (WorldM F Int))
    (bindings : List (InputBinding F)) : List (InputBinding F) :=
  bindings ++ [{ binding := tab, unterminated := h, cb := cb, matched := 0, down := false }]

def InputBinding.release (b : InputBinding F) : InputBinding F :=
  { b with down := false, matched := 0 }

/-- One binding of `input_exec_bindings`' loop, and whether it matched. -/
def InputBinding.press (code : UInt16) (b : InputBinding F) : InputBinding F × Bool :=
  let matched := if b.key b.matched = code.toNat then b.matched + 1 else 0
  if b.key matched = -1 then ({ b with matched := 0 }, true)
  else ({ b with matched := matched }, false)

/-- The loop of `input_exec_bindings`. A later binding takes the place of one that matched. -/
def pressBindings (code : UInt16) :
    List (InputBinding F) → List (InputBinding F) × Option (InputBinding F)
  | [] => ([], none)
  | b :: bs =>
    match b.press code, pressBindings code bs with
    | (b, _), (bs, some last) => (b :: bs, some last)
    | (b, true), (bs, none) => ({ b with down := true } :: bs, some b)
    | (b, false), (bs, none) => (b :: bs, none)

/-- What `input_exec_bindings` does to the bindings, and which one it matches. -/
def stepBindings (e : InputEvent) (bs : List (InputBinding F)) :
    List (InputBinding F) × Option (InputBinding F) :=
  let bs := if eventIsKeyUp e then bs.map InputBinding.release else bs
  if eventIsKeyDown e then pressBindings e.code bs else (bs, none)

/-- A callback, after which the keys may have to be released for all. -/
def callBack (cb : Option (WorldM F Int)) : WorldM F Unit := do
  let reset ← cb.getD (pure 0)
  if reset ≠ 0 then inputKeyboardReset true else pure ()

/-- The end of `input_exec_bindings`, when it knows the binding that matched. -/
def runMatched : Option (InputBinding F) → WorldM F Bool
  | none => pure false
  | some b => do
    callBack b.cb
    pure true

/-- `input_exec_bindings`; true means that a binding was matched. -/
def inputExecBindings (e : InputEvent) : Program Fault (World F × List (InputBinding F)) Bool := do
  let s ← get
  let (bs, matched) := stepBindings e s.2
  set (s.1, bs)
  zoom Prod.fst (fun w s => (w, s.2)) (runMatched matched)

/-- One event of a run: what else the daemon does in between changes no binding. -/
def ExecStep (e : InputEvent) (bs bs' : List (InputBinding F)) : Prop :=
  ∃ w matched w', inputExecBindings e (w, bs) = .ok (matched, w', bs')

/-- No binding has been begun. -/
def Unpressed (bs : List (InputBinding F)) : Prop :=
  ∀ b ∈ bs, b.matched = 0

theorem inputAddBinding_unpressed (tab : List Int) (htab : -1 ∉ tab) (cb : Option (WorldM F Int))
    {bs : List (InputBinding F)} (h : Unpressed bs) :
    Unpressed (inputAddBinding tab htab cb bs) := by
  intro b hb
  obtain hb | hb := List.mem_append.1 hb
  · exact h b hb
  · rw [List.mem_singleton.1 hb]

end

/-- The codes of the keys pressed since the last one was released. -/
def pressesSinceRelease (events : List InputEvent) : List Int :=
  events.foldl (fun presses e =>
    if eventIsKeyUp e then []
    else if eventIsKeyDown e then presses ++ [(e.code.toNat : Int)] else presses) []

/-- No key is pressed again before some key has been released. -/
def FreshPresses (events : List InputEvent) : Prop :=
  ∀ l₁ l₂ l₃ e e', events = l₁ ++ e :: (l₂ ++ e' :: l₃) → eventIsKeyDown e →
    eventIsKeyDown e' → e'.code = e.code → ∃ r ∈ l₂, eventIsKeyUp r

section
variable {F : Type}

/-- The last binding that is the end of the presses. -/
def hotkey (bs : List (InputBinding F)) (presses : List Int) : Option (InputBinding F) :=
  (bs.filter fun b => b.binding <:+ presses).getLast?

theorem pressesSinceRelease_concat (events : List InputEvent) (e : InputEvent) :
    pressesSinceRelease (events ++ [e]) =
      if eventIsKeyUp e then []
      else if eventIsKeyDown e then pressesSinceRelease events ++ [(e.code.toNat : Int)]
      else pressesSinceRelease events := by
  unfold pressesSinceRelease
  rw [List.foldl_append]
  rfl

theorem not_keyUp_of_keyDown (h : eventIsKeyDown e) : ¬eventIsKeyUp e := by
  unfold eventIsKeyDown at h
  unfold eventIsKeyUp
  rw [decide_eq_true_eq] at h ⊢
  rw [h.2]
  intro hup
  exact absurd hup.2 (by decide)

theorem FreshPresses.of_concat (h : FreshPresses (events ++ [e])) : FreshPresses events := by
  intro l₁ l₂ l₃ d d' hevents
  apply h l₁ l₂ (l₃ ++ [e]) d d'
  rw [hevents]
  simp only [List.append_assoc, List.cons_append]

/-- What has been pressed since the last release, as events. -/
theorem mem_pressesSinceRelease (h : c ∈ pressesSinceRelease events) :
    ∃ l₁ l₂ e, events = l₁ ++ e :: l₂ ∧ eventIsKeyDown e ∧ (e.code.toNat : Int) = c ∧
      ∀ r ∈ l₂, ¬eventIsKeyUp r := by
  induction events using List.reverseRecOn with
  | nil => cases h
  | append_singleton events e ih =>
    rw [pressesSinceRelease_concat] at h
    by_cases hup : eventIsKeyUp e
    · rw [if_pos hup] at h
      cases h
    · rw [if_neg hup] at h
      have hearlier (hmem : c ∈ pressesSinceRelease events) :
          ∃ l₁ l₂ d, events ++ [e] = l₁ ++ d :: l₂ ∧ eventIsKeyDown d ∧
            (d.code.toNat : Int) = c ∧ ∀ r ∈ l₂, ¬eventIsKeyUp r := by
        obtain ⟨l₁, l₂, d, hevents, hdown, hcode, hheld⟩ := ih hmem
        refine ⟨l₁, l₂ ++ [e], d, ?_, hdown, hcode, ?_⟩
        · rw [hevents, List.append_assoc, List.cons_append]
        · intro r hr
          obtain hr | hr := List.mem_append.1 hr
          · exact hheld r hr
          · rwa [List.mem_singleton.1 hr]
      by_cases hdown : eventIsKeyDown e
      · rw [if_pos hdown] at h
        obtain hmem | hlast := List.mem_append.1 h
        · exact hearlier hmem
        · refine ⟨events, [], e, rfl, hdown, (List.mem_singleton.1 hlast).symm, ?_⟩
          intro r hr
          cases hr
      · rw [if_neg hdown] at h
        exact hearlier h

theorem FreshPresses.nodup (h : FreshPresses events) : (pressesSinceRelease events).Nodup := by
  induction events using List.reverseRecOn with
  | nil => exact List.nodup_nil
  | append_singleton events e ih =>
    have hbefore := ih h.of_concat
    rw [pressesSinceRelease_concat]
    split
    · exact List.nodup_nil
    split
    · next hdown =>
      refine List.nodup_append.2 ⟨hbefore, List.nodup_singleton _, ?_⟩
      intro c hc c' hc' heq
      rw [List.mem_singleton.1 hc'] at heq
      obtain ⟨l₁, l₂, d, hevents, hd, hcode, hheld⟩ := mem_pressesSinceRelease hc
      have hsame : e.code = d.code := by
        rw [heq] at hcode
        exact (UInt16.toNat_inj.1 (Int.natCast_inj.1 hcode)).symm
      obtain ⟨r, hr, hup⟩ := h l₁ l₂ [] d e (by rw [hevents, List.append_assoc]; rfl) hd hdown hsame
      exact hheld r hr hup
    · exact hbefore

theorem freshPresses_of_pairwise (h : events.Pairwise fun a b => a.code ≠ b.code) :
    FreshPresses events := by
  intro l₁ l₂ l₃ e e' hevents _ _ hcode
  rw [hevents] at h
  obtain ⟨-, hlater, -⟩ := List.pairwise_append.1 h
  have hne := (List.pairwise_cons.1 hlater).1 e' (List.mem_append_right l₂ List.mem_cons_self)
  exact absurd hcode.symm hne

/-- The binding has come as far as the presses lead it, and is otherwise as it was registered. -/
structure Underway (presses : List Int) (b₀ b : InputBinding F) : Prop where
  binding : b.binding = b₀.binding
  cb : b.cb = b₀.cb
  tracks : SuffixMatcher.Tracks b.binding b.matched presses

theorem underway_start {start : List (InputBinding F)} (h : Unpressed start) :
    List.Forall₂ (Underway []) start start := by
  apply List.forall₂_same.2
  intro b hb
  refine ⟨rfl, rfl, ?_⟩
  rw [h b hb]
  exact SuffixMatcher.tracks_nil _

theorem underway_release {start bs : List (InputBinding F)}
    (h : List.Forall₂ (Underway presses) start bs) :
    List.Forall₂ (Underway []) start (bs.map InputBinding.release) := by
  rw [List.forall₂_map_right_iff]
  refine h.imp ?_
  intro b₀ b hb
  exact ⟨hb.binding, hb.cb, SuffixMatcher.tracks_nil _⟩

theorem key_eq_code (b : InputBinding F) (i : Nat) (code : UInt16) :
    b.key i = code.toNat ↔ b.binding[i]? = some (code.toNat : Int) := by
  unfold InputBinding.key
  rw [List.getD_eq_getElem?_getD]
  cases b.binding[i]? with
  | none =>
    rw [Option.getD_none]
    constructor
    · intro h
      omega
    · intro h
      cases h
  | some c =>
    rw [Option.getD_some, Option.some.injEq]

theorem key_eq_terminator (b : InputBinding F) (hi : i ≤ b.binding.length) :
    b.key i = -1 ↔ i = b.binding.length := by
  unfold InputBinding.key
  rw [List.getD_eq_getElem?_getD]
  cases hkey : b.binding[i]? with
  | none =>
    have hle := List.getElem?_eq_none_iff.1 hkey
    rw [Option.getD_none]
    exact iff_of_true rfl (by omega)
  | some c =>
    obtain ⟨hlt, -⟩ := List.getElem?_eq_some_iff.1 hkey
    rw [Option.getD_some]
    constructor
    · intro hc
      rw [hc] at hkey
      exact absurd (List.mem_of_getElem? hkey) b.unterminated
    · intro heq
      omega

/-- A press is a step of the binding's matcher. -/
theorem press_eq (b : InputBinding F) (code : UInt16) :
    b.press code =
      let next := SuffixMatcher.advance b.binding b.matched (code.toNat : Int)
      ({ b with matched := if next = b.binding.length then 0 else next },
        decide (next = b.binding.length)) := by
  have hnext : (if b.key b.matched = code.toNat then b.matched + 1 else 0) =
      SuffixMatcher.advance b.binding b.matched (code.toNat : Int) := by
    unfold SuffixMatcher.advance
    rw [if_congr (key_eq_code b b.matched code) rfl rfl]
  have hle : SuffixMatcher.advance b.binding b.matched (code.toNat : Int) ≤
      b.binding.length := by
    unfold SuffixMatcher.advance
    split
    · next h =>
      obtain ⟨hlt, -⟩ := List.getElem?_eq_some_iff.1 h
      exact hlt
    · exact Nat.zero_le _
  unfold InputBinding.press
  rw [hnext]
  by_cases hwhole : SuffixMatcher.advance b.binding b.matched (code.toNat : Int) =
      b.binding.length
  · rw [if_pos ((key_eq_terminator b hle).2 hwhole)]
    simp only [hwhole, if_true, decide_true]
  · rw [if_neg (mt (key_eq_terminator b hle).1 hwhole)]
    simp only [hwhole, if_false, decide_false]

/-- One binding keeps up with the presses, and matches just when they end in it. -/
theorem underway_press {b₀ b : InputBinding F} (h : Underway presses b₀ b)
    (hnodup : (presses ++ [(code.toNat : Int)]).Nodup) :
    Underway (presses ++ [(code.toNat : Int)]) b₀ (b.press code).1 ∧
      ((b.press code).2 = true ↔ b₀.binding <:+ presses ++ [(code.toNat : Int)]) := by
  rw [press_eq b code]
  refine ⟨⟨h.binding, h.cb, h.tracks.advance hnodup⟩, ?_⟩
  rw [decide_eq_true_eq, h.tracks.advance_eq_length, h.binding]

theorem hotkey_cons (b : InputBinding F) (bs : List (InputBinding F)) (presses : List Int) :
    hotkey (b :: bs) presses = match hotkey bs presses with
      | some last => some last
      | none => if b.binding <:+ presses then some b else none := by
  unfold hotkey
  by_cases hended : b.binding <:+ presses
  · rw [List.filter_cons, if_pos (decide_eq_true hended), List.getLast?_cons, if_pos hended]
    cases (bs.filter fun b => decide (b.binding <:+ presses)).getLast? <;> rfl
  · rw [List.filter_cons, if_neg (by rwa [decide_eq_true_eq]), if_neg hended]
    cases (bs.filter fun b => decide (b.binding <:+ presses)).getLast? <;> rfl

theorem pressBindings_cons (code : UInt16) (b : InputBinding F) (bs : List (InputBinding F)) :
    pressBindings code (b :: bs) = match (pressBindings code bs).2 with
      | some last => ((b.press code).1 :: (pressBindings code bs).1, some last)
      | none =>
        if (b.press code).2 then
          ({ (b.press code).1 with down := true } :: (pressBindings code bs).1,
            some (b.press code).1)
        else ((b.press code).1 :: (pressBindings code bs).1, none) := by
  change (match b.press code, pressBindings code bs with
    | (b, _), (bs, some last) => (b :: bs, some last)
    | (b, true), (bs, none) => ({ b with down := true } :: bs, some b)
    | (b, false), (bs, none) => (b :: bs, none)) = _
  obtain ⟨b', hit⟩ := b.press code
  obtain ⟨bs', last⟩ := pressBindings code bs
  cases last with
  | some last => rfl
  | none => cases hit <;> rfl

theorem pressBindings_underway {start bs : List (InputBinding F)}
    (h : List.Forall₂ (Underway presses) start bs)
    (hnodup : (presses ++ [(code.toNat : Int)]).Nodup) :
    List.Forall₂ (Underway (presses ++ [(code.toNat : Int)])) start (pressBindings code bs).1 ∧
      (pressBindings code bs).2.map InputBinding.cb =
        (hotkey start (presses ++ [(code.toNat : Int)])).map InputBinding.cb := by
  induction h with
  | nil => exact ⟨.nil, rfl⟩
  | @cons b₀ b start bs hb hbs ih =>
    obtain ⟨hrest, hlast⟩ := ih
    obtain ⟨hfirst, hmatch⟩ := underway_press hb hnodup
    rw [hotkey_cons, pressBindings_cons]
    cases hother : (pressBindings code bs).2 with
    | some last =>
      rw [hother] at hlast
      cases hlater : hotkey start (presses ++ [(code.toNat : Int)]) with
      | none =>
        rw [hlater] at hlast
        cases hlast
      | some last₀ =>
        rw [hlater] at hlast
        exact ⟨.cons hfirst hrest, hlast⟩
    | none =>
      rw [hother] at hlast
      cases hlater : hotkey start (presses ++ [(code.toNat : Int)]) with
      | some last₀ =>
        rw [hlater] at hlast
        cases hlast
      | none =>
        by_cases hit : (b.press code).2 = true
        · rw [if_pos hit, if_pos (hmatch.1 hit)]
          refine ⟨.cons ⟨hfirst.binding, hfirst.cb, hfirst.tracks⟩ hrest, ?_⟩
          exact congrArg some hfirst.cb
        · rw [if_neg hit, if_neg (mt hmatch.2 hit)]
          exact ⟨.cons hfirst hrest, rfl⟩

theorem stepBindings_underway {start bs : List (InputBinding F)}
    (h : List.Forall₂ (Underway (pressesSinceRelease events)) start bs)
    (hfresh : FreshPresses (events ++ [e])) :
    List.Forall₂ (Underway (pressesSinceRelease (events ++ [e]))) start (stepBindings e bs).1 ∧
      (eventIsKeyDown e → (stepBindings e bs).2.map InputBinding.cb =
        (hotkey start (pressesSinceRelease (events ++ [e]))).map InputBinding.cb) := by
  have hnodup := hfresh.nodup
  unfold stepBindings
  rw [pressesSinceRelease_concat] at hnodup ⊢
  by_cases hdown : eventIsKeyDown e
  · have hup := not_keyUp_of_keyDown hdown
    rw [if_neg hup, if_pos hdown] at hnodup
    rw [if_neg hup, if_neg hup, if_pos hdown, if_pos hdown]
    obtain ⟨hbindings, hmatched⟩ := pressBindings_underway h hnodup
    exact ⟨hbindings, fun _ => hmatched⟩
  · by_cases hup : eventIsKeyUp e
    · rw [if_pos hup, if_pos hup, if_neg hdown]
      exact ⟨underway_release h, fun hdown' => absurd hdown' hdown⟩
    · rw [if_neg hup, if_neg hup, if_neg hdown, if_neg hdown]
      exact ⟨h, fun hdown' => absurd hdown' hdown⟩

/-- What `input_exec_bindings` does, with its bindings apart. -/
theorem inputExecBindings_eq (e : InputEvent) (w : World F) (bs : List (InputBinding F)) :
    inputExecBindings e (w, bs) = (runMatched (stepBindings e bs).2 w).map fun r =>
      (r.1, r.2, (stepBindings e bs).1) := by
  change zoom Prod.fst (fun w s => (w, s.2)) (runMatched (stepBindings e bs).2)
    (w, (stepBindings e bs).1) = _
  unfold zoom
  cases runMatched (stepBindings e bs).2 w <;> rfl

theorem execStep_bindings {bs bs' : List (InputBinding F)} (h : ExecStep e bs bs') :
    bs' = (stepBindings e bs).1 := by
  obtain ⟨w, matched, w', hrun⟩ := h
  rw [inputExecBindings_eq] at hrun
  cases hmatched : runMatched (stepBindings e bs).2 w with
  | error fault =>
    rw [hmatched] at hrun
    cases hrun
  | ok r =>
    rw [hmatched] at hrun
    cases hrun
    rfl

theorem run_underway {start bs : List (InputBinding F)} (hstart : Unpressed start)
    (hrun : Run ExecStep start events bs) (hfresh : FreshPresses events) :
    List.Forall₂ (Underway (pressesSinceRelease events)) start bs := by
  induction hrun with
  | nil => exact underway_start hstart
  | snoc hrun hstep ih =>
    rw [execStep_bindings hstep]
    exact (stepBindings_underway (ih hfresh.of_concat) hfresh).1

/-- The return value tells whether there was a binding to call back. -/
theorem runMatched_reports (m : Option (InputBinding F)) (w : World F) :
    wlp (runMatched m) (fun matched _ => matched = m.isSome) w := by
  cases m with
  | none =>
    unfold runMatched
    rw [wlp_pure]
    rfl
  | some b =>
    unfold runMatched
    rw [wlp_bind]
    intro _ w₁ _
    rw [wlp_pure]
    rfl

theorem runMatched_congr {m m' : Option (InputBinding F)}
    (h : m.map InputBinding.cb = m'.map InputBinding.cb) : runMatched m = runMatched m' := by
  cases m with
  | none =>
    cases m' with
    | none => rfl
    | some b' => cases h
  | some b =>
    cases m' with
    | none => cases h
    | some b' =>
      have hcb : b.cb = b'.cb := Option.some.inj h
      exact congrArg (fun cb => callBack cb >>= fun _ => pure true) hcb

theorem hotkey_isSome (bs : List (InputBinding F)) (presses : List Int) :
    (hotkey bs presses).isSome = true ↔ ∃ b ∈ bs, b.binding <:+ presses := by
  unfold hotkey
  rw [Option.isSome_iff_ne_none, ne_eq, List.getLast?_eq_none_iff, List.filter_eq_nil_iff]
  simp only [decide_eq_true_eq, not_forall, not_not, exists_prop]

/-- In every run of presses and releases the hotkeys fire exactly on their sequences. -/
theorem hotkeys_fire {start bs : List (InputBinding F)} (hstart : Unpressed start)
    (hrun : Run ExecStep start events bs) (hfresh : FreshPresses events) :
    (∀ b ∈ bs, b.binding ≠ [] → b.matched < b.binding.length) ∧
      ∀ e w, eventIsKeyDown e → FreshPresses (events ++ [e]) →
        wlp (inputExecBindings e) (fun matched _ => matched = true ↔
          ∃ b ∈ start, b.binding <:+ pressesSinceRelease (events ++ [e])) (w, bs) ∧
        (inputExecBindings e (w, bs)).map (fun r => (r.1, r.2.1)) =
          runMatched (hotkey start (pressesSinceRelease (events ++ [e]))) w := by
  have hunderway := run_underway hstart hrun hfresh
  constructor
  · intro b hb hne
    obtain ⟨b₀, -, hb₀⟩ := forall₂_exists_right hunderway.flip hb
    obtain hzero | hlt := hb₀.tracks.short
    · rw [hzero]
      exact List.length_pos_of_ne_nil hne
    · exact hlt
  · intro e w hdown hfresh'
    obtain ⟨-, hmatched⟩ := stepBindings_underway hunderway hfresh'
    have hcall := runMatched_congr (hmatched hdown)
    rw [← hotkey_isSome]
    have heq := inputExecBindings_eq e w bs
    rw [hcall] at heq
    constructor
    · intro matched s hexec
      rw [heq] at hexec
      cases hrun' : runMatched (hotkey start (pressesSinceRelease (events ++ [e]))) w with
      | error fault =>
        rw [hrun'] at hexec
        cases hexec
      | ok r =>
        rw [hrun'] at hexec
        cases hexec
        rw [runMatched_reports _ w r.1 r.2 hrun']
    · rw [heq]
      cases runMatched (hotkey start (pressesSinceRelease (events ++ [e]))) w <;> rfl

end

def ctrlPress : InputEvent :=
  { type := EV_KEY, code := 29, value := 1 }

def altPress : InputEvent :=
  { type := EV_KEY, code := 56, value := 1 }

/-- Ctrl and Alt, whose callback asks for no release of the keys. -/
def ctrlAlt : List (InputBinding ℚ) :=
  inputAddBinding [29, 56] (by decide) (some (pure 0)) []

theorem hotkeys_fire_ctrl_alt :
    (inputExecBindings altPress (startWorld (fun _ => told "") [],
      (stepBindings ctrlPress ctrlAlt).1)).map (fun r => (r.1, r.2.1)) =
        .ok (true, startWorld (fun _ => told "") []) := by
  have hstart : Unpressed ctrlAlt := inputAddBinding_unpressed _ _ _ fun _ h => nomatch h
  have hstep : ExecStep ctrlPress ctrlAlt (stepBindings ctrlPress ctrlAlt).1 := by
    refine ⟨startWorld (fun _ => told "") [], false, startWorld (fun _ => told "") [], ?_⟩
    rw [inputExecBindings_eq]
    rfl
  have hrun : Run ExecStep ctrlAlt ([] ++ [ctrlPress]) (stepBindings ctrlPress ctrlAlt).1 :=
    .snoc .nil hstep
  have hfires := (hotkeys_fire hstart hrun (freshPresses_of_pairwise (by decide))).2 altPress
    (startWorld (fun _ => told "") []) (by decide) (freshPresses_of_pairwise (by decide))
  rw [hfires.2]
  rfl

end InputServer
