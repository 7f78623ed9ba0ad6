import InputServer.ButtonAlternation
import InputServer.Library.Run
import InputServer.Library.Trace
import InputServer.TouchpadPackets

namespace InputServer
set_option autoImplicit true

/-- What reaches the touchpad: an event of the device, the expiry of the click timer, a new
configuration with the speed that comes of it, and the keys that turn the touchpad off and on. -/
inductive TapAction (F : Type) where
  | event (time : Timeval) (ev : InputEvent)
  | expire
  | config (config : TouchpadConfig) (speed : F)
  | disable
  | enable
  | toggle

/-- The values of the left button among the events. -/
def leftValues (es : List InputEvent) : List Int32 :=
  (es.filter fun e => e.type = EV_KEY ∧ e.code = BTN_LEFT).map InputEvent.value

/-- In these states the finger is on the touchpad. -/
def TapState.touching : TapState → Bool
  | .touch | .move | .possibleDrag | .drag => true
  | .start | .singleTapPending => false

/-- The six states, apart from the touchpad they are in: what a touch, a release or a move does
where tap clicks are generated, or are not. -/
def TapState.next (touch release move clicks : Bool) : TapState → TapState × List InputEvent
  | .start => (if touch then .touch else .start, [])
  | .touch =>
    (if move then .move else if release then if clicks then .singleTapPending else .start
      else .touch, [])
  | .move => (if release then .start else .move, [])
  | .singleTapPending =>
    if touch then if clicks then (.possibleDrag, []) else (.touch, leftClick)
    else (.singleTapPending, [])
  | .possibleDrag =>
    if move then (.drag, eventButtonChange leftButtonId 1)
    else if release then (.start, leftClick ++ leftClick)
    else (.possibleDrag, [])
  | .drag => if release then (.start, eventButtonChange leftButtonId 0) else (.drag, [])

/-- The values that lead from one state to another: they alternate, and leave the button down in
`TS_DRAG` only. -/
def TapState.Leads (before after : TapState) (values : List Int32) : Prop :=
  Alternates (decide (before = .drag)) values ∧
    downAfter (decide (before = .drag)) values = decide (after = .drag)

section
variable {F : Type} [Double F]

/-- One action, with the clicks of the taps. -/
def TapAction.next (fuel : Nat) (t : Touchpad F) :
    TapAction F → Option (Touchpad F × List InputEvent)
  | .event time ev => do
    let (t, out) ← handleTouchpadEvent fuel t time ev
    pure (t, out.elim [] PacketOutput.taps)
  | .expire => if t.leftClickTimer then some (sendLeftClickEvent t) else none
  | .config tc speed => some (touchpadRereadConfig tc speed t, [])
  | .disable => some (disableTouchpad t, [])
  | .enable => some (enableTouchpad t, [])
  | .toggle => some (toggleTouchpadStatus t, [])

/-- Whether the packet that is complete shows a finger. -/
def fingerIn (t : Touchpad F) : Bool :=
  detectFinger (beginPacket t)

def Touchpad.InTouch (t : Touchpad F) : Prop :=
  t.state.tapstate.touching = true → t.state.lastFingertouching = true

end

structure TapMoment (F : Type) where
  act : TapAction F
  before : Touchpad F
  after : Touchpad F
  taps : List InputEvent

def tapValues (ms : List (TapMoment F)) : List Int32 :=
  ms.flatMap fun m => leftValues m.taps

namespace TapMoment
variable {F : Type} [Double F]

def Step (m : TapMoment F) (t t' : Touchpad F) : Prop :=
  m.before = t ∧ m.after = t' ∧ ∃ fuel, m.act.next fuel t = some (t', m.taps)

/-- A packet shows that the finger has been lifted. -/
def Lifts (m : TapMoment F) : Prop :=
  ∃ time ev, m.act = .event time ev ∧ ev.isReport = true ∧ fingerIn m.before = false

/-- The touchpad is initialised again. -/
def TurnsOn (m : TapMoment F) : Prop :=
  m.act = .enable ∨ m.act = .toggle ∧ m.before.state.touchpadOff = true

/-- A drag whose end is not seen: the touchpad is turned on in it, or the finger is lifted while the
touchpad is off. -/
def DropsDrag (m : TapMoment F) : Prop :=
  m.before.state.tapstate = .drag ∧
    (m.TurnsOn ∨ m.Lifts ∧ m.before.state.touchpadOff = true)

/-- The left button alternates, is down in `TS_DRAG` only, and up when the finger is. -/
structure Paired (past : List (TapMoment F)) (m : TapMoment F) : Prop where
  alternates : Alternates false (tapValues (past ++ [m]))
  outstanding : downAfter false (tapValues (past ++ [m])) = decide (m.after.state.tapstate = .drag)
  lifted : m.Lifts → downAfter false (tapValues (past ++ [m])) = false

end TapMoment

section
variable {F : Type} [Double F] {t t' : Touchpad F}

theorem leftValues_press : leftValues (eventButtonChange leftButtonId 1) = [1] := by
  decide

theorem leftValues_release : leftValues (eventButtonChange leftButtonId 0) = [0] := by
  decide

theorem leftValues_click : leftValues leftClick = [1, 0] := by
  decide

theorem leftValues_clicks : leftValues (leftClick ++ leftClick) = [1, 0, 1, 0] := by
  decide

theorem TapState.Leads.quiet {s s' : TapState} (h : s ≠ .drag) (h' : s' ≠ .drag) :
    s.Leads s' (leftValues []) := by
  constructor
  · trivial
  · rw [decide_eq_false h, decide_eq_false h']
    rfl

theorem TapState.next_leads (touch release move clicks : Bool) (s : TapState) :
    s.Leads (s.next touch release move clicks).1
      (leftValues (s.next touch release move clicks).2) := by
  cases s with
  | start => cases touch <;> exact .quiet nofun nofun
  | touch => cases move <;> cases release <;> cases clicks <;> exact .quiet nofun nofun
  | move => cases release <;> exact .quiet nofun nofun
  | singleTapPending =>
    cases touch with
    | false => exact .quiet nofun nofun
    | true =>
      cases clicks with
      | false =>
        simp only [TapState.next, if_true, Bool.false_eq_true, if_false, leftValues_click]
        exact ⟨⟨rfl, rfl, trivial⟩, rfl⟩
      | true => exact .quiet nofun nofun
  | possibleDrag =>
    cases move with
    | false =>
      cases release with
      | false => exact .quiet nofun nofun
      | true =>
        simp only [TapState.next, if_true, Bool.false_eq_true, if_false, leftValues_clicks]
        exact ⟨⟨rfl, rfl, rfl, rfl, trivial⟩, rfl⟩
    | true =>
      simp only [TapState.next, if_true, leftValues_press]
      exact ⟨⟨rfl, trivial⟩, rfl⟩
  | drag =>
    cases release with
    | false => exact ⟨trivial, rfl⟩
    | true =>
      simp only [TapState.next, if_true, leftValues_release]
      exact ⟨⟨rfl, trivial⟩, rfl⟩

/-- In a state of a finger on the touchpad there is a finger, or it has just been released. -/
theorem TapState.next_touching {finger last : Bool} (move clicks : Bool) (s : TapState)
    (hlast : s.touching = true → last = true)
    (h : (s.next (finger && !last) (!finger && last) (finger && move) clicks).1.touching = true) :
    finger = true := by
  cases finger with
  | true => rfl
  | false =>
    cases s with
    | start => cases h
    | singleTapPending => cases h
    | touch =>
      rw [hlast rfl] at h
      cases clicks <;> cases h
    | move | possibleDrag | drag =>
      rw [hlast rfl] at h
      cases h

/-- The gestures follow the machine. -/
theorem handleGestures_next (t : Touchpad F) :
    ((handleGestures t).1.state.tapstate, (handleGestures t).2) =
      t.state.tapstate.next t.touch t.release t.move (noteTouch t).tapsClick := by
  have hstate := noteTouch_state t
  unfold handleGestures
  dsimp only
  rw [← hstate]
  generalize noteTouch t = u
  cases hs : u.state.tapstate with
  | start => cases t.touch <;> simp [TapState.next, hs]
  | touch => cases t.move <;> cases t.release <;> cases u.tapsClick <;> simp [TapState.next, hs]
  | move => cases t.release <;> simp [TapState.next, hs]
  | singleTapPending => cases t.touch <;> cases u.tapsClick <;> simp [TapState.next, hs]
  | possibleDrag => cases t.move <;> cases t.release <;> simp [TapState.next, hs]
  | drag => cases t.release <;> simp [TapState.next, hs]

/-- A packet that is not ignored goes on in the machine. -/
theorem Processed.next (p : Processed t t' out) : ∃ move clicks,
    (t'.state.tapstate, out.taps) = t.state.tapstate.next
      (detectFinger t && !t.state.lastFingertouching)
      (!detectFinger t && t.state.lastFingertouching) (detectFinger t && move) clicks := by
  have hstate := p.padded_state
  have hfinger := p.padded_finger
  have h := handleGestures_next p.padded
  rw [p.tap] at h
  rw [p.tapstate, h, hstate]
  unfold Touchpad.move Touchpad.touch Touchpad.release
  dsimp only
  rw [hstate, hfinger, Bool.and_assoc]
  exact ⟨_, _, rfl⟩

/-- What a moment does to the taps. -/
structure TapMoment.Follows (m : TapMoment F) : Prop where
  inTouch : m.after.InTouch
  leads : (m.TurnsOn → m.before.state.tapstate ≠ .drag) →
    m.before.state.tapstate.Leads m.after.state.tapstate (leftValues m.taps)
  restarts : m.TurnsOn → m.after.state.tapstate = .start ∧ m.taps = []
  lifted : m.Lifts → m.before.state.touchpadOff = false → m.after.state.tapstate ≠ .drag
  ignored : m.Lifts → m.before.state.touchpadOff = true →
    m.after.state.tapstate = m.before.state.tapstate ∧ m.taps = []

theorem TapState.Leads.same (s : TapState) : s.Leads s (leftValues []) :=
  ⟨trivial, rfl⟩

/-- Where the state of the taps stays and nothing is clicked. -/
theorem TapMoment.follows_same {m : TapMoment F} (hin : m.before.InTouch)
    (htap : m.after.state.tapstate = m.before.state.tapstate)
    (hlast : m.after.state.lastFingertouching = m.before.state.lastFingertouching)
    (htaps : m.taps = []) (hon : ¬m.TurnsOn)
    (hlifts : m.Lifts → m.before.state.touchpadOff = true) : m.Follows where
  inTouch := by
    unfold Touchpad.InTouch
    rw [htap, hlast]
    exact hin
  leads _ := by
    rw [htap, htaps]
    exact .same _
  restarts h := absurd h hon
  lifted h hoff := by
    rw [hlifts h] at hoff
    cases hoff
  ignored _ _ := ⟨htap, htaps⟩

theorem TapMoment.follows_packet {m : TapMoment F} (hin : m.before.InTouch) (hon : ¬m.TurnsOn)
    (hoff : m.before.state.touchpadOff = false)
    (hprocess : processPacket fuel (readyPacket m.before time) = some (m.after, out))
    (htaps : m.taps = out.taps) : m.Follows := by
  have hstate : (readyPacket m.before time).state = m.before.state := beginPacket_state _
  obtain ⟨p⟩ := processPacket_on (by rw [hstate, hoff]) hprocess
  obtain ⟨move, clicks, hnext⟩ := p.next
  rw [hstate] at hnext
  have hafter := congrArg Prod.fst hnext
  have hout := congrArg Prod.snd hnext
  dsimp only at hafter hout
  have hfinger : m.after.state.tapstate.touching = true →
      detectFinger (readyPacket m.before time) = true := by
    rw [hafter]
    exact TapState.next_touching _ _ _ hin
  constructor
  · intro h
    rw [p.lastFinger]
    exact hfinger h
  · intro _
    rw [hafter, htaps, hout]
    exact TapState.next_leads _ _ _ _ _
  · intro h
    exact absurd h hon
  · rintro ⟨time', ev', hev, -, hlifted⟩ _ hdrag
    have htrue := hfinger (by rw [hdrag]; rfl)
    exact Bool.false_ne_true (hlifted.symm.trans htrue)
  · intro _ h
    rw [hoff] at h
    cases h

theorem TapMoment.Step.follows_event {m : TapMoment F} (h : m.Step t t') (hin : t.InTouch)
    (hact : m.act = .event time ev) : m.Follows := by
  obtain ⟨act, before, after, taps⟩ := m
  obtain ⟨rfl, rfl, fuel, hnext⟩ := h
  dsimp only at hact hnext hin
  subst hact
  have hon : ¬(TapMoment.mk (.event time ev) before after taps).TurnsOn := by
    rintro (hev | ⟨hev, -⟩) <;> cases hev
  obtain ⟨⟨u, out⟩, hevent, hnext⟩ := Option.bind_eq_some_iff.1 hnext
  cases hnext
  obtain ⟨hreport, rfl, hfill⟩ | ⟨hreport, o, rfl, hprocess⟩ := touchpadEvent_cases hevent
  · have hstate : after.state = before.state := by
      rw [hfill]
      exact beginPacket_state before
    apply follows_same hin (congrArg _ hstate) (congrArg _ hstate) rfl hon
    rintro ⟨time', ev', hev, hrep, -⟩
    cases hev
    rw [hreport] at hrep
    cases hrep
  · cases hoff : before.state.touchpadOff with
    | false => exact follows_packet hin hon hoff hprocess rfl
    | true =>
      have hready : (readyPacket before time).state = before.state := beginPacket_state _
      obtain ⟨hsame, htaps, -⟩ := processPacket_off (by rw [hready, hoff]) hprocess
      have hstate : after.state = before.state := by rw [hsame, hready]
      exact follows_same hin (congrArg _ hstate) (congrArg _ hstate) htaps hon fun _ => hoff

theorem TapMoment.follows_restart {m : TapMoment F} (hafter : m.after = enableTouchpad m.before)
    (htaps : m.taps = []) (hon : m.TurnsOn) (hlifts : ¬m.Lifts) : m.Follows where
  inTouch h := by
    rw [hafter] at h
    cases h
  leads h := by
    rw [hafter, htaps]
    exact .quiet (h hon) nofun
  restarts _ := ⟨by rw [hafter]; rfl, htaps⟩
  lifted h := absurd h hlifts
  ignored h := absurd h hlifts

theorem TapMoment.not_lifts {m : TapMoment F} (h : ∀ time ev, m.act ≠ .event time ev) :
    ¬m.Lifts := by
  rintro ⟨time, ev, hev, -⟩
  exact h time ev hev

theorem TapMoment.follows_expire {taps : List InputEvent}
    (h : sendLeftClickEvent t = (t', taps)) (hin : t.InTouch) :
    (TapMoment.mk .expire t t' taps).Follows := by
  have hon : ¬(TapMoment.mk .expire t t' taps).TurnsOn := by
    rintro (hev | ⟨hev, -⟩) <;> cases hev
  have hlifts : ¬(TapMoment.mk .expire t t' taps).Lifts := not_lifts (by nofun)
  unfold sendLeftClickEvent at h
  split at h
  · rename_i hpending
    cases h
    constructor
    · nofun
    · intro _
      dsimp only
      rw [hpending, leftValues_click]
      exact ⟨⟨rfl, rfl, trivial⟩, rfl⟩
    · intro h
      exact absurd h hon
    · intro h
      exact absurd h hlifts
    · intro h
      exact absurd h hlifts
  · cases h
    exact follows_same hin rfl rfl rfl hon fun h => absurd h hlifts

/-- Every action leads on, but for the touchpad that is turned on in a drag. -/
theorem TapMoment.Step.follows {m : TapMoment F} (h : m.Step t t') (hin : t.InTouch) :
    m.Follows := by
  obtain ⟨act, before, after, taps⟩ := m
  obtain ⟨rfl, rfl, fuel, hnext⟩ := h
  dsimp only at hnext hin
  cases act with
  | event time ev => exact Step.follows_event ⟨rfl, rfl, fuel, hnext⟩ hin rfl
  | expire =>
    unfold TapAction.next at hnext
    dsimp only at hnext
    split at hnext
    · exact follows_expire (Option.some.inj hnext) hin
    · cases hnext
  | config tc speed =>
    obtain ⟨rfl, rfl⟩ := Prod.mk.inj (Option.some.inj hnext)
    apply follows_same hin rfl rfl rfl
    · rintro (hev | ⟨hev, -⟩) <;> cases hev
    · intro h
      exact absurd h (not_lifts (by nofun))
  | disable =>
    obtain ⟨rfl, rfl⟩ := Prod.mk.inj (Option.some.inj hnext)
    apply follows_same hin rfl rfl rfl
    · rintro (hev | ⟨hev, -⟩) <;> cases hev
    · intro h
      exact absurd h (not_lifts (by nofun))
  | enable =>
    obtain ⟨rfl, rfl⟩ := Prod.mk.inj (Option.some.inj hnext)
    exact follows_restart rfl rfl (.inl rfl) (not_lifts (by nofun))
  | toggle =>
    obtain ⟨rfl, rfl⟩ := Prod.mk.inj (Option.some.inj hnext)
    cases hoff : before.state.touchpadOff with
    | false =>
      have hafter : toggleTouchpadStatus before = disableTouchpad before := by
        unfold toggleTouchpadStatus
        rw [hoff]
        rfl
      apply follows_same hin (by rw [hafter]; rfl) (by rw [hafter]; rfl) rfl
      · rintro (hev | ⟨-, hev⟩)
        · cases hev
        · rw [hoff] at hev
          cases hev
      · intro h
        exact absurd h (not_lifts (by nofun))
    | true =>
      have hafter : toggleTouchpadStatus before = enableTouchpad before := by
        unfold toggleTouchpadStatus
        rw [hoff]
        rfl
      exact follows_restart hafter rfl (.inr ⟨rfl, hoff⟩) (not_lifts (by nofun))

end

section
variable {F : Type} [Double F] {t₀ t : Touchpad F}

omit [Double F] in
theorem tapValues_snoc (past : List (TapMoment F)) (m : TapMoment F) :
    tapValues (past ++ [m]) = tapValues past ++ leftValues m.taps := by
  unfold tapValues
  rw [List.flatMap_append, List.flatMap_singleton]

/-- What holds of the clicks so far, in every run. -/
structure TapHistory (ms : List (TapMoment F)) (t : Touchpad F) : Prop where
  inTouch : t.InTouch
  alternates : Alternates false (tapValues ms)
  outstanding : downAfter false (tapValues ms) = decide (t.state.tapstate = .drag)

theorem downAfter_append (held : Bool) (values values' : List Int32) :
    downAfter held (values ++ values') = downAfter (downAfter held values) values' :=
  List.foldl_append

theorem TapHistory.snoc {m : TapMoment F} (h : TapHistory ms t) (hstep : m.Step t t')
    (hsafe : ¬m.DropsDrag) : TapHistory (ms ++ [m]) t' ∧ m.Paired ms := by
  have hfollows := hstep.follows h.inTouch
  obtain ⟨rfl, rfl, -⟩ := hstep
  have hon (hturns : m.TurnsOn) : m.before.state.tapstate ≠ .drag :=
    fun hdrag => hsafe ⟨hdrag, .inl hturns⟩
  obtain ⟨halternates, hdown⟩ := hfollows.leads hon
  have hall : Alternates false (tapValues (ms ++ [m])) := by
    rw [tapValues_snoc]
    apply h.alternates.append
    rw [h.outstanding]
    exact halternates
  have hnow : downAfter false (tapValues (ms ++ [m])) =
      decide (m.after.state.tapstate = .drag) := by
    rw [tapValues_snoc, downAfter_append, h.outstanding]
    exact hdown
  refine ⟨⟨hfollows.inTouch, hall, hnow⟩, hall, hnow, ?_⟩
  intro hlifts
  rw [hnow]
  apply decide_eq_false
  cases hoff : m.before.state.touchpadOff with
  | false => exact hfollows.lifted hlifts hoff
  | true =>
    rw [(hfollows.ignored hlifts hoff).1]
    exact fun hdrag => hsafe ⟨hdrag, .inr ⟨hlifts, hoff⟩⟩

/-- A dropped drag shows: the button is down, and no state or no finger says so. -/
theorem TapHistory.dropped {m : TapMoment F} (h : TapHistory ms t) (hstep : m.Step t t')
    (hpaired : m.Paired ms) : ¬m.DropsDrag := by
  have hfollows := hstep.follows h.inTouch
  obtain ⟨rfl, rfl, -⟩ := hstep
  rintro ⟨hdrag, hcause⟩
  have hheld : downAfter false (tapValues ms) = true := by
    rw [h.outstanding, hdrag]
    rfl
  have hstill (htaps : m.taps = []) : downAfter false (tapValues (ms ++ [m])) = true := by
    rw [tapValues_snoc, htaps, downAfter_append, hheld]
    rfl
  obtain hon | ⟨hlifts, hoff⟩ := hcause
  · obtain ⟨hafter, htaps⟩ := hfollows.restarts hon
    have houtstanding := hpaired.outstanding
    rw [hstill htaps, hafter] at houtstanding
    cases houtstanding
  · have hlifted := hpaired.lifted hlifts
    rw [hstill (hfollows.ignored hlifts hoff).2] at hlifted
    cases hlifted

theorem taps_history (hstart : t₀.state.tapstate = .start) (h : Run TapMoment.Step t₀ ms t)
    (hsafe : ∀ m ∈ ms, ¬m.DropsDrag) : TapHistory ms t ∧ Throughout TapMoment.Paired ms := by
  induction h with
  | nil =>
    refine ⟨⟨?_, trivial, ?_⟩, .nil⟩
    · intro htouching
      rw [hstart] at htouching
      cases htouching
    · rw [hstart]
      rfl
  | snoc hrun hstep ih =>
    obtain ⟨hhistory, hpaired⟩ := ih fun m hm => hsafe m (List.mem_append_left _ hm)
    obtain ⟨hnext, hnow⟩ := hhistory.snoc hstep (hsafe _ List.mem_concat_self)
    exact ⟨hnext, hpaired.snoc hnow⟩

theorem taps_safe (hstart : t₀.state.tapstate = .start) (h : Run TapMoment.Step t₀ ms t)
    (hpaired : Throughout TapMoment.Paired ms) : ∀ m ∈ ms, ¬m.DropsDrag := by
  induction h with
  | nil =>
    intro m hm
    cases hm
  | snoc hrun hstep ih =>
    obtain ⟨hbefore, hnow⟩ := hpaired.of_snoc
    have hsafe := ih hbefore
    have hhistory := (taps_history hstart hrun hsafe).1
    intro m hm
    obtain hm | hm := List.mem_append.1 hm
    · exact hsafe m hm
    · cases List.mem_singleton.1 hm
      exact hhistory.dropped hstep hnow

/-- The left button of the taps stays paired exactly in the runs that drop no drag: none in which
the touchpad is turned on in one, or turned off in one whose finger is then lifted. -/
theorem taps_paired_iff (hstart : t₀.state.tapstate = .start)
    (h : Run TapMoment.Step t₀ ms t) :
    Throughout TapMoment.Paired ms ↔ ∀ m ∈ ms, ¬m.DropsDrag :=
  ⟨taps_safe hstart h, fun hsafe => (taps_history hstart h hsafe).2⟩

/-- The moments of some actions. -/
def TapAction.play (fuel : Nat) : Touchpad F → List (TapAction F) →
    Option (List (TapMoment F) × Touchpad F)
  | t, [] => some ([], t)
  | t, act :: acts => do
    let (t', taps) ← act.next fuel t
    let (ms, t'') ← play fuel t' acts
    pure (⟨act, t, t', taps⟩ :: ms, t'')

theorem play_run (h : TapAction.play fuel t acts = some (ms, t')) :
    Run TapMoment.Step t ms t' := by
  induction acts generalizing t ms with
  | nil =>
    cases h
    exact .nil
  | cons act acts ih =>
    obtain ⟨⟨t₁, taps⟩, hnext, h⟩ := Option.bind_eq_some_iff.1 h
    obtain ⟨⟨ms', t₂⟩, hplay, h⟩ := Option.bind_eq_some_iff.1 h
    cases h
    exact .cons ⟨rfl, rfl, fuel, hnext⟩ (ih hplay)

end

def touchpadPacket (es : List InputEvent) : List (TapAction ℚ) :=
  (es ++ eventSync).map (.event ⟨0, 0⟩)

def contact (value : Int32) : InputEvent :=
  { type := EV_KEY, code := UInt16.ofNat BTN_TOUCH, value := value }

/-- A tap, and a second touch that moves away. -/
def tapAndDrag : List (TapAction ℚ) :=
  touchpadPacket [contact 1, ⟨EV_ABS, ABS_X, 500⟩, ⟨EV_ABS, ABS_Y, 500⟩] ++
    touchpadPacket [contact 0] ++ touchpadPacket [contact 1] ++
    touchpadPacket [⟨EV_ABS, ABS_X, 600⟩]

/-- The finger is lifted at the end of the drag. -/
theorem taps_paired_drag : ∃ ms t, Run TapMoment.Step restingTouchpad ms t ∧
    tapValues ms = [1, 0] ∧ Throughout TapMoment.Paired ms := by
  have hplay : ((TapAction.play 4 restingTouchpad (tapAndDrag ++ touchpadPacket [contact 0])).map
      fun r => (tapValues r.1, r.1.all fun m => !m.before.state.touchpadOff &&
        match m.act with
        | .event _ _ => true
        | _ => false)) = some ([1, 0], true) := by
    decide +kernel
  obtain ⟨⟨ms, t⟩, hrun, hvalues⟩ := Option.map_eq_some_iff.1 hplay
  obtain ⟨hvalues, hevents⟩ := Prod.mk.inj hvalues
  have hsteps := play_run hrun
  refine ⟨ms, t, hsteps, hvalues, (taps_paired_iff rfl hsteps).2 ?_⟩
  intro m hm hdrops
  have hevent := List.all_eq_true.1 hevents m hm
  obtain ⟨-, (hact | ⟨hact, -⟩) | ⟨-, hoff⟩⟩ := hdrops
  · rw [hact, Bool.and_false] at hevent
    cases hevent
  · rw [hact, Bool.and_false] at hevent
    cases hevent
  · rw [hoff] at hevent
    cases hevent

/-- The keys that turn the touchpad off and on in a drag leave the left button down. -/
theorem drag_left_down : ∃ ms t, Run TapMoment.Step restingTouchpad ms t ∧
    ¬Throughout TapMoment.Paired ms := by
  have hplay : ((TapAction.play 4 restingTouchpad (tapAndDrag ++ [.toggle, .toggle])).map
      fun r => (tapValues r.1, r.2.state.tapstate)) = some ([1], .start) := by
    decide +kernel
  obtain ⟨⟨ms, t⟩, hrun, hvalues⟩ := Option.map_eq_some_iff.1 hplay
  obtain ⟨hvalues, hstart⟩ := Prod.mk.inj hvalues
  dsimp only at hvalues hstart
  refine ⟨ms, t, play_run hrun, ?_⟩
  intro hpaired
  cases play_run hrun with
  | nil => cases hvalues
  | snoc hbefore hstep =>
    have houtstanding := hpaired.of_snoc.2.outstanding
    rw [hstep.2.1, hvalues, hstart] at houtstanding
    cases houtstanding

end InputServer
