import InputServer.Library.Run
import InputServer.Operations

namespace InputServer
open Program
set_option autoImplicit true

variable {F : Type} {L : Regime F} {R : World F → World F → Prop} {w w' : World F}

/-- What the daemon's callers keep to: a command comes from a domain that is there, and an event
that is no message about the device slot comes from a device. -/
def Op.Valid (w : World F) : Op → Prop
  | .command d _ => w.Known d
  | .inputSend _ slot e => slot ≠ INPUTSLOT_INVALID ∧ e.Plain
  | .inputInject e slot _ => slot ≠ INPUTSLOT_INVALID ∧ e.Plain
  | _ => True

/-- An operation that removes domains leaves the focus on none of them. -/
def Op.FocusSafe (w w' : World F) : Op → Prop
  | .rpcConnect _ _ => ∀ d, .reclaimed d ∈ w.since w' → GoneSafe w w' d
  | .attachVkbd _ => ∀ d, .reclaimed d ∈ w.since w' → GoneSafe w w' d
  | .rpcDisconnect d => GoneSafe w w' d
  | .detachVkbd domid => ∀ d, w.domainWithDomid domid = some d →
      (w.domains d).vkbdBackend = true → w.switcher.current = some d → ForgetSafe w w' d
  | _ => True

/-- No divert leads to a domain that an operation removes, and no domain is set up for a vkbd in
an entry that the focus was left on. -/
def Op.PointerSafe (w w' : World F) : Op → Prop
  | .rpcConnect _ _ => ∀ d, .reclaimed d ∈ w.since w' → Undiverted w d
  | .attachVkbd domid => (∀ d, .reclaimed d ∈ w.since w' → Undiverted w d) ∧
      (w.domainWithDomid domid = none → ∀ d, w.emptyDomain = some d →
        w.switcher.current ≠ some d)
  | .rpcDisconnect d => Undiverted w d
  | .detachVkbd domid => ∀ d, w.domainWithDomid domid = some d →
      (w.domains d).vkbdBackend = true → Undiverted w d
  | _ => True

/-- An operation is safe for what is followed. -/
structure Op.Safe (L : Regime F) (op : Op) (w w' : World F) : Prop where
  focus : L.focused w' → op.FocusSafe w w'
  pointers : L.sound w' → op.PointerSafe w w'

section
variable [Double F] {inject : Inject F} (hinject : InjectRoutes inject)
include hinject

/-- The plugin connects, or one of its records is processed. -/
def Op.OfPlugin : Op → Prop
  | .pluginAccept _ => True
  | .pluginRecord _ => True
  | _ => False

section
variable [Bystanding R]

theorem domainCreate_living (hw : Living L w)
    (hsafe : ∀ dead w', w.Later w' → .reclaimed dead ∈ w.since w' → Departs L w w' dead)
    (domid : Int) (pvm : Bool) :
    wlp (domainCreate inject domid pvm) (fun _ w' => Living L w' ∧ R w w') w := by
  cases he : w.emptyDomain with
  | none =>
    rw [domainCreate, wlp_bind, wlp_get, he, wlp_pure]
    exact ⟨hw, refl w⟩
  | some d =>
    have hconnected : R w (w.connected d domid) := Bystanding.connected rfl
    refine wlp_mono (domainCreate_evolved hinject hw he hsafe domid pvm) ?_
    intro _ w' h
    exact ⟨h.1, IsTrans.trans _ _ _ hconnected (Bystanding.evolved h.2)⟩

theorem inputDaemonDetachVkbd_lives (domid : Int)
    (hsafe : ∀ w', w.Later w' → (Op.detachVkbd domid).Safe L w w') :
    Moves (Living L) R (inputDaemonDetachVkbd inject domid) w := by
  apply yields_get
  intro _
  cases hd : w.domainWithDomid domid with
  | none => exact moves_pure _
  | some d =>
    apply bystands_of_evolves (T := ⟨fun _ => False, fun a => a = d, False⟩)
    apply domainDetachVkbd_evolves hinject rfl
    · exact fun hm => hm.elim
    · intro hbackend w' hlater
      constructor
      · exact fun hf hcurrent => (hsafe w' hlater).focus hf d hd hbackend hcurrent
      · exact fun hs => (hsafe w' hlater).pointers hs d hd hbackend

/-- An operation that has nothing to do with the plugin. -/
theorem Op.bystands (op : Op) (hvalid : op.Valid w)
    (hsafe : ∀ w', w.Later w' → op.Safe L w w') (hplugin : ¬op.OfPlugin) :
    Moves (Living L) R (op.run inject) w := by
  have hmoves {m : WorldM F Unit}
      (h : Living L w → wlp m (fun _ w' => Living L w' ∧ R w w') w) : Moves (Living L) R m w :=
    fun hw => wlp_mono (h hw) fun _ _ h' => ⟨h'.1, h'.2, trivial⟩
  cases op with
  | rpcConnect domid pvm =>
    apply hmoves
    intro hw
    apply domainCreate_living hinject hw
    intro dead w' hlater hin
    exact ⟨fun hf => (hsafe w' hlater).focus hf dead hin,
      fun hs => (hsafe w' hlater).pointers hs dead hin⟩
  | rpcDisconnect d =>
    apply bystands_of_evolves (T := ⟨fun _ => False, fun a => a = d, False⟩)
    apply domainGone_evolves hinject rfl
    · exact fun hm => hm.elim
    · exact fun w' hlater => ⟨(hsafe w' hlater).focus, (hsafe w' hlater).pointers⟩
  | attachVkbd domid =>
    apply moves_discard
    intro hw
    have hattach :
        wlp (inputDaemonAttachVkbd inject domid) (fun _ w' => Living L w' ∧ R w w') w := by
      apply inputDaemonAttachVkbd_living hinject hw
      · intro hnew d hd w' hlater hs
        exact ((hsafe w' hlater).pointers hs).2 hnew d hd
      · intro dead w' hlater hin
        exact ⟨fun hf => (hsafe w' hlater).focus hf dead hin,
          fun hs => ((hsafe w' hlater).pointers hs).1 dead hin⟩
    exact wlp_mono hattach fun _ _ h' => ⟨h'.1, h'.2, trivial⟩
  | detachVkbd domid => exact inputDaemonDetachVkbd_lives hinject domid hsafe
  | setSlot domid slot => exact inputDaemonSetSlot_lives domid slot w
  | switchFocus domid => exact inputDaemonSwitchFocus_lives hinject domid w
  | command d c => exact domainCommand_lives hinject hvalid c
  | divertMouseFocus sender uuid s1 s2 s3 s4 d1 d2 d3 d4 =>
    exact moves_discard (inputDaemonDivertMouseFocus_lives sender uuid s1 s2 s3 s4 d1 d2 d3 d4 w)
  | divertKeyboardFocus sender uuid =>
    exact moves_discard (inputDaemonDivertKeyboardFocus_lives hinject sender uuid w)
  | setDivertKeyboardFilter sender filter =>
    exact moves_discard (inputDaemonSetDivertKeyboardFilter_lives sender filter w)
  | stopMouseDivert sender => exact inputDaemonStopMouseDivert_lives sender w
  | stopKeyboardDivert sender =>
    exact inputDaemonStopKeyboardDivert_lives hinject sender w
  | focusMode sender mode => exact moves_discard (inputDaemonFocusMode_lives sender mode w)
  | touch uuid => exact moves_discard (inputDaemonTouch_lives uuid w)
  | powerState path d =>
    exact bystands_of_evolves (T := .none) (domainPowerState_evolves hinject path d w)
  | desktopDimensions d dims => exact domainCalculateAbsScaling_lives d dims w
  | activeAdapter d disabled => exact surfaceDisabled_lives d disabled w
  | switcherAbs d enabled => exact handleSwitcherAbs_lives d enabled w
  | switcherLeds d ledCode => exact handleSwitcherLeds_lives d ledCode w
  | switcherShutdown d state => exact handleSwitcherShutdown_lives d state w
  | pluginAccept s2 => exact absurd trivial hplugin
  | pluginRecord r => exact absurd trivial hplugin
  | pluginClosed => exact bystands_of_routes (onPlug_routes killConnection_keepsDest)
  | inputSend d slot e =>
    apply moves_discard
    exact bystands_of_routes (inputSend_routes (some d) hvalid.1 hvalid.2 w).moves
  | inputInject e slot type =>
    apply moves_discard
    exact bystands_of_routes (hinject w.scope e slot type w hvalid.2 hvalid.1).moves

end

/-- Every operation keeps the invariant of the daemon. -/
theorem Op.lives (op : Op) (hvalid : op.Valid w)
    (hsafe : ∀ w', w.Later w' → op.Safe L w w') : Lives L (op.run inject) w := by
  by_cases hplugin : op.OfPlugin
  · cases op with
    | pluginAccept s2 => exact serverAccept_lives s2 w
    | pluginRecord r => exact processEvent_lives r w
    | _ => exact hplugin.elim
  · exact op.bystands hinject hvalid hsafe hplugin

end

/-- The daemon when it starts: no entry of the table is in use, and nothing is routed. -/
structure World.Initial (w : World F) : Prop where
  empty : ∀ d, (w.domains d).initialised = false
  noClient : ∀ d, (w.domains d).client = none
  noPvm : ∀ d, (w.domains d).isPvm = false
  uncaptured : ∀ d, w.plug.plugin d = false
  closed : w.plug.s = -1 ∧ w.plug.src = none ∧ w.plug.dest = none
  undiverted : ∀ d, (w.domains d).divertInfo = none
  unrouted : w.routing.mouseDest = none ∧ w.routing.mouseParent = none ∧
    w.routing.keybDest = none ∧ w.routing.keybParent = none
  unpressed : w.routing.mousePressed = []
  unfocused : w.switcher.current = none ∧ w.switcher.surfaceCurrent = none
  idle : w.switcher.switching = false
  silent : w.log = []

/-- What the daemon does in answer to one event of its loop. -/
inductive Activity where
  | op (o : Op)
  | receive (o : RecvOutcome) (incoming : List UInt8)

def Activity.run [Double F] (inject : Inject F) : Activity → WorldM F Unit
  | op o => o.run inject
  | receive o incoming => serverRecv o incoming

def Activity.Valid (w : World F) : Activity → Prop
  | op o => o.Valid w
  | receive _ _ => True

def Activity.FocusSafe (w w' : World F) : Activity → Prop
  | op o => o.FocusSafe w w'
  | receive _ _ => True

def Activity.PointerSafe (w w' : World F) : Activity → Prop
  | op o => o.PointerSafe w w'
  | receive _ _ => True

/-- An activity is safe for what is followed. -/
structure Activity.Safe (L : Regime F) (a : Activity) (w w' : World F) : Prop where
  focus : L.focused w' → a.FocusSafe w w'
  pointers : L.sound w' → a.PointerSafe w w'

/-- One activity, as the callers of the daemon may start it. -/
def Activity.Step [Double F] (a : Activity) (w w' : World F) : Prop :=
  a.Valid w ∧ ∃ depth, a.run (inputInject depth) w = .ok ((), w')

theorem Activity.lives [Double F] {inject : Inject F} (hinject : InjectRoutes inject)
    (a : Activity) (hvalid : a.Valid w)
    (hsafe : ∀ w', w.Later w' → a.Safe L w w') : Lives L (a.run inject) w := by
  cases a with
  | op o =>
    apply o.lives hinject hvalid
    exact fun w' hlater => ⟨(hsafe w' hlater).focus, (hsafe w' hlater).pointers⟩
  | receive o incoming => exact serverRecv_lives o incoming w

theorem World.Initial.living (h : w.Initial) : Living .bare w where
  tracked := by
    refine ⟨?_, ?_, ?_⟩
    · exact fun d hd => absurd (h.noClient d) hd
    · rw [h.unpressed]
      exact fun _ => nofun
    · constructor
      · intro p hp
        rw [h.unrouted.2.1] at hp
        cases hp
      · exact fun d _ => h.undiverted d
  captured := captured_of_none h.uncaptured
  unique := by
    constructor
    · intro a b ha
      rw [World.Known, h.empty] at ha
      cases ha
    · intro a b ha
      rw [World.Known, h.empty] at ha
      cases ha
  pvm d hd := by
    rw [h.noPvm] at hd
    cases hd
  named d guest hd := by
    rw [h.noClient] at hd
    cases hd
  idle := h.idle
  sound := False.elim
  focus := False.elim

theorem World.Initial.focusLive (h : w.Initial) : FocusLive w where
  focused d hd := by
    rw [h.unfocused.1] at hd
    cases hd
  known d hd := by
    rw [h.unfocused.1] at hd
    cases hd
  surface d hd := by
    rw [h.unfocused.2] at hd
    cases hd

/-- The states that a list of activities leads to. -/
def Activity.runAll [Double F] (depth : Nat) (acts : List Activity) (w : World F) :
    Except Fault (World F) :=
  acts.foldlM (fun w a => (a.run (inputInject depth) w).map Prod.snd) w

/-- The state that a list of activities leads to, or the first one where they fail. -/
def Activity.reached [Double F] (depth : Nat) (acts : List Activity) (w : World F) : World F :=
  match Activity.runAll depth acts w with
  | .ok w' => w'
  | .error _ => w

theorem step_reached [Double F] {depth : Nat} {a : Activity} {w : World F} (hvalid : a.Valid w)
    (hok : (Activity.runAll depth [a] w).isOk = true) :
    a.Step w (Activity.reached depth [a] w) := by
  refine ⟨hvalid, depth, ?_⟩
  rw [Activity.reached]
  rw [Activity.runAll, List.foldlM_cons] at hok ⊢
  cases hone : a.run (inputInject depth) w with
  | error e =>
    rw [hone] at hok
    cases hok
  | ok r => rfl

theorem run_reached [Double F] {depth : Nat} {acts : List Activity} {w₀ : World F}
    (hvalid : ∀ a ∈ acts, ∀ w : World F, a.Valid w)
    (hok : (Activity.runAll depth acts w₀).isOk = true) :
    Run Activity.Step w₀ acts (Activity.reached depth acts w₀) := by
  cases hrun : Activity.runAll depth acts w₀ with
  | error e =>
    rw [hrun] at hok
    cases hok
  | ok w =>
    rw [Activity.reached, hrun]
    apply (Run.of_foldlM hvalid hrun).mono
    intro a w w' hstep
    refine ⟨hstep.1 w, depth, ?_⟩
    have hmap := hstep.2
    cases hone : a.run (inputInject depth) w with
    | error e =>
      rw [hone] at hmap
      cases hmap
    | ok r =>
      rw [hone] at hmap
      cases hmap
      rfl

/-- Exact numbers in the place of `double`. -/
instance : Double ℚ where
  ofInt n := n
  add := (· + ·)
  mul := (· * ·)
  div := (· / ·)
  lt a b := a < b
  le a b := a ≤ b
  trunc q := q.num.tdiv q.den

/-- The daemon as it starts, with what it will be told and how its sends will end. -/
def startWorld (answers : Nat → Answers) (sends : List SendOutcome) : World ℚ where
  domains _ := Domain.fresh (-1) none false 1
  plug := {
    src := none, dest := none, s := -1, slot := INPUTSLOT_INVALID, recivedSlot := INPUTSLOT_INVALID
    dropped := false, slotDropped := false, delayed := 0, partialBuffer := [], resetall := false
    devEvents := [], devFreed := false, error := 0, plugin := fun _ => false, sends := sends
    wire := [] }
  recv := { buffer := List.replicate buffersize 0, bytesRemaining := 0, position := 0 }
  routing := {
    mouseDest := none, mouseParent := none, keybDest := none, keybParent := none
    mouseX := 0, mouseY := 0, mouseSpeed := 1, mouseSpeedThreshold1 := 0, mouseSpeedThreshold2 := 0
    mousePressed := [], buttons := fun _ => 0, mouseButton := 0, keybModbits := 0
    keybWaitsForClick := false, resistance := 0, lastTimeout := 0, lastD := none
    buttonHolding := 0, lastWasKey := false }
  keyStatus _ := false
  types _ := none
  multitouch := {
    deferpressed := .nope, draining := false, slot := 0, pressed := false, hadSlot0 := false }
  switcher := { current := none, surfaceCurrent := none, switching := false, follow := none }
  deathWindow _ := 0
  xcHandle := true
  answers := answers
  asked := 0
  log := []

theorem startWorld_initial (answers : Nat → Answers) (sends : List SendOutcome) :
    (startWorld answers sends).Initial :=
  ⟨fun _ => rfl, fun _ => rfl, fun _ => rfl, fun _ => rfl, ⟨rfl, rfl, rfl⟩, fun _ => rfl,
    ⟨rfl, rfl, rfl, rfl⟩, rfl, ⟨rfl, rfl⟩, rfl, rfl⟩

/-- Every question has the same answer: each node holds `value`, and Xen knows every domain. -/
def told (value : String) : Answers where
  db _ := some value
  xenstore _ := some value
  stack := []
  time := 0
  setVisible := true
  domInfo domid := some { domid := domid, hvm := true, lapicOnly := false, dying := false }
  seamlessMouse := none
  vkbdRegistered := true

/-- The questions until the `n`th are answered one way, and the others another way. -/
def toldUntil (n : Nat) (first second : String) (i : Nat) : Answers :=
  if i < n then told first else told second

section
variable [Double F] {w₀ : World F} {acts : List Activity}

theorem reachable_living (h₀ : w₀.Initial) (hrun : Run Activity.Step w₀ acts w) :
    Living .bare w := by
  apply hrun.invariant (I := fun _ w => Living .bare w) h₀.living
  intro _ a w w' hw hstep
  obtain ⟨hvalid, depth, hok⟩ := hstep
  have hlives := a.lives (L := .bare) (inputInject_routes depth) hvalid
    (fun _ _ => ⟨False.elim, False.elim⟩)
  exact (hlives hw () w' hok).1

/-- No two initialised entries ever share a domid or a slot. -/
theorem domain_keys_unique (h₀ : w₀.Initial) (hrun : Run Activity.Step w₀ acts w) : Unique w :=
  (reachable_living h₀ hrun).unique

/-- Two domains connect, and the first one is moved to the slot after the second. -/
theorem domain_keys_unique_moved :
    Unique (Activity.reached 5
      [.op (.rpcConnect 5 false), .op (.rpcConnect 6 false), .op (.setSlot 5 2)]
      (startWorld (toldUntil 17 "1" "2") [])) := by
  apply domain_keys_unique (startWorld_initial _ _)
  apply run_reached
  · intro a ha w
    simp only [List.mem_cons, List.not_mem_nil, or_false] at ha
    obtain rfl | rfl | rfl := ha <;> trivial
  · decide +kernel

/-- A captured domain is the only one, and its plugin is connected. -/
theorem capture_exclusive (h₀ : w₀.Initial) (hrun : Run Activity.Step w₀ acts w) :
    (∀ a b, w.plug.plugin a = true → w.plug.plugin b = true → a = b) ∧
      ∀ d, w.plug.plugin d = true → w.plug.src = some d ∧ w.plug.s ≠ -1 := by
  have hcaptured := (reachable_living h₀ hrun).captured
  refine ⟨?_, hcaptured⟩
  intro a b ha hb
  have hsrc := (hcaptured a ha).1
  rw [(hcaptured b hb).1] at hsrc
  exact (Option.some.inj hsrc).symm

def takingPlugin : List Activity :=
  [.op (.pluginAccept 4), .op (.rpcConnect 5 false),
    .op (.pluginRecord { magic := MAGIC, itype := EV_VM, icode := VM_TAKE_FROM, ivalue := 5 })]

/-- A plugin connects and takes the only domain. -/
theorem capture_exclusive_taken :
    (∀ a b, (Activity.reached 5 takingPlugin (startWorld (fun _ => told "1") [])).plug.plugin a →
        (Activity.reached 5 takingPlugin (startWorld (fun _ => told "1") [])).plug.plugin b →
          a = b) ∧
      ∀ d, (Activity.reached 5 takingPlugin (startWorld (fun _ => told "1") [])).plug.plugin d →
        (Activity.reached 5 takingPlugin (startWorld (fun _ => told "1") [])).plug.src = some d ∧
          (Activity.reached 5 takingPlugin (startWorld (fun _ => told "1") [])).plug.s ≠ -1 := by
  apply capture_exclusive (startWorld_initial _ _)
  apply run_reached
  · intro a ha w
    simp only [takingPlugin, List.mem_cons, List.not_mem_nil, or_false] at ha
    obtain rfl | rfl | rfl := ha <;> trivial
  · decide +kernel

end

end InputServer
