import InputServer.LockedSessions

namespace InputServer.Secure
open Program
set_option autoImplicit true

/-- `platform_lock_timeout`, the static variables of `input_lock_timer`, when its event is due, the
clock of the event loop in seconds, and when the timer called `switcher_lock`. -/
structure IdleLock where
  state : State
  platformLockTimeout : Int32
  timeout : Int
  due : Option Nat
  clock : Nat
  calls : List Nat

abbrev IdleM := Program Fault IdleLock

def onState (m : AuthM α) : IdleM α :=
  zoom IdleLock.state (fun s x => { x with state := s }) m

/-- The value in the database, for which there is a buffer of 20 bytes. -/
def State.lockTimeout (s : State) : Int32 :=
  Int32.ofInt (strtol (String.ofList (((s.db "/platform/lock_timeout").getD "").toList.take 19)) 10)

/-- `platform_lock_timeout` is read once. -/
def IdleLock.readLockTimeout (x : IdleLock) : IdleLock :=
  if x.platformLockTimeout = -1 then { x with platformLockTimeout := x.state.lockTimeout } else x

/-- The screen is to be locked. -/
def IdleLock.Locks (x : IdleLock) : Prop :=
  0 < x.platformLockTimeout ∧ x.platformLockTimeout.toInt ≤ x.timeout

instance (x : IdleLock) : Decidable x.Locks :=
  inferInstanceAs (Decidable (_ ∧ _))

/-- The call of `switcher_lock` in `input_lock_timer`. -/
def lockIdle : IdleM Unit := do
  modify fun x => { x with timeout := 0, calls := x.calls ++ [x.clock] }
  let _ ← onState (switcherLock false)

/-- `input_lock_timer`, called for its event or by `input_read`. -/
def inputLockTimer (fired : Bool) : IdleM Unit := do
  modify fun x => { x with timeout := if fired then x.timeout else 0 }
  modify IdleLock.readLockTimeout
  let x ← get
  let _ ← (if x.Locks then lockIdle else pure ())
  modify fun x => { x with
    timeout := if fired then x.timeout + 5 else x.timeout
    due := some (x.clock + 5) }

def inputDaemonLockTimeoutSet (value : Int32) : IdleM Unit := do
  modify fun x => { x with platformLockTimeout := value }
  onState (dbWrite "/platform/lock_timeout" (toString value.toInt))

/-- What the event loop does: a device is read, the event of the timer comes, somebody sets the
time, or asks for something else. -/
inductive IdleEvent where
  | inputRead
  | fired
  | lockTimeoutSet (value : Int32)
  | ask (a : Ask)

def IdleEvent.run (H : Helpers) : IdleEvent → IdleM Unit
  | .inputRead => inputLockTimer false
  | .fired => inputLockTimer true
  | .lockTimeoutSet value => inputDaemonLockTimeoutSet value
  | .ask a => onState (Secure.ask H a)

/-- An event at a time, which no event precedes. The timer is never early. -/
def IdleEvent.Step (H : Helpers) (e : Nat × IdleEvent) (x x' : IdleLock) : Prop :=
  x.clock ≤ e.1 ∧ (e.2 = .fired → ∃ t, x.due = some t ∧ t ≤ e.1) ∧
    e.2.run H { x with clock := e.1 } = .ok ((), x')

/-- The timer is not late either. -/
def IdleEvent.PunctualStep (H : Helpers) (e : Nat × IdleEvent) (x x' : IdleLock) : Prop :=
  Step H e x x' ∧ ∀ t, x.due = some t → e.1 ≤ t

/-- Nobody touches a device or sets the time. -/
def IdleEvent.Idles : IdleEvent → Bool
  | .fired => true
  | .ask _ => true
  | _ => false

def IdleEvent.isFired : Nat × IdleEvent → Bool
  | (_, .fired) => true
  | _ => false

section
variable {H : Helpers} {x x' : IdleLock} {e : Nat × IdleEvent}

theorem lockIdle_locks (x : IdleLock) :
    wp lockIdle (fun _ x' => x'.platformLockTimeout = x.platformLockTimeout ∧ x'.timeout = 0 ∧
      x'.clock = x.clock ∧ x'.calls = x.calls ++ [x.clock] ∧
      (x.state.platformUser ≠ "" → x'.state.Holds (lockFlags false))) x := by
  unfold lockIdle
  rw [wp_bind, wp_modify]
  obtain ⟨began, s, hlock, -⟩ := switcherLock_leaves false x.state
  have hrun : onState (switcherLock false) { x with timeout := 0, calls := x.calls ++ [x.clock] } =
      .ok (began, { x with state := s, timeout := 0, calls := x.calls ++ [x.clock] }) := by
    unfold onState zoom
    rw [hlock]
  refine ⟨(), { x with state := s, timeout := 0, calls := x.calls ++ [x.clock] }, ?_, rfl, rfl,
    rfl, rfl, fun huser => ?_⟩
  · rw [bind_ok hrun]
    rfl
  · exact switcherLock_holds false huser UInt32.and_self began s hlock

/-- The state in which `input_lock_timer` looks at the time. -/
def IdleLock.looked (x : IdleLock) (fired : Bool) : IdleLock :=
  IdleLock.readLockTimeout { x with timeout := if fired then x.timeout else 0 }

theorem IdleLock.looked_spec (x : IdleLock) (fired : Bool) :
    (x.looked fired).state = x.state ∧ (x.looked fired).clock = x.clock ∧
      (x.looked fired).calls = x.calls ∧
      (x.looked fired).timeout = (if fired then x.timeout else 0) ∧
      (x.platformLockTimeout ≠ -1 →
        (x.looked fired).platformLockTimeout = x.platformLockTimeout) := by
  unfold looked readLockTimeout
  by_cases hunread : x.platformLockTimeout = -1
  · rw [if_pos hunread]
    exact ⟨rfl, rfl, rfl, rfl, fun hread => absurd hunread hread⟩
  · rw [if_neg hunread]
    exact ⟨rfl, rfl, rfl, rfl, fun _ => rfl⟩

/-- What `input_lock_timer` does: it locks, or counts on. -/
theorem inputLockTimer_spec (fired : Bool) (x : IdleLock) :
    wp (inputLockTimer fired) (fun _ x' =>
      x'.platformLockTimeout = (x.looked fired).platformLockTimeout ∧
      x'.due = some (x.clock + 5) ∧ x'.clock = x.clock ∧
      if (x.looked fired).Locks then
        x'.timeout = (if fired then 5 else 0) ∧ x'.calls = x.calls ++ [x.clock] ∧
          (x.state.platformUser ≠ "" → x'.state.Holds (lockFlags false))
      else
        x'.timeout = (if fired then x.timeout + 5 else 0) ∧ x'.calls = x.calls) x := by
  obtain ⟨hstate, hclock, hcalls, htimeout, -⟩ := x.looked_spec fired
  unfold inputLockTimer
  rw [wp_bind, wp_modify, wp_bind, wp_modify, wp_bind, wp_get, wp_bind]
  change wp (if (x.looked fired).Locks then lockIdle else pure ()) _ (x.looked fired)
  by_cases hlocks : (x.looked fired).Locks
  · rw [if_pos hlocks]
    refine wp_mono (lockIdle_locks (x.looked fired)) ?_
    rintro _ x₁ ⟨hset, hzero, hclock₁, hcalls₁, hholds⟩
    rw [hclock, hcalls] at hcalls₁
    rw [hstate] at hholds
    rw [wp_modify, if_pos hlocks]
    refine ⟨hset, ?_, hclock₁.trans hclock, ?_, hcalls₁, hholds⟩
    · change some (x₁.clock + 5) = _
      rw [hclock₁, hclock]
    · change (if fired then x₁.timeout + 5 else x₁.timeout) = _
      rw [hzero]
      rfl
  · rw [if_neg hlocks, wp_pure, wp_modify, if_neg hlocks]
    refine ⟨rfl, ?_, hclock, ?_, hcalls⟩
    · change some ((x.looked fired).clock + 5) = _
      rw [hclock]
    · change (if fired then (x.looked fired).timeout + 5 else (x.looked fired).timeout) = _
      rw [htimeout]
      cases fired <;> rfl

/-- The events of the timer between two locks. -/
def lockPeriod (value : Int32) : Nat :=
  (value.toInt.toNat + 4) / 5

/-- The seconds that `timeout` has after `n` events of the timer. -/
def countedOn (period n : Nat) : Nat :=
  if n = 0 then 0 else 5 * ((n - 1) % period + 1)

theorem countedOn_le (period n : Nat) : countedOn period n ≤ 5 * n := by
  unfold countedOn
  split
  · exact Nat.zero_le _
  · have hmod := Nat.mod_le (n - 1) period
    omega

theorem lockPeriod_bounds (value : Int32) :
    value.toInt.toNat ≤ 5 * lockPeriod value ∧ 5 * lockPeriod value ≤ value.toInt.toNat + 4 := by
  unfold lockPeriod
  omega

/-- The time is over at every multiple of the period. -/
theorem le_countedOn_iff {value : Int32} (hpos : 0 < value.toInt.toNat) (n : Nat) :
    value.toInt.toNat ≤ countedOn (lockPeriod value) n ↔ n ≠ 0 ∧ lockPeriod value ∣ n := by
  obtain ⟨hle, hge⟩ := lockPeriod_bounds value
  unfold countedOn
  cases n with
  | zero => exact iff_of_false (Nat.not_le_of_gt hpos) fun h => h.1 rfl
  | succ n =>
    obtain ⟨q, hq⟩ : ∃ q, lockPeriod value = q + 1 := ⟨lockPeriod value - 1, by omega⟩
    rw [hq] at hle hge ⊢
    rw [if_neg (Nat.succ_ne_zero n), Nat.add_sub_cancel, and_iff_right (Nat.succ_ne_zero n),
      Nat.dvd_iff_mod_eq_zero, Nat.succ_mod_succ_eq_zero_iff]
    have hlt := Nat.mod_lt n (show 0 < q + 1 from Nat.succ_pos q)
    omega

theorem countedOn_succ {value : Int32} (hpos : 0 < value.toInt.toNat) (n : Nat) :
    countedOn (lockPeriod value) (n + 1) =
      if value.toInt.toNat ≤ countedOn (lockPeriod value) n then 5
      else countedOn (lockPeriod value) n + 5 := by
  by_cases hover : value.toInt.toNat ≤ countedOn (lockPeriod value) n
  · rw [if_pos hover]
    obtain ⟨-, hdvd⟩ := (le_countedOn_iff hpos n).1 hover
    rw [countedOn, if_neg (Nat.succ_ne_zero n), Nat.add_sub_cancel, Nat.mod_eq_zero_of_dvd hdvd]
  · rw [if_neg hover]
    rw [le_countedOn_iff hpos] at hover
    unfold countedOn
    cases n with
    | zero => rfl
    | succ n =>
      have hdvd : ¬(n + 1) % lockPeriod value = 0 := fun hzero =>
        hover ⟨Nat.succ_ne_zero n, Nat.dvd_of_mod_eq_zero hzero⟩
      obtain ⟨q, hq⟩ : ∃ q, lockPeriod value = q + 1 :=
        ⟨lockPeriod value - 1, by have hbounds := lockPeriod_bounds value; omega⟩
      rw [hq] at hdvd ⊢
      have hlt := Nat.mod_lt n (show 0 < q + 1 from Nat.succ_pos q)
      rw [Nat.succ_mod_succ_eq_zero_iff] at hdvd
      have hnext : (n + 1) % (q + 1) = n % (q + 1) + 1 := by
        rw [← Nat.mod_add_mod, Nat.mod_eq_of_lt (by omega)]
      rw [if_neg (Nat.succ_ne_zero _), if_neg (Nat.succ_ne_zero _), Nat.add_sub_cancel,
        Nat.add_sub_cancel, hnext]
      ring

/-- A number of events of the timer have come since a device was read at a time, when `before` was
all the timer had done. -/
structure Idle (T : Int32) (t₀ n : Nat) (before : List Nat) (x : IdleLock) : Prop where
  value : x.platformLockTimeout = T
  timeout : x.timeout = countedOn (lockPeriod T) n
  calls : ∃ calls, x.calls = before ++ calls ∧ calls.length = (n - 1) / lockPeriod T ∧
    ∀ t ∈ calls, t₀ + 5 + T.toInt.toNat ≤ t
  due : ∃ t, x.due = some t ∧ t₀ + 5 * (n + 1) ≤ t
  clock : t₀ + 5 * n ≤ x.clock

theorem Idle.fired (h : Idle T t₀ n before x) (hpos : 0 < T.toInt.toNat)
    (hstep : IdleEvent.Step H (now, .fired) x x') : Idle T t₀ (n + 1) before x' := by
  obtain ⟨hclock, hfired, hrun⟩ := hstep
  obtain ⟨t, hdue, hlate⟩ := hfired rfl
  obtain ⟨t', hdue', ht'⟩ := h.due
  rw [hdue] at hdue'
  cases hdue'
  have hnow : t₀ + 5 * (n + 1) ≤ now := ht'.trans hlate
  have hread : x.platformLockTimeout ≠ -1 := by
    intro hunread
    rw [h.value] at hunread
    rw [hunread] at hpos
    exact absurd hpos (by decide)
  obtain ⟨-, hsame, hcalls, htimeout, hset⟩ :=
    ({ x with clock := now } : IdleLock).looked_spec true
  obtain ⟨_, x'', hrun', hvalue, hdue'', hclock'', hbranch⟩ :=
    inputLockTimer_spec true { x with clock := now }
  rw [show inputLockTimer true { x with clock := now } = .ok ((), x') from hrun] at hrun'
  cases hrun'
  have hcounted := countedOn_succ hpos n
  have hlocks : (({ x with clock := now } : IdleLock).looked true).Locks ↔
      T.toInt.toNat ≤ countedOn (lockPeriod T) n := by
    unfold IdleLock.Locks
    rw [hset hread, htimeout, if_pos rfl]
    change 0 < x.platformLockTimeout ∧ x.platformLockTimeout.toInt ≤ x.timeout ↔ _
    rw [h.value, h.timeout, Int32.lt_iff_toInt_lt]
    change 0 < T.toInt ∧ _ ↔ _
    omega
  obtain ⟨calls, hbefore, hlength, htimes⟩ := h.calls
  refine ⟨hvalue.trans ((hset hread).trans h.value), ?_, ?_, ⟨now + 5, hdue'', by omega⟩, ?_⟩
  · by_cases hover : T.toInt.toNat ≤ countedOn (lockPeriod T) n
    · rw [if_pos (hlocks.2 hover)] at hbranch
      rw [hcounted, if_pos hover, hbranch.1]
      rfl
    · rw [if_neg fun hlocked => hover (hlocks.1 hlocked)] at hbranch
      rw [hcounted, if_neg hover, hbranch.1, if_pos rfl, h.timeout]
      rfl
  · have hperiod : (n + 1 - 1) / lockPeriod T = (n - 1) / lockPeriod T +
        if T.toInt.toNat ≤ countedOn (lockPeriod T) n then 1 else 0 := by
      simp only [le_countedOn_iff hpos]
      cases n with
      | zero => rw [if_neg fun hzero => hzero.1 rfl]; rfl
      | succ n =>
        simp only [ne_eq, Nat.succ_ne_zero, not_false_eq_true, true_and, Nat.add_sub_cancel]
        exact Nat.succ_div
    by_cases hover : T.toInt.toNat ≤ countedOn (lockPeriod T) n
    · rw [if_pos (hlocks.2 hover)] at hbranch
      refine ⟨calls ++ [now], ?_, ?_, ?_⟩
      · rw [hbranch.2.1]
        exact (congrArg (· ++ [now]) hbefore).trans (List.append_assoc _ _ _)
      · rw [hperiod, if_pos hover, List.length_append, hlength]
        rfl
      · intro t ht
        obtain ht | ht := List.mem_append.1 ht
        · exact htimes t ht
        · -- The counter is never ahead of the time that has passed.
          rw [List.mem_singleton.1 ht]
          have hle := countedOn_le (lockPeriod T) n
          omega
    · rw [if_neg fun hlocked => hover (hlocks.1 hlocked)] at hbranch
      refine ⟨calls, hbranch.2.trans hbefore, ?_, htimes⟩
      rw [hperiod, if_neg hover, hlength]
      rfl
  · rw [hclock'']
    exact hnow

/-- What is asked of the daemon leaves the timer. -/
theorem IdleEvent.Step.asks (hstep : IdleEvent.Step H (now, .ask a) x x') :
    ∃ s, x' = { x with clock := now, state := s } := by
  have hrun : onState (Secure.ask H a) { x with clock := now } = .ok ((), x') := hstep.2.2
  obtain ⟨s, -, hx'⟩ := zoom_ok hrun
  exact ⟨s, hx'⟩

theorem Idle.asks (h : Idle T t₀ n before x) (hstep : IdleEvent.Step H (now, .ask a) x x') :
    Idle T t₀ n before x' := by
  have hclock := hstep.1
  obtain ⟨s, rfl⟩ := hstep.asks
  exact ⟨h.value, h.timeout, h.calls, h.due, h.clock.trans hclock⟩

/-- Reading a device does not lock. -/
theorem Idle.starts (hstep : IdleEvent.Step H (t₀, .inputRead) x x') :
    Idle x'.platformLockTimeout t₀ 0 x.calls x' := by
  obtain ⟨-, -, hrun⟩ := hstep
  obtain ⟨-, -, -, htimeout, -⟩ := ({ x with clock := t₀ } : IdleLock).looked_spec false
  obtain ⟨_, x'', hrun', hvalue, hdue, hclock, hbranch⟩ :=
    inputLockTimer_spec false { x with clock := t₀ }
  rw [show inputLockTimer false { x with clock := t₀ } = .ok ((), x') from hrun] at hrun'
  cases hrun'
  have hopen : ¬(({ x with clock := t₀ } : IdleLock).looked false).Locks := by
    rintro ⟨hpos, hle⟩
    rw [Int32.lt_iff_toInt_lt] at hpos
    rw [htimeout, if_neg Bool.false_ne_true] at hle
    exact absurd (hpos.trans_le hle) (by decide)
  rw [if_neg hopen, if_neg Bool.false_ne_true] at hbranch
  obtain ⟨hzero, hcalls⟩ := hbranch
  have hnone : (0 - 1) / lockPeriod x'.platformLockTimeout = 0 := Nat.zero_div _
  exact ⟨rfl, hzero, ⟨[], by rw [hcalls, List.append_nil], hnone.symm, nofun⟩,
    ⟨_, hdue, Nat.le_refl _⟩, hclock.ge⟩

theorem Idle.run (h : Idle T t₀ 0 before x₁) (hpos : 0 < T.toInt.toNat)
    (hrun : Run (IdleEvent.Step H) x₁ later x) (hidle : ∀ e ∈ later, e.2.Idles = true) :
    Idle T t₀ (later.countP IdleEvent.isFired) before x := by
  induction hrun with
  | nil => exact h
  | snoc hinit hlast ih =>
    rename_i es x e x'
    have hbefore := ih fun e' he' => hidle e' (List.mem_append_left _ he')
    have hidles := hidle e List.mem_concat_self
    rw [List.countP_append, List.countP_singleton]
    obtain ⟨now, event⟩ := e
    cases event with
    | fired => exact hbefore.fired hpos hlast
    | ask a => exact hbefore.asks hlast
    | inputRead => cases hidles
    | lockTimeoutSet value => cases hidles

/-- A punctual timer keeps up with the clock. -/
theorem punctual_run (hdue : x₁.due = some (t₀ + 5)) (hclock : x₁.clock ≤ t₀ + 5)
    (hrun : Run (IdleEvent.PunctualStep H) x₁ later x)
    (hidle : ∀ e ∈ later, e.2.Idles = true) :
    x.due = some (t₀ + 5 * (later.countP IdleEvent.isFired + 1)) ∧
      x.clock ≤ t₀ + 5 * (later.countP IdleEvent.isFired + 1) := by
  induction hrun with
  | nil => exact ⟨hdue, hclock⟩
  | snoc hinit hlast ih =>
    rename_i es x e x'
    obtain ⟨hbefore, -⟩ := ih fun e' he' => hidle e' (List.mem_append_left _ he')
    have hidles := hidle e List.mem_concat_self
    obtain ⟨hstep, hpunctual⟩ := hlast
    have hnow := hpunctual _ hbefore
    rw [List.countP_append, List.countP_singleton]
    obtain ⟨now, event⟩ := e
    cases event with
    | fired =>
      obtain ⟨-, hfired, hrun⟩ := hstep
      obtain ⟨t, ht, hlate⟩ := hfired rfl
      rw [hbefore] at ht
      cases ht
      obtain ⟨_, x'', hrun', -, hdue', hclock', -⟩ :=
        inputLockTimer_spec true { x with clock := now }
      rw [show inputLockTimer true { x with clock := now } = .ok ((), x') from hrun] at hrun'
      cases hrun'
      have hexact : now = t₀ + 5 * (es.countP IdleEvent.isFired + 1) :=
        Nat.le_antisymm hnow hlate
      refine ⟨?_, ?_⟩
      · rw [hdue']
        change some (now + 5) = _
        rw [hexact]
        rfl
      · rw [hclock']
        change now ≤ t₀ + 5 * (es.countP IdleEvent.isFired + 1 + 1)
        omega
    | ask a =>
      obtain ⟨s, rfl⟩ := hstep.asks
      exact ⟨hbefore, hnow⟩
    | inputRead => cases hidles
    | lockTimeoutSet value => cases hidles

/-- The timer can fire when it is due, and is then due again. -/
theorem fires (H : Helpers) (hdue : x.due = some t) (hclock : x.clock ≤ t) :
    ∃ x', IdleEvent.PunctualStep H (t, .fired) x x' ∧ x'.due = some (t + 5) ∧ x'.clock = t := by
  obtain ⟨_, x', hrun, -, hdue', hclock', -⟩ := inputLockTimer_spec true { x with clock := t }
  refine ⟨x', ⟨⟨hclock, fun _ => ⟨t, hdue, Nat.le_refl t⟩, hrun⟩, fun t' ht' => ?_⟩, hdue', hclock'⟩
  rw [hdue] at ht'
  cases ht'
  exact Nat.le_refl t

/-- While no device is touched, `switcher_lock` is called at one of every so many events of the
timer and not before the time is over, whatever else is asked of the daemon. Where the timer is
punctual it is called within ten seconds of that, and where there is a user it leaves the lock. -/
theorem idle_locks (hread : IdleEvent.Step H (t₀, .inputRead) x₀ x₁)
    (hset : 0 < x₁.platformLockTimeout) (hrun : Run (IdleEvent.Step H) x₁ later x)
    (hidle : ∀ e ∈ later, e.2.Idles = true) :
    (∃ calls, x.calls = x₀.calls ++ calls ∧
      calls.length = (later.countP IdleEvent.isFired - 1) / lockPeriod x₁.platformLockTimeout ∧
      ∀ t ∈ calls, t₀ + 5 + x₁.platformLockTimeout.toInt.toNat ≤ t) ∧
    (Run (IdleEvent.PunctualStep H) x₁ later x →
      t₀ + x₁.platformLockTimeout.toInt.toNat + 10 ≤ x.clock → x.calls ≠ x₀.calls) ∧
    ∀ now x', IdleEvent.Step H (now, .fired) x x' → x'.calls ≠ x.calls →
      x.state.platformUser ≠ "" → x'.state.Holds (lockFlags false) := by
  have hpos : 0 < x₁.platformLockTimeout.toInt.toNat := by
    rw [Int32.lt_iff_toInt_lt] at hset
    change 0 < x₁.platformLockTimeout.toInt at hset
    omega
  have hstart := Idle.starts hread
  have hafter := hstart.run hpos hrun hidle
  refine ⟨hafter.calls, ?_, ?_⟩
  · intro hpunctual hover hsame
    obtain ⟨_, x₁', hrun', -, hdue, hclock, -⟩ :=
      inputLockTimer_spec false { x₀ with clock := t₀ }
    rw [show inputLockTimer false { x₀ with clock := t₀ } = .ok ((), x₁) from hread.2.2] at hrun'
    cases hrun'
    change x₁.due = some (t₀ + 5) at hdue
    change x₁.clock = t₀ at hclock
    obtain ⟨-, hlate⟩ := punctual_run hdue (hclock.trans_le (Nat.le_add_right t₀ 5)) hpunctual hidle
    obtain ⟨calls, hcalls, hlength, -⟩ := hafter.calls
    rw [hsame] at hcalls
    have hnone : calls = [] := List.self_eq_append_right.1 hcalls
    rw [hnone] at hlength
    obtain ⟨-, hbound⟩ := lockPeriod_bounds x₁.platformLockTimeout
    have hperiod : 0 < lockPeriod x₁.platformLockTimeout := by
      unfold lockPeriod
      omega
    have hfew := (Nat.div_eq_zero_iff.1 hlength.symm).resolve_left hperiod.ne'
    omega
  · intro now x' hstep hcalled huser
    obtain ⟨_, x'', hrun', -, -, -, hbranch⟩ := inputLockTimer_spec true { x with clock := now }
    rw [show inputLockTimer true { x with clock := now } = .ok ((), x') from hstep.2.2] at hrun'
    cases hrun'
    split at hbranch
    · exact hbranch.2.2 huser
    · exact absurd hbranch.2 hcalled

/-- Devices can be read, and the screen is to be locked after five seconds. -/
def unattended : IdleLock where
  state := { idle with db := fun path =>
    if path = "/platform/lock_timeout" then some "5" else idle.db path }
  platformLockTimeout := -1
  timeout := 0
  due := none
  clock := 0
  calls := []

theorem idle_locks_unattended : ∃ x₁ x, IdleEvent.Step obliging (0, .inputRead) unattended x₁ ∧
    Run (IdleEvent.PunctualStep obliging) x₁ [(5, .fired), (10, .fired), (15, .fired)] x ∧
      x.calls ≠ unattended.calls := by
  obtain ⟨_, x₁, hread, hvalue, hdue₁, hclock₁, -⟩ := inputLockTimer_spec false unattended
  have hfive : x₁.platformLockTimeout = 5 := by
    rw [hvalue]
    decide +kernel
  have hstep : IdleEvent.Step obliging (0, .inputRead) unattended x₁ := ⟨Nat.le_refl 0, nofun, hread⟩
  obtain ⟨x₂, hstep₂, hdue₂, hclock₂⟩ := fires obliging hdue₁ (hclock₁.trans_le (Nat.zero_le _))
  obtain ⟨x₃, hstep₃, hdue₃, hclock₃⟩ := fires obliging hdue₂ (hclock₂.trans_le (Nat.le_add_right _ _))
  obtain ⟨x₄, hstep₄, -, hclock₄⟩ := fires obliging hdue₃ (hclock₃.trans_le (Nat.le_add_right _ _))
  have hrun : Run (IdleEvent.PunctualStep obliging) x₁ [(5, .fired), (10, .fired), (15, .fired)] x₄ :=
    .snoc (.snoc (.snoc .nil hstep₂) hstep₃) hstep₄
  refine ⟨x₁, x₄, hstep, hrun, ?_⟩
  have hset : 0 < x₁.platformLockTimeout := by
    rw [hfive]
    decide
  have hlocks := idle_locks hstep hset (hrun.mono fun _ _ _ h => h.1) (by decide)
  apply hlocks.2.1 hrun
  rw [hfive, hclock₄]
  decide

end

end InputServer.Secure
