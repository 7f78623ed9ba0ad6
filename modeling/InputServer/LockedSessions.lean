import InputServer.SecureContext

namespace InputServer.Secure
open Program
set_option autoImplicit true

/-- The flags that `switcher_lock` adds to those of the platform user. -/
def lockFlags (canSwitchOut : Bool) : UInt32 :=
  (if canSwitchOut then 0 else authFlagLock) ||| authFlagCannotCancel

/-- Secure mode is on, and its context has all the flags of a mask. -/
def State.Holds (mask : UInt32) (s : State) : Prop :=
  s.secureMode = true ∧ ∃ ctx, s.context = some ctx ∧ ctx.flags &&& mask = mask

/-- What is asked does not set up a context without the flags of a lock, nor start the daemon
anew. -/
def Ask.Keeps (canSwitchOut : Bool) : Ask → Prop
  | .request .restart => False
  | .request (.setContext _ _ flags) => flags &&& lockFlags canSwitchOut = lockFlags canSwitchOut
  | .request (.lock again) =>
    lockFlags again &&& lockFlags canSwitchOut = lockFlags canSwitchOut
  | _ => True

/-- An `ok` is among what was logged, right after checks that went well. -/
def Passes (checks : List (Script × Int)) (new : List AuthEvent) : Prop :=
  ∃ before flags after, new = before ++ .authStatus "ok" flags :: after ∧
    checks <:+ before.filterMap AuthEvent.script?

/-- Who is let in by what is asked: `auth_end` was called, or an attempt of the backend daemon was
reported, and the scripts found the password good in the same call. -/
def Ask.Opens (H : Helpers) (s : State) : Ask → List AuthEvent → Prop
  | .request (.authEnd user _ _ _), new =>
    ∃ ctx, s.context = some ctx ∧ Passes (authEndChecks H ctx.flags user) new
  | .key k, new => s.handles k = true ∧ k.event.code = KEY_ENTER ∧
    ∃ ctx, s.context = some ctx ∧ Passes (authEndChecks H ctx.flags k.fields.username) new
  | .request (.remoteStatus _ _ id username _ _), new =>
    Passes (passed (hashRemoteUser H (id.getD "")) (localHashFile H username)) new
  | _, _ => False

/-- Where nobody is let in, secure mode and its context stay. -/
def Stays (s s' : State) : Prop :=
  ∃ new, s'.log = s.log ++ new ∧
    (new.any AuthEvent.isOk = false → s'.context = s.context ∧ s'.secureMode = s.secureMode)

instance : IsPreorder State Stays where
  refl _ := ⟨[], (List.append_nil _).symm, fun _ => ⟨rfl, rfl⟩⟩
  trans := by
    rintro s s' s'' ⟨new, hlog, hsame⟩ ⟨new', hlog', hsame'⟩
    refine ⟨new ++ new', by rw [hlog', hlog, List.append_assoc], fun hquiet => ?_⟩
    rw [List.any_append, Bool.or_eq_false_iff] at hquiet
    obtain ⟨hcontext, hmode⟩ := hsame hquiet.1
    obtain ⟨hcontext', hmode'⟩ := hsame' hquiet.2
    exact ⟨hcontext'.trans hcontext, hmode'.trans hmode⟩

theorem stays_permits (H : Helpers) : Permits H Stays (fun _ => True) where
  silent hlog _ hcontext hmode _ _ := ⟨_, hlog, fun _ => ⟨hcontext, hmode⟩⟩
  assoc _ _ _ := ⟨[], (List.append_nil _).symm, fun _ => ⟨rfl, rfl⟩⟩
  script _ _ := ⟨_, rfl, fun _ => ⟨rfl, rfl⟩⟩
  remove _ _ _ := ⟨[], (List.append_nil _).symm, fun _ => ⟨rfl, rfl⟩⟩
  write _ _ _ _ := ⟨[], (List.append_nil _).symm, fun _ => ⟨rfl, rfl⟩⟩
  letIn s username ctxFlags uname flags _ := by
    intro a s' hrun
    obtain ⟨new, hlog, hok⟩ := letIn_logs uname username ctxFlags flags s a s' hrun
    refine ⟨new, hlog, fun hquiet => ?_⟩
    rw [hok] at hquiet
    cases hquiet
  unlock s flags _ := by
    intro a s' hrun
    obtain ⟨new, hlog, hok⟩ := authOk_logs flags s a s' hrun
    refine ⟨new, hlog, fun hquiet => ?_⟩
    rw [hok] at hquiet
    cases hquiet

/-- An `ok` splits what was logged. -/
theorem passes_of_ok {new : List AuthEvent} (hok : new.any AuthEvent.isOk = true)
    (hchecked : ∀ before flags after, new = before ++ .authStatus "ok" flags :: after →
      checks <:+ before.filterMap AuthEvent.script?) : Passes checks new := by
  obtain ⟨g, hmem, hg⟩ := List.any_eq_true.1 hok
  cases g with
  | authStatus name flags =>
    have hname : name = "ok" := eq_of_beq hg
    rw [hname] at hmem
    obtain ⟨before, after, hnew⟩ := List.append_of_mem hmem
    exact ⟨before, flags, after, hnew, hchecked before flags after hnew⟩
  | _ => cases hg

section
variable {s s' : State} (H : Helpers)

theorem State.Holds.same {mask : UInt32} (h : s.Holds mask) (hcontext : s'.context = s.context)
    (hmode : s'.secureMode = s.secureMode) : s'.Holds mask := by
  rw [State.Holds, hcontext, hmode]
  exact h

theorem State.Holds.stays {mask : UInt32} (h : s.Holds mask) (hstays : Stays s s') :
    s'.Holds mask ∨ ∃ new, s'.log = s.log ++ new ∧ new.any AuthEvent.isOk = true := by
  obtain ⟨new, hlog, hsame⟩ := hstays
  cases hok : new.any AuthEvent.isOk with
  | true => exact .inr ⟨new, hlog, hok⟩
  | false =>
    obtain ⟨hcontext, hmode⟩ := hsame hok
    exact .inl (h.same hcontext hmode)

theorem or_mask (flags mask : UInt32) : flags &&& mask ||| mask = mask := by
  apply UInt32.toBitVec_inj.1
  ext i
  simp

theorem lockFlags_cannotCancel {flags : UInt32} {canSwitchOut : Bool}
    (h : flags &&& lockFlags canSwitchOut = lockFlags canSwitchOut) :
    flags &&& authFlagCannotCancel ≠ 0 := by
  intro hnone
  have hmask : lockFlags canSwitchOut &&& authFlagCannotCancel = authFlagCannotCancel := by
    cases canSwitchOut <;> decide
  have hboth : flags &&& lockFlags canSwitchOut &&& authFlagCannotCancel =
      flags &&& authFlagCannotCancel &&& lockFlags canSwitchOut := by
    rw [UInt32.and_assoc, UInt32.and_assoc, UInt32.and_comm (lockFlags canSwitchOut)]
  rw [h, hmask, hnone] at hboth
  exact absurd hboth (by rw [UInt32.zero_and]; decide)

/-- `switcher_lock` leaves the flags that it adds, where there is a user. -/
theorem switcherLock_holds (again : Bool) (huser : s.platformUser ≠ "") {mask : UInt32}
    (hmask : lockFlags again &&& mask = mask) :
    wlp (switcherLock again) (fun _ s' => s'.Holds mask) s := by
  intro began s' hrun
  rw [switcherLock_eq, if_neg huser] at hrun
  obtain ⟨began', s'', hrun', hcontext, hmode, -⟩ := inputSecure_enters (s.locking again)
  rw [hrun] at hrun'
  cases hrun'
  refine ⟨hmode, ?_⟩
  rw [hcontext, State.locking, State.lockContext, if_neg huser]
  refine ⟨_, rfl, ?_⟩
  have hflags : (if again then s.platformFlags else s.platformFlags ||| authFlagLock) |||
      authFlagCannotCancel = s.platformFlags ||| lockFlags again := by
    cases again
    · exact UInt32.or_assoc _ _ _
    · change _ = s.platformFlags ||| (0 ||| authFlagCannotCancel)
      rw [UInt32.zero_or]
      rfl
  change ((if again then s.platformFlags else s.platformFlags ||| authFlagLock) |||
    authFlagCannotCancel) &&& mask = mask
  rw [hflags, or_and, hmask, or_mask]

/-- Escape does nothing to a context that cannot be cancelled. -/
theorem escapeKey_holds (h : s.Holds (lockFlags canSwitchOut)) :
    wlp escapeKey (fun _ s' => s'.Holds (lockFlags canSwitchOut)) s := by
  obtain ⟨hmode, ctx, hctx, hflags⟩ := h
  unfold escapeKey
  rw [wlp_bind, wlp_get, hctx]
  change wlp (if ctx.flags &&& authFlagCannotCancel ≠ 0 then authStatus authUserCancelDontHide 0
    else authStatus authUserCancel 0) _ s
  rw [if_pos (lockFlags_cannotCancel hflags)]
  intro _ s' hrun
  have hsame := authStatus_same authUserCancelDontHide 0 s _ s' hrun
  have hafter := authStatus_mode authUserCancelDontHide 0 s _ s' hrun
  exact ⟨hafter.trans hmode, ctx, hsame.context.trans hctx, hflags⟩

theorem authEnd_opens {user password passwordConfirm passwordOld : Option String}
    (h : s.Holds mask)
    (hrun : authEnd H user password passwordConfirm passwordOld s = .ok ((), s')) :
    s'.Holds mask ∨ ∃ new ctx, s'.log = s.log ++ new ∧ s.context = some ctx ∧
      Passes (authEndChecks H ctx.flags user) new := by
  have hmoves : Moves (fun _ => True) Stays
      (authEnd H user password passwordConfirm passwordOld) s :=
    authEnd_moves (stays_permits H) (fun _ _ _ => trivial) (fun _ _ _ _ => trivial)
      (fun _ _ _ _ _ _ => trivial) overwrites_all password passwordConfirm passwordOld
  obtain hholds | ⟨new, hlog, hok⟩ := h.stays (hmoves trivial () s' hrun).2.1
  · exact .inl hholds
  obtain ⟨new', hlog', -, hchecked⟩ := authEnd_reports H user password passwordConfirm
    passwordOld s () s' hrun
  have hsame : new' = new := List.append_cancel_left (hlog'.symm.trans hlog)
  rw [hsame] at hchecked
  obtain ⟨-, ctx, hctx, -⟩ := h
  refine .inr ⟨new, ctx, hlog, hctx, passes_of_ok hok fun before flags after hnew => ?_⟩
  obtain ⟨ctx', hctx', hsuffix⟩ := hchecked before flags after hnew
  rw [hctx] at hctx'
  cases hctx'
  exact hsuffix

theorem secureKey_opens {k : KeyRead} (h : s.Holds (lockFlags canSwitchOut))
    (hhandles : s.handles k = true)
    (hrun : secureKey H k.event.code k.fields s = .ok ((), s')) :
    s'.Holds (lockFlags canSwitchOut) ∨
      ∃ new, s'.log = s.log ++ new ∧ (Ask.key k).Opens H s new := by
  unfold secureKey at hrun
  split at hrun
  · exact .inl (escapeKey_holds h () s' hrun)
  · split at hrun
    · rename_i henter
      obtain hholds | ⟨new, ctx, hlog, hctx, hpasses⟩ := authEnd_opens H h hrun
      · exact .inl hholds
      · exact .inr ⟨new, hlog, hhandles, henter, ctx, hctx, hpasses⟩
    · cases hrun
      exact .inl h

theorem inputSecureMode_opens {k : KeyRead} (h : s.Holds (lockFlags canSwitchOut))
    (hrun : inputSecureMode H k s = .ok (b, s')) :
    s'.Holds (lockFlags canSwitchOut) ∨
      ∃ new, s'.log = s.log ++ new ∧ (Ask.key k).Opens H s new := by
  unfold inputSecureMode at hrun
  rw [bind_ok (get_apply s)] at hrun
  split at hrun
  · cases hrun
    exact .inl h
  · split at hrun
    · cases hrun
      exact .inl h
    · obtain ⟨_, s₁, hkey, hpure⟩ := run_bind hrun
      cases hpure
      unfold onlyIf at hkey
      split at hkey
      · rename_i hhandles
        exact secureKey_opens H h hhandles hkey
      · cases hkey
        exact .inl h

/-- One thing that is asked leaves the lock, or lets somebody in whose password was checked. -/
theorem ask_opens {a : Ask} (h : s.Holds (lockFlags canSwitchOut)) (hkeeps : a.Keeps canSwitchOut)
    (hrun : ask H a s = .ok ((), s')) :
    s'.Holds (lockFlags canSwitchOut) ∨ ∃ new, s'.log = s.log ++ new ∧ a.Opens H s new := by
  cases a with
  | key k =>
    obtain ⟨b, hkey⟩ := discard_ok hrun
    exact inputSecureMode_opens H h hkey
  | outside uivm xenstore db files =>
    cases hrun
    exact .inl (h.same rfl rfl)
  | request r =>
    cases r with
    | lock again =>
      obtain ⟨b, hlock⟩ := discard_ok hrun
      by_cases huser : s.platformUser = ""
      · rw [switcherLock_eq, if_pos huser] at hlock
        cases hlock
        exact .inl h
      · exact .inl (switcherLock_holds again huser hkeeps b s' hlock)
    | authForce =>
      obtain ⟨b, hforce⟩ := discard_ok hrun
      have hcontext : s.context ≠ none := by
        obtain ⟨-, ctx, hctx, -⟩ := h
        rw [hctx]
        exact Option.some_ne_none ctx
      have hstands : s.forcing = s := if_neg hcontext
      rw [switcherAuthForce_eq, if_neg fun hnobody => hcontext hnobody.1, hstands] at hforce
      obtain ⟨began, s'', hrun', hsame, hmode, -⟩ := inputSecure_enters s
      rw [hforce] at hrun'
      cases hrun'
      exact .inl (h.same hsame (hmode.trans h.1.symm))
    | setContext user title flags =>
      cases hrun
      exact .inl ⟨h.1, _, rfl, hkeeps⟩
    | authEnd user password passwordConfirm passwordOld =>
      obtain hholds | ⟨new, ctx, hlog, hctx, hpasses⟩ := authEnd_opens H h hrun
      · exact .inl hholds
      · exact .inr ⟨new, hlog, ctx, hctx, hpasses⟩
    | remoteLogin user password =>
      have hgoes := authRemoteLogin_goes (stays_permits H) overwrites_all user password s trivial
        () s' hrun
      obtain hholds | ⟨new, hlog, hok⟩ := h.stays hgoes.2.1
      · exact .inl hholds
      obtain ⟨new', hplatform⟩ := authRemoteLogin_platform H hrun
      have hsame : new' = new := List.append_cancel_left (hplatform.log.symm.trans hlog)
      rw [hsame] at hplatform
      obtain ⟨-, -, hnobody⟩ | ⟨-, -, _, _, hnobody, -⟩ := hplatform.user
      · exact (hnobody hok).elim
      · exact hnobody.elim
    | remoteStatus autoStarted status id username recoveryKeyFile ctxFlags =>
      have hgoes := authRemoteStatus_goes (stays_permits H) trivial (fun _ => trivial)
        (fun _ => trivial) (fun _ => trivial) status id s trivial () s' hrun
      obtain hholds | ⟨new, hlog, hok⟩ := h.stays hgoes.2.1
      · exact .inl hholds
      obtain ⟨new', hlog', n, hreports⟩ := authRemoteStatus_reports H autoStarted status id username
        recoveryKeyFile ctxFlags s () s' hrun
      have hsame : new' = new := List.append_cancel_left (hlog'.symm.trans hlog)
      rw [hsame] at hreports
      exact .inr ⟨new, hlog, passes_of_ok hok hreports.checked⟩
    | escape => exact .inl (escapeKey_holds h () s' hrun)
    | restart => cases hkeeps
    | uivm domid =>
      cases hrun
      exact .inl (h.same rfl rfl)
    | xenstore path value =>
      cases hrun
      exact .inl (h.same rfl rfl)

/-- A lock lasts: whatever is asked after `switcher_lock`, by whomever and in whichever order, secure
mode stays on under a context that cannot be cancelled and keeps the lock flag, up to a call in which
`auth_end` or a report of the backend daemon lets somebody in right after the scripts found the
password good. -/
theorem lock_lasts (huser : s₀.platformUser ≠ "")
    (hlock : ask H (.request (.lock canSwitchOut)) s₀ = .ok ((), s₁)) (hrun : Asked H s₁ as s)
    (hkeeps : ∀ a ∈ as, a.Keeps canSwitchOut) :
    (s.secureMode = true ∧ ∃ ctx, s.context = some ctx ∧
      ctx.flags &&& authFlagCannotCancel ≠ 0 ∧
      (canSwitchOut = false → ctx.flags &&& authFlagLock ≠ 0)) ∨
    ∃ earlier a later t t' new, as = earlier ++ a :: later ∧ Asked H s₁ earlier t ∧
      ask H a t = .ok ((), t') ∧ t'.log = t.log ++ new ∧ a.Opens H t new := by
  have hstarts : s₁.Holds (lockFlags canSwitchOut) := by
    obtain ⟨began, hlocks⟩ := discard_ok hlock
    have hall : lockFlags canSwitchOut &&& lockFlags canSwitchOut = lockFlags canSwitchOut :=
      UInt32.and_self
    exact switcherLock_holds canSwitchOut huser hall began s₁ hlocks
  have hlasts : s.Holds (lockFlags canSwitchOut) ∨ ∃ earlier a later t t' new,
      as = earlier ++ a :: later ∧ Asked H s₁ earlier t ∧ ask H a t = .ok ((), t') ∧
        t'.log = t.log ++ new ∧ a.Opens H t new := by
    induction hrun with
    | nil => exact .inl hstarts
    | snoc hbefore hlast ih =>
      rename_i as₀ t a t'
      obtain hholds | ⟨earlier, b, later, u, u', new, rfl, hopened⟩ :=
        ih fun b hb => hkeeps b (List.mem_append_left _ hb)
      · obtain hafter | ⟨new, hlog, hopens⟩ :=
          ask_opens H hholds (hkeeps a List.mem_concat_self) hlast
        · exact .inl hafter
        · exact .inr ⟨as₀, a, [], t, t', new, rfl, hbefore, hlast, hlog, hopens⟩
      · refine .inr ⟨earlier, b, later ++ [a], u, u', new, ?_, hopened⟩
        rw [List.append_assoc, List.cons_append]
  refine hlasts.imp_left ?_
  rintro ⟨hmode, ctx, hctx, hflags⟩
  refine ⟨hmode, ctx, hctx, lockFlags_cannotCancel hflags, ?_⟩
  rintro rfl hnone
  have hmask : lockFlags false &&& authFlagLock = authFlagLock := by decide
  rw [← hmask, ← UInt32.and_assoc, hflags, hmask] at hnone
  exact absurd hnone (by decide)

theorem lock_lasts_escape : ∃ s₁ s,
    ask obliging (.request (.lock false)) prepared = .ok ((), s₁) ∧
      Asked obliging s₁ [.request .escape] s ∧ ((s.secureMode = true ∧ ∃ ctx, s.context = some ctx ∧
        ctx.flags &&& authFlagCannotCancel ≠ 0 ∧
        (false = false → ctx.flags &&& authFlagLock ≠ 0)) ∨
      ∃ earlier a later t t' new, [Ask.request .escape] = earlier ++ a :: later ∧
        Asked obliging s₁ earlier t ∧ ask obliging a t = .ok ((), t') ∧ t'.log = t.log ++ new ∧
          a.Opens obliging t new) := by
  have hrun : ((ask obliging (.request (.lock false)) >>= fun _ =>
      ask obliging (.request .escape)) prepared).toOption.map (fun _ => ()) = some () := by
    decide +kernel
  obtain ⟨⟨_, s⟩, hok, _⟩ := returns_of_map hrun
  obtain ⟨_, s₁, hlock, hescape⟩ := run_bind hok
  refine ⟨s₁, s, hlock, .snoc .nil hescape, ?_⟩
  have huser : prepared.platformUser ≠ "" := by decide +kernel
  apply lock_lasts obliging huser hlock (.snoc .nil hescape)
  intro a ha
  rw [List.mem_singleton.1 ha]
  trivial

end

end InputServer.Secure
