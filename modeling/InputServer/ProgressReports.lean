import InputServer.Library.Lockstep
import InputServer.HashFiles

namespace InputServer.Secure
open Program
set_option autoImplicit true

/-- Two attempts that differ in what was logged before: `s` goes on from `before`, `t` from
`before'`. -/
structure Alike (before before' : List AuthEvent) (s t : State) : Prop where
  log : ∃ new, s.log = before ++ new ∧ t.log = before' ++ new
  context : t.context = s.context
  status : t.status = s.status
  statusFlags : t.statusFlags = s.statusFlags
  uivm : t.uivm = s.uivm
  xenstore : t.xenstore = s.xenstore
  secureMode : t.secureMode = s.secureMode
  files : t.files = s.files
  db : t.db = s.db
  writes : t.writes = s.writes

theorem Alike.logged (h : Alike before before' s t) (g : AuthEvent) :
    ∃ new, s.log ++ [g] = before ++ new ∧ t.log ++ [g] = before' ++ new := by
  obtain ⟨new, hs, ht⟩ := h.log
  exact ⟨new ++ [g], by rw [hs, List.append_assoc], by rw [ht, List.append_assoc]⟩

abbrev Keeps (before before' : List AuthEvent) (m : AuthM α) : Prop :=
  Lockstep (Alike before before') m

variable {before before' : List AuthEvent}

theorem emit_keeps (g : AuthEvent) : Keeps before before' (emit g) :=
  lockstep_modify fun _ _ h => { h with log := h.logged g }

theorem remove_keeps (path : String) : Keeps before before' (remove path) :=
  lockstep_modify fun _ _ h =>
    { h with files := congrArg (fun files => Function.update files path none) h.files }

theorem dbWrite_keeps (path value : String) : Keeps before before' (dbWrite path value) :=
  lockstep_modify fun _ _ h =>
    { h with db := congrArg (fun db => Function.update db path (some value)) h.db }

theorem xenstoreWrite_keeps (value path : String) : Keeps before before' (xenstoreWrite value path) :=
  lockstep_modify fun _ _ h =>
    { h with xenstore := congrArg (fun x => Function.update x path (some value)) h.xenstore }

theorem onlyIf_keeps {p : Prop} [Decidable p] {m : AuthM Unit} (hm : Keeps before before' m) :
    Keeps before before' (onlyIf p m) :=
  lockstep_ite hm (lockstep_pure _)

theorem authWindow_keeps (shown : Bool) : Keeps before before' (authWindow shown) := by
  unfold authWindow
  apply lockstep_get
  · intro s t h
    rw [h.uivm]
  · intro s
    cases s.uivm with
    | none => exact lockstep_throw _
    | some domid =>
      apply lockstep_ite
      · exact lockstep_bind (xenstoreWrite_keeps _ _) fun _ => xenstoreWrite_keeps _ _
      · exact xenstoreWrite_keeps _ _

theorem inputSecure_off_keeps : Keeps before before' (inputSecure false) := by
  unfold inputSecure
  apply lockstep_get
  · intro s t h
    rw [h.secureMode]
  · intro s
    apply lockstep_ite (lockstep_pure _)
    apply lockstep_bind
    · exact lockstep_modify fun _ _ h => { h with secureMode := rfl }
    · intro _
      apply lockstep_bind (emit_keeps _)
      intro _
      exact lockstep_pure _

theorem authStatus_keeps (status : AuthStatus) (flags : UInt32) :
    Keeps before before' (authStatus status flags) := by
  unfold authStatus
  apply lockstep_bind
  · apply onlyIf_keeps
    apply lockstep_bind
    · exact lockstep_modify fun _ _ h => { h with context := rfl }
    · intro _
      apply lockstep_bind (authWindow_keeps _)
      intro _
      exact lockstep_discard inputSecure_off_keeps
  · intro _
    apply lockstep_bind
    · exact lockstep_modify fun _ _ h => { h with status := rfl, statusFlags := rfl }
    · intro _
      exact emit_keeps _

section
variable (H : Helpers)
  (hran : before'.filterMap AuthEvent.script? = before.filterMap AuthEvent.script?)
include hran

/-- A script sees the same earlier scripts and the same files. -/
theorem runScript_keeps (c : Script) : Keeps before before' (runScript H c) := by
  intro s t h
  have hsame : t.ran = s.ran := by
    obtain ⟨new, hs, ht⟩ := h.log
    rw [State.ran, State.ran, hs, ht, List.filterMap_append, List.filterMap_append, hran]
  have hfiles := h.files
  change EndsAlike _ (.ok _) (.ok _)
  rw [hsame, hfiles]
  exact .ok _ { h with log := h.logged _, files := rfl }

theorem secCheckPassAndMount_keeps (uname userpass : String) :
    Keeps before before' (secCheckPassAndMount H uname userpass) := by
  apply lockstep_bind (runScript_keeps H hran _)
  intro status
  exact lockstep_ite (lockstep_pure _) (runScript_keeps H hran _)

omit hran in
theorem userAssoc_keeps (hash name : String) : Keeps before before' (userAssoc hash name) :=
  lockstep_bind (dbWrite_keeps _ _) fun _ => lockstep_pure _

theorem userCreate_keeps (hash name passwordFile : String) (recoveryFile : Option String) :
    Keeps before before' (userCreate H hash name passwordFile recoveryFile) := by
  apply lockstep_bind (runScript_keeps H hran _)
  intro error
  exact lockstep_ite (lockstep_pure _) (userAssoc_keeps _ _)

omit hran in
theorem reported_keeps (status : AuthStatus) (flags : UInt32) (a : α) :
    Keeps before before' (do
      authStatus status flags
      pure a) :=
  lockstep_bind (authStatus_keeps _ _) fun _ => lockstep_pure _

omit hran in
theorem letIn_keeps (uname username : String) (ctxFlags flags : UInt32) :
    Keeps before before' (do
      authUpdateCache uname username ctxFlags
      authStatus authOk flags
      pure Label.cleanupUserpass) := by
  apply lockstep_bind
  · apply lockstep_bind (dbWrite_keeps _ _)
    intro _
    exact lockstep_bind (dbWrite_keeps _ _) fun _ => lockstep_discard (userAssoc_keeps _ _)
  · intro _
    exact reported_keeps _ _ _

omit hran in
theorem startRecovery_keeps (remoteOk : Bool) (remoteFlags : UInt32) (id username : String)
    (ctxFlags : UInt32) (status : AuthStatus) (flags : UInt32) :
    Keeps before before' (startRecovery remoteOk remoteFlags id username ctxFlags status flags) := by
  apply lockstep_ite
  · exact lockstep_bind (emit_keeps _) fun _ => lockstep_pure _
  · exact reported_keeps _ _ _

theorem createUser_keeps (remoteOk : Bool) (remoteFlags : UInt32) (uname id username : String)
    (recoveryKeyFile : Option String) (got : Bool) (userpass : String) (ctxFlags : UInt32) :
    Keeps before before' (createUser H remoteOk remoteFlags uname id username recoveryKeyFile got
      userpass ctxFlags) := by
  apply lockstep_ite (startRecovery_keeps _ _ _ _ _ _ _)
  apply lockstep_bind (userCreate_keeps H hran _ _ _ _)
  intro status
  apply lockstep_ite (lockstep_pure _)
  apply lockstep_bind (secCheckPassAndMount_keeps H hran _ _)
  intro status
  exact lockstep_ite (lockstep_pure _) (letIn_keeps _ _ _ _)

theorem changePassword_keeps (remoteOk : Bool) (remoteFlags : UInt32)
    (uname id username : String) (recoveryKeyFile : Option String) (got : Bool) (userpass : String)
    (ctxFlags : UInt32) :
    Keeps before before' (changePassword H remoteOk remoteFlags uname id username recoveryKeyFile
      got userpass ctxFlags) := by
  apply lockstep_ite (startRecovery_keeps _ _ _ _ _ _ _)
  apply lockstep_bind (runScript_keeps H hran _)
  intro status
  apply lockstep_ite (lockstep_pure _)
  apply lockstep_ite (reported_keeps _ _ _)
  apply lockstep_bind (secCheckPassAndMount_keeps H hran _ _)
  intro status
  exact lockstep_ite (lockstep_pure _) (letIn_keeps _ _ _ _)

theorem checkUser_keeps (remoteOk : Bool) (remoteFlags : UInt32)
    (userPrefix id username : String) (recoveryKeyFile : Option String) (got : Bool)
    (userpass : String) (ctxFlags : UInt32) :
    Keeps before before' (checkUser H remoteOk remoteFlags userPrefix id username recoveryKeyFile
      got userpass ctxFlags) := by
  apply lockstep_bind (runScript_keeps H hran _)
  intro status
  apply lockstep_ite (lockstep_pure _)
  apply lockstep_ite (createUser_keeps H hran _ _ _ _ _ _ _ _ _)
  apply lockstep_bind (secCheckPassAndMount_keeps H hran _ _)
  intro status
  apply lockstep_ite (lockstep_pure _)
  exact lockstep_ite (changePassword_keeps H hran _ _ _ _ _ _ _ _ _) (letIn_keeps _ _ _ _)

omit hran in
theorem leave_keeps (label : Label) (remoteFlags : UInt32) (recoveryKeyFile : Option String)
    (got : Bool) (userpass : String) :
    Keeps before before' (leave label remoteFlags recoveryKeyFile got userpass) := by
  apply lockstep_bind (onlyIf_keeps (authStatus_keeps _ _))
  intro _
  apply lockstep_bind (onlyIf_keeps (remove_keeps _))
  intro _
  exact lockstep_bind (onlyIf_keeps (remove_keeps _)) fun _ => lockstep_pure _

/-- `local_auth` goes on in the same way whatever was reported before. -/
theorem localAuth_keeps (remoteOk : Bool) (remoteFlags : UInt32) (userPrefix : String)
    (id : Option String) (username : String) (recoveryKeyFile : Option String) (userpass : String)
    (ctxFlags : UInt32) :
    ∃ rest : AuthM Bool, Keeps before before' rest ∧
      localAuth H remoteOk remoteFlags userPrefix id username recoveryKeyFile userpass ctxFlags =
        (authStatus authInProgress authFlagLocalStarted >>= fun _ => rest) := by
  refine ⟨_, ?_, rfl⟩
  apply lockstep_get
  · intro s t h
    rw [h.files]
  · intro s
    apply lockstep_ite
    · exact lockstep_bind (authStatus_keeps _ _) fun _ => leave_keeps _ _ _ _ _
    · apply lockstep_ite
      · exact lockstep_bind (authStatus_keeps _ _) fun _ => leave_keeps _ _ _ _ _
      · exact lockstep_bind (checkUser_keeps H hran _ _ _ _ _ _ _ _ _) fun _ =>
          leave_keeps _ _ _ _ _

end

/-- The state once a status that hides nothing is reported. -/
def State.reported (s : State) (status : AuthStatus) (flags : UInt32) : State :=
  let flags := if status.isError then flags ||| authFlagError else flags
  { s with
    status := status.name
    statusFlags := flags
    log := s.log ++ [.authStatus status.name flags] }

/-- The state once a file is removed, if it is. -/
def State.without (s : State) (p : Prop) [Decidable p] (path : String) : State :=
  { s with files := if p then Function.update s.files path none else s.files }

@[simp] theorem without_log (s : State) (p : Prop) [Decidable p] (path : String) :
    (s.without p path).log = s.log := rfl

@[simp] theorem without_status (s : State) (p : Prop) [Decidable p] (path : String) :
    (s.without p path).status = s.status := rfl

@[simp] theorem without_statusFlags (s : State) (p : Prop) [Decidable p] (path : String) :
    (s.without p path).statusFlags = s.statusFlags := rfl

@[simp] theorem reported_files (s : State) (status : AuthStatus) (flags : UInt32) :
    (s.reported status flags).files = s.files := rfl

theorem authStatus_run {status : AuthStatus} (h : status.hideWindow = false) (flags : UInt32)
    (s : State) : authStatus status flags s = .ok ((), s.reported status flags) := by
  unfold authStatus onlyIf
  rw [h]
  rfl

theorem onlyIf_remove_run (p : Prop) [Decidable p] (path : String) (s : State) :
    onlyIf p (remove path) s = .ok ((), s.without p path) := by
  unfold onlyIf State.without
  by_cases hp : p
  · rw [if_pos hp, if_pos hp]
    rfl
  · rw [if_neg hp, if_neg hp]
    rfl

theorem without_stays {s : State} {p : Prop} [Decidable p] (h : s.files path = none) :
    (s.without p other).files path = none :=
  removed_stays h

theorem without_other {s : State} {p : Prop} [Decidable p] (h : path ≠ other) :
    (s.without p other).files path = s.files path := by
  change (if p then Function.update s.files other none else s.files) path = _
  by_cases hp : p
  · rw [if_pos hp, Function.update_of_ne h]
  · rw [if_neg hp]

section
variable (H : Helpers)

/-- The flags that every report of an attempt carries. -/
def startFlags (autoStarted : Bool) : UInt32 :=
  if autoStarted then authFlagAutoStarted else authFlagNone

/-- The progress reports of one attempt. -/
def progressReports (autoStarted : Bool) (id : Option String) (username : String)
    (recoveryKeyFile : Option String) : List UInt32 → AuthM Unit
  | [] => pure ()
  | ctxFlags :: progress => do
    authRemoteStatus H autoStarted 0 id username recoveryKeyFile ctxFlags
    progressReports autoStarted id username recoveryKeyFile progress

/-- What the progress reports leave of the files. -/
def progressFiles (autoStarted : Bool) (username : String) (recoveryKeyFile : Option String)
    (files : Files) : Files := fun path =>
  if (autoStarted = false ∧ (path = remoteHashFile H username ∨ path = localHashFile H username)) ∨
      (nonEmpty recoveryKeyFile = true ∧ path = recoveryKeyFile.getD "") then none
  else files path

/-- The state after progress reports. -/
def State.progressed (s : State) (autoStarted : Bool) (username : String)
    (recoveryKeyFile : Option String) (count : Nat) : State :=
  let flags := startFlags autoStarted ||| authFlagRemoteStarted
  { s with
    status := "in_progress"
    statusFlags := flags
    files := progressFiles H autoStarted username recoveryKeyFile s.files
    log := s.log ++ List.replicate count (.authStatus "in_progress" flags) }

theorem progressFiles_idem (autoStarted : Bool) (username : String)
    (recoveryKeyFile : Option String) (files : Files) :
    progressFiles H autoStarted username recoveryKeyFile
      (progressFiles H autoStarted username recoveryKeyFile files) =
      progressFiles H autoStarted username recoveryKeyFile files := by
  funext path
  simp only [progressFiles]
  split <;> rfl

/-- An attempt ends with its clean-up. -/
theorem authRemoteStatus_run {autoStarted : Bool} {status : Int} {id : Option String}
    {recoveryKeyFile : Option String}
    (h : reportRemote H (remoteReport status) (startFlags autoStarted) id username recoveryKeyFile
      (localHashFile H username) ctxFlags
      (s.without ((!autoStarted) = true) (remoteHashFile H username)) = .ok (started, s')) :
    authRemoteStatus H autoStarted status id username recoveryKeyFile ctxFlags s =
      .ok ((), (s'.without ((!started) = true ∧ (!autoStarted) = true)
        (localHashFile H username)).without (nonEmpty recoveryKeyFile = true ∧ (!started) = true)
        (recoveryKeyFile.getD "")) := by
  unfold authRemoteStatus
  rw [bind_ok (onlyIf_remove_run _ _ _)]
  change ((reportRemote H (remoteReport status) (startFlags autoStarted) id username
    recoveryKeyFile (localHashFile H username) ctxFlags) >>= _) _ = _
  rw [bind_ok h, bind_ok (onlyIf_remove_run _ _ _), onlyIf_remove_run]

theorem authRemoteStatus_progress (autoStarted : Bool) (id : Option String) (username : String)
    (recoveryKeyFile : Option String) (ctxFlags : UInt32) (s : State) :
    authRemoteStatus H autoStarted 0 id username recoveryKeyFile ctxFlags s =
      .ok ((), s.progressed H autoStarted username recoveryKeyFile 1) := by
  have hreport (s : State) : reportRemote H (remoteReport 0) (startFlags autoStarted) id username
      recoveryKeyFile (localHashFile H username) ctxFlags s =
      .ok (false, s.reported authInProgress (startFlags autoStarted ||| authFlagRemoteStarted)) := by
    change (authStatus authInProgress (startFlags autoStarted ||| authFlagRemoteStarted) >>=
      fun _ => pure false) s = _
    rw [bind_ok (authStatus_run rfl _ s)]
    rfl
  rw [authRemoteStatus_run H (hreport _)]
  have hfiles : (((s.without ((!autoStarted) = true) (remoteHashFile H username)).without
      ((!false) = true ∧ (!autoStarted) = true) (localHashFile H username)).without
      (nonEmpty recoveryKeyFile = true ∧ (!false) = true) (recoveryKeyFile.getD "")).files =
      progressFiles H autoStarted username recoveryKeyFile s.files := by
    funext path
    simp only [State.without, progressFiles]
    cases autoStarted <;> cases nonEmpty recoveryKeyFile <;> simp [Function.update_apply] <;> grind
  unfold State.progressed
  rw [← hfiles]
  rfl

/-- Any number of progress reports leave what one leaves, and as many entries in the log. -/
theorem progressReports_run (autoStarted : Bool) (id : Option String) (username : String)
    (recoveryKeyFile : Option String) (ctxFlags : UInt32) (progress : List UInt32) (s : State) :
    progressReports H autoStarted id username recoveryKeyFile (ctxFlags :: progress) s =
      .ok ((), s.progressed H autoStarted username recoveryKeyFile (progress.length + 1)) := by
  induction progress generalizing ctxFlags s with
  | nil =>
    rw [progressReports, bind_ok (authRemoteStatus_progress H _ _ _ _ _ _)]
    rfl
  | cons next progress ih =>
    rw [progressReports, bind_ok (authRemoteStatus_progress H _ _ _ _ _ _), ih]
    simp only [State.progressed, progressFiles_idem, List.append_assoc, List.length_cons,
      List.replicate_append_replicate]
    rw [Nat.add_comm 1]

/-- The progress reports of an attempt and then its final report. -/
def deliver (autoStarted : Bool) (status : Int) (id : Option String) (username : String)
    (recoveryKeyFile : Option String) (ctxFlags : UInt32) (progress : List UInt32) : AuthM Unit := do
  progressReports H autoStarted id username recoveryKeyFile progress
  authRemoteStatus H autoStarted status id username recoveryKeyFile ctxFlags

end

/-- A signal other than `in_progress`, or the invocation of a script. -/
def AuthEvent.outward : AuthEvent → Option AuthEvent
  | .authStatus name flags => if name = "in_progress" then none else some (.authStatus name flags)
  | .script c _ => some (.script c 0)
  | g => some g

/-- How an attempt from `s` ends: the status, and what was sent and invoked. -/
def outcome (s : State) (m : AuthM Unit) : Except Fault (String × UInt32 × List AuthEvent) :=
  (m s).map fun r =>
    (r.2.status, r.2.statusFlags, (r.2.log.drop s.log.length).filterMap AuthEvent.outward)

/-- The progress reports make no difference to how the attempt ends. -/
def Transparent (H : Helpers) (autoStarted : Bool) (status : Int) (id : Option String)
    (username : String) (recoveryKeyFile : Option String) (ctxFlags : UInt32)
    (progress : List UInt32) (s : State) : Prop :=
  outcome s (deliver H autoStarted status id username recoveryKeyFile ctxFlags progress) =
    outcome s (deliver H autoStarted status id username recoveryKeyFile ctxFlags [])

/-- When the progress reports clean up nothing that the final report needs. -/
def Harmless (H : Helpers) (autoStarted : Bool) (status : Int) (id : Option String)
    (username : String) (recoveryKeyFile : Option String) (progress : List UInt32)
    (s : State) : Prop :=
  progress = [] ∨
    match remoteReport status with
    | none => s.status = "in_progress" ∧
        s.statusFlags = startFlags autoStarted ||| authFlagRemoteStarted
    | some (.report _ _) => True
    | some (.localAuth _ _) =>
      s.files (localHashFile H username) = none ∨
        (autoStarted = true ∧ (nonEmpty recoveryKeyFile = true →
          s.files (recoveryKeyFile.getD "") = none ∨
          (id.getD "" = "" ∧ recoveryKeyFile.getD "" ≠ localHashFile H username)))

/-- `m` returns from `s` with this status and these flags, and logs `new`. -/
def EndsWith (m : AuthM α) (s : State) (a : α) (status : String) (flags : UInt32)
    (new : List AuthEvent) : Prop :=
  ∃ s', m s = .ok (a, s') ∧ s'.status = status ∧ s'.statusFlags = flags ∧ s'.log = s.log ++ new

section
variable (H : Helpers)

theorem EndsWith.outcome {m : AuthM Unit} (h : EndsWith m s () status flags new) :
    outcome s m = .ok (status, flags, new.filterMap AuthEvent.outward) := by
  obtain ⟨s', hrun, hstatus, hflags, hlog⟩ := h
  rw [Secure.outcome, hrun]
  simp only [Except.map, hstatus, hflags, hlog, List.drop_left]

/-- What the final clean-up removes shows nowhere else. -/
theorem authRemoteStatus_ends {autoStarted : Bool} {status : Int} {id : Option String}
    {recoveryKeyFile : Option String} {new : List AuthEvent} (started : Bool)
    (h : EndsWith (reportRemote H (remoteReport status) (startFlags autoStarted) id username
      recoveryKeyFile (localHashFile H username) ctxFlags)
      (s.without ((!autoStarted) = true) (remoteHashFile H username)) started name flags new) :
    EndsWith (authRemoteStatus H autoStarted status id username recoveryKeyFile ctxFlags) s ()
      name flags new := by
  obtain ⟨s', hrun, hstatus, hflags, hlog⟩ := h
  exact ⟨_, authRemoteStatus_run H hrun, hstatus, hflags, hlog⟩

/-- A report that `local_auth` has no part in. -/
theorem direct_ends {autoStarted : Bool} {status : Int} {id : Option String}
    {recoveryKeyFile : Option String} {reported : AuthStatus} {flag : UInt32}
    (hr : remoteReport status = some (.report reported flag)) (ctxFlags : UInt32) :
    ∃ flags, ∀ s, EndsWith
      (authRemoteStatus H autoStarted status id username recoveryKeyFile ctxFlags) s ()
      reported.name flags [.authStatus reported.name flags] := by
  let flags := startFlags autoStarted ||| flag
  refine ⟨if reported.isError then flags ||| authFlagError else flags, ?_⟩
  intro s
  apply authRemoteStatus_ends H false
  rw [hr]
  have hshown := (Bool.or_eq_false_iff.mp (remoteReport_shown hr)).1
  exact ⟨_, bind_ok (authStatus_run hshown _ _), rfl, rfl, rfl⟩

/-- A status that the backend daemon does not have. -/
theorem unknown_ends {autoStarted : Bool} {status : Int} {id : Option String}
    {recoveryKeyFile : Option String} (hr : remoteReport status = none) (ctxFlags : UInt32)
    (s : State) :
    EndsWith (authRemoteStatus H autoStarted status id username recoveryKeyFile ctxFlags) s ()
      s.status s.statusFlags [] := by
  apply authRemoteStatus_ends H false
  rw [hr]
  exact ⟨_, rfl, rfl, rfl, (List.append_nil _).symm⟩

theorem leave_run (label : Label) (remoteFlags : UInt32) (recoveryKeyFile : Option String)
    (got : Bool) (userpass : String) (s : State) :
    leave label remoteFlags recoveryKeyFile got userpass s =
      .ok (decide (label = .skipCleanupUserpass),
        ((if label = .error then s.reported authInternalError remoteFlags else s).without
          (label ≠ .skipCleanupUserpass ∧ remoteFlags &&& authFlagAutoStarted = 0) userpass).without
          (got = true ∧ (!decide (label = .skipCleanupUserpass)) = true)
          (recoveryKeyFile.getD "")) := by
  have hreport : onlyIf (label = .error) (authStatus authInternalError remoteFlags) s =
      .ok ((), if label = .error then s.reported authInternalError remoteFlags else s) := by
    unfold onlyIf
    by_cases hlabel : label = .error
    · rw [if_pos hlabel, if_pos hlabel, authStatus_run rfl]
    · rw [if_neg hlabel, if_neg hlabel]
      rfl
  unfold leave
  rw [bind_ok hreport, bind_ok (onlyIf_remove_run _ _ _), bind_ok (onlyIf_remove_run _ _ _)]
  rfl

theorem leave_cleanup_ends (remoteFlags : UInt32) (recoveryKeyFile : Option String) (got : Bool)
    (userpass : String) (s : State) :
    EndsWith (leave .cleanupUserpass remoteFlags recoveryKeyFile got userpass) s false
      s.status s.statusFlags [] :=
  ⟨_, leave_run _ _ _ _ _ s, rfl, rfl, (List.append_nil _).symm⟩

theorem leave_error_ends (remoteFlags : UInt32) (recoveryKeyFile : Option String) (got : Bool)
    (userpass : String) (s : State) :
    EndsWith (leave .error remoteFlags recoveryKeyFile got userpass) s false "internal_error"
      (remoteFlags ||| authFlagError)
      [.authStatus "internal_error" (remoteFlags ||| authFlagError)] :=
  ⟨_, leave_run _ _ _ _ _ s, rfl, rfl, rfl⟩

theorem stat_run (h : (s.files path).isSome = b) : stat path s = .ok (b, s) := by
  rw [← h]
  rfl

theorem bind_ends {m : AuthM α} {k : α → AuthM β} (hm : m s = .ok (a, s₁))
    (hlog : s₁.log = s.log ++ new) (hk : EndsWith (k a) s₁ b name flags more) :
    EndsWith (m >>= k) s b name flags (new ++ more) := by
  obtain ⟨s', hrun, hstatus, hflags, hlog'⟩ := hk
  refine ⟨s', by rw [bind_ok hm, hrun], hstatus, hflags, ?_⟩
  rw [hlog', hlog, List.append_assoc]

section
variable (remoteOk : Bool) (remoteFlags : UInt32) (userPrefix : String) (id : Option String)
  (username : String) (recoveryKeyFile : Option String) (ctxFlags : UInt32) {s : State}

/-- `local_auth` where the hash file is missing. -/
theorem localAuth_missing (hmissing : s.files userpass = none) :
    EndsWith (localAuth H remoteOk remoteFlags userPrefix id username recoveryKeyFile userpass
      ctxFlags) s false "need_credentials" (remoteFlags ||| authFlagLocalCredentialsMissing)
      [.authStatus "in_progress" authFlagLocalStarted,
        .authStatus "need_credentials" (remoteFlags ||| authFlagLocalCredentialsMissing)] := by
  apply bind_ends (authStatus_run rfl _ s) rfl
  apply bind_ends (stat_run (b := false) (by rw [reported_files, hmissing]; rfl))
    (List.append_nil _).symm
  apply bind_ends (authStatus_run rfl _ _) rfl
  exact leave_cleanup_ends _ _ _ _ _

/-- `local_auth` where it has no user ID. -/
theorem localAuth_noId (hfile : s.files userpass ≠ none) (hid : id.getD "" = "") :
    EndsWith (localAuth H remoteOk remoteFlags userPrefix id username recoveryKeyFile userpass
      ctxFlags) s false (if remoteOk then "internal_error" else "no_userid")
      (remoteFlags ||| authFlagError)
      [.authStatus "in_progress" authFlagLocalStarted,
        .authStatus (if remoteOk then "internal_error" else "no_userid")
          (remoteFlags ||| authFlagError)] := by
  apply bind_ends (authStatus_run rfl _ s) rfl
  have hstat : stat userpass (s.reported authInProgress authFlagLocalStarted) =
      .ok (true, s.reported authInProgress authFlagLocalStarted) :=
    stat_run (Option.isSome_iff_ne_none.mpr hfile)
  apply bind_ends hstat (List.append_nil _).symm
  rw [if_neg (by decide), if_pos hid]
  cases remoteOk with
  | true =>
    apply bind_ends (authStatus_run rfl _ _) rfl
    exact leave_cleanup_ends _ _ _ _ _
  | false =>
    apply bind_ends (authStatus_run rfl _ _) rfl
    exact leave_cleanup_ends _ _ _ _ _

/-- `local_auth` with all it needs, up to the first script. -/
theorem localAuth_error (hfile : s.files userpass ≠ none) (hid : id.getD "" ≠ "")
    (h : checkUser H remoteOk remoteFlags userPrefix (id.getD "") username recoveryKeyFile
      (nonEmpty recoveryKeyFile) userpass ctxFlags (s.reported authInProgress authFlagLocalStarted) =
      .ok (.error, s₁)) (hlog : s₁.log = (s.reported authInProgress authFlagLocalStarted).log ++ ran) :
    EndsWith (localAuth H remoteOk remoteFlags userPrefix id username recoveryKeyFile userpass
      ctxFlags) s false "internal_error" (remoteFlags ||| authFlagError)
      (.authStatus "in_progress" authFlagLocalStarted :: ran ++
        [.authStatus "internal_error" (remoteFlags ||| authFlagError)]) := by
  apply bind_ends (authStatus_run rfl _ s) rfl
  have hstat : stat userpass (s.reported authInProgress authFlagLocalStarted) =
      .ok (true, s.reported authInProgress authFlagLocalStarted) :=
    stat_run (Option.isSome_iff_ne_none.mpr hfile)
  apply bind_ends hstat (List.append_nil _).symm
  rw [if_neg (by decide), if_neg hid]
  apply bind_ends h hlog
  exact leave_error_ends _ _ _ _ _

end

end

section
variable (H : Helpers)

theorem runScript_run {c : Script} (h : (H.script s.ran s.files c).1 = code) :
    ∃ s', runScript H c s = .ok (code, s') ∧ s'.log = s.log ++ [.script c code] ∧
      s'.files = (H.script s.ran s.files c).2 := by
  rw [← h]
  exact ⟨_, rfl, rfl, rfl⟩

/-- The first script does not run. -/
theorem checkUser_fails {s : State} (remoteOk : Bool) (remoteFlags : UInt32)
    (userPrefix id username : String) (recoveryKeyFile : Option String) (got : Bool)
    (userpass : String) (ctxFlags : UInt32)
    (h : (H.script s.ran s.files (.checkUser (nameHash H userPrefix id))).1 = -1) :
    ∃ s', checkUser H remoteOk remoteFlags userPrefix id username recoveryKeyFile got userpass
      ctxFlags s = .ok (.error, s') ∧
      s'.log = s.log ++ [.script (.checkUser (nameHash H userPrefix id)) (-1)] := by
  obtain ⟨s₁, hrun, hlog, _⟩ := runScript_run H h
  refine ⟨s₁, ?_, hlog⟩
  unfold checkUser
  rw [bind_ok hrun, if_pos (by decide)]
  rfl

/-- The user exists, and the password cannot be checked. -/
theorem checkPass_fails {s : State} (remoteOk : Bool) (remoteFlags : UInt32)
    (userPrefix id username : String) (recoveryKeyFile : Option String) (got : Bool)
    (userpass : String) (ctxFlags : UInt32)
    (h : (H.script s.ran s.files (.checkUser (nameHash H userPrefix id))).1 = 0)
    (hpass : ∀ ran files, (H.script ran files (.checkPass (nameHash H userPrefix id) userpass)).1 =
      -1) :
    ∃ s', checkUser H remoteOk remoteFlags userPrefix id username recoveryKeyFile got userpass
      ctxFlags s = .ok (.error, s') ∧
      s'.log = s.log ++ [.script (.checkUser (nameHash H userPrefix id)) 0,
        .script (.checkPass (nameHash H userPrefix id) userpass) (-1)] := by
  obtain ⟨s₁, hrun, hlog, _⟩ := runScript_run H h
  obtain ⟨s₂, hrun', hlog', _⟩ := runScript_run H (hpass s₁.ran s₁.files)
  refine ⟨s₂, ?_, by rw [hlog', hlog, List.append_assoc]; rfl⟩
  have hcheck : secCheckPassAndMount H (nameHash H userPrefix id) userpass s₁ = .ok (-1, s₂) := by
    unfold secCheckPassAndMount
    rw [bind_ok hrun', if_pos (by decide)]
    rfl
  unfold checkUser
  rw [bind_ok hrun, if_neg (by decide), if_neg (by decide), bind_ok hcheck, if_pos (by decide)]
  rfl

theorem deliver_run (autoStarted : Bool) (status : Int) (id : Option String) (username : String)
    (recoveryKeyFile : Option String) (ctxFlags first : UInt32) (progress : List UInt32)
    (s : State) :
    deliver H autoStarted status id username recoveryKeyFile ctxFlags (first :: progress) s =
      authRemoteStatus H autoStarted status id username recoveryKeyFile ctxFlags
        (s.progressed H autoStarted username recoveryKeyFile (progress.length + 1)) := by
  unfold deliver
  rw [bind_ok (progressReports_run H _ _ _ _ _ _ _)]

/-- The progress reports themselves do not count. -/
theorem progressed_outcome {m m' : AuthM Unit} {s : State}
    (hm : m s = m' (s.progressed H autoStarted username recoveryKeyFile count))
    (h : EndsWith m' (s.progressed H autoStarted username recoveryKeyFile count) () status flags
      new) : outcome s m = .ok (status, flags, new.filterMap AuthEvent.outward) := by
  obtain ⟨s', hrun, hstatus, hflags, hlog⟩ := h
  have hquiet : (List.replicate count (AuthEvent.authStatus "in_progress"
      (startFlags autoStarted ||| authFlagRemoteStarted))).filterMap AuthEvent.outward = [] := by
    rw [List.filterMap_eq_nil_iff]
    intro g hg
    rw [List.eq_of_mem_replicate hg]
    rfl
  rw [outcome, hm, hrun]
  simp only [Except.map, hstatus, hflags, hlog, State.progressed, List.append_assoc,
    List.drop_left, List.filterMap_append, hquiet, List.nil_append]

end

/-- The helpers with other scripts. -/
def Helpers.running (H : Helpers) (script : List (Script × Int) → Files → Script → Int × Files) :
    Helpers :=
  { H with script := script }

section
variable (H : Helpers) {autoStarted remoteOk : Bool} {status : Int} {id : Option String}
  {username : String} {recoveryKeyFile : Option String} {ctxFlags flag : UInt32}

/-- A final report that finds no local hash file. -/
theorem missing_ends (hr : remoteReport status = some (.localAuth remoteOk flag)) {s : State}
    (hmissing : s.files (localHashFile H username) = none) :
    EndsWith (authRemoteStatus H autoStarted status id username recoveryKeyFile ctxFlags) s ()
      "need_credentials" (startFlags autoStarted ||| flag ||| authFlagLocalCredentialsMissing)
      [.authStatus "in_progress" authFlagLocalStarted, .authStatus "need_credentials"
        (startFlags autoStarted ||| flag ||| authFlagLocalCredentialsMissing)] := by
  apply authRemoteStatus_ends H false
  rw [hr]
  exact localAuth_missing H _ _ _ _ _ _ _ (without_stays hmissing)

theorem remote_ne_local (user : String) : localHashFile H user ≠ remoteHashFile H user := by
  intro h
  have hchar := congrArg (fun path : String => path.toList[12]?) h
  simp [localHashFile, remoteHashFile, nameHash, String.toList_append] at hchar

/-- A final report that finds the local hash file, and has no user ID. -/
theorem noId_ends (hr : remoteReport status = some (.localAuth remoteOk flag)) {s : State}
    (hfile : s.files (localHashFile H username) ≠ none) (hid : id.getD "" = "") :
    EndsWith (authRemoteStatus H autoStarted status id username recoveryKeyFile ctxFlags) s ()
      (if remoteOk then "internal_error" else "no_userid")
      (startFlags autoStarted ||| flag ||| authFlagError)
      [.authStatus "in_progress" authFlagLocalStarted,
        .authStatus (if remoteOk then "internal_error" else "no_userid")
          (startFlags autoStarted ||| flag ||| authFlagError)] := by
  apply authRemoteStatus_ends H false
  rw [hr]
  apply localAuth_noId H
  · rw [without_other (remote_ne_local H username)]
    exact hfile
  · exact hid

/-- A final report that finds the local hash file, and whose scripts fail. -/
theorem error_ends (hr : remoteReport status = some (.localAuth remoteOk flag)) {s : State}
    (hfile : s.files (localHashFile H username) ≠ none) (hid : id.getD "" ≠ "")
    (h : ∀ s', (∀ path, s'.files path = (s.without ((!autoStarted) = true)
        (remoteHashFile H username)).files path) →
      ∃ s₁, checkUser H remoteOk (startFlags autoStarted ||| flag) remoteUserPrefix (id.getD "")
        username recoveryKeyFile (nonEmpty recoveryKeyFile) (localHashFile H username) ctxFlags s' =
        .ok (.error, s₁) ∧ s₁.log = s'.log ++ ran) :
    EndsWith (authRemoteStatus H autoStarted status id username recoveryKeyFile ctxFlags) s ()
      "internal_error" (startFlags autoStarted ||| flag ||| authFlagError)
      (.authStatus "in_progress" authFlagLocalStarted :: ran ++
        [.authStatus "internal_error" (startFlags autoStarted ||| flag ||| authFlagError)]) := by
  apply authRemoteStatus_ends H false
  rw [hr]
  obtain ⟨s₁, hrun, hlog⟩ := h ((s.without ((!autoStarted) = true)
    (remoteHashFile H username)).reported authInProgress authFlagLocalStarted) fun _ => rfl
  apply localAuth_error H _ _ _ _ _ _ _ _ hid hrun hlog
  rw [without_other (remote_ne_local H username)]
  exact hfile

/-- The final report alone. -/
theorem alone_outcome {s : State}
    (h : EndsWith (authRemoteStatus H autoStarted status id username recoveryKeyFile ctxFlags) s ()
      name flags new) :
    outcome s (deliver H autoStarted status id username recoveryKeyFile ctxFlags []) =
      .ok (name, flags, new.filterMap AuthEvent.outward) :=
  h.outcome

/-- The final report after progress reports. -/
theorem progress_outcome {s : State} {progress : List UInt32}
    (h : EndsWith (authRemoteStatus H autoStarted status id username recoveryKeyFile ctxFlags)
      (s.progressed H autoStarted username recoveryKeyFile (progress.length + 1)) () name flags
      new) :
    outcome s (deliver H autoStarted status id username recoveryKeyFile ctxFlags
      (first :: progress)) = .ok (name, flags, new.filterMap AuthEvent.outward) :=
  progressed_outcome H (deliver_run H _ _ _ _ _ _ _ _ _) h

/-- Scripts that all fail. -/
def failing : List (Script × Int) → Files → Script → Int × Files :=
  fun _ files _ => (-1, files)

/-- Without the local hash file the final report cannot end as it does with it. -/
theorem removed_shows (hr : remoteReport status = some (.localAuth remoteOk flag)) {s : State}
    (hfile : s.files (localHashFile H username) ≠ none)
    (hgone : progressFiles H autoStarted username recoveryKeyFile s.files
      (localHashFile H username) = none) (first : UInt32) (progress : List UInt32) :
    ¬Transparent (H.running failing) autoStarted status id username recoveryKeyFile
      ctxFlags (first :: progress) s := by
  intro htransparent
  rw [Transparent, progress_outcome _ (missing_ends (H.running failing) hr hgone)] at htransparent
  by_cases hid : id.getD "" = ""
  · rw [alone_outcome _ (noId_ends (H.running failing) hr hfile hid)] at htransparent
    have hname := (Prod.mk.inj (Except.ok.inj htransparent)).1
    cases remoteOk <;> exact absurd hname (by decide)
  · rw [alone_outcome _ (error_ends (H.running failing) hr hfile hid fun s' _ =>
      checkUser_fails (H.running failing) _ _ _ _ _ _ _ _ _ rfl)] at htransparent
    have hname := (Prod.mk.inj (Except.ok.inj htransparent)).1
    exact absurd hname (by decide)

/-- Scripts that check for a user only while a file exists, and then fail. -/
def watching (path : String) : List (Script × Int) → Files → Script → Int × Files :=
  fun _ files c =>
    match c with
    | .checkUser _ => (if (files path).isSome then -1 else 0, files)
    | _ => (-1, files)

/-- A recovery key file that the scripts can see is missed when it is removed. -/
theorem missed_key_shows (hr : remoteReport status = some (.localAuth remoteOk flag)) {s : State}
    (hfile : progressFiles H true username recoveryKeyFile s.files
      (localHashFile H username) ≠ none) (hid : id.getD "" ≠ "")
    (hkey : nonEmpty recoveryKeyFile = true) (hexists : s.files (recoveryKeyFile.getD "") ≠ none)
    (first : UInt32) (progress : List UInt32) :
    ¬Transparent (H.running (watching (recoveryKeyFile.getD ""))) true status id username
      recoveryKeyFile ctxFlags (first :: progress) s := by
  intro htransparent
  have hbefore : s.files (localHashFile H username) ≠ none := by
    intro hnone
    apply hfile
    unfold progressFiles
    split
    · rfl
    · exact hnone
  have hgone : progressFiles H true username recoveryKeyFile s.files (recoveryKeyFile.getD "") =
      none := if_pos (.inr ⟨hkey, rfl⟩)
  have hfails (s' : State) (hs' : ∀ path, s'.files path =
      (s.without ((!true) = true) (remoteHashFile H username)).files path) :
      (watching (recoveryKeyFile.getD "") s'.ran s'.files
        (.checkUser (nameHash H remoteUserPrefix (id.getD "")))).1 = -1 := by
    apply if_pos
    rw [hs', Option.isSome_iff_ne_none]
    exact hexists
  have hsucceeds (s' : State) (hs' : ∀ path, s'.files path =
      ((s.progressed H true username recoveryKeyFile (progress.length + 1)).without ((!true) = true)
        (remoteHashFile H username)).files path) :
      (watching (recoveryKeyFile.getD "") s'.ran s'.files
        (.checkUser (nameHash H remoteUserPrefix (id.getD "")))).1 = 0 := by
    apply if_neg
    rw [hs', Option.isSome_iff_ne_none, not_not]
    exact hgone
  let G := H.running (watching (recoveryKeyFile.getD ""))
  rw [Transparent, progress_outcome G (error_ends G hr hfile hid fun s' hs' =>
      checkPass_fails G _ _ _ _ _ _ _ _ _ (hsucceeds s' hs') fun _ _ => rfl),
    alone_outcome G (error_ends G hr hbefore hid fun s' hs' =>
      checkUser_fails G _ _ _ _ _ _ _ _ _ (hfails s' hs'))] at htransparent
  have hran := (Prod.mk.inj (Prod.mk.inj (Except.ok.inj htransparent)).2).2
  have hlength : 3 = 2 := congrArg List.length hran
  cases hlength

theorem progressFiles_same {files : Files}
    (h : nonEmpty recoveryKeyFile = true → files (recoveryKeyFile.getD "") = none) :
    progressFiles H true username recoveryKeyFile files = files := by
  funext path
  unfold progressFiles
  split
  · rename_i hcase
    obtain ⟨hauto, _⟩ | ⟨hkey, hpath⟩ := hcase
    · cases hauto
    · rw [hpath, h hkey]
  · rfl

/-- Where the files are as they were, `local_auth` takes the same way. -/
theorem kept_transparent (hr : remoteReport status = some (.localAuth remoteOk flag)) {s : State}
    (hfiles : progressFiles H autoStarted username recoveryKeyFile s.files = s.files)
    (first : UInt32) (progress : List UInt32) :
    Transparent H autoStarted status id username recoveryKeyFile ctxFlags (first :: progress) s := by
  let progressed := s.progressed H autoStarted username recoveryKeyFile (progress.length + 1)
  have hran : progressed.log.filterMap AuthEvent.script? =
      s.log.filterMap AuthEvent.script? := by
    change (s.log ++ List.replicate _ _).filterMap _ = _
    rw [List.filterMap_append, List.filterMap_replicate_of_none rfl, List.append_nil]
  obtain ⟨rest, hrest, heq⟩ := localAuth_keeps H hran remoteOk (startFlags autoStarted ||| flag)
    remoteUserPrefix id username recoveryKeyFile (localHashFile H username) ctxFlags
  have hrun (x : State) :
      authRemoteStatus H autoStarted status id username recoveryKeyFile ctxFlags x =
      (rest >>= fun started => do
        onlyIf ((!started) = true ∧ (!autoStarted) = true) (remove (localHashFile H username))
        onlyIf (nonEmpty recoveryKeyFile = true ∧ (!started) = true)
          (remove (recoveryKeyFile.getD "")))
        ((x.without ((!autoStarted) = true) (remoteHashFile H username)).reported authInProgress
          authFlagLocalStarted) := by
    unfold authRemoteStatus
    rw [bind_ok (onlyIf_remove_run _ _ _), hr]
    change (localAuth H remoteOk (startFlags autoStarted ||| flag) _ _ _ _ _ _ >>= _) _ = _
    rw [heq, bind_assoc, bind_ok (authStatus_run rfl _ _)]
  have halike : Alike s.log progressed.log
      ((s.without ((!autoStarted) = true) (remoteHashFile H username)).reported authInProgress
        authFlagLocalStarted)
      ((progressed.without ((!autoStarted) = true) (remoteHashFile H username)).reported
        authInProgress authFlagLocalStarted) :=
    { log := ⟨_, rfl, rfl⟩
      context := rfl
      status := rfl
      statusFlags := rfl
      uivm := rfl
      xenstore := rfl
      secureMode := rfl
      files := by
        change (if (!autoStarted) = true then Function.update (progressFiles H _ _ _ s.files) _ _
          else progressFiles H _ _ _ s.files) = _
        rw [hfiles]
        rfl
      db := rfl
      writes := rfl }
  have hends : EndsAlike (Alike s.log progressed.log)
      (authRemoteStatus H autoStarted status id username recoveryKeyFile ctxFlags s)
      (authRemoteStatus H autoStarted status id username recoveryKeyFile ctxFlags progressed) := by
    rw [hrun, hrun]
    apply lockstep_bind hrest _ _ _ halike
    intro started
    apply lockstep_bind (onlyIf_keeps (remove_keeps _))
    intro _
    exact onlyIf_keeps (remove_keeps _)
  rw [Transparent, outcome, outcome, deliver_run]
  change Except.map _ (authRemoteStatus H autoStarted status id username recoveryKeyFile ctxFlags
    progressed) = Except.map _ (authRemoteStatus H autoStarted status id username recoveryKeyFile
    ctxFlags s)
  generalize authRemoteStatus H autoStarted status id username recoveryKeyFile ctxFlags s = alone
    at hends ⊢
  generalize authRemoteStatus H autoStarted status id username recoveryKeyFile ctxFlags
    progressed = after at hends ⊢
  cases hends with
  | error e => rfl
  | ok a h =>
    obtain ⟨new, hs, ht⟩ := h.log
    have hprogressed : progressed.log = s.log ++ List.replicate (progress.length + 1)
      (.authStatus "in_progress" (startFlags autoStarted ||| authFlagRemoteStarted)) := rfl
    simp only [Except.map, hs, ht, h.status, h.statusFlags, hprogressed, List.append_assoc,
      List.drop_left, List.filterMap_append]
    rw [List.filterMap_replicate_of_none rfl, List.nil_append]

end

/-- Progress reports are transparent to every script exactly where they are harmless. -/
theorem progress_transparent_iff (H : Helpers) (autoStarted : Bool) (status : Int)
    (id : Option String) (username : String) (recoveryKeyFile : Option String) (ctxFlags : UInt32)
    (progress : List UInt32) (s : State) :
    (∀ script, Transparent (H.running script) autoStarted status id username recoveryKeyFile
      ctxFlags progress s) ↔
      Harmless H autoStarted status id username recoveryKeyFile progress s := by
  cases progress with
  | nil => exact ⟨fun _ => .inl rfl, fun _ _ => rfl⟩
  | cons first progress =>
    unfold Harmless
    cases hr : remoteReport status with
    | none =>
      have hends (script) : Transparent (H.running script) autoStarted status id username
          recoveryKeyFile ctxFlags (first :: progress) s ↔ s.status = "in_progress" ∧
            s.statusFlags = startFlags autoStarted ||| authFlagRemoteStarted := by
        rw [Transparent, progress_outcome _ (unknown_ends (H.running script) hr ctxFlags _),
          alone_outcome _ (unknown_ends (H.running script) hr ctxFlags s)]
        constructor
        · intro hsame
          have hpair := Prod.mk.inj (Except.ok.inj hsame)
          exact ⟨hpair.1.symm, (Prod.mk.inj hpair.2).1.symm⟩
        · rintro ⟨hstatus, hflags⟩
          rw [hstatus, hflags]
          rfl
      constructor
      · intro htransparent
        exact .inr ((hends H.script).mp (htransparent H.script))
      · intro hharmless script
        exact (hends script).mpr (hharmless.resolve_left nofun)
    | some report =>
      cases report with
      | report reported flag =>
        refine ⟨fun _ => .inr trivial, ?_⟩
        intro _ script
        obtain ⟨flags, hends⟩ := direct_ends (H.running script) hr ctxFlags
        rw [Transparent, progress_outcome _ (hends _), alone_outcome _ (hends s)]
      | localAuth remoteOk flag =>
        constructor
        · intro htransparent
          refine .inr ?_
          by_contra hharm
          obtain ⟨hfile, hauto⟩ := not_or.mp hharm
          by_cases hgone : progressFiles H autoStarted username recoveryKeyFile s.files
              (localHashFile H username) = none
          · exact removed_shows H hr hfile hgone first progress (htransparent failing)
          · have hstarted : autoStarted = true := by
              by_contra hnot
              exact hgone (if_pos (.inl ⟨Bool.eq_false_of_not_eq_true hnot, .inr rfl⟩))
            subst hstarted
            have hneeded := fun h => hauto ⟨rfl, h⟩
            obtain ⟨hkey, hneeded⟩ := Classical.not_imp.mp hneeded
            obtain ⟨hexists, hid⟩ := not_or.mp hneeded
            have hid : id.getD "" ≠ "" := by
              intro hempty
              apply hid
              refine ⟨hempty, ?_⟩
              intro hlocal
              exact hgone (if_pos (.inr ⟨hkey, hlocal.symm⟩))
            exact missed_key_shows H hr hgone hid hkey hexists first progress (htransparent _)
        · intro hharmless script
          have hharmless := hharmless.resolve_left nofun
          by_cases hfile : s.files (localHashFile H username) = none
          · have hgone : progressFiles H autoStarted username recoveryKeyFile s.files
                (localHashFile H username) = none := by
              unfold progressFiles
              split
              · rfl
              · exact hfile
            rw [Transparent, progress_outcome _ (missing_ends (H.running script) hr hgone),
              alone_outcome _ (missing_ends (H.running script) hr hfile)]
          · obtain ⟨rfl, hkey⟩ := hharmless.resolve_left hfile
            by_cases hneeded : nonEmpty recoveryKeyFile = true →
                s.files (recoveryKeyFile.getD "") = none
            · exact kept_transparent (H.running script) hr (progressFiles_same H hneeded) first
                progress
            · obtain ⟨hnonempty, hexists⟩ := Classical.not_imp.mp hneeded
              obtain ⟨hid, hother⟩ := (hkey hnonempty).resolve_left hexists
              have hstays : progressFiles H true username recoveryKeyFile s.files
                  (localHashFile H username) ≠ none := by
                unfold progressFiles
                rw [if_neg]
                · exact hfile
                · rintro (⟨hauto, _⟩ | ⟨_, hpath⟩)
                  · cases hauto
                  · exact hother hpath.symm
              rw [Transparent, progress_outcome _ (noId_ends (H.running script) hr hstays hid),
                alone_outcome _ (noId_ends (H.running script) hr hfile hid)]

/-- A progress report of a login at the keyboard takes the password away from the final report. -/
theorem progress_report_shows :
    ¬Transparent obliging false 1 (some "id") "user" none 8 [8] (holding 8) := by
  intro htransparent
  have hwith : (outcome (holding 8) (deliver obliging false 1 (some "id") "user" none 8
      [8])).toOption.map Prod.fst = some "need_credentials" := by decide +kernel
  have halone : (outcome (holding 8) (deliver obliging false 1 (some "id") "user" none 8
      [])).toOption.map Prod.fst = some "ok" := by decide +kernel
  rw [htransparent, halone] at hwith
  exact absurd hwith (by decide)

end InputServer.Secure
