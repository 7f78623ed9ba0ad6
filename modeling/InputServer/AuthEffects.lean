import InputServer.PasswordChecked

namespace InputServer.Secure
open Program
set_option autoImplicit true

def AuthEvent.isOk : AuthEvent → Bool
  | .authStatus name _ => name == "ok"
  | _ => false

/-- Whether a status reports that the user is in, or takes the window away. -/
def AuthStatus.ends (status : AuthStatus) : Bool :=
  status.hideWindow || status.name == "ok"

theorem AuthStatus.Refuses.not_ends {status : AuthStatus} (h : status.Refuses) :
    status.ends = false := by
  rw [AuthStatus.ends, h.2.2, Bool.false_or, beq_eq_false_iff_ne]
  exact h.1

/-- What an attempt does to the files and the database, beyond what its scripts do. -/
inductive Act where
  | remove (path : String)
  | write (path : String)
  | letIn (username : String) (ctxFlags : UInt32)
  | unlock

/-- The user is let in: the database is told, then the bus. -/
def letIn (uname username : String) (ctxFlags flags : UInt32) : AuthM Unit := do
  authUpdateCache uname username ctxFlags
  authStatus authOk flags

/-- The fields that authenticating is about; the rest is the window and its bookkeeping. -/
structure Same (s s' : State) : Prop where
  context : s'.context = s.context
  files : s'.files = s.files
  db : s'.db = s.db

theorem Same.trans (h : Same s s') (h' : Same s' s'') : Same s s'' :=
  ⟨h'.context.trans h.context, h'.files.trans h.files, h'.db.trans h.db⟩

theorem authWindow_same (shown : Bool) (s : State) :
    wlp (authWindow shown) (fun _ => Same s) s := by
  unfold authWindow
  rw [wlp_bind, wlp_get]
  cases s.uivm with
  | none => exact wlp_throw _ _ _
  | some domid =>
    apply wlp_ite
    · intro _
      unfold xenstoreWrite
      rw [wlp_bind, wlp_modify, wlp_modify]
      exact ⟨rfl, rfl, rfl⟩
    · intro _
      unfold xenstoreWrite
      rw [wlp_modify]
      exact ⟨rfl, rfl, rfl⟩

theorem authWindowShown_same (s : State) : wlp authWindowShown (fun _ => Same s) s := by
  unfold authWindowShown
  rw [wlp_bind, wlp_get]
  cases s.uivm with
  | none => exact wlp_throw _ _ _
  | some domid =>
    dsimp only
    cases s.xenstore (stateNode domid) with
    | none => exact (wlp_pure _ _ s).mpr ⟨rfl, rfl, rfl⟩
    | some v => exact (wlp_pure _ _ s).mpr ⟨rfl, rfl, rfl⟩

theorem authBegin_same (s : State) : wlp authBegin (fun _ => Same s) s := by
  unfold authBegin
  rw [wlp_bind, wlp_get]
  apply wlp_ite
  · intro _
    exact (wlp_pure _ _ s).mpr ⟨rfl, rfl, rfl⟩
  · intro _
    rw [wlp_bind]
    refine wlp_mono (authWindowShown_same s) ?_
    intro shown s' hs'
    apply wlp_ite
    · intro _
      exact (wlp_pure _ _ s').mpr hs'
    · intro _
      rw [wlp_bind]
      refine wlp_mono (authWindow_same true s') ?_
      intro _ s'' hs''
      exact (wlp_pure _ _ s'').mpr (hs'.trans hs'')

theorem inputSecure_same (onoff : Bool) (s : State) :
    wlp (inputSecure onoff) (fun _ => Same s) s := by
  unfold inputSecure
  rw [wlp_bind, wlp_get]
  apply wlp_ite
  · intro _
    rw [wlp_pure]
    exact ⟨rfl, rfl, rfl⟩
  · intro _
    unfold emit
    rw [wlp_bind, wlp_modify, wlp_bind, wlp_modify]
    apply wlp_ite
    · intro _
      refine wlp_mono (authBegin_same _) ?_
      intro _ s' hs'
      exact ⟨hs'.context, hs'.files, hs'.db⟩
    · intro _
      rw [wlp_pure]
      exact ⟨rfl, rfl, rfl⟩

/-- Of what authenticating is about, a status changes the context only. -/
theorem authStatus_same (status : AuthStatus) (flags : UInt32) (s : State) :
    wlp (authStatus status flags)
      (fun _ => Same { s with context := if status.hideWindow then none else s.context }) s := by
  unfold authStatus
  have hhide : wlp (onlyIf status.hideWindow do
      modify fun s => { s with context := none }
      authWindow false
      discard (inputSecure false))
      (fun _ => Same { s with context := if status.hideWindow then none else s.context }) s := by
    apply wlp_ite
    · intro hide
      rw [if_pos hide, wlp_bind, wlp_modify, wlp_bind]
      refine wlp_mono (authWindow_same _ _) ?_
      intro _ s' hs'
      change wlp (inputSecure false >>= fun _ => (pure () : AuthM Unit)) _ s'
      rw [wlp_bind]
      refine wlp_mono (inputSecure_same false _) ?_
      intro _ s'' hs''
      rw [wlp_pure]
      exact hs'.trans hs''
    · intro hide
      rw [wlp_pure, if_neg hide]
      exact ⟨rfl, rfl, rfl⟩
  rw [wlp_bind]
  refine wlp_mono hhide ?_
  intro _ s' hs'
  unfold emit
  rw [wlp_bind, wlp_modify, wlp_modify]
  exact hs'.trans ⟨rfl, rfl, rfl⟩

/-- The flags that the database keeps of a context. -/
def cachedFlags (flags : UInt32) : UInt32 :=
  if flags &&& authFlagRemoteUser ≠ 0 then authFlagRemoteUser else flags

/-- The database after `auth_update_cache`. -/
def cached (db : String → Option String) (uidHash username : String) (flags : UInt32) :
    String → Option String :=
  Function.update (Function.update (Function.update db "/platform/username" (some username))
    "/platform/flags" (some (toString (cachedFlags flags).toInt32.toInt)))
    ("/platform/username-map/" ++ uidHash) (some username)

/-- Who is let in is in the database, and the context is gone. -/
theorem letIn_same (uname username : String) (ctxFlags flags : UInt32) (s : State) :
    wlp (letIn uname username ctxFlags flags)
      (fun _ => Same { s with context := none, db := cached s.db uname username ctxFlags }) s := by
  unfold letIn authUpdateCache dbWrite
  rw [wlp_bind, wlp_bind, wlp_modify, wlp_bind, wlp_modify]
  change wlp (userAssoc uname username >>= fun _ => (pure () : AuthM Unit)) _ _
  unfold userAssoc dbWrite
  rw [wlp_bind, wlp_bind, wlp_modify, wlp_pure, wlp_pure]
  exact authStatus_same authOk flags _

/-- The acts that `may` be done go along `R`, and so does all else that an attempt does. -/
structure Permits (H : Helpers) (R : State → State → Prop) (may : Act → Prop) : Prop where
  silent : ∀ {s s' new}, s'.log = s.log ++ new → new.any AuthEvent.isOk = false →
    s'.context = s.context → s'.secureMode = s.secureMode → s'.files = s.files → s'.db = s.db →
    R s s'
  assoc : ∀ s hash name, R s
    { s with db := Function.update s.db ("/platform/username-map/" ++ hash) (some name) }
  script : ∀ s c, R s { s with
    log := s.log ++ [.script c (H.script s.ran s.files c).1],
    files := (H.script s.ran s.files c).2 }
  remove : ∀ s {path}, may (.remove path) →
    R s { s with files := Function.update s.files path none }
  write : ∀ s {path} content, may (.write path) →
    R s { s with files := Function.update s.files path (some content) }
  letIn : ∀ s {username ctxFlags} uname flags, may (.letIn username ctxFlags) →
    wlp (Secure.letIn uname username ctxFlags flags) (fun _ => R s) s
  unlock : ∀ s flags, may .unlock → wlp (authStatus authOk flags) (fun _ => R s) s

theorem autoStarted_set (flag : UInt32) :
    (authFlagAutoStarted ||| flag) &&& authFlagAutoStarted ≠ 0 := by
  have habsorbs : (authFlagAutoStarted ||| flag) &&& authFlagAutoStarted = authFlagAutoStarted := by
    apply UInt32.toBitVec_inj.mp
    ext i
    simp
    grind
  rw [habsorbs]
  decide

theorem remoteReport_shown {status : Int}
    (h : remoteReport status = some (.report reported flag)) : reported.ends = false := by
  unfold remoteReport at h
  split at h <;> cases h <;> rfl

/-- From every state, `m` goes along `R`. -/
abbrev Goes (R : State → State → Prop) (m : AuthM α) : Prop :=
  ∀ s, Moves (fun _ => True) R m s

section
variable {H : Helpers} {R : State → State → Prop} {may : Act → Prop}

theorem goes_modify {f : State → State} (h : ∀ s, R s (f s)) : Goes R (modify f) :=
  fun s => moves_modify fun _ => ⟨trivial, h s⟩

theorem goes_throw (e : Fault) : Goes R (throw e : AuthM α) :=
  fun _ => yields_throw e

theorem goes_get {k : State → AuthM β} (h : ∀ s, Goes R (k s)) : Goes R (get >>= k) :=
  fun s => yields_get fun _ => h s s

theorem goes_ite {p : Prop} [Decidable p] {m m' : AuthM α} (ht : p → Goes R m)
    (hf : ¬p → Goes R m') : Goes R (if p then m else m') :=
  fun s => yields_ite (fun hp => ht hp s) (fun hp => hf hp s)

theorem goes_set {f : State → State} (h : ∀ s, R s (f s)) {g : State → α} :
    Goes R (do
      let s ← get
      set (f s)
      pure (g s)) := by
  intro s _
  rw [wlp_bind, wlp_get, wlp_bind, wlp_set, wlp_pure]
  exact ⟨trivial, h s, trivial⟩

section
variable (hR : Permits H R may)
include hR

theorem emit_goes {g : AuthEvent} (h : g.isOk = false) : Goes R (emit g) := by
  apply goes_modify
  intro s
  have hquiet : [g].any AuthEvent.isOk = false := by rw [List.any_cons, h, List.any_nil]; rfl
  exact hR.silent rfl hquiet rfl rfl rfl rfl

theorem runScript_goes (c : Script) : Goes R (runScript H c) :=
  goes_set fun s => hR.script s c

theorem nextWrite_goes : Goes R (nextWrite H) := by
  apply goes_set
  intro s
  exact hR.silent (List.append_nil _).symm rfl rfl rfl rfl rfl

theorem writeFile_goes {path : String} (h : may (.write path)) (content : List UInt8) :
    Goes R (writeFile path content) :=
  goes_modify fun s => hR.write s content h

theorem unlock_goes (h : may .unlock) (flags : UInt32) : Goes R (authStatus authOk flags) := by
  intro s _
  exact wlp_mono (hR.unlock s flags h) fun _ _ hs => ⟨trivial, hs, trivial⟩

theorem remove_goes {path : String} (h : may (.remove path)) : Goes R (remove path) :=
  goes_modify fun s => hR.remove s h

theorem letIn_goes {username : String} {ctxFlags : UInt32} (h : may (.letIn username ctxFlags))
    (uname : String) (flags : UInt32) : Goes R (letIn uname username ctxFlags flags) := by
  intro s _
  exact wlp_mono (hR.letIn s uname flags h) fun _ _ hs => ⟨trivial, hs, trivial⟩

end

variable [IsPreorder State R]

theorem goes_pure (a : α) : Goes R (pure a) :=
  fun _ => moves_pure a

theorem goes_bind {m : AuthM α} {k : α → AuthM β} (hm : Goes R m) (hk : ∀ a, Goes R (k a)) :
    Goes R (m >>= k) :=
  fun s => yields_bind (hm s) fun a s' _ _ => hk a s'

theorem goes_discard {m : AuthM α} (hm : Goes R m) : Goes R (discard m) :=
  fun s => moves_discard (hm s)

theorem goes_onlyIf {p : Prop} [Decidable p] {m : AuthM Unit} (hm : p → Goes R m) :
    Goes R (onlyIf p m) :=
  goes_ite hm fun _ => goes_pure _

variable (hR : Permits H R may)
include hR

theorem authStatus_goes {status : AuthStatus} (h : status.ends = false) (flags : UInt32) :
    Goes R (authStatus status flags) := by
  unfold authStatus
  obtain ⟨hhide, hname⟩ := Bool.or_eq_false_iff.mp h
  apply goes_bind
  · apply goes_onlyIf
    intro hhidden
    rw [hhide] at hhidden
    cases hhidden
  · intro _
    apply goes_bind
    · apply goes_modify
      intro s
      exact hR.silent (List.append_nil _).symm rfl rfl rfl rfl rfl
    · intro _
      exact emit_goes hR hname

theorem secCheckPassAndMount_goes (uname userpass : String) :
    Goes R (secCheckPassAndMount H uname userpass) := by
  apply goes_bind (runScript_goes hR _)
  intro status
  exact goes_ite (fun _ => goes_pure _) fun _ => runScript_goes hR _

theorem userAssoc_goes (hash name : String) : Goes R (userAssoc hash name) :=
  goes_bind (goes_modify fun s => hR.assoc s hash name) fun _ => goes_pure _

theorem userCreate_goes (hash name passwordFile : String) (recoveryFile : Option String) :
    Goes R (userCreate H hash name passwordFile recoveryFile) := by
  apply goes_bind (runScript_goes hR _)
  intro error
  exact goes_ite (fun _ => goes_pure _) fun _ => userAssoc_goes hR _ _

/-- The exit of `local_auth` that lets the user in. -/
theorem letInExit_goes {username : String} {ctxFlags : UInt32}
    (h : may (.letIn username ctxFlags)) (uname : String) (flags : UInt32) (a : α) :
    Goes R (do
      authUpdateCache uname username ctxFlags
      authStatus authOk flags
      pure a) := by
  have hin : Goes R (letIn uname username ctxFlags flags >>= fun _ => pure a) :=
    goes_bind (letIn_goes hR h uname flags) fun _ => goes_pure a
  unfold letIn at hin
  simpa only [bind_assoc] using hin

theorem startRecovery_goes (remoteOk : Bool) (remoteFlags : UInt32) (id username : String)
    (ctxFlags : UInt32) {status : AuthStatus} (h : status.ends = false) (flags : UInt32) :
    Goes R (startRecovery remoteOk remoteFlags id username ctxFlags status flags) := by
  apply goes_ite
  · intro _
    exact goes_bind (emit_goes hR rfl) fun _ => goes_pure _
  · intro _
    exact goes_bind (authStatus_goes hR h _) fun _ => goes_pure _

variable {username : String} {ctxFlags : UInt32}

theorem createUser_goes (h : may (.letIn username ctxFlags)) (remoteOk : Bool)
    (remoteFlags : UInt32) (uname id : String) (recoveryKeyFile : Option String) (got : Bool)
    (userpass : String) :
    Goes R (createUser H remoteOk remoteFlags uname id username recoveryKeyFile got userpass
      ctxFlags) := by
  apply goes_ite
  · intro _
    exact startRecovery_goes hR _ _ _ _ _ rfl _
  · intro _
    apply goes_bind (userCreate_goes hR _ _ _ _)
    intro status
    apply goes_ite (fun _ => goes_pure _)
    intro _
    apply goes_bind (secCheckPassAndMount_goes hR _ _)
    intro status
    exact goes_ite (fun _ => goes_pure _) fun _ => letInExit_goes hR h _ _ _

theorem changePassword_goes (h : may (.letIn username ctxFlags)) (remoteOk : Bool)
    (remoteFlags : UInt32) (uname id : String) (recoveryKeyFile : Option String) (got : Bool)
    (userpass : String) :
    Goes R (changePassword H remoteOk remoteFlags uname id username recoveryKeyFile got userpass
      ctxFlags) := by
  apply goes_ite
  · intro _
    exact startRecovery_goes hR _ _ _ _ _ rfl _
  · intro _
    apply goes_bind (runScript_goes hR _)
    intro status
    apply goes_ite (fun _ => goes_pure _)
    intro _
    apply goes_ite
    · intro _
      exact goes_bind (authStatus_goes hR rfl _) fun _ => goes_pure _
    · intro _
      apply goes_bind (secCheckPassAndMount_goes hR _ _)
      intro status
      exact goes_ite (fun _ => goes_pure _) fun _ => letInExit_goes hR h _ _ _

theorem checkUser_goes (h : may (.letIn username ctxFlags)) (remoteOk : Bool)
    (remoteFlags : UInt32) (userPrefix id : String) (recoveryKeyFile : Option String) (got : Bool)
    (userpass : String) :
    Goes R (checkUser H remoteOk remoteFlags userPrefix id username recoveryKeyFile got userpass
      ctxFlags) := by
  apply goes_bind (runScript_goes hR _)
  intro status
  apply goes_ite (fun _ => goes_pure _)
  intro _
  apply goes_ite
  · intro _
    exact createUser_goes hR h _ _ _ _ _ _ _
  · intro _
    apply goes_bind (secCheckPassAndMount_goes hR _ _)
    intro status
    apply goes_ite (fun _ => goes_pure _)
    intro _
    apply goes_ite
    · intro _
      exact changePassword_goes hR h _ _ _ _ _ _ _
    · intro _
      exact letInExit_goes hR h _ _ _

theorem leave_goes {remoteFlags : UInt32} {recoveryKeyFile : Option String} {userpass : String}
    (huserpass : remoteFlags &&& authFlagAutoStarted = 0 → may (.remove userpass))
    (hkey : got = true → may (.remove (recoveryKeyFile.getD ""))) (label : Label) :
    Goes R (leave label remoteFlags recoveryKeyFile got userpass) := by
  apply goes_bind
  · apply goes_onlyIf
    intro _
    exact authStatus_goes hR rfl _
  · intro _
    apply goes_bind
    · apply goes_onlyIf
      intro h
      exact remove_goes hR (huserpass h.2)
    · intro _
      apply goes_bind
      · apply goes_onlyIf
        intro h
        exact remove_goes hR (hkey h.1)
      · intro _
        exact goes_pure _

theorem leaveEarly_goes {remoteFlags : UInt32} {userpass : String}
    (huserpass : remoteFlags &&& authFlagAutoStarted = 0 → may (.remove userpass)) (label : Label)
    (recoveryKeyFile : Option String) :
    Goes R (leave label remoteFlags recoveryKeyFile false userpass) := by
  apply leave_goes hR huserpass
  intro hgot
  cases hgot

theorem localAuth_goes (h : may (.letIn username ctxFlags)) {remoteFlags : UInt32}
    {recoveryKeyFile : Option String} {userpass : String}
    (huserpass : remoteFlags &&& authFlagAutoStarted = 0 → may (.remove userpass))
    (hkey : nonEmpty recoveryKeyFile = true → may (.remove (recoveryKeyFile.getD "")))
    (remoteOk : Bool) (userPrefix : String) (id : Option String) :
    Goes R (localAuth H remoteOk remoteFlags userPrefix id username recoveryKeyFile userpass
      ctxFlags) := by
  apply goes_bind (authStatus_goes hR rfl _)
  intro _
  apply goes_get
  intro s
  apply goes_ite
  · intro _
    exact goes_bind (authStatus_goes hR rfl _) fun _ => leaveEarly_goes hR huserpass _ _
  · intro _
    apply goes_ite
    · intro _
      apply goes_bind
      · apply authStatus_goes hR
        cases remoteOk <;> rfl
      · intro _
        exact leaveEarly_goes hR huserpass _ _
    · intro _
      exact goes_bind (checkUser_goes hR h _ _ _ _ _ _ _) fun _ => leave_goes hR huserpass hkey _

theorem reportRemote_goes (h : may (.letIn username ctxFlags)) {autoStarted : Bool}
    {recoveryKeyFile : Option String} {fname : String}
    (hfname : autoStarted = false → may (.remove fname))
    (hkey : nonEmpty recoveryKeyFile = true → may (.remove (recoveryKeyFile.getD "")))
    (status : Int) (id : Option String) :
    Goes R (reportRemote H (remoteReport status)
      (if autoStarted then authFlagAutoStarted else authFlagNone) id username recoveryKeyFile fname
      ctxFlags) := by
  unfold reportRemote
  cases hr : remoteReport status with
  | none => exact goes_pure _
  | some report =>
    cases report with
    | localAuth remoteOk flag =>
      apply localAuth_goes hR h _ hkey
      intro hflags
      apply hfname
      cases autoStarted with
      | false => rfl
      | true => exact absurd hflags (autoStarted_set flag)
    | report reported flag =>
      exact goes_bind (authStatus_goes hR (remoteReport_shown hr) _) fun _ => goes_pure _

/-- An attempt that was not started automatically may remove all its files. -/
theorem authRemoteStatus_goes (h : may (.letIn username ctxFlags)) {autoStarted : Bool}
    {recoveryKeyFile : Option String}
    (hremote : autoStarted = false → may (.remove (remoteHashFile H username)))
    (hlocal : autoStarted = false → may (.remove (localHashFile H username)))
    (hkey : nonEmpty recoveryKeyFile = true → may (.remove (recoveryKeyFile.getD "")))
    (status : Int) (id : Option String) :
    Goes R (authRemoteStatus H autoStarted status id username recoveryKeyFile ctxFlags) := by
  apply goes_bind
  · apply goes_onlyIf
    intro hauto
    exact remove_goes hR (hremote (by simpa using hauto))
  · intro _
    apply goes_bind (reportRemote_goes hR h hlocal hkey status id)
    intro started
    apply goes_bind
    · apply goes_onlyIf
      intro hclean
      exact remove_goes hR (hlocal (by simpa using hclean.2))
    · intro _
      apply goes_onlyIf
      intro hclean
      exact remove_goes hR (hkey hclean.1)

/-- Files may be written and removed at this path. -/
def Overwrites (may : Act → Prop) (path : String) : Prop :=
  may (.write path) ∧ may (.remove path)

theorem writeHash_goes (w : FileWrite) {fname : String} (h : Overwrites may fname)
    (hash : List UInt8) : Goes R (writeHash w fname hash) := by
  apply goes_ite (fun _ => goes_pure _)
  intro _
  apply goes_bind (writeFile_goes hR h.1 _)
  intro _
  apply goes_ite
  · intro _
    exact goes_bind (remove_goes hR h.2) fun _ => goes_pure _
  · intro _
    exact goes_pure _

omit hR in
theorem nonNull_goes (string : Option String) : Goes R (nonNull string) := by
  cases string with
  | none => exact goes_throw _
  | some string => exact goes_pure _

theorem authWriteLocalHash_goes {fname : String} (h : Overwrites may fname)
    (password : Option String) : Goes R (authWriteLocalHash H fname password) := by
  apply goes_bind (nonNull_goes _)
  intro password
  exact goes_bind (nextWrite_goes hR) fun w => writeHash_goes hR w h _

theorem authWriteRemoteHash_goes {fname : String} (h : Overwrites may fname)
    (password : Option String) : Goes R (authWriteRemoteHash H fname password) := by
  apply goes_bind (nonNull_goes _)
  intro password
  apply goes_bind (nextWrite_goes hR)
  intro w
  exact goes_ite (fun _ => goes_pure _) fun _ => writeHash_goes hR w h _

theorem createLocalUser_goes (user uname passwordFname : String) :
    Goes R (createLocalUser H user uname passwordFname) :=
  goes_bind (userCreate_goes hR _ _ _ _) fun _ => goes_pure _

theorem replacePassword_goes (uname passwordFname oldpasswordFname : String) :
    Goes R (replacePassword H uname passwordFname oldpasswordFname) := by
  apply goes_bind (runScript_goes hR _)
  intro status
  apply goes_ite (fun _ => goes_pure _)
  intro _
  apply goes_ite (fun _ => goes_pure _)
  intro _
  exact goes_bind (runScript_goes hR _) fun _ => goes_pure _

theorem changeOrCreate_goes (user uname passwordFname oldpasswordFname : String) :
    Goes R (changeOrCreate H user uname passwordFname oldpasswordFname) := by
  apply goes_bind (runScript_goes hR _)
  intro status
  apply goes_ite (fun _ => goes_pure _)
  intro _
  apply goes_bind
  · apply goes_ite
    · intro _
      exact createLocalUser_goes hR _ _ _
    · intro _
      exact replacePassword_goes hR _ _ _
  · intro failed
    apply goes_ite (fun _ => goes_pure _)
    intro _
    exact goes_bind (secCheckPassAndMount_goes hR _ _) fun _ => goes_pure _

theorem changeOrCreateLocalPassword_goes {user : String} (h : may (.letIn user 0))
    (hnew : Overwrites may (localHashFile H user))
    (hold : Overwrites may (localHashFile H user ++ "-old")) (hnone : Overwrites may "")
    (passwordNew passwordOld : Option String) :
    Goes R (changeOrCreateLocalPassword H user passwordNew passwordOld) := by
  have holdName (p : Prop) [Decidable p] :
      Overwrites may (if p then localHashFile H user ++ "-old" else "") := by
    split
    · exact hold
    · exact hnone
  apply goes_bind (authStatus_goes hR rfl _)
  intro _
  apply goes_bind (authWriteLocalHash_goes hR hnew _)
  intro written
  apply goes_bind
  · apply goes_ite
    · intro _
      exact authWriteLocalHash_goes hR (holdName _) _
    · intro _
      exact goes_pure _
  · intro written s
    -- The statuses that it fails with leave the context as it is.
    apply yields_bind_of (P := fun failed _ => ∀ status, failed = some status → status.Refuses)
    · apply yields_ite
      · intro _
        exact yields_pure _ fun _ => by
          rintro _ ⟨rfl⟩
          decide
      · intro _
        apply Yields.of_moves (changeOrCreate_goes hR _ _ _ _ s)
        refine wlp_mono (changeOrCreate_logs H _ _ _ _ s) ?_
        rintro failed _ ⟨new, _, hready⟩
        exact hready.refuses
    · intro failed s' _ _ hrefuses
      have hreport : Goes R (reportChange (nameHash H localUserPrefix user) user failed) := by
        cases failed with
        | some status => exact authStatus_goes hR (hrefuses status rfl).not_ends _
        | none => exact letIn_goes hR h _ _
      apply yields_bind (hreport s')
      intro _ s'' _ _
      apply yields_bind (remove_goes hR hnew.2 s'')
      intro _ s'' _ _
      apply yields_bind (goes_onlyIf (fun _ => remove_goes hR (holdName _).2) s'')
      intro _ s'' _ _
      exact moves_pure _

theorem stringMaybeToFile_goes {path : String} (h : Overwrites may path)
    (string : Option String) : Goes R (stringMaybeToFile H path string) := by
  cases string with
  | none => exact goes_pure _
  | some string =>
    apply goes_bind (nextWrite_goes hR)
    intro w
    apply goes_ite (fun _ => goes_pure _)
    intro _
    exact goes_bind (writeFile_goes hR h.1 _) fun _ => goes_pure _

omit hR in
theorem haveRootPassword_goes : Goes R (haveRootPassword H) := by
  apply goes_get
  intro s
  cases H.rootPasswd s.ran with
  | none => exact goes_pure _
  | some passwd => exact goes_pure _

theorem changeRoot_goes (hnew : Overwrites may passNew) (hold : Overwrites may passOld)
    (passwd : String) (oldPasswd : Option String) : Goes R (changeRoot H passwd oldPasswd) := by
  apply goes_bind
  · exact goes_ite (fun _ => goes_pure _) fun _ => haveRootPassword_goes
  · intro found
    apply goes_ite (fun _ => goes_pure _)
    intro _
    apply goes_bind (stringMaybeToFile_goes hR hnew _)
    intro written
    apply goes_ite (fun _ => goes_pure _)
    intro _
    apply goes_bind (stringMaybeToFile_goes hR hold _)
    intro written
    apply goes_ite (fun _ => goes_pure _)
    intro _
    exact goes_bind (runScript_goes hR _) fun _ => goes_pure _

theorem changeRootPassword_goes (hnew : Overwrites may passNew) (hold : Overwrites may passOld)
    (passwd : String) (oldPasswd : Option String) :
    Goes R (changeRootPassword H passwd oldPasswd) := by
  apply goes_bind (authStatus_goes hR rfl _)
  intro _
  apply goes_bind (changeRoot_goes hR hnew hold _ _)
  intro changed
  apply goes_bind (remove_goes hR hnew.2)
  intro _
  apply goes_bind (remove_goes hR hold.2)
  intro _
  exact goes_bind (goes_onlyIf fun _ => emit_goes hR rfl) fun _ => goes_pure _

theorem authEndRoot_goes (h : may .unlock) (hnew : Overwrites may passNew)
    (hold : Overwrites may passOld) (password : Option String) :
    Goes R (authEndRoot H password) := by
  apply goes_ite (fun _ => authStatus_goes hR rfl _)
  intro _
  apply goes_bind (changeRootPassword_goes hR hnew hold _ _)
  intro changed
  exact goes_ite (fun _ => unlock_goes hR h _) fun _ => authStatus_goes hR rfl _

theorem startRemoteLogin_goes {user : String} (h : Overwrites may (remoteHashFile H user))
    (password : Option String) (ctxFlags : UInt32) :
    Goes R (startRemoteLogin H user password ctxFlags) := by
  apply goes_bind (authWriteRemoteHash_goes hR h _)
  intro written
  apply goes_ite (fun _ => authStatus_goes hR rfl _)
  intro _
  exact goes_bind (authStatus_goes hR rfl _) fun _ => emit_goes hR rfl

/-- A user is let in with no flags where a password is set, else with those of the context. -/
theorem authEndUser_goes {ctx : AuthContext} {user : String}
    (hlocal : ctx.flags &&& authFlagSetLocalPw ≠ 0 ∨ ctx.flags &&& authFlagChangeLocalPw ≠ 0 →
      may (.letIn user 0))
    (hlogin : ¬(ctx.flags &&& authFlagSetLocalPw ≠ 0 ∨ ctx.flags &&& authFlagChangeLocalPw ≠ 0) →
      ctx.flags &&& authFlagRemoteUser = 0 → may (.letIn user ctx.flags))
    (hfiles : ∀ path, Overwrites may path) (password passwordOld : Option String) :
    Goes R (authEndUser H ctx user password passwordOld) := by
  apply goes_ite
  · intro hset
    exact goes_discard (changeOrCreateLocalPassword_goes hR (hlocal hset) (hfiles _) (hfiles _)
      (hfiles _) _ _)
  · intro hset
    apply goes_bind (authWriteLocalHash_goes hR (hfiles _) _)
    intro written
    apply goes_ite (fun _ => authStatus_goes hR rfl _)
    intro _
    apply goes_ite
    · intro huser
      apply goes_discard
      apply localAuth_goes hR (hlogin hset huser)
      · intro _
        exact (hfiles _).2
      · intro hkey
        cases hkey
    · intro _
      exact startRemoteLogin_goes hR (hfiles _) _ _

omit hR in
theorem authWindowShown_goes : Goes R authWindowShown := by
  apply goes_get
  intro s
  cases s.uivm with
  | none => exact goes_throw _
  | some domid =>
    dsimp only
    cases s.xenstore (stateNode domid) with
    | none => exact goes_pure _
    | some v => exact goes_pure _

omit hR in
theorem mismatch_goes (password passwordConfirm : Option String) :
    Goes R (mismatch password passwordConfirm) := by
  cases passwordConfirm with
  | none => exact goes_pure _
  | some confirm => exact goes_bind (nonNull_goes _) fun _ => goes_pure _

theorem authRemoteLogin_goes (hfiles : ∀ path, Overwrites may path) (user : String)
    (password : Option String) : Goes R (authRemoteLogin H user password) := by
  apply goes_get
  intro s
  cases s.context with
  | none => exact authStatus_goes hR rfl _
  | some ctx =>
    apply goes_ite (fun _ => authStatus_goes hR rfl _)
    intro _
    apply goes_bind (authWriteLocalHash_goes hR (hfiles _) _)
    intro written
    apply goes_ite (fun _ => authStatus_goes hR rfl _)
    intro _
    exact startRemoteLogin_goes hR (hfiles _) _ _

/-- Who `auth_end` lets in, and with which flags, follows from the context. -/
theorem authEnd_moves {user : Option String}
    (hroot : ∀ ctx, s.context = some ctx → ctx.flags &&& authFlagSetRootPw ≠ 0 → may .unlock)
    (hlocal : ∀ ctx, s.context = some ctx → nonEmpty user = true →
      ctx.flags &&& authFlagSetLocalPw ≠ 0 ∨ ctx.flags &&& authFlagChangeLocalPw ≠ 0 →
      may (.letIn (user.getD "") 0))
    (hlogin : ∀ ctx, s.context = some ctx → nonEmpty user = true →
      ¬ctx.flags &&& authFlagSetRootPw ≠ 0 →
      ¬(ctx.flags &&& authFlagSetLocalPw ≠ 0 ∨ ctx.flags &&& authFlagChangeLocalPw ≠ 0) →
      ctx.flags &&& authFlagRemoteUser = 0 → may (.letIn (user.getD "") ctx.flags))
    (hfiles : ∀ path, Overwrites may path)
    (password passwordConfirm passwordOld : Option String) :
    Moves (fun _ => True) R (authEnd H user password passwordConfirm passwordOld) s := by
  unfold authEnd
  apply yields_get
  intro _
  apply yields_bind (authWindowShown_goes s)
  intro shown s' _ _
  apply yields_ite (fun _ => authStatus_goes hR rfl _ s')
  intro _
  cases hctx : s.context with
  | none => exact authStatus_goes hR rfl _ s'
  | some ctx =>
    apply yields_bind
    · exact goes_ite (fun _ => goes_pure _) (fun _ => mismatch_goes _ _) s'
    intro mismatched s' _ _
    apply yields_ite (fun _ => authStatus_goes hR rfl _ s')
    intro _
    apply yields_ite (fun h => authEndRoot_goes hR (hroot ctx hctx h) (hfiles _) (hfiles _) _ s')
    intro hnoroot
    apply yields_ite (fun _ => authStatus_goes hR rfl _ s')
    intro huser
    have huser : nonEmpty user = true := by simpa using huser
    exact authEndUser_goes hR (hlocal ctx hctx huser) (hlogin ctx hctx huser hnoroot) hfiles _ _ s'

end

end InputServer.Secure
