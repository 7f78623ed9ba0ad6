import InputServer.Secure

namespace InputServer.Secure
open Program
set_option autoImplicit true

/-- A UIVM is running; nothing in the authentication code looks for another. -/
def State.hasUivm (s : State) : Prop :=
  s.uivm ≠ none

/-- With a UIVM, `m` returns. -/
abbrev Returns (m : AuthM α) : Prop :=
  Total State.hasUivm m

theorem modify_returns {f : State → State} (hf : ∀ s, (f s).uivm = s.uivm) :
    Returns (modify f) := by
  apply total_modify
  intro s h
  rw [State.hasUivm, hf]
  exact h

theorem emit_returns (g : AuthEvent) : Returns (emit g) :=
  modify_returns fun _ => rfl

theorem remove_returns (path : String) : Returns (remove path) :=
  modify_returns fun _ => rfl

theorem dbWrite_returns (path value : String) : Returns (dbWrite path value) :=
  modify_returns fun _ => rfl

theorem xenstoreWrite_returns (value path : String) : Returns (xenstoreWrite value path) :=
  modify_returns fun _ => rfl

theorem writeFile_returns (path : String) (content : List UInt8) :
    Returns (writeFile path content) :=
  modify_returns fun _ => rfl

theorem onlyIf_returns {p : Prop} [Decidable p] {m : AuthM Unit} (hm : Returns m) :
    Returns (onlyIf p m) :=
  total_ite hm (total_pure _)

theorem nonNull_returns {string : Option String} (h : string ≠ none) : Returns (nonNull string) := by
  cases string with
  | none => exact absurd rfl h
  | some string => exact total_pure _

theorem authWindow_returns (shown : Bool) : Returns (authWindow shown) := by
  unfold authWindow
  apply total_get
  intro s h
  cases huivm : s.uivm with
  | none => exact absurd huivm h
  | some domid =>
    apply total_ite _ _ s h
    · exact total_bind (xenstoreWrite_returns _ _) fun _ => xenstoreWrite_returns _ _
    · exact xenstoreWrite_returns _ _

theorem inputSecure_off_returns : Returns (inputSecure false) := by
  unfold inputSecure
  apply total_get
  intro s h
  apply total_ite _ _ s h
  · exact total_pure _
  · apply total_bind
    · apply modify_returns
      intro s
      rfl
    · intro _
      exact total_bind (emit_returns _) fun _ => total_pure _

theorem authStatus_returns (status : AuthStatus) (flags : UInt32) :
    Returns (authStatus status flags) := by
  unfold authStatus
  apply total_bind
  · apply onlyIf_returns
    apply total_bind
    · apply modify_returns
      intro s
      rfl
    · intro _
      apply total_bind (authWindow_returns _)
      intro _
      exact total_discard inputSecure_off_returns
  · intro _
    apply total_bind
    · apply modify_returns
      intro s
      rfl
    · intro _
      exact emit_returns _

section
variable (H : Helpers)

theorem runScript_returns (c : Script) : Returns (runScript H c) := by
  unfold runScript
  apply total_get
  intro s h
  rw [wp_bind, wp_set, wp_pure]
  exact h

theorem secCheckPassAndMount_returns (uname userpass : String) :
    Returns (secCheckPassAndMount H uname userpass) := by
  apply total_bind (runScript_returns H _)
  intro status
  exact total_ite (total_pure _) (runScript_returns H _)

theorem userAssoc_returns (hash name : String) : Returns (userAssoc hash name) :=
  total_bind (dbWrite_returns _ _) fun _ => total_pure _

theorem userCreate_returns (hash name passwordFile : String) (recoveryFile : Option String) :
    Returns (userCreate H hash name passwordFile recoveryFile) := by
  apply total_bind (runScript_returns H _)
  intro error
  exact total_ite (total_pure _) (userAssoc_returns _ _)

theorem nextWrite_returns : Returns (nextWrite H) := by
  unfold nextWrite
  apply total_get
  intro s h
  rw [wp_bind, wp_set, wp_pure]
  exact h

theorem writeHash_returns (w : FileWrite) (fname : String) (hash : List UInt8) :
    Returns (writeHash w fname hash) := by
  apply total_ite (total_pure _)
  apply total_bind (writeFile_returns _ _)
  intro _
  exact total_ite (total_bind (remove_returns _) fun _ => total_pure _) (total_pure _)

theorem authWriteLocalHash_returns (fname : String) {password : Option String}
    (h : password ≠ none) : Returns (authWriteLocalHash H fname password) := by
  apply total_bind (nonNull_returns h)
  intro password
  exact total_bind (nextWrite_returns H) fun w => writeHash_returns _ _ _

theorem authWriteRemoteHash_returns (fname : String) {password : Option String}
    (h : password ≠ none) : Returns (authWriteRemoteHash H fname password) := by
  apply total_bind (nonNull_returns h)
  intro password
  apply total_bind (nextWrite_returns H)
  intro w
  exact total_ite (total_pure _) (writeHash_returns _ _ _)

theorem authUpdateCache_returns (uidHash username : String) (flags : UInt32) :
    Returns (authUpdateCache uidHash username flags) := by
  apply total_bind (dbWrite_returns _ _)
  intro _
  exact total_bind (dbWrite_returns _ _) fun _ => total_discard (userAssoc_returns _ _)

theorem reported_returns (status : AuthStatus) (flags : UInt32) (a : α) :
    Returns (do
      authStatus status flags
      pure a) :=
  total_bind (authStatus_returns _ _) fun _ => total_pure _

theorem letIn_returns (uname username : String) (ctxFlags flags : UInt32) :
    Returns (do
      authUpdateCache uname username ctxFlags
      authStatus authOk flags
      pure Label.cleanupUserpass) :=
  total_bind (authUpdateCache_returns _ _ _) fun _ => reported_returns _ _ _

theorem startRecovery_returns (remoteOk : Bool) (remoteFlags : UInt32) (id username : String)
    (ctxFlags : UInt32) (status : AuthStatus) (flags : UInt32) :
    Returns (startRecovery remoteOk remoteFlags id username ctxFlags status flags) :=
  total_ite (total_bind (emit_returns _) fun _ => total_pure _) (reported_returns _ _ _)

theorem createUser_returns (remoteOk : Bool) (remoteFlags : UInt32) (uname id username : String)
    (recoveryKeyFile : Option String) (got : Bool) (userpass : String) (ctxFlags : UInt32) :
    Returns (createUser H remoteOk remoteFlags uname id username recoveryKeyFile got userpass
      ctxFlags) := by
  apply total_ite (startRecovery_returns _ _ _ _ _ _ _)
  apply total_bind (userCreate_returns H _ _ _ _)
  intro status
  apply total_ite (total_pure _)
  apply total_bind (secCheckPassAndMount_returns H _ _)
  intro status
  exact total_ite (total_pure _) (letIn_returns _ _ _ _)

theorem changePassword_returns (remoteOk : Bool) (remoteFlags : UInt32)
    (uname id username : String) (recoveryKeyFile : Option String) (got : Bool) (userpass : String)
    (ctxFlags : UInt32) :
    Returns (changePassword H remoteOk remoteFlags uname id username recoveryKeyFile got userpass
      ctxFlags) := by
  apply total_ite (startRecovery_returns _ _ _ _ _ _ _)
  apply total_bind (runScript_returns H _)
  intro status
  apply total_ite (total_pure _)
  apply total_ite (reported_returns _ _ _)
  apply total_bind (secCheckPassAndMount_returns H _ _)
  intro status
  exact total_ite (total_pure _) (letIn_returns _ _ _ _)

theorem checkUser_returns (remoteOk : Bool) (remoteFlags : UInt32)
    (userPrefix id username : String) (recoveryKeyFile : Option String) (got : Bool)
    (userpass : String) (ctxFlags : UInt32) :
    Returns (checkUser H remoteOk remoteFlags userPrefix id username recoveryKeyFile got userpass
      ctxFlags) := by
  apply total_bind (runScript_returns H _)
  intro status
  apply total_ite (total_pure _)
  apply total_ite (createUser_returns H _ _ _ _ _ _ _ _ _)
  apply total_bind (secCheckPassAndMount_returns H _ _)
  intro status
  apply total_ite (total_pure _)
  exact total_ite (changePassword_returns H _ _ _ _ _ _ _ _ _) (letIn_returns _ _ _ _)

theorem leave_returns (label : Label) (remoteFlags : UInt32) (recoveryKeyFile : Option String)
    (got : Bool) (userpass : String) :
    Returns (leave label remoteFlags recoveryKeyFile got userpass) := by
  apply total_bind (onlyIf_returns (authStatus_returns _ _))
  intro _
  apply total_bind (onlyIf_returns (remove_returns _))
  intro _
  exact total_bind (onlyIf_returns (remove_returns _)) fun _ => total_pure _

theorem localAuth_returns (remoteOk : Bool) (remoteFlags : UInt32) (userPrefix : String)
    (id : Option String) (username : String) (recoveryKeyFile : Option String) (userpass : String)
    (ctxFlags : UInt32) :
    Returns (localAuth H remoteOk remoteFlags userPrefix id username recoveryKeyFile userpass
      ctxFlags) := by
  apply total_bind (authStatus_returns _ _)
  intro _
  apply total_get
  intro s h
  apply total_ite _ _ s h
  · exact total_bind (authStatus_returns _ _) fun _ => leave_returns _ _ _ _ _
  · apply total_ite
    · exact total_bind (authStatus_returns _ _) fun _ => leave_returns _ _ _ _ _
    · exact total_bind (checkUser_returns H _ _ _ _ _ _ _ _ _) fun _ => leave_returns _ _ _ _ _

theorem createLocalUser_returns (user uname passwordFname : String) :
    Returns (createLocalUser H user uname passwordFname) :=
  total_bind (userCreate_returns H _ _ _ _) fun _ => total_pure _

theorem replacePassword_returns (uname passwordFname oldpasswordFname : String) :
    Returns (replacePassword H uname passwordFname oldpasswordFname) := by
  apply total_bind (runScript_returns H _)
  intro status
  apply total_ite (total_pure _)
  apply total_ite (total_pure _)
  exact total_bind (runScript_returns H _) fun _ => total_pure _

theorem changeOrCreate_returns (user uname passwordFname oldpasswordFname : String) :
    Returns (changeOrCreate H user uname passwordFname oldpasswordFname) := by
  apply total_bind (runScript_returns H _)
  intro status
  apply total_ite (total_pure _)
  apply total_bind
  · exact total_ite (createLocalUser_returns H _ _ _) (replacePassword_returns H _ _ _)
  · intro failed
    apply total_ite (total_pure _)
    exact total_bind (secCheckPassAndMount_returns H _ _) fun _ => total_pure _

theorem reportChange_returns (uname user : String) (failed : Option AuthStatus) :
    Returns (reportChange uname user failed) := by
  cases failed with
  | some status => exact authStatus_returns _ _
  | none => exact total_bind (authUpdateCache_returns _ _ _) fun _ => authStatus_returns _ _

theorem changeOrCreateLocalPassword_returns (user : String) {passwordNew : Option String}
    (h : passwordNew ≠ none) (passwordOld : Option String) :
    Returns (changeOrCreateLocalPassword H user passwordNew passwordOld) := by
  apply total_bind (authStatus_returns _ _)
  intro _
  apply total_bind (authWriteLocalHash_returns H _ h)
  intro written
  apply total_bind
  · -- The old password is hashed only when there is one.
    intro s hs
    apply wp_ite
    · intro hold
      apply authWriteLocalHash_returns H _ _ s hs
      rw [← Option.isSome_iff_ne_none]
      exact hold.2
    · intro _
      exact total_pure _ s hs
  · intro written
    apply total_bind (total_ite (total_pure _) (changeOrCreate_returns H _ _ _ _))
    intro failed
    apply total_bind (reportChange_returns _ _ _)
    intro _
    apply total_bind (remove_returns _)
    intro _
    exact total_bind (onlyIf_returns (remove_returns _)) fun _ => total_pure _

theorem haveRootPassword_returns : Returns (haveRootPassword H) := by
  unfold haveRootPassword
  apply total_get
  intro s h
  cases H.rootPasswd s.ran with
  | none => exact total_pure _ s h
  | some passwd => exact total_pure _ s h

theorem stringMaybeToFile_returns (path : String) (string : Option String) :
    Returns (stringMaybeToFile H path string) := by
  cases string with
  | none => exact total_pure _
  | some string =>
    apply total_bind (nextWrite_returns H)
    intro w
    apply total_ite (total_pure _)
    exact total_bind (writeFile_returns _ _) fun _ => total_pure _

theorem changeRoot_returns (passwd : String) (oldPasswd : Option String) :
    Returns (changeRoot H passwd oldPasswd) := by
  apply total_bind (total_ite (total_pure _) (haveRootPassword_returns H))
  intro asked
  apply total_ite (total_pure _)
  apply total_bind (stringMaybeToFile_returns H _ _)
  intro written
  apply total_ite (total_pure _)
  apply total_bind (stringMaybeToFile_returns H _ _)
  intro written
  apply total_ite (total_pure _)
  exact total_bind (runScript_returns H _) fun _ => total_pure _

theorem changeRootPassword_returns (passwd : String) (oldPasswd : Option String) :
    Returns (changeRootPassword H passwd oldPasswd) := by
  apply total_bind (authStatus_returns _ _)
  intro _
  apply total_bind (changeRoot_returns H _ _)
  intro changed
  apply total_bind (remove_returns _)
  intro _
  apply total_bind (remove_returns _)
  intro _
  exact total_bind (onlyIf_returns (emit_returns _)) fun _ => total_pure _

theorem mismatch_returns {password : Option String} (h : password ≠ none)
    (passwordConfirm : Option String) : Returns (mismatch password passwordConfirm) := by
  cases passwordConfirm with
  | none => exact total_pure _
  | some confirm => exact total_bind (nonNull_returns h) fun _ => total_pure _

theorem startRemoteLogin_returns (user : String) {password : Option String} (h : password ≠ none)
    (ctxFlags : UInt32) : Returns (startRemoteLogin H user password ctxFlags) := by
  apply total_bind (authWriteRemoteHash_returns H _ h)
  intro written
  apply total_ite (authStatus_returns _ _)
  exact total_bind (authStatus_returns _ _) fun _ => emit_returns _

theorem authEndUser_returns (ctx : AuthContext) (user : String) {password : Option String}
    (h : password ≠ none) (passwordOld : Option String) :
    Returns (authEndUser H ctx user password passwordOld) := by
  apply total_ite (total_discard (changeOrCreateLocalPassword_returns H _ h _))
  apply total_bind (authWriteLocalHash_returns H _ h)
  intro written
  apply total_ite (authStatus_returns _ _)
  apply total_ite (total_discard (localAuth_returns H _ _ _ _ _ _ _ _))
  exact startRemoteLogin_returns H _ h _

theorem authEndRoot_returns (password : Option String) : Returns (authEndRoot H password) := by
  apply total_ite (authStatus_returns _ _)
  apply total_bind (changeRootPassword_returns H _ _)
  intro changed
  exact total_ite (authStatus_returns _ _) (authStatus_returns _ _)

theorem authWindowShown_returns : Returns authWindowShown := by
  unfold authWindowShown
  apply total_get
  intro s h
  cases huivm : s.uivm with
  | none => exact absurd huivm h
  | some domid =>
    dsimp only
    cases s.xenstore (stateNode domid) with
    | none => exact total_pure _ s h
    | some v => exact total_pure _ s h

/-- `auth_end` needs no more than a UIVM and a password. -/
theorem authEnd_returns (user : Option String) {password : Option String} (h : password ≠ none)
    (passwordConfirm passwordOld : Option String) :
    Returns (authEnd H user password passwordConfirm passwordOld) := by
  unfold authEnd
  apply total_get
  intro s hs
  apply total_bind authWindowShown_returns _ s hs
  intro shown
  apply total_ite (authStatus_returns _ _)
  cases s.context with
  | none => exact authStatus_returns _ _
  | some ctx =>
    apply total_bind (total_ite (total_pure _) (mismatch_returns h _))
    intro differs
    apply total_ite (authStatus_returns _ _)
    apply total_ite (authEndRoot_returns H _)
    apply total_ite (authStatus_returns _ _)
    exact authEndUser_returns H _ _ h _

end

end InputServer.Secure
