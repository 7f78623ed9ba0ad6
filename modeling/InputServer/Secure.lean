import InputServer.World

namespace InputServer.Secure
open Program
set_option autoImplicit true

/-- `struct auth_context_t`. -/
structure AuthContext where
  user : String
  title : String
  flags : UInt32

def authFlagNone : UInt32 := 0
def authFlagError : UInt32 := 0x1
def authFlagLocalPasswordMismatch : UInt32 := 0x2
def authFlagRemoteUserOrPasswordMismatch : UInt32 := 0x4
def authFlagRecovered : UInt32 := 0x8
def authFlagAutoStarted : UInt32 := 0x10
def authFlagOffline : UInt32 := 0x20
def authFlagHttpError : UInt32 := 0x40
def authFlagNetworkError : UInt32 := 0x80
def authFlagRemoteInternalError : UInt32 := 0x100
def authFlagLocalStarted : UInt32 := 0x200
def authFlagRemoteStarted : UInt32 := 0x400
def authFlagNotRegistered : UInt32 := 0x800
def authFlagLocalCredentialsMissing : UInt32 := 0x1000
def authFlagRemoteCredentialsMissing : UInt32 := 0x2000
def authFlagNotLoggedIn : UInt32 := 0x4000
def authFlagUseridMismatch : UInt32 := 0x8000
def authFlagRemotePasswordExpired : UInt32 := 0x10000
def authFlagRemoteAccountLocked : UInt32 := 0x20000
def authFlagRemoteAccountDisabled : UInt32 := 0x40000

-- The flags of a context count their bits anew.
def authFlagLock : UInt32 := 0x1
def authFlagConfirmPw : UInt32 := 0x2
def authFlagSetLocalPw : UInt32 := 0x4
def authFlagRemoteUser : UInt32 := 0x8
def authFlagCannotCancel : UInt32 := 0x10
def authFlagSetRootPw : UInt32 := 0x20
def authFlagChangeLocalPw : UInt32 := 0x40

/-- A status, whether it is a reportable error, and whether the window is hidden for it. -/
structure AuthStatus where
  name : String
  isError : Bool
  hideWindow : Bool
deriving DecidableEq

def authInternalError : AuthStatus := ⟨"internal_error", true, false⟩
def authNeedPassword : AuthStatus := ⟨"need_password", true, false⟩
def authNotExist : AuthStatus := ⟨"not_exist", true, false⟩
def authRecoveryKeyInvalid : AuthStatus := ⟨"recovery_key_invalid", true, false⟩
def authNoUserid : AuthStatus := ⟨"no_userid", true, false⟩
def authNotDeviceOwner : AuthStatus := ⟨"not_device_owner", true, false⟩
def authOk : AuthStatus := ⟨"ok", false, true⟩
def authUserCancel : AuthStatus := ⟨"user_cancel", false, true⟩
def authUserCancelDontHide : AuthStatus := ⟨"user_cancel", false, false⟩
def authInProgress : AuthStatus := ⟨"in_progress", false, false⟩
def authConfirmFailed : AuthStatus := ⟨"confirm_failed", true, false⟩
def authNeedCredentials : AuthStatus := ⟨"need_credentials", false, false⟩
def authNoRecoveryKey : AuthStatus := ⟨"no_recovery_key", true, false⟩
def authSynchronizerUidMismatch : AuthStatus := ⟨"synchronizer_uid_mismatch", true, false⟩
def authInvalidRegistrationPin : AuthStatus := ⟨"invalid_registration_pin", true, false⟩
def authAlreadyRegistered : AuthStatus := ⟨"already_registered", true, false⟩
def authDeviceCertRenewNoEffect : AuthStatus := ⟨"device_cert_renew_no_effect", true, false⟩
def authSslCacertError : AuthStatus := ⟨"ssl_cacert_error", true, false⟩

/-- A call of one of the `sec-*` helper scripts. -/
inductive Script where
  | checkPass (uname userpass : String)
  | mount (uname userpass : String)
  | newUser (uname userpass : String) (serverpass : Option String)
  | rmUser (uname : String)
  | changePass (uname userpass : String) (serverpass : Option String)
  | changeRecovery (uname userpass serverpass : String)
  | checkUser (uname : String)
  | changeRootCredentials (newpass : String) (oldpass : Option String)
deriving DecidableEq

/-- A script that ran with its exit code, or what was sent on the bus. -/
inductive AuthEvent where
  | script (c : Script) (code : Int)
  | authStatus (status : String) (flags : UInt32)
  | remoteStartLogin (username : String) (ctxFlags : UInt32)
  | remoteStartRecovery (autoStarted : UInt32) (id username : String) (ctxFlags : UInt32)
  | secureMode (onoff : Bool)
  | installState (state : String)
deriving DecidableEq

/-- The files by name. A C string is a `String` with a character for each byte. -/
abbrev Files := String → Option (List UInt8)

/-- How writing a file goes: whether memory for its content and the file itself can be had, and
how many bytes `fwrite` gets out at most. -/
structure FileWrite where
  malloc : Bool
  fopen : Bool
  fwrite : Nat

/-- What the daemon calls in this file and does not contain. A script gives its exit code, or -1
when it does not run or does not exit, and may see and change the files. -/
structure Helpers where
  sha1 : List UInt8 → List UInt8
  sha256 : List UInt8 → List UInt8
  md4 : List UInt8 → List UInt8
  script : List (Script × Int) → Files → Script → Int × Files
  write : Nat → FileWrite
  rootPasswd : List (Script × Int) → Option String

structure State where
  context : Option AuthContext
  status : String
  statusFlags : UInt32
  uivm : Option Int
  xenstore : String → Option String
  secureMode : Bool
  files : Files
  db : String → Option String
  writes : Nat
  log : List AuthEvent

abbrev AuthM := Program Fault State

def AuthEvent.script? : AuthEvent → Option (Script × Int)
  | .script c code => some (c, code)
  | _ => none

def State.ran (s : State) : List (Script × Int) :=
  s.log.filterMap AuthEvent.script?

def emit (g : AuthEvent) : AuthM Unit :=
  modify fun s => { s with log := s.log ++ [g] }

def remove (path : String) : AuthM Unit :=
  modify fun s => { s with files := Function.update s.files path none }

def stat (path : String) : AuthM Bool := do
  pure ((← get).files path).isSome

def dbRead (path : String) : AuthM String := do
  pure (((← get).db path).getD "")

def dbWrite (path value : String) : AuthM Unit :=
  modify fun s => { s with db := Function.update s.db path (some value) }

/-- `db_rm` takes the whole subtree. -/
def dbRm (path : String) : AuthM Unit :=
  modify fun s =>
    { s with db := fun p => if p = path ∨ (path ++ "/").isPrefixOf p then none else s.db p }

def xenstoreWrite (value path : String) : AuthM Unit :=
  modify fun s => { s with xenstore := Function.update s.xenstore path (some value) }

/-- `if (p) m`. -/
def onlyIf (p : Prop) [Decidable p] (m : AuthM Unit) : AuthM Unit :=
  if p then m else pure ()

/-- A string that the C library must not be given as NULL. -/
def nonNull : Option String → AuthM String
  | some s => pure s
  | none => throw .segv

def bytes (s : String) : List UInt8 :=
  s.toList.map fun c => UInt8.ofNat c.toNat

/-- `sprintf(ptr, "%02hhx", c)`. -/
def hexByte (c : UInt8) : String :=
  String.ofList [Nat.digitChar (c.toNat / 16), Nat.digitChar (c.toNat % 16)]

def localUserPrefix : String := "localuser-"
def remoteUserPrefix : String := "remoteuser-"

def authSetContext (user title : String) (flags : UInt32) : AuthM Unit :=
  modify fun s =>
    { s with context := some ⟨user, title, flags⟩, status := "none", statusFlags := 0 }

def urlNode (domid : Int) : String := "/local/domain/" ++ toString domid ++ "/login/url"
def stateNode (domid : Int) : String := "/local/domain/" ++ toString domid ++ "/login/state"

def authWindow (shown : Bool) : AuthM Unit := do
  match (← get).uivm with
  | none => throw .segv
  | some domid =>
    if shown then
      xenstoreWrite "http://1.0.0.0/auth.html" (urlNode domid)
      xenstoreWrite "1" (stateNode domid)
    else xenstoreWrite "0" (stateNode domid)

def authWindowShown : AuthM Bool := do
  let s ← get
  match s.uivm with
  | none => throw .segv
  | some domid =>
    match s.xenstore (stateNode domid) with
    | some v => pure (v ≠ "3")
    | none => pure false

def authBegin : AuthM Bool := do
  let s ← get
  if s.context.isNone ∨ s.uivm.isNone then pure false
  else if ← authWindowShown then pure false
  else
    authWindow true
    pure true

def inputSecure (onoff : Bool) : AuthM Bool := do
  if onoff = (← get).secureMode then pure false
  else
    modify fun s => { s with secureMode := onoff }
    emit (.secureMode onoff)
    if onoff then authBegin else pure true

def authStatus (status : AuthStatus) (flags : UInt32) : AuthM Unit := do
  onlyIf status.hideWindow do
    modify fun s => { s with context := none }
    authWindow false
    discard (inputSecure false)
  let flags := if status.isError then flags ||| authFlagError else flags
  modify fun s => { s with status := status.name, statusFlags := flags }
  emit (.authStatus status.name flags)

section
variable (H : Helpers)

def runScript (c : Script) : AuthM Int := do
  let s ← get
  let (code, files) := H.script s.ran s.files c
  set { s with log := s.log ++ [AuthEvent.script c code], files := files }
  pure code

def secCheckPassAndMount (user userpass : String) : AuthM Int := do
  let status ← runScript H (.checkPass user userpass)
  if status ≠ 0 then pure status
  else runScript H (.mount user userpass)

def userAssoc (hash name : String) : AuthM Int := do
  dbWrite ("/platform/username-map/" ++ hash) name
  pure 0

def userCreate (hash name passwordFile : String) (recoveryFile : Option String) : AuthM Int := do
  let error ← runScript H (.newUser hash passwordFile recoveryFile)
  if error ≠ 0 then pure error
  else userAssoc hash name

def nameHash (start name : String) : String :=
  start ++ String.join ((H.sha1 (bytes name)).map hexByte)

def localHashFile (user : String) : String := nameHash H "/mnt/secure/local-hash-" user
def remoteHashFile (user : String) : String := nameHash H "/mnt/secure/remote-hash-" user
def hashLocalUser (username : String) : String := nameHash H localUserPrefix username
def hashRemoteUser (username : String) : String := nameHash H remoteUserPrefix username

def utf16le (v : UInt16) : List UInt8 :=
  [(v &&& 0xff).toUInt8, (v >>> 8).toUInt8]

/-- The loop of `utf8_to_utf16le` behind `src[read..]`, with what it wrote so far. -/
def utf8ToUtf16leFrom (len : Nat) : List UInt8 → List UInt8 → List UInt8
  | [], dest => dest
  | c :: src, dest =>
    if dest.length < len * 2 - 1 then
      let c16 := c.toUInt16
      let n := c >>> 4
      if n < 8 then utf8ToUtf16leFrom len src (dest ++ utf16le c16)
      else if n = 12 ∨ n = 13 then
        match src with
        | c2 :: src =>
          let v := (c16 &&& 0x1f) <<< 6 ||| (c2.toUInt16 &&& 0x3f)
          utf8ToUtf16leFrom len src (dest ++ utf16le v)
        | [] => dest
      else if n = 14 then
        match src with
        | c2 :: c3 :: src =>
          let v :=
            (c16 &&& 0x0f) <<< 12 ||| (c2.toUInt16 &&& 0x3f) <<< 6 ||| (c3.toUInt16 &&& 0x3f)
          utf8ToUtf16leFrom len src (dest ++ utf16le v)
        | _ => dest
      else dest
    else dest

def utf8ToUtf16le (src : List UInt8) : List UInt8 :=
  utf8ToUtf16leFrom src.length src []

def mkNtHash (password : String) : List UInt8 :=
  H.md4 (utf8ToUtf16le (bytes password)) ++ List.replicate (21 - 16) 0

def mkSha256Hash (password : String) : List UInt8 :=
  H.sha256 (bytes password)

def nextWrite : AuthM FileWrite := do
  let s ← get
  set { s with writes := s.writes + 1 }
  pure (H.write s.writes)

def writeFile (path : String) (content : List UInt8) : AuthM Unit :=
  modify fun s => { s with files := Function.update s.files path (some content) }

/-- What follows the hash in `auth_write_remote_hash` and `auth_write_local_hash`. -/
def writeHash (w : FileWrite) (fname : String) (hash : List UInt8) : AuthM Bool := do
  if !w.fopen then pure false
  else
    writeFile fname (hash.take w.fwrite)
    if w.fwrite < hash.length then
      remove fname
      pure false
    else pure true

def authWriteRemoteHash (fname : String) (password : Option String) : AuthM Bool := do
  let password ← nonNull password
  let w ← nextWrite H
  if !w.malloc then pure false
  else writeHash w fname (mkNtHash H password)

def authWriteLocalHash (fname : String) (password : Option String) : AuthM Bool := do
  let password ← nonNull password
  let w ← nextWrite H
  writeHash w fname (mkSha256Hash H password)

def authUpdateCache (uidHash username : String) (flags : UInt32) : AuthM Unit := do
  dbWrite "/platform/username" username
  let flags := if flags &&& authFlagRemoteUser ≠ 0 then authFlagRemoteUser else flags
  dbWrite "/platform/flags" (toString flags.toInt32.toInt)
  discard (userAssoc uidHash username)

/-- Where a `goto` of `local_auth` leads. -/
inductive Label where
  | error
  | cleanupUserpass
  | skipCleanupUserpass
deriving DecidableEq

/-- `local_auth` where a user may recover the password remotely: `remote_ok` starts that, and
`status` is for when it cannot. -/
def startRecovery (remoteOk : Bool) (remoteFlags : UInt32) (id username : String)
    (ctxFlags : UInt32) (status : AuthStatus) (flags : UInt32) : AuthM Label := do
  if remoteOk then
    emit (.remoteStartRecovery (remoteFlags &&& authFlagAutoStarted) id username ctxFlags)
    pure .skipCleanupUserpass
  else
    authStatus status flags
    pure .cleanupUserpass

/-- `local_auth` where the user does not exist. -/
def createUser (remoteOk : Bool) (remoteFlags : UInt32) (uname id username : String)
    (recoveryKeyFile : Option String) (gotRecoveryKeyFile : Bool) (userpassFname : String)
    (ctxFlags : UInt32) : AuthM Label := do
  if ctxFlags &&& authFlagRemoteUser ≠ 0 ∧ !gotRecoveryKeyFile then
    startRecovery remoteOk remoteFlags id username ctxFlags authNotExist remoteFlags
  else
    let status ← userCreate H uname username userpassFname recoveryKeyFile
    if status ≠ 0 then pure .error
    else
      let status ← secCheckPassAndMount H uname userpassFname
      if status ≠ 0 then pure .error
      else
        authUpdateCache uname username ctxFlags
        authStatus authOk remoteFlags
        pure .cleanupUserpass

/-- `local_auth` where the user's partition cannot be mounted with the password. -/
def changePassword (remoteOk : Bool) (remoteFlags : UInt32) (uname id username : String)
    (recoveryKeyFile : Option String) (gotRecoveryKeyFile : Bool) (userpassFname : String)
    (ctxFlags : UInt32) : AuthM Label := do
  if !gotRecoveryKeyFile then
    startRecovery remoteOk remoteFlags id username ctxFlags authNeedCredentials
      (remoteFlags ||| authFlagLocalPasswordMismatch)
  else
    let status ← runScript H (.changePass uname userpassFname recoveryKeyFile)
    if status < 0 then pure .error
    else if status ≠ 0 then
      authStatus authRecoveryKeyInvalid remoteFlags
      pure .cleanupUserpass
    else
      let status ← secCheckPassAndMount H uname userpassFname
      if status ≠ 0 then pure .error
      else
        authUpdateCache uname username ctxFlags
        authStatus authOk (remoteFlags ||| authFlagRecovered)
        pure .cleanupUserpass

/-- `local_auth` once it has the user's ID. -/
def checkUser (remoteOk : Bool) (remoteFlags : UInt32) (userPrefix id username : String)
    (recoveryKeyFile : Option String) (gotRecoveryKeyFile : Bool) (userpassFname : String)
    (ctxFlags : UInt32) : AuthM Label := do
  let uname := nameHash H userPrefix id
  let status ← runScript H (.checkUser uname)
  if status < 0 then pure .error
  else if status ≠ 0 then
    createUser H remoteOk remoteFlags uname id username recoveryKeyFile gotRecoveryKeyFile
      userpassFname ctxFlags
  else
    let status ← secCheckPassAndMount H uname userpassFname
    if status < 0 then pure .error
    else if status ≠ 0 then
      changePassword H remoteOk remoteFlags uname id username recoveryKeyFile gotRecoveryKeyFile
        userpassFname ctxFlags
    else
      authUpdateCache uname username ctxFlags
      authStatus authOk remoteFlags
      pure .cleanupUserpass

def nonEmpty (s : Option String) : Bool :=
  s.any (· ≠ "")

/-- `local_auth` from a label to its end. -/
def leave (label : Label) (remoteFlags : UInt32) (recoveryKeyFile : Option String)
    (gotRecoveryKeyFile : Bool) (userpassFname : String) : AuthM Bool := do
  onlyIf (label = .error) (authStatus authInternalError remoteFlags)
  onlyIf (label ≠ .skipCleanupUserpass ∧ remoteFlags &&& authFlagAutoStarted = 0)
    (remove userpassFname)
  -- `recovery_started` is set on the way to the last label only.
  let recoveryStarted := decide (label = .skipCleanupUserpass)
  onlyIf (gotRecoveryKeyFile ∧ !recoveryStarted) (remove (recoveryKeyFile.getD ""))
  pure recoveryStarted

def localAuth (remoteOk : Bool) (remoteFlags : UInt32) (userPrefix : String) (id : Option String)
    (username : String) (recoveryKeyFile : Option String) (userpassFname : String)
    (ctxFlags : UInt32) : AuthM Bool := do
  authStatus authInProgress authFlagLocalStarted
  if !(← stat userpassFname) then
    authStatus authNeedCredentials (remoteFlags ||| authFlagLocalCredentialsMissing)
    leave .cleanupUserpass remoteFlags recoveryKeyFile false userpassFname
  else
    let id := id.getD ""
    if id = "" then
      authStatus (if remoteOk then authInternalError else authNoUserid) remoteFlags
      leave .cleanupUserpass remoteFlags recoveryKeyFile false userpassFname
    else
      let gotRecoveryKeyFile := nonEmpty recoveryKeyFile
      let label ← checkUser H remoteOk remoteFlags userPrefix id username recoveryKeyFile
        gotRecoveryKeyFile userpassFname ctxFlags
      leave label remoteFlags recoveryKeyFile gotRecoveryKeyFile userpassFname

/-- What `auth_remote_status` does about a status of the backend daemon. -/
inductive RemoteReport where
  | localAuth (remoteOk : Bool) (flags : UInt32)
  | report (status : AuthStatus) (flags : UInt32)

def remoteReport (status : Int) : Option RemoteReport :=
  match status with
  | -8 => some (.report authInternalError authFlagUseridMismatch)
  | -7 => some (.report authInternalError authFlagNotLoggedIn)
  | -6 => some (.report authNotDeviceOwner 0)
  | -5 => some (.localAuth false authFlagNotRegistered)
  | -4 => some (.localAuth false authFlagHttpError)
  | -3 => some (.localAuth false authFlagNetworkError)
  | -2 => some (.localAuth false authFlagOffline)
  | -1 => some (.localAuth false authFlagRemoteInternalError)
  | 0 => some (.report authInProgress authFlagRemoteStarted)
  | 1 => some (.localAuth true 0)
  | 2 => some (.report authNeedCredentials authFlagRemoteUserOrPasswordMismatch)
  | 5 => some (.report authNeedCredentials authFlagRemotePasswordExpired)
  | 6 => some (.report authNeedCredentials authFlagRemoteAccountLocked)
  | 7 => some (.report authNeedCredentials authFlagRemoteAccountDisabled)
  | 3 => some (.report authNeedCredentials authFlagRemoteCredentialsMissing)
  | 4 => some (.report authNoRecoveryKey 0)
  | -9 => some (.report authInvalidRegistrationPin 0)
  | -10 => some (.report authAlreadyRegistered 0)
  | -11 => some (.report authSynchronizerUidMismatch 0)
  | 8 => some (.report authDeviceCertRenewNoEffect 0)
  | 9 => some (.report authSslCacertError 0)
  | _ => none

/-- The `switch` of `auth_remote_status`. -/
def reportRemote (report : Option RemoteReport) (flags : UInt32) (id : Option String)
    (username : String) (recoveryKeyFile : Option String) (fname : String) (ctxFlags : UInt32) :
    AuthM Bool := do
  match report with
  | some (.localAuth remoteOk flag) =>
    localAuth H remoteOk (flags ||| flag) remoteUserPrefix id username recoveryKeyFile fname
      ctxFlags
  | some (.report status flag) =>
    authStatus status (flags ||| flag)
    pure false
  | none => pure false

def authRemoteStatus (autoStarted : Bool) (status : Int) (id : Option String) (username : String)
    (recoveryKeyFile : Option String) (ctxFlags : UInt32) : AuthM Unit := do
  onlyIf (!autoStarted) (remove (remoteHashFile H username))
  let flags := if autoStarted then authFlagAutoStarted else authFlagNone
  let fname := localHashFile H username
  let recoveryStarted ← reportRemote H (remoteReport status) flags id username recoveryKeyFile
    fname ctxFlags
  onlyIf (!recoveryStarted ∧ !autoStarted) (remove fname)
  onlyIf (nonEmpty recoveryKeyFile ∧ !recoveryStarted) (remove (recoveryKeyFile.getD ""))

/-- `change_or_create_local_password` where the user exists; the status to report. -/
def replacePassword (uname passwordFname oldpasswordFname : String) :
    AuthM (Option AuthStatus) := do
  let status ← runScript H (.changePass uname passwordFname (some oldpasswordFname))
  if status < 0 then pure (some authInternalError)
  else if status ≠ 0 then pure (some authRecoveryKeyInvalid)
  else
    let status ← runScript H (.changeRecovery uname passwordFname passwordFname)
    pure (if status ≠ 0 then some authInternalError else none)

/-- `change_or_create_local_password` where the user does not exist. -/
def createLocalUser (user uname passwordFname : String) : AuthM (Option AuthStatus) := do
  let status ← userCreate H uname user passwordFname (some passwordFname)
  pure (if status ≠ 0 then some authInternalError else none)

/-- `change_or_create_local_password` once the hashes are written. -/
def changeOrCreate (user uname passwordFname oldpasswordFname : String) :
    AuthM (Option AuthStatus) := do
  let status ← runScript H (.checkUser uname)
  if status < 0 then pure (some authInternalError)
  else
    let failed ← (if status ≠ 0 then createLocalUser H user uname passwordFname
      else replacePassword H uname passwordFname oldpasswordFname)
    if failed.isSome then pure failed
    else
      let status ← secCheckPassAndMount H uname passwordFname
      pure (if status ≠ 0 then some authInternalError else none)

def reportChange (uname user : String) (failed : Option AuthStatus) : AuthM Unit := do
  match failed with
  | some status => authStatus status 0
  | none =>
    authUpdateCache uname user 0
    authStatus authOk 0

def changeOrCreateLocalPassword (user : String) (passwordNew passwordOld : Option String) :
    AuthM Bool := do
  authStatus authInProgress authFlagLocalStarted
  let passwordFname := localHashFile H user
  let written ← authWriteLocalHash H passwordFname passwordNew
  -- The name of the second file is set up once the first is written.
  let oldpasswordFname := if written ∧ passwordOld.isSome then passwordFname ++ "-old" else ""
  let written ← (if written ∧ passwordOld.isSome then
    authWriteLocalHash H oldpasswordFname passwordOld else pure written)
  let uname := nameHash H localUserPrefix user
  let failed ← (if !written then pure (some authInternalError)
    else changeOrCreate H user uname passwordFname oldpasswordFname)
  reportChange uname user failed
  remove passwordFname
  onlyIf passwordOld.isSome (remove oldpasswordFname)
  pure failed.isNone

/-- Whether there is a root password, and whether that could be found out. -/
def haveRootPassword : AuthM (Bool × Bool) := do
  match H.rootPasswd (← get).ran with
  | none => pure (true, false)
  | some passwd => pure (!(passwd = "" ∨ passwd.toList.head? = some '!'), true)

def stringMaybeToFile (path : String) (string : Option String) : AuthM Bool := do
  match string with
  | none => pure true
  | some string =>
    let w ← nextWrite H
    if !w.fopen then pure false
    else
      writeFile path ((bytes string).take w.fwrite)
      pure (string.length ≤ w.fwrite)

def passNew : String := "/mnt/secure/pass-new"
def passOld : String := "/mnt/secure/pass-old"

/-- `change_root_password` up to its labels. -/
def changeRoot (passwd : String) (oldPasswd : Option String) : AuthM Bool := do
  let (haveP, success) ← (if oldPasswd.isSome then pure (false, true) else haveRootPassword H)
  if !success ∨ haveP then pure false
  else if !(← stringMaybeToFile H passNew (some passwd)) then pure false
  else if !(← stringMaybeToFile H passOld oldPasswd) then pure false
  else
    let status ← runScript H (.changeRootCredentials passNew (oldPasswd.map fun _ => passOld))
    pure (status = 0)

def changeRootPassword (passwd : String) (oldPasswd : Option String) : AuthM Bool := do
  authStatus authInProgress authFlagLocalStarted
  let changed ← changeRoot H passwd oldPasswd
  remove passNew
  remove passOld
  onlyIf changed (emit (.installState "dom0-password-set"))
  pure changed

/-- `!password_confirm || strcmp(password, password_confirm)`. -/
def mismatch (password passwordConfirm : Option String) : AuthM Bool := do
  match passwordConfirm with
  | none => pure true
  | some confirm => do
    let password ← nonNull password
    pure (password ≠ confirm)

/-- `auth_end` and `auth_remote_login` where the backend daemon is to log the user in. -/
def startRemoteLogin (user : String) (password : Option String) (ctxFlags : UInt32) :
    AuthM Unit := do
  if !(← authWriteRemoteHash H (remoteHashFile H user) password) then
    authStatus authInternalError 0
  else
    authStatus authInProgress authFlagRemoteStarted
    emit (.remoteStartLogin user ctxFlags)

/-- `auth_end` with a user. -/
def authEndUser (ctx : AuthContext) (user : String) (password passwordOld : Option String) :
    AuthM Unit := do
  if ctx.flags &&& authFlagSetLocalPw ≠ 0 ∨ ctx.flags &&& authFlagChangeLocalPw ≠ 0 then
    discard (changeOrCreateLocalPassword H user password passwordOld)
  else if !(← authWriteLocalHash H (localHashFile H user) password) then
    authStatus authInternalError 0
  else if ctx.flags &&& authFlagRemoteUser = 0 then
    discard (localAuth H false authFlagNone localUserPrefix (some user) user (some "")
      (localHashFile H user) ctx.flags)
  else startRemoteLogin H user password ctx.flags

/-- `auth_end` where the root password is set. -/
def authEndRoot (password : Option String) : AuthM Unit := do
  if !nonEmpty password then authStatus authNeedPassword 0
  else if ← changeRootPassword H (password.getD "") none then authStatus authOk 0
  else authStatus authInternalError 0

def authEnd (user password passwordConfirm passwordOld : Option String) : AuthM Unit := do
  let context := (← get).context
  if !(← authWindowShown) then authStatus authInternalError 0
  else
    match context with
    | none => authStatus authInternalError 0
    | some ctx =>
      if ← (if ctx.flags &&& authFlagConfirmPw = 0 then pure false
          else mismatch password passwordConfirm) then
        authStatus authConfirmFailed 0
      else if ctx.flags &&& authFlagSetRootPw ≠ 0 then authEndRoot H password
      else if !nonEmpty user then authStatus authNeedCredentials 0
      else authEndUser H ctx (user.getD "") password passwordOld

def authRemoteLogin (user : String) (password : Option String) : AuthM Unit := do
  match (← get).context with
  | none => authStatus authInternalError 0
  | some ctx =>
    if ctx.flags &&& authFlagRemoteUser = 0 then authStatus authInternalError 0
    else if !(← authWriteLocalHash H (localHashFile H user) password) then
      authStatus authInternalError 0
    else startRemoteLogin H user password ctx.flags

end

/-- The flags that the database holds for the platform user. -/
def platformFlags : AuthM UInt32 := do
  let sFlags ← dbRead "/platform/flags"
  pure (if sFlags = "" then authFlagNone else UInt32.ofInt (strtol sFlags 10))

def switcherLock (canSwitchOut : Bool) : AuthM Bool := do
  let user ← dbRead "/platform/username"
  if user ≠ "" then
    let flags ← platformFlags
    let flags := if canSwitchOut then flags else flags ||| authFlagLock
    authSetContext user user (flags ||| authFlagCannotCancel)
    inputSecure true
  else pure false

def switcherAuthForce : AuthM Bool := do
  if (← get).context.isNone then
    let user ← dbRead "/platform/username"
    if user ≠ "" then
      let flags ← platformFlags
      authSetContext user user (flags &&& ~~~authFlagLock ||| authFlagCannotCancel)
      inputSecure true
    else pure false
  else inputSecure true

end InputServer.Secure
