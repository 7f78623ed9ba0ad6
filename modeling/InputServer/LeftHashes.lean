import InputServer.HashFiles

namespace InputServer.Secure
open Program
set_option autoImplicit true

/-- What the login window or the bus hands in. -/
inductive Submission where
  | authEnd (user password passwordConfirm passwordOld : Option String)
  | authRemoteLogin (user : String) (password : Option String)

/-- The file holds all of the hash afterwards. -/
def FileWrite.Writes (w : FileWrite) (hash : List UInt8) : Prop :=
  w.fopen = true ∧ hash.length ≤ w.fwrite

namespace Submission

def run (H : Helpers) : Submission → AuthM Unit
  | .authEnd user password passwordConfirm passwordOld =>
    Secure.authEnd H user password passwordConfirm passwordOld
  | .authRemoteLogin user password => Secure.authRemoteLogin H user password

def username : Submission → String
  | .authEnd user _ _ _ => user.getD ""
  | .authRemoteLogin user _ => user

def password : Submission → Option String
  | .authEnd _ password _ _ => password
  | .authRemoteLogin _ password => password

def passwordOld : Submission → Option String
  | .authEnd _ _ _ passwordOld => passwordOld
  | .authRemoteLogin _ _ => none

/-- The hash files of a submission, with what is derived from its passwords. -/
inductive Hash (H : Helpers) (m : Submission) : String → List UInt8 → Prop where
  | local {pw : String} (h : m.password = some pw) :
    Hash H m (localHashFile H m.username) (mkSha256Hash H pw)
  | remote {pw : String} (h : m.password = some pw) :
    Hash H m (remoteHashFile H m.username) (mkNtHash H pw)
  | old {pw : String} (h : m.passwordOld = some pw) :
    Hash H m (localHashFile H m.username ++ "-old") (mkSha256Hash H pw)

/-- The backend daemon is told to log the user in. -/
def StartsRemoteLogin (s s' : State) : Prop :=
  ∃ username ctxFlags, .remoteStartLogin username ctxFlags ∈ s'.log.drop s.log.length

/-- A submission that fails, with no remote login started, leaves no hash that was not there. -/
def LeavesNoHash (H : Helpers) (m : Submission) (s s' : State) : Prop :=
  s'.status ≠ "ok" → ¬StartsRemoteLogin s s' →
    ∀ path hash, m.Hash H path hash → s'.files path = some hash → s.files path = some hash

/-- The submission gets as far as writing the hashes for the backend daemon. -/
def LogsInRemotely (s : State) : Submission → Prop
  | .authEnd user password passwordConfirm _ =>
    (∃ domid v, s.uivm = some domid ∧ s.xenstore (stateNode domid) = some v ∧ v ≠ "3") ∧
      ∃ ctx, s.context = some ctx ∧
        (ctx.flags &&& authFlagConfirmPw ≠ 0 → passwordConfirm = password) ∧
        ctx.flags &&& authFlagSetRootPw = 0 ∧ nonEmpty user = true ∧
        ctx.flags &&& authFlagSetLocalPw = 0 ∧ ctx.flags &&& authFlagChangeLocalPw = 0 ∧
        ctx.flags &&& authFlagRemoteUser ≠ 0
  | .authRemoteLogin _ _ => ∃ ctx, s.context = some ctx ∧ ctx.flags &&& authFlagRemoteUser ≠ 0

/-- The local hash gets written, and the remote one does not. -/
def WritesHalf (H : Helpers) (m : Submission) (s : State) : Prop :=
  ∃ pw, m.password = some pw ∧ (H.write s.writes).Writes (mkSha256Hash H pw) ∧
    ¬((H.write (s.writes + 1)).malloc = true ∧
      (H.write (s.writes + 1)).Writes (mkNtHash H pw)) ∧
    s.files (localHashFile H m.username) ≠ some (mkSha256Hash H pw)

/-- The scripts do not put a hash of the submitted passwords in a hash file. -/
def Unscripted (H : Helpers) (m : Submission) : Prop :=
  ∀ path hash, m.Hash H path hash → ∀ ran files c,
    (H.script ran files c).2 path = some hash → files path = some hash

end Submission

instance (w : FileWrite) (hash : List UInt8) : Decidable (w.Writes hash) :=
  inferInstanceAs (Decidable (_ ∧ _))

/-- The files once a hash is written, or not. -/
def FileWrite.after (w : FileWrite) (files : Files) (path : String) (hash : List UInt8) : Files :=
  if w.fopen = true then
    Function.update files path (if hash.length ≤ w.fwrite then some hash else none)
  else files

variable {hash content : List UInt8}

theorem FileWrite.after_other {w : FileWrite} (h : other ≠ path) :
    w.after files path hash other = files other := by
  unfold FileWrite.after
  split
  · rw [Function.update_of_ne h]
  · rfl

theorem FileWrite.after_writes {w : FileWrite} (h : w.Writes hash) :
    w.after files path hash path = some hash := by
  rw [FileWrite.after, if_pos h.1, Function.update_self, if_pos h.2]

theorem FileWrite.after_fails {w : FileWrite} (h : ¬w.Writes hash)
    (hafter : w.after files path hash other = some content) : files other = some content := by
  by_cases hother : other = path
  · subst hother
    unfold FileWrite.after at hafter
    by_cases hopen : w.fopen = true
    · have hshort : ¬hash.length ≤ w.fwrite := fun hlength => h ⟨hopen, hlength⟩
      rw [if_pos hopen, Function.update_self, if_neg hshort] at hafter
      cases hafter
    · rw [if_neg hopen] at hafter
      exact hafter
  · rw [FileWrite.after_other hother] at hafter
    exact hafter

theorem writeHash_ok (w : FileWrite) (fname : String) (hash : List UInt8) (s : State) :
    writeHash w fname hash s =
      .ok (decide (w.Writes hash), { s with files := w.after s.files fname hash }) := by
  by_cases hopen : w.fopen = true
  · by_cases hlength : hash.length ≤ w.fwrite
    · have hwrites : w.Writes hash := ⟨hopen, hlength⟩
      have hall : ¬w.fwrite < hash.length := by omega
      have htake : hash.take w.fwrite = hash := List.take_of_length_le hlength
      simp [writeHash, FileWrite.after, hopen, hlength, hall, htake, hwrites, writeFile, bind_apply,
        modify_apply, pure_apply, Except.bind]
    · have hwrites : ¬w.Writes hash := fun h => hlength h.2
      have hshort : w.fwrite < hash.length := by omega
      simp only [writeHash, FileWrite.after, hopen, hlength, hshort, hwrites]
      change Except.ok (false, { s with
        files := Function.update (Function.update s.files fname _) fname none }) = _
      simp
  · have hwrites : ¬w.Writes hash := fun h => hopen h.1
    simp [writeHash, FileWrite.after, hopen, hwrites, pure_apply]

section
variable (H : Helpers)

theorem authWriteLocalHash_ok (fname pw : String) (s : State) :
    authWriteLocalHash H fname (some pw) s =
      .ok (decide ((H.write s.writes).Writes (mkSha256Hash H pw)), { s with
        writes := s.writes + 1,
        files := (H.write s.writes).after s.files fname (mkSha256Hash H pw) }) :=
  writeHash_ok (H.write s.writes) fname (mkSha256Hash H pw) { s with writes := s.writes + 1 }

variable {H} in
theorem authWriteLocalHash_elsewhere
    (h : authWriteLocalHash H fname password s = .ok (written, s')) (hpath : path ≠ fname) :
    s'.files path = s.files path := by
  cases password with
  | none => cases h
  | some pw =>
    rw [authWriteLocalHash_ok] at h
    cases h
    exact FileWrite.after_other hpath

theorem authWriteRemoteHash_ok (fname pw : String) (s : State) :
    authWriteRemoteHash H fname (some pw) s =
      .ok (decide ((H.write s.writes).malloc = true ∧ (H.write s.writes).Writes (mkNtHash H pw)),
        { s with
          writes := s.writes + 1,
          files := if (H.write s.writes).malloc = true then
            (H.write s.writes).after s.files fname (mkNtHash H pw) else s.files }) := by
  have hrun : authWriteRemoteHash H fname (some pw) s =
      (if !(H.write s.writes).malloc then pure false
        else writeHash (H.write s.writes) fname (mkNtHash H pw) : AuthM Bool)
      { s with writes := s.writes + 1 } := rfl
  rw [hrun]
  by_cases hmalloc : (H.write s.writes).malloc = true
  · simp [hmalloc, writeHash_ok]
  · simp [hmalloc, pure_apply]

@[simp] theorem nameHash_get {start : String} (h : 12 < start.toList.length)
    (name rest : String) : (nameHash H start name ++ rest).toList[12]? = start.toList[12]? := by
  unfold nameHash
  rw [String.toList_append, String.toList_append, List.append_assoc, List.getElem?_append_left h]

theorem localHashFile_get (user rest : String) :
    (localHashFile H user ++ rest).toList[12]? = some 'l' :=
  nameHash_get H (by decide) user rest

theorem remoteHashFile_get (user rest : String) :
    (remoteHashFile H user ++ rest).toList[12]? = some 'r' :=
  nameHash_get H (by decide) user rest

/-- No hash file is one of the root password's, or nameless. -/
theorem Submission.Hash.get {m : Submission} (h : m.Hash H path hash) :
    path.toList[12]? = some 'l' ∨ path.toList[12]? = some 'r' := by
  cases h with
  | «local» h => simpa using Or.inl (localHashFile_get H m.username "")
  | remote h => simpa using Or.inr (remoteHashFile_get H m.username "")
  | old h => exact .inl (localHashFile_get H m.username "-old")

theorem remoteHash_ne_local (user rest : String) :
    remoteHashFile H user ≠ localHashFile H user ++ rest := by
  intro heq
  have hget := localHashFile_get H user rest
  rw [← heq, ← String.append_empty (s := remoteHashFile H user), remoteHashFile_get] at hget
  cases hget

theorem old_ne_local (user : String) : localHashFile H user ++ "-old" ≠ localHashFile H user := by
  intro heq
  have hlength := congrArg String.length heq
  rw [String.length_append] at hlength
  have hold : "-old".length = 4 := rfl
  omega

end

/-- No hash of the submission is in a file that was not there before. -/
def Submission.Clean (H : Helpers) (m : Submission) (s s' : State) : Prop :=
  ∀ path hash, m.Hash H path hash → s'.files path = some hash → s.files path = some hash

theorem Submission.Clean.of_files {m : Submission} (h : s'.files = s.files) : m.Clean H s s' := by
  intro path hash _ hfile
  rw [h] at hfile
  exact hfile

instance {m : Submission} : IsPreorder State (m.Clean H) where
  refl _ := Submission.Clean.of_files rfl
  trans _ _ _ h h' path hash hhash hfile := h path hash hhash (h' path hash hhash hfile)

/-- Everything but writing a hash file of the submission. -/
def Act.Leaves (H : Helpers) (m : Submission) : Act → Prop
  | .write path => ∀ hash, ¬m.Hash H path hash
  | _ => True

section
variable {H : Helpers} {m : Submission}

theorem clean_permits (h : m.Unscripted H) : Permits H (m.Clean H) (Act.Leaves H m) where
  silent _ _ _ _ hfiles _ := Submission.Clean.of_files hfiles
  assoc s _ _ := Submission.Clean.of_files rfl
  script s c path hash hhash := h path hash hhash s.ran s.files c
  remove s other _ path hash hhash := by
    change Function.update s.files other none path = some hash → s.files path = some hash
    by_cases hother : path = other
    · rw [hother, Function.update_self]
      exact nofun
    · rw [Function.update_of_ne hother]
      exact id
  write s other content hother path hash hhash := by
    change Function.update s.files other (some content) path = some hash → _
    have hne : path ≠ other := by
      intro heq
      rw [heq] at hhash
      exact hother hash hhash
    rw [Function.update_of_ne hne]
    exact id
  letIn s _ _ uname flags _ := by
    refine wlp_mono (letIn_same _ _ _ _ s) ?_
    intro _ s' hs'
    exact Submission.Clean.of_files hs'.files
  unlock s flags _ := by
    refine wlp_mono (authStatus_same _ _ s) ?_
    intro _ s' hs'
    exact Submission.Clean.of_files hs'.files

theorem leaves_other (path : String) (h : path.toList[12]? ≠ some 'l')
    (h' : path.toList[12]? ≠ some 'r') : Overwrites (Act.Leaves H m) path := by
  constructor
  · intro hash hhash
    obtain hl | hr := hhash.get
    · exact h hl
    · exact h' hr
  · trivial

theorem authStatus_clean (status : AuthStatus) (flags : UInt32) (s : State) :
    wlp (authStatus status flags) (fun _ => m.Clean H s) s := by
  refine wlp_mono (authStatus_same _ _ s) ?_
  intro _ s' hs'
  exact Submission.Clean.of_files hs'.files

theorem leave_removes (hlabel : label ≠ .skipCleanupUserpass)
    (hflags : remoteFlags &&& authFlagAutoStarted = 0)
    (h : leave label remoteFlags recoveryKeyFile got userpass s = .ok (a, s')) :
    s'.files userpass = none := by
  obtain ⟨_, s₁, _, hrun⟩ := run_bind h
  obtain ⟨_, s₂, h₂, hrun⟩ := run_bind hrun
  obtain ⟨_, s₃, h₃, h₄⟩ := run_bind hrun
  cases h₄
  rw [(onlyIf_remove_ok h₃).2]
  apply removed_stays
  rw [(onlyIf_remove_ok h₂).2, if_pos ⟨hlabel, hflags⟩, Function.update_self]

/-- With no recovery to start, `local_auth` removes the hash it was called with. -/
theorem localAuth_removes {id : Option String} (hflags : remoteFlags &&& authFlagAutoStarted = 0)
    (h : localAuth H false remoteFlags userPrefix id username recoveryKeyFile userpass ctxFlags s =
      .ok (a, s')) : s'.files userpass = none := by
  obtain ⟨_, s₁, _, hrun⟩ := run_bind h
  obtain ⟨found, s₂, _, hrun⟩ := run_bind hrun
  by_cases hfound : (!found) = true
  · rw [if_pos hfound] at hrun
    obtain ⟨_, s₃, _, hleave⟩ := run_bind hrun
    refine leave_removes ?_ hflags hleave
    decide
  · rw [if_neg hfound] at hrun
    by_cases hid : id.getD "" = ""
    · rw [if_pos hid] at hrun
      obtain ⟨_, s₃, _, hleave⟩ := run_bind hrun
      refine leave_removes ?_ hflags hleave
      decide
    · rw [if_neg hid] at hrun
      obtain ⟨label, s₃, hcheck, hleave⟩ := run_bind hrun
      obtain ⟨_, _, hreaches⟩ := checkUser_reaches H _ _ _ _ _ _ _ _ _ _ _ _ hcheck
      refine leave_removes ?_ hflags hleave
      intro hskip
      exact absurd (hreaches.recovers hskip).1 nofun

theorem left_elsewhere {p : Prop} [Decidable p] {files : Files}
    (h : (if p then Function.update files other none else files) path = some content) :
    files path = some content ∧ (p → path ≠ other) := by
  by_cases hp : p
  · rw [if_pos hp] at h
    by_cases hother : path = other
    · rw [hother, Function.update_self] at h
      cases h
    · rw [Function.update_of_ne hother] at h
      exact ⟨h, fun _ => hother⟩
  · rw [if_neg hp] at h
    exact ⟨h, fun hp' => absurd hp' hp⟩

theorem reportChange_clean (uname user : String) (failed : Option AuthStatus) (s : State) :
    wlp (reportChange uname user failed) (fun _ => m.Clean H s) s := by
  cases failed with
  | some status => exact authStatus_clean status 0 s
  | none =>
    refine wlp_mono (letIn_same uname user 0 0 s) ?_
    intro _ s' hs'
    exact Submission.Clean.of_files hs'.files

/-- Setting a password removes both files that it wrote. -/
theorem changeOrCreateLocalPassword_clean (hscripts : m.Unscripted H)
    (h : changeOrCreateLocalPassword H m.username m.password m.passwordOld s = .ok (a, s')) :
    m.Clean H s s' := by
  obtain ⟨_, s₁, h₁, hrun⟩ := run_bind h
  obtain ⟨written, s₂, h₂, hrun⟩ := run_bind hrun
  obtain ⟨written', s₃, h₃, hrun⟩ := run_bind hrun
  obtain ⟨failed, s₄, h₄, hrun⟩ := run_bind hrun
  obtain ⟨_, s₅, h₅, hrun⟩ := run_bind hrun
  obtain ⟨_, s₆, h₆, hrun⟩ := run_bind hrun
  obtain ⟨_, s₇, h₇, h₈⟩ := run_bind hrun
  cases h₆
  cases h₈
  intro path hash hhash hfile
  rw [(onlyIf_remove_ok h₇).2] at hfile
  obtain ⟨hfile, hnotOld⟩ := left_elsewhere hfile
  obtain ⟨hfile, hnotNew⟩ := left_elsewhere (p := True) hfile
  have hfile₄ := reportChange_clean _ _ _ _ _ _ h₅ path hash hhash hfile
  have hgoes : Goes (m.Clean H) (if !written' then pure (some authInternalError)
      else changeOrCreate H m.username (nameHash H localUserPrefix m.username)
        (localHashFile H m.username)
        (if written ∧ m.passwordOld.isSome then localHashFile H m.username ++ "-old" else "")) :=
    goes_ite (fun _ => goes_pure _) fun _ => changeOrCreate_goes (clean_permits hscripts) _ _ _ _
  have hfile₃ := (hgoes s₃ trivial failed s₄ h₄).2.1 path hash hhash hfile₄
  have hfile₂ : s₂.files path = some hash := by
    by_cases hold : written = true ∧ m.passwordOld.isSome = true
    · rw [if_pos hold] at h₃
      rw [← authWriteLocalHash_elsewhere h₃ (hnotOld hold.2)]
      exact hfile₃
    · rw [if_neg hold] at h₃
      cases h₃
      exact hfile₃
  rw [authWriteLocalHash_elsewhere h₂ (hnotNew trivial)] at hfile₂
  exact authStatus_clean _ _ _ _ _ h₁ path hash hhash hfile₂

/-- Logging in removes the file with the hash that the password is checked with. -/
theorem localLogin_clean (hscripts : m.Unscripted H)
    (hwrite : authWriteLocalHash H (localHashFile H m.username) m.password s = .ok (true, s₁))
    (h : localAuth H false authFlagNone localUserPrefix (some m.username) m.username (some "")
      (localHashFile H m.username) ctxFlags s₁ = .ok (a, s')) : m.Clean H s s' := by
  have hgoes : Goes (m.Clean H) (localAuth H false authFlagNone localUserPrefix (some m.username)
      m.username (some "") (localHashFile H m.username) ctxFlags) := by
    apply localAuth_goes (clean_permits hscripts) trivial
    · intro _
      trivial
    · intro _
      trivial
  intro path hash hhash hfile
  have hother : path ≠ localHashFile H m.username := by
    intro heq
    rw [heq, localAuth_removes rfl h] at hfile
    cases hfile
  rw [← authWriteLocalHash_elsewhere hwrite hother]
  exact (hgoes s₁ trivial a s' h).2.1 path hash hhash hfile

/-- A status that leaves the window where it is. -/
theorem authStatus_stays (status : AuthStatus) (h : status.hideWindow = false) (flags : UInt32)
    (s : State) : ∃ reported, authStatus status flags s = .ok ((), { s with
      status := status.name,
      statusFlags := reported,
      log := s.log ++ [.authStatus status.name reported] }) := by
  refine ⟨if status.isError then flags ||| authFlagError else flags, ?_⟩
  unfold authStatus onlyIf
  rw [h]
  rfl

/-- A hash that cannot be written is not there. -/
theorem refused_clean (hpw : m.password = some pw)
    (hwrite : authWriteLocalHash H (localHashFile H m.username) m.password s = .ok (false, s₁))
    (h : authStatus status flags s₁ = .ok (a, s')) :
    m.Clean H s s' ∧ ¬m.WritesHalf H s := by
  rw [hpw, authWriteLocalHash_ok] at hwrite
  obtain ⟨hfailed, hs₁⟩ := Prod.mk.inj (Except.ok.inj hwrite)
  have hfailed : ¬(H.write s.writes).Writes (mkSha256Hash H pw) := of_decide_eq_false hfailed
  subst hs₁
  constructor
  · intro path hash hhash hfile
    exact FileWrite.after_fails hfailed (authStatus_clean _ _ _ _ _ h path hash hhash hfile)
  · rintro ⟨pw', hpw', hwrites, _⟩
    rw [hpw] at hpw'
    cases hpw'
    exact hfailed hwrites

/-- A file that the hashes for the backend daemon are written to has the one that belongs there. -/
theorem Submission.Hash.of_local (hpw : m.password = some pw)
    (h : m.Hash H (localHashFile H m.username) hash) : hash = mkSha256Hash H pw := by
  generalize hpath : localHashFile H m.username = path at h
  cases h with
  | «local» hpw' =>
    rw [hpw] at hpw'
    cases hpw'
    rfl
  | remote _ => exact absurd hpath.symm (by simpa using remoteHash_ne_local H m.username "")
  | old _ => exact absurd hpath.symm (old_ne_local H m.username)

theorem authWriteRemoteHash_refused (fname : String)
    (h : ¬((H.write s.writes).malloc = true ∧ (H.write s.writes).Writes (mkNtHash H pw))) :
    ∃ s', authWriteRemoteHash H fname (some pw) s = .ok (false, s') ∧ s'.log = s.log ∧
      (∀ path, path ≠ fname → s'.files path = s.files path) ∧
      ∀ path content, s'.files path = some content → s.files path = some content := by
  have hrun := authWriteRemoteHash_ok H fname pw s
  rw [decide_eq_false h] at hrun
  refine ⟨_, hrun, rfl, ?_, ?_⟩
  · intro path hpath
    dsimp only
    split
    · exact FileWrite.after_other hpath
    · rfl
  · intro path content hfile
    dsimp only at hfile
    split at hfile
    · rename_i hmalloc
      exact FileWrite.after_fails (fun hwrites => h ⟨hmalloc, hwrites⟩) hfile
    · exact hfile

/-- Where the hash for the backend daemon is written too, it is told. -/
theorem startRemoteLogin_starts
    (hwrites : (H.write s.writes).malloc = true ∧ (H.write s.writes).Writes (mkNtHash H pw))
    (h : startRemoteLogin H user (some pw) ctxFlags s = .ok ((), s')) :
    ∃ status, s'.log = s.log ++ [status, .remoteStartLogin user ctxFlags] := by
  unfold startRemoteLogin at h
  rw [bind_ok (authWriteRemoteHash_ok H _ _ _), decide_eq_true hwrites, Bool.not_true,
    if_neg Bool.false_ne_true] at h
  obtain ⟨_, s₂, h₂, h₃⟩ := run_bind h
  obtain ⟨reported, hstatus⟩ := authStatus_stays authInProgress rfl
    authFlagRemoteStarted { s with
      writes := s.writes + 1
      files := if (H.write s.writes).malloc = true then
        (H.write s.writes).after s.files (remoteHashFile H user) (mkNtHash H pw) else s.files }
  rw [hstatus] at h₂
  cases h₂
  cases h₃
  exact ⟨_, List.append_assoc _ _ _⟩

theorem startRemoteLogin_leaves_iff (hpw : m.password = some pw)
    (hwrite : authWriteLocalHash H (localHashFile H m.username) m.password s = .ok (true, s₁))
    (h : startRemoteLogin H m.username m.password ctxFlags s₁ = .ok ((), s')) :
    m.LeavesNoHash H s s' ↔ ¬m.WritesHalf H s := by
  have hother {path : String} (hpath : path ≠ localHashFile H m.username) :
      s₁.files path = s.files path := authWriteLocalHash_elsewhere hwrite hpath
  rw [hpw, authWriteLocalHash_ok] at hwrite
  obtain ⟨hwritten, hs₁⟩ := Prod.mk.inj (Except.ok.inj hwrite)
  have hwritten : (H.write s.writes).Writes (mkSha256Hash H pw) := of_decide_eq_true hwritten
  have hnext : s₁.writes = s.writes + 1 := by rw [← hs₁]
  have hlog : s₁.log = s.log := by rw [← hs₁]
  have hhash : s₁.files (localHashFile H m.username) = some (mkSha256Hash H pw) := by
    rw [← hs₁]
    exact FileWrite.after_writes hwritten
  rw [hpw] at h
  by_cases hremote : (H.write s₁.writes).malloc = true ∧
    (H.write s₁.writes).Writes (mkNtHash H pw)
  · obtain ⟨status, hstarts⟩ := startRemoteLogin_starts hremote h
    refine iff_of_true ?_ ?_
    · intro _ hnone
      refine absurd ⟨m.username, ctxFlags, ?_⟩ hnone
      rw [hstarts, hlog, List.drop_left]
      simp
    · rintro ⟨pw', hpw', _, hfails, _⟩
      rw [hpw] at hpw'
      cases hpw'
      rw [hnext] at hremote
      exact hfails hremote
  · obtain ⟨s₂, hrefused, hlog₂, hother₂, hleft₂⟩ :=
      authWriteRemoteHash_refused (remoteHashFile H m.username) hremote
    unfold startRemoteLogin at h
    rw [bind_ok hrefused, Bool.not_false, if_pos rfl] at h
    obtain ⟨reported, hstatus⟩ := authStatus_stays authInternalError rfl 0 s₂
    rw [hstatus] at h
    cases h
    constructor
    · rintro hleaves ⟨pw', hpw', _, _, hnew⟩
      rw [hpw] at hpw'
      cases hpw'
      apply hnew
      have hfailed : authInternalError.name ≠ "ok" := by decide
      apply hleaves hfailed _ _ _ (.local hpw)
      · exact (hother₂ _ fun heq => remoteHash_ne_local H m.username "" (by simpa using heq.symm)).trans
          hhash
      · rintro ⟨username, flags, hmem⟩
        rw [hlog₂, hlog, List.drop_left] at hmem
        simp at hmem
    · intro hhalf _ _ path hash hmem hfile
      have hfile₁ := hleft₂ path hash hfile
      by_cases hlocal : path = localHashFile H m.username
      · subst hlocal
        rw [Submission.Hash.of_local hpw hmem]
        by_contra hnew
        rw [hnext] at hremote
        exact hhalf ⟨pw, hpw, hwritten, hremote, hnew⟩
      · rw [← hother hlocal]
        exact hfile₁

theorem Submission.Clean.leaves (h : m.Clean H s s') : m.LeavesNoHash H s s' :=
  fun _ _ => h

theorem authWindowShown_iff (h : authWindowShown s = .ok (shown, s')) :
    s' = s ∧ (shown = true ↔
      ∃ domid v, s.uivm = some domid ∧ s.xenstore (stateNode domid) = some v ∧ v ≠ "3") := by
  obtain ⟨_, _, hget, hrun⟩ := run_bind h
  cases hget
  cases huivm : s.uivm with
  | none =>
    rw [huivm] at hrun
    cases hrun
  | some domid =>
    simp only [huivm] at hrun
    cases hnode : s.xenstore (stateNode domid) with
    | none =>
      simp only [hnode] at hrun
      cases hrun
      simp [hnode]
    | some v =>
      simp only [hnode] at hrun
      cases hrun
      simp [hnode]

theorem confirms_ok {ctx : AuthContext} (h : (if ctx.flags &&& authFlagConfirmPw = 0 then pure false
      else mismatch password passwordConfirm : AuthM Bool) s = .ok (mismatched, s')) :
    s' = s ∧ (mismatched = true → passwordConfirm ≠ password ∧ ctx.flags &&& authFlagConfirmPw ≠ 0
      ∨ password = none) ∧
    (mismatched = false → ctx.flags &&& authFlagConfirmPw ≠ 0 → passwordConfirm = password) := by
  by_cases hflag : ctx.flags &&& authFlagConfirmPw = 0
  · rw [if_pos hflag] at h
    cases h
    exact ⟨rfl, nofun, fun _ hset => absurd hflag hset⟩
  · rw [if_neg hflag] at h
    cases passwordConfirm with
    | none =>
      cases h
      refine ⟨rfl, fun _ => ?_, nofun⟩
      cases password with
      | none => exact .inr rfl
      | some pw => exact .inl ⟨nofun, hflag⟩
    | some confirm =>
      cases password with
      | none => cases h
      | some pw =>
        cases h
        refine ⟨rfl, fun hdiffers => .inl ⟨?_, hflag⟩, fun hsame _ => ?_⟩
        · intro heq
          exact of_decide_eq_true hdiffers (Option.some.inj heq).symm
        · exact congrArg some (not_not.mp (of_decide_eq_false hsame)).symm

theorem leaves_iff_of_clean (hclean : m.Clean H s s')
    (h : ¬(m.LogsInRemotely s ∧ m.WritesHalf H s)) :
    m.LeavesNoHash H s s' ↔ ¬(m.LogsInRemotely s ∧ m.WritesHalf H s) :=
  iff_of_true hclean.leaves h

/-- With a user, it is up to the flags whether the backend daemon logs the user in. -/
theorem authEndUser_leaves_iff {ctx : AuthContext} (hscripts : m.Unscripted H)
    (hlogs : m.LogsInRemotely s ↔ ¬(ctx.flags &&& authFlagSetLocalPw ≠ 0 ∨
      ctx.flags &&& authFlagChangeLocalPw ≠ 0) ∧ ctx.flags &&& authFlagRemoteUser ≠ 0)
    (h : authEndUser H ctx m.username m.password m.passwordOld s = .ok ((), s')) :
    m.LeavesNoHash H s s' ↔ ¬(m.LogsInRemotely s ∧ m.WritesHalf H s) := by
  unfold authEndUser at h
  by_cases hset : ctx.flags &&& authFlagSetLocalPw ≠ 0 ∨ ctx.flags &&& authFlagChangeLocalPw ≠ 0
  · rw [if_pos hset] at h
    change (changeOrCreateLocalPassword H m.username m.password m.passwordOld >>= fun _ =>
      (pure () : AuthM Unit)) s = _ at h
    obtain ⟨_, s₁, hchange, hrun⟩ := run_bind h
    cases hrun
    refine leaves_iff_of_clean (changeOrCreateLocalPassword_clean hscripts hchange) ?_
    intro hhalf
    exact (hlogs.mp hhalf.1).1 hset
  · rw [if_neg hset] at h
    obtain ⟨written, s₁, hwrite, hrun⟩ := run_bind h
    have hpw : ∃ pw, m.password = some pw := by
      cases hpw : m.password with
      | none =>
        rw [hpw] at hwrite
        cases hwrite
      | some pw => exact ⟨pw, rfl⟩
    obtain ⟨pw, hpw⟩ := hpw
    cases written with
    | false =>
      obtain ⟨hclean, hhalf⟩ := refused_clean hpw hwrite hrun
      exact leaves_iff_of_clean hclean fun h => hhalf h.2
    | true =>
      rw [Bool.not_true, if_neg Bool.false_ne_true] at hrun
      by_cases hremote : ctx.flags &&& authFlagRemoteUser = 0
      · rw [if_pos hremote] at hrun
        change (localAuth H false authFlagNone localUserPrefix (some m.username) m.username
          (some "") (localHashFile H m.username) ctx.flags >>= fun _ =>
            (pure () : AuthM Unit)) s₁ = _ at hrun
        obtain ⟨_, s₂, hauth, hrun⟩ := run_bind hrun
        cases hrun
        refine leaves_iff_of_clean (localLogin_clean hscripts hwrite hauth) ?_
        intro hhalf
        exact (hlogs.mp hhalf.1).2 hremote
      · rw [if_neg hremote] at hrun
        rw [startRemoteLogin_leaves_iff hpw hwrite hrun,
          and_iff_right (hlogs.mpr ⟨hset, hremote⟩)]

end

theorem authEnd_leaves_iff {H : Helpers} {user password passwordConfirm passwordOld : Option String}
    (hscripts : (Submission.authEnd user password passwordConfirm passwordOld).Unscripted H)
    (h : authEnd H user password passwordConfirm passwordOld s = .ok ((), s')) :
    Submission.LeavesNoHash H (.authEnd user password passwordConfirm passwordOld) s s' ↔
      ¬(Submission.LogsInRemotely s (.authEnd user password passwordConfirm passwordOld) ∧
        Submission.WritesHalf H (.authEnd user password passwordConfirm passwordOld) s) := by
  obtain ⟨_, _, hget, hrun⟩ := run_bind h
  cases hget
  obtain ⟨shown, s₁, hwindow, hrun⟩ := run_bind hrun
  obtain ⟨hs₁, hshown⟩ := authWindowShown_iff hwindow
  subst hs₁
  cases shown with
  | false =>
    apply leaves_iff_of_clean (authStatus_clean _ _ _ _ _ hrun)
    rintro ⟨⟨hwin, _⟩, _⟩
    exact Bool.false_ne_true (hshown.mpr hwin)
  | true =>
    rw [Bool.not_true, if_neg Bool.false_ne_true] at hrun
    cases hctx : s₁.context with
    | none =>
      rw [hctx] at hrun
      apply leaves_iff_of_clean (authStatus_clean _ _ _ _ _ hrun)
      rintro ⟨⟨_, ctx, hctx', _⟩, _⟩
      rw [hctx] at hctx'
      cases hctx'
    | some ctx =>
      simp only [hctx] at hrun
      have hlogs : Submission.LogsInRemotely s₁
          (.authEnd user password passwordConfirm passwordOld) ↔
            (ctx.flags &&& authFlagConfirmPw ≠ 0 → passwordConfirm = password) ∧
            ctx.flags &&& authFlagSetRootPw = 0 ∧ nonEmpty user = true ∧
            ctx.flags &&& authFlagSetLocalPw = 0 ∧ ctx.flags &&& authFlagChangeLocalPw = 0 ∧
            ctx.flags &&& authFlagRemoteUser ≠ 0 := by
        constructor
        · rintro ⟨_, ctx', hctx', hflags⟩
          rw [hctx] at hctx'
          cases hctx'
          exact hflags
        · intro hflags
          exact ⟨hshown.mp rfl, ctx, hctx, hflags⟩
      obtain ⟨mismatched, s₂, hconfirm, hrun⟩ := run_bind hrun
      obtain ⟨hs₂, hmismatch, hmatch⟩ := confirms_ok hconfirm
      subst hs₂
      cases mismatched with
      | true =>
        apply leaves_iff_of_clean (authStatus_clean _ _ _ _ _ hrun)
        rintro ⟨hin, pw, hpw, _⟩
        obtain ⟨hdiffers, hflag⟩ | hnone := hmismatch rfl
        · exact hdiffers ((hlogs.mp hin).1 hflag)
        · change password = some pw at hpw
          rw [hnone] at hpw
          cases hpw
      | false =>
        rw [if_neg Bool.false_ne_true] at hrun
        by_cases hroot : ctx.flags &&& authFlagSetRootPw ≠ 0
        · rw [if_pos hroot] at hrun
          have hgoes := authEndRoot_goes (clean_permits hscripts) trivial
            (leaves_other passNew (by decide) (by decide))
            (leaves_other passOld (by decide) (by decide)) password
          apply leaves_iff_of_clean (hgoes _ trivial _ _ hrun).2.1
          intro hhalf
          exact hroot (hlogs.mp hhalf.1).2.1
        · rw [if_neg hroot] at hrun
          by_cases huser : nonEmpty user = true
          · rw [huser, Bool.not_true, if_neg Bool.false_ne_true] at hrun
            refine authEndUser_leaves_iff hscripts ?_ hrun
            rw [hlogs, not_or, not_not, not_not]
            constructor
            · rintro ⟨_, _, _, hset, hchange, hremote⟩
              exact ⟨⟨hset, hchange⟩, hremote⟩
            · rintro ⟨⟨hset, hchange⟩, hremote⟩
              exact ⟨hmatch rfl, not_not.mp hroot, huser, hset, hchange, hremote⟩
          · rw [Bool.not_eq_true] at huser
            rw [huser, Bool.not_false, if_pos rfl] at hrun
            apply leaves_iff_of_clean (authStatus_clean _ _ _ _ _ hrun)
            intro hhalf
            rw [(hlogs.mp hhalf.1).2.2.1] at huser
            cases huser

theorem authRemoteLogin_leaves_iff {H : Helpers} {user : String} {password : Option String}
    (h : authRemoteLogin H user password s = .ok ((), s')) :
    Submission.LeavesNoHash H (.authRemoteLogin user password) s s' ↔
      ¬(Submission.LogsInRemotely s (.authRemoteLogin user password) ∧
        Submission.WritesHalf H (.authRemoteLogin user password) s) := by
  obtain ⟨_, _, hget, hrun⟩ := run_bind h
  cases hget
  cases hctx : s.context with
  | none =>
    rw [hctx] at hrun
    apply leaves_iff_of_clean (authStatus_clean _ _ _ _ _ hrun)
    rintro ⟨⟨ctx, hctx', _⟩, _⟩
    rw [hctx] at hctx'
    cases hctx'
  | some ctx =>
    simp only [hctx] at hrun
    by_cases hremote : ctx.flags &&& authFlagRemoteUser = 0
    · rw [if_pos hremote] at hrun
      apply leaves_iff_of_clean (authStatus_clean _ _ _ _ _ hrun)
      rintro ⟨⟨ctx', hctx', hremote'⟩, _⟩
      rw [hctx] at hctx'
      cases hctx'
      exact hremote' hremote
    · rw [if_neg hremote] at hrun
      have hlogs : Submission.LogsInRemotely s (.authRemoteLogin user password) :=
        ⟨ctx, hctx, hremote⟩
      cases password with
      | none => cases hrun
      | some pw =>
        obtain ⟨written, s₁, hwrite, hrun⟩ := run_bind hrun
        cases written with
        | false =>
          obtain ⟨hclean, hhalf⟩ := refused_clean
            (m := .authRemoteLogin user (some pw)) rfl hwrite hrun
          exact leaves_iff_of_clean hclean fun h => hhalf h.2
        | true =>
          have hiff := startRemoteLogin_leaves_iff
            (m := .authRemoteLogin user (some pw)) rfl hwrite hrun
          rw [hiff, and_iff_right hlogs]

/-- A submission that fails leaves no hash, unless it gets to write both hashes for a remote login
and only the first one gets written. -/
theorem failed_login_leaves_iff (H : Helpers) (m : Submission) (s s' : State)
    (hscripts : m.Unscripted H) (h : m.run H s = .ok ((), s')) :
    m.LeavesNoHash H s s' ↔ ¬(m.LogsInRemotely s ∧ m.WritesHalf H s) := by
  cases m with
  | authEnd user password passwordConfirm passwordOld => exact authEnd_leaves_iff hscripts h
  | authRemoteLogin user password => exact authRemoteLogin_leaves_iff h

/-- Helpers with which the second file of an attempt cannot be opened. -/
def stumbling : Helpers :=
  { obliging with
    sha256 := fun _ => List.replicate 32 1
    write := fun n => ⟨true, n == 0, 32⟩ }

theorem stumbling_unscripted (m : Submission) : m.Unscripted stumbling := by
  intro path hash _ ran files c hfile
  exact hfile

theorem failed_login_leaves_local : ∃ s',
    Submission.run stumbling (.authEnd (some "user") (some "secret") none none) (asking 0) =
      .ok ((), s') ∧
    Submission.LeavesNoHash stumbling (.authEnd (some "user") (some "secret") none none) (asking 0)
      s' := by
  have hrun : (Submission.run stumbling (.authEnd (some "user") (some "secret") none none)
      (asking 0)).toOption.map (fun _ => ()) = some () := by
    decide +kernel
  obtain ⟨⟨_, s'⟩, hok, _⟩ := returns_of_map hrun
  refine ⟨s', hok, (failed_login_leaves_iff _ _ _ _ (stumbling_unscripted _) hok).mpr ?_⟩
  rintro ⟨⟨_, ctx, hctx, hflags⟩, _⟩
  cases hctx
  exact hflags.2.2.2.2.2 rfl

/-- Where the hash for the backend daemon cannot be written, the local one stays. -/
theorem local_hash_left_behind :
    Submission.Unscripted stumbling (.authRemoteLogin "user" (some "secret")) ∧
    ∃ s', Submission.run stumbling (.authRemoteLogin "user" (some "secret")) (asking 8) =
        .ok ((), s') ∧ s'.status = "internal_error" ∧
      s'.files (localHashFile stumbling "user") = some (mkSha256Hash stumbling "secret") ∧
      ¬Submission.LeavesNoHash stumbling (.authRemoteLogin "user" (some "secret")) (asking 8)
        s' := by
  have hrun : (Submission.run stumbling (.authRemoteLogin "user" (some "secret"))
      (asking 8)).toOption.map (fun r => (r.2.status, r.2.log,
        r.2.files (localHashFile stumbling "user"))) =
      some ("internal_error", [.authStatus "internal_error" 1],
        some (mkSha256Hash stumbling "secret")) := by
    decide +kernel
  obtain ⟨⟨_, s'⟩, hok, hend⟩ := returns_of_map hrun
  obtain ⟨hstatus, hend⟩ := Prod.mk.inj hend
  obtain ⟨hlog, hfile⟩ := Prod.mk.inj hend
  refine ⟨stumbling_unscripted _, s', hok, hstatus, hfile, ?_⟩
  intro hleaves
  have hwas : (none : Option (List UInt8)) = some (mkSha256Hash stumbling "secret") := by
    apply hleaves _ _ _ _ (.local rfl) hfile
    · rw [hstatus]
      decide
    · rintro ⟨username, flags, hmem⟩
      change s'.log = _ at hlog
      rw [hlog] at hmem
      simp [asking] at hmem
  cases hwas

end InputServer.Secure
