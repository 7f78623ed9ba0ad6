import InputServer.Library.Output
import InputServer.AuthReturns

namespace InputServer.Secure
open Program
set_option autoImplicit true

/-- A status other than `in_progress`, or the request to log in remotely. -/
def AuthEvent.isReport : AuthEvent → Bool
  | .authStatus name _ => name ≠ "in_progress"
  | .remoteStartLogin _ _ => true
  | _ => false

def AuthEvent.isRecovery : AuthEvent → Bool
  | .remoteStartRecovery _ _ _ _ => true
  | _ => false

/-- The scripts behind a `sec_check_pass_and_mount` that returns 0. -/
def passed (uname userpass : String) : List (Script × Int) :=
  [(.checkPass uname userpass, 0), (.mount uname userpass, 0)]

/-- There are `n` reports, and before each `ok` the last scripts to run were `checks`. -/
structure Reports (checks : List (Script × Int)) (n : Nat) (new : List AuthEvent) : Prop where
  count : new.countP AuthEvent.isReport = n
  checked : ∀ before flags after, new = before ++ .authStatus "ok" flags :: after →
    checks <:+ before.filterMap AuthEvent.script?

/-- What `m` appends to the log from `s`. -/
abbrev logs (m : AuthM α) (Q : α → List AuthEvent → Prop) (s : State) : Prop :=
  writes State.log m (fun a _ new => Q a new) s

theorem Reports.nil : Reports checks 0 [] where
  count := rfl
  checked := by
    intro before flags after h
    simp at h

theorem Reports.quiet (h : ∀ g ∈ new, g.isReport = false) : Reports checks 0 new where
  count := by
    rw [List.countP_eq_zero]
    intro g hg
    simp [h g hg]
  checked := by
    intro before flags after hnew
    have := h (.authStatus "ok" flags) (by simp [hnew])
    cases this

/-- An `ok` behind what reports nothing is in the second part. -/
theorem Reports.quiet_append (ha : Reports checks 0 a) (hb : Reports checks n b) :
    Reports checks n (a ++ b) where
  count := by rw [List.countP_append, ha.count, hb.count, Nat.zero_add]
  checked := by
    intro before flags after h
    obtain ⟨c, hbefore, hb'⟩ | ⟨c, ha', hc⟩ := List.append_eq_append_iff.mp h
    · have hsuffix := hb.checked c flags after hb'
      rw [hbefore, List.filterMap_append]
      exact hsuffix.trans (List.suffix_append _ _)
    · cases c with
      | nil =>
        simp only [List.append_nil] at ha'
        simp only [List.nil_append] at hc
        have hsuffix := hb.checked [] flags after hc.symm
        rw [List.filterMap_nil] at hsuffix
        have hnil := List.eq_nil_of_suffix_nil hsuffix
        rw [hnil]
        exact List.nil_suffix
      | cons g c =>
        obtain ⟨rfl, hc⟩ := List.cons.inj hc
        have hcount := ha.count
        rw [ha', List.countP_append, List.countP_cons] at hcount
        simp [AuthEvent.isReport] at hcount

theorem Reports.silent (h : Reports checks 0 new) (hg : g ∈ new) : g.isReport = false := by
  have hcount := List.countP_eq_zero.mp h.count g hg
  simpa using hcount

theorem Reports.append_quiet (ha : Reports checks n a) (hb : Reports checks 0 b) :
    Reports checks n (a ++ b) where
  count := by rw [List.countP_append, ha.count, hb.count, Nat.add_zero]
  checked := by
    intro before flags after h
    obtain ⟨c, hbefore, hb'⟩ | ⟨c, ha', hc⟩ := List.append_eq_append_iff.mp h
    · have hsilent := hb.silent (by rw [hb']; simp : AuthEvent.authStatus "ok" flags ∈ b)
      cases hsilent
    · cases c with
      | nil =>
        have hsilent := hb.silent (by simp [← List.nil_append b ▸ hc] :
          AuthEvent.authStatus "ok" flags ∈ b)
        cases hsilent
      | cons g c =>
        obtain ⟨rfl, hc⟩ := List.cons.inj hc
        exact ha.checked before flags c ha'

/-- What reports something other than `ok`. -/
theorem Reports.failure (hcount : new.countP AuthEvent.isReport = n)
    (hno : ∀ flags, .authStatus "ok" flags ∉ new) : Reports checks n new where
  count := hcount
  checked := by
    intro before flags after h
    have hmem : AuthEvent.authStatus "ok" flags ∈ new := by simp [h]
    exact absurd hmem (hno flags)

/-- An `ok` after the checks. -/
theorem Reports.success (hidden : ∀ g ∈ said, AuthEvent.isReport g = false)
    (hchecks : checks <:+ said.filterMap AuthEvent.script?) :
    Reports checks 1 (said ++ [.authStatus "ok" flags]) where
  count := by
    have hquiet : Reports checks 0 said := Reports.quiet hidden
    rw [List.countP_append, hquiet.count]
    rfl
  checked := by
    intro before flags' after h
    obtain ⟨c, hbefore, hc⟩ | ⟨c, hsaid, hc⟩ := List.append_eq_append_iff.mp h
    · rw [hbefore, List.filterMap_append]
      cases c with
      | nil =>
        rw [List.filterMap_nil, List.append_nil]
        exact hchecks
      | cons g c => simp at hc
    · cases c with
      | nil =>
        rw [List.append_nil] at hsaid
        rw [← hsaid]
        exact hchecks
      | cons g c =>
        obtain ⟨rfl, hc⟩ := List.cons.inj hc
        have := hidden (.authStatus "ok" flags') (by simp [hsaid])
        cases this

theorem emit_logs (g : AuthEvent) (s : State) : logs (emit g) (fun _ new => new = [g]) s :=
  writes_modify rfl rfl

theorem modify_logs {f : State → State} (hf : (f s).log = s.log) :
    logs (modify f) (fun _ new => new = []) s :=
  writes_modify (by rw [hf, List.append_nil]) rfl

theorem onlyIf_logs {p : Prop} [Decidable p] {m : AuthM Unit} {Q : Unit → List AuthEvent → Prop}
    (hm : p → logs m Q s) (hn : ¬p → Q () []) : logs (onlyIf p m) Q s :=
  writes_ite hm fun hp => writes_pure _ (hn hp)

theorem authWindow_logs (shown : Bool) (s : State) :
    logs (authWindow shown) (fun _ new => new = []) s := by
  unfold authWindow
  apply writes_get
  cases s.uivm with
  | none => exact writes_throw _
  | some domid =>
    apply writes_ite
    · intro
      apply writes_seq (modify_logs rfl)
      rintro _ s' _ rfl
      exact modify_logs rfl
    · intro
      exact modify_logs rfl

theorem inputSecure_off_logs (s : State) :
    logs (inputSecure false) (fun _ new => ∀ g ∈ new, g = .secureMode false) s := by
  unfold inputSecure
  apply writes_get
  apply writes_ite
  · intro
    exact writes_pure _ (by simp)
  · intro
    apply writes_seq (modify_logs rfl)
    rintro _ s' _ rfl
    apply writes_seq (emit_logs _ _)
    rintro _ s'' _ rfl
    exact writes_pure _ (by simp)

/-- Whatever the status hides, the last entry is the status. -/
theorem authStatus_logs (status : AuthStatus) (flags : UInt32) (s : State) :
    logs (authStatus status flags)
      (fun _ new => ∃ said flags', (∀ g ∈ said, g = .secureMode false) ∧
        new = said ++ [.authStatus status.name flags']) s := by
  unfold authStatus
  have hhide : logs (onlyIf status.hideWindow do
      modify fun s => { s with context := none }
      authWindow false
      discard (inputSecure false)) (fun _ new => ∀ g ∈ new, g = .secureMode false) s := by
    apply onlyIf_logs
    · intro
      apply writes_seq (modify_logs rfl)
      rintro _ s' _ rfl
      apply writes_seq (authWindow_logs _ _)
      rintro _ s' _ rfl
      apply writes_discard
      exact inputSecure_off_logs _
    · intro
      simp
  apply writes_seq hhide
  intro _ s' said hsaid
  apply writes_seq (modify_logs rfl)
  rintro _ s' _ rfl
  refine writes_mono (emit_logs _ _) ?_
  rintro _ _ _ rfl
  exact ⟨said, _, hsaid, by rw [List.nil_append]⟩

theorem hidden_quiet {said : List AuthEvent} (h : ∀ g ∈ said, g = .secureMode false) :
    ∀ g ∈ said, AuthEvent.isReport g = false := by
  intro g hg
  rw [h g hg]
  rfl

theorem hidden_scripts {said : List AuthEvent} (h : ∀ g ∈ said, g = .secureMode false) :
    said.filterMap AuthEvent.script? = [] := by
  rw [List.filterMap_eq_nil_iff]
  intro g hg
  rw [h g hg]
  rfl

/-- A status that is neither `ok` nor `in_progress`, and leaves the window up. -/
def AuthStatus.Refuses (status : AuthStatus) : Prop :=
  status.name ≠ "ok" ∧ status.name ≠ "in_progress" ∧ status.hideWindow = false

instance (status : AuthStatus) : Decidable status.Refuses :=
  inferInstanceAs (Decidable (_ ∧ _))

theorem refuses_logs {status : AuthStatus} (h : status.Refuses) (flags : UInt32) (s : State) :
    logs (authStatus status flags) (fun _ new => new.countP AuthEvent.isReport = 1 ∧
      ∀ flags, .authStatus "ok" flags ∉ new) s := by
  refine writes_mono (authStatus_logs status flags s) ?_
  rintro _ _ _ ⟨said, flags', hsaid, rfl⟩
  constructor
  · have hquiet : Reports [] 0 said := Reports.quiet (hidden_quiet hsaid)
    rw [List.countP_append, hquiet.count]
    simp [AuthEvent.isReport, h.2.1]
  · intro flags hmem
    obtain hmem | hmem := List.mem_append.mp hmem
    · cases hsaid _ hmem
    · have heq := List.mem_singleton.mp hmem
      injection heq with hname
      exact h.1 hname.symm

theorem refuses_reports {status : AuthStatus} (h : status.Refuses) (flags : UInt32) (s : State) :
    logs (authStatus status flags) (fun _ new => Reports checks 1 new) s :=
  writes_mono (refuses_logs h flags s) fun _ _ _ hnew => Reports.failure hnew.1 hnew.2

theorem inProgress_quiet (flags : UInt32) (s : State) :
    logs (authStatus authInProgress flags)
      (fun _ new => ∀ g ∈ new, AuthEvent.isReport g = false) s := by
  refine writes_mono (authStatus_logs authInProgress flags s) ?_
  rintro _ _ _ ⟨said, flags', hsaid, rfl⟩ g hg
  obtain hg | hg := List.mem_append.mp hg
  · exact hidden_quiet hsaid g hg
  · rw [List.mem_singleton.mp hg]
    rfl

theorem remoteReport_notOk {status : Int} (h : remoteReport status = some (.report reported flag)) :
    reported.name ≠ "ok" := by
  unfold remoteReport at h
  split at h <;> cases h <;> decide

section
variable (H : Helpers)

theorem runScript_logs (c : Script) (s : State) :
    logs (runScript H c) (fun code new => new = [.script c code]) s := by
  unfold runScript
  apply writes_get
  exact writes_bind (writes_set rfl (writes_pure _ rfl))

/-- A return of 0 means that both scripts returned 0. -/
theorem secCheckPassAndMount_logs (uname userpass : String) (s : State) :
    logs (secCheckPassAndMount H uname userpass)
      (fun code new => (∀ g ∈ new, AuthEvent.isReport g = false) ∧
        (code = 0 → new.filterMap AuthEvent.script? = passed uname userpass)) s := by
  unfold secCheckPassAndMount
  apply writes_seq (runScript_logs H _ _)
  rintro code s' _ rfl
  apply writes_ite
  · intro hcode
    refine writes_pure _ ⟨?_, fun h => absurd h hcode⟩
    simp [AuthEvent.isReport]
  · intro hcode
    have hcode : code = 0 := not_not.mp hcode
    refine writes_mono (runScript_logs H _ _) ?_
    rintro code' _ _ rfl
    constructor
    · simp [AuthEvent.isReport]
    · intro hcode'
      simp [passed, AuthEvent.script?, hcode, hcode']

theorem userCreate_quiet (hash name passwordFile : String) (recoveryFile : Option String)
    (s : State) : logs (userCreate H hash name passwordFile recoveryFile)
      (fun _ new => ∀ g ∈ new, AuthEvent.isReport g = false) s := by
  unfold userCreate
  apply writes_seq (runScript_logs H _ _)
  rintro code s' _ rfl
  apply writes_ite
  · intro
    exact writes_pure _ (by simp [AuthEvent.isReport])
  · intro
    apply writes_seq (modify_logs rfl)
    rintro _ _ _ rfl
    exact writes_pure _ (by simp [AuthEvent.isReport])

theorem authUpdateCache_logs (uidHash username : String) (flags : UInt32) (s : State) :
    logs (authUpdateCache uidHash username flags) (fun _ new => new = []) s := by
  unfold authUpdateCache
  apply writes_seq (modify_logs rfl)
  rintro _ _ _ rfl
  apply writes_seq (modify_logs rfl)
  rintro _ _ _ rfl
  apply writes_discard
  apply writes_seq (modify_logs rfl)
  rintro _ _ _ rfl
  exact writes_pure _ rfl

/-- What `local_auth` has reported on its way to a label. -/
structure Reaches (checks : List (Script × Int)) (remoteOk : Bool) (label : Label)
    (new : List AuthEvent) : Prop where
  reports : Reports checks (if label = .cleanupUserpass then 1 else 0) new
  recovers : label = .skipCleanupUserpass → remoteOk = true ∧ new.any AuthEvent.isRecovery

theorem Reaches.quiet_append (ha : ∀ g ∈ a, AuthEvent.isReport g = false)
    (hb : Reaches checks remoteOk label b) : Reaches checks remoteOk label (a ++ b) where
  reports := (Reports.quiet ha).quiet_append hb.reports
  recovers := by
    intro hlabel
    rw [List.any_append, (hb.recovers hlabel).2, Bool.or_true]
    exact ⟨(hb.recovers hlabel).1, rfl⟩

theorem Reaches.error (h : ∀ g ∈ new, AuthEvent.isReport g = false) :
    Reaches checks remoteOk .error new :=
  ⟨Reports.quiet h, nofun⟩

theorem startRecovery_reaches {status : AuthStatus} (h : status.Refuses) (remoteOk : Bool)
    (remoteFlags : UInt32) (id username : String) (ctxFlags flags : UInt32) (s : State) :
    logs (startRecovery remoteOk remoteFlags id username ctxFlags status flags)
      (Reaches checks remoteOk) s := by
  unfold startRecovery
  apply writes_ite
  · intro hok
    apply writes_seq (emit_logs _ _)
    rintro _ s' _ rfl
    exact writes_pure _ ⟨Reports.quiet (by simp [AuthEvent.isReport]), fun _ => ⟨hok, rfl⟩⟩
  · intro
    apply writes_seq (refuses_reports h flags s)
    intro _ s' new hnew
    exact writes_pure _ ⟨by simpa using hnew, nofun⟩

/-- The exit of `local_auth` that lets the user in: the checks are the last scripts before it. -/
theorem letIn_reaches (remoteOk : Bool) (uname userpass username : String) (ctxFlags flags : UInt32) (s : State)
    (hquiet : ∀ g ∈ said, AuthEvent.isReport g = false)
    (hpassed : said.filterMap AuthEvent.script? = passed uname userpass) :
    logs (do
      authUpdateCache uname username ctxFlags
      authStatus authOk flags
      pure Label.cleanupUserpass)
      (fun label new => Reaches (passed uname userpass) remoteOk label (said ++ new)) s := by
  apply writes_seq (authUpdateCache_logs _ _ _ _)
  rintro _ s' _ rfl
  apply writes_seq (authStatus_logs _ _ _)
  rintro _ s' _ ⟨hidden, flags', hhidden, rfl⟩
  refine writes_pure _ ⟨?_, nofun⟩
  rw [List.append_nil, List.nil_append, ← List.append_assoc]
  apply Reports.success
  · intro g hg
    obtain hg | hg := List.mem_append.mp hg
    · exact hquiet g hg
    · exact hidden_quiet hhidden g hg
  · rw [List.filterMap_append, hidden_scripts hhidden, List.append_nil, hpassed]

theorem createUser_reaches (remoteOk : Bool) (remoteFlags : UInt32) (uname id username : String)
    (recoveryKeyFile : Option String) (got : Bool) (userpass : String) (ctxFlags : UInt32)
    (s : State) :
    logs (createUser H remoteOk remoteFlags uname id username recoveryKeyFile got userpass ctxFlags)
      (Reaches (passed uname userpass) remoteOk) s := by
  unfold createUser
  apply writes_ite
  · intro
    exact startRecovery_reaches (by decide) _ _ _ _ _ _ _
  · intro
    apply writes_seq (userCreate_quiet H _ _ _ _ _)
    intro status s' new hnew
    apply writes_ite
    · intro
      exact writes_pure _ (Reaches.error (by simpa using hnew))
    · intro
      apply writes_seq (secCheckPassAndMount_logs H _ _ _)
      intro status s' checks hchecks
      apply writes_ite
      · intro
        exact writes_pure _ (Reaches.quiet_append hnew (Reaches.error (by simpa using hchecks.1)))
      · intro hstatus
        refine writes_mono (letIn_reaches remoteOk _ _ _ _ _ _ hchecks.1
            (hchecks.2 (not_not.mp hstatus))) ?_
        intro label _ more h
        exact Reaches.quiet_append hnew h

theorem changePassword_reaches (remoteOk : Bool) (remoteFlags : UInt32)
    (uname id username : String) (recoveryKeyFile : Option String) (got : Bool) (userpass : String)
    (ctxFlags : UInt32) (s : State) :
    logs (changePassword H remoteOk remoteFlags uname id username recoveryKeyFile got userpass
      ctxFlags) (Reaches (passed uname userpass) remoteOk) s := by
  unfold changePassword
  apply writes_ite
  · intro
    exact startRecovery_reaches (by decide) _ _ _ _ _ _ _
  · intro
    apply writes_seq (runScript_logs H _ _)
    rintro status s' new rfl
    have hnew (c : Script) : ∀ g ∈ [AuthEvent.script c status], g.isReport = false := by
      simp [AuthEvent.isReport]
    apply writes_ite
    · intro
      exact writes_pure _ (Reaches.error (by simpa using hnew _))
    · intro
      apply writes_ite
      · intro
        apply writes_seq (refuses_reports (by decide) _ _)
        intro _ s' reported hreported
        refine writes_pure _ (Reaches.quiet_append (hnew _) ⟨?_, nofun⟩)
        rw [List.append_nil]
        exact hreported
      · intro
        apply writes_seq (secCheckPassAndMount_logs H _ _ _)
        intro status s' checks hchecks
        apply writes_ite
        · intro
          refine writes_pure _ (Reaches.quiet_append (hnew _) (Reaches.error ?_))
          simpa using hchecks.1
        · intro hstatus
          refine writes_mono (letIn_reaches remoteOk _ _ _ _ _ _ hchecks.1
            (hchecks.2 (not_not.mp hstatus))) ?_
          intro label _ more h
          exact Reaches.quiet_append (hnew _) h

theorem checkUser_reaches (remoteOk : Bool) (remoteFlags : UInt32)
    (userPrefix id username : String) (recoveryKeyFile : Option String) (got : Bool)
    (userpass : String) (ctxFlags : UInt32) (s : State) :
    logs (checkUser H remoteOk remoteFlags userPrefix id username recoveryKeyFile got userpass
      ctxFlags) (Reaches (passed (nameHash H userPrefix id) userpass) remoteOk) s := by
  unfold checkUser
  apply writes_seq (runScript_logs H _ _)
  rintro status s' new rfl
  have hnew (c : Script) : ∀ g ∈ [AuthEvent.script c status], g.isReport = false := by
    simp [AuthEvent.isReport]
  apply writes_ite
  · intro
    exact writes_pure _ (Reaches.error (by simpa using hnew _))
  · intro
    apply writes_ite
    · intro
      refine writes_mono (createUser_reaches H _ _ _ _ _ _ _ _ _ _) ?_
      intro label _ more h
      exact Reaches.quiet_append (hnew _) h
    · intro
      apply writes_seq (secCheckPassAndMount_logs H _ _ _)
      intro status s' checks hchecks
      apply writes_ite
      · intro
        refine writes_pure _ (Reaches.quiet_append (hnew _) (Reaches.error ?_))
        simpa using hchecks.1
      · intro
        apply writes_ite
        · intro
          refine writes_mono (changePassword_reaches H _ _ _ _ _ _ _ _ _ _) ?_
          intro label _ more h
          exact Reaches.quiet_append (hnew _) (Reaches.quiet_append hchecks.1 h)
        · intro hstatus
          refine writes_mono (letIn_reaches remoteOk _ _ _ _ _ _ hchecks.1
            (hchecks.2 (not_not.mp hstatus))) ?_
          intro label _ more h
          exact Reaches.quiet_append (hnew _) h

theorem remove_logs (path : String) (s : State) : logs (remove path) (fun _ new => new = []) s :=
  modify_logs rfl

theorem cleanup_logs (p : Prop) [Decidable p] (path : String) (s : State) :
    logs (onlyIf p (remove path)) (fun _ new => new = []) s :=
  onlyIf_logs (fun _ => remove_logs path s) fun _ => rfl

theorem leave_logs (checks : List (Script × Int)) (label : Label) (remoteFlags : UInt32)
    (recoveryKeyFile : Option String) (got : Bool) (userpass : String) (s : State) :
    logs (leave label remoteFlags recoveryKeyFile got userpass)
      (fun started new => started = decide (label = .skipCleanupUserpass) ∧
        Reports checks (if label = .error then 1 else 0) new) s := by
  unfold leave
  have hreport : logs (onlyIf (label = .error) (authStatus authInternalError remoteFlags))
      (fun _ new => Reports checks (if label = .error then 1 else 0) new) s := by
    apply onlyIf_logs
    · intro hlabel
      rw [if_pos hlabel]
      exact refuses_reports (by decide) _ _
    · intro hlabel
      rw [if_neg hlabel]
      exact Reports.nil
  apply writes_seq hreport
  intro _ s' new hnew
  apply writes_seq (cleanup_logs _ _ _)
  rintro _ s' _ rfl
  apply writes_seq (cleanup_logs _ _ _)
  rintro _ s' _ rfl
  exact writes_pure _ ⟨rfl, by simpa using hnew⟩

/-- What `local_auth` reports: one status, unless it starts a recovery. -/
def LocalAuthReports (checks : List (Script × Int)) (remoteOk started : Bool)
    (new : List AuthEvent) : Prop :=
  Reports checks (if started then 0 else 1) new ∧
    (started → remoteOk ∧ new.any AuthEvent.isRecovery)

theorem left_reports (hquiet : ∀ g ∈ said, AuthEvent.isReport g = false)
    (hlabel : Reaches checks remoteOk label reached)
    (hleft : Reports checks (if label = .error then 1 else 0) left) :
    LocalAuthReports checks remoteOk (decide (label = .skipCleanupUserpass))
      (said ++ (reached ++ left)) := by
  have hquiet' : Reports checks 0 said := Reports.quiet hquiet
  cases label with
  | error => exact ⟨hquiet'.quiet_append (hlabel.reports.quiet_append hleft), nofun⟩
  | cleanupUserpass =>
    exact ⟨hquiet'.quiet_append (hlabel.reports.append_quiet hleft), nofun⟩
  | skipCleanupUserpass =>
    refine ⟨hquiet'.quiet_append (hlabel.reports.quiet_append hleft), fun _ => ?_⟩
    rw [List.any_append, List.any_append, (hlabel.recovers rfl).2, Bool.true_or, Bool.or_true]
    exact ⟨(hlabel.recovers rfl).1, rfl⟩

theorem localAuth_reports (remoteOk : Bool) (remoteFlags : UInt32) (userPrefix : String)
    (id : Option String) (username : String) (recoveryKeyFile : Option String) (userpass : String)
    (ctxFlags : UInt32) (s : State) :
    logs (localAuth H remoteOk remoteFlags userPrefix id username recoveryKeyFile userpass ctxFlags)
      (LocalAuthReports (passed (nameHash H userPrefix (id.getD "")) userpass) remoteOk) s := by
  unfold localAuth
  apply writes_seq (inProgress_quiet _ _)
  intro _ s' said hsaid
  -- The two exits before the user is looked for report one status and clean up.
  have hrefused (status : AuthStatus) (flags : UInt32) (h : status.Refuses) (s : State) :
      logs (do
        authStatus status flags
        leave .cleanupUserpass remoteFlags recoveryKeyFile false userpass)
        (fun started new => LocalAuthReports
          (passed (nameHash H userPrefix (id.getD "")) userpass) remoteOk started (said ++ new)) s := by
    apply writes_seq (refuses_reports h _ _)
    intro _ s' reached hreached
    refine writes_mono (leave_logs (passed (nameHash H userPrefix (id.getD "")) userpass)
      _ _ _ _ _ _) ?_
    rintro _ _ left ⟨rfl, hleft⟩
    exact left_reports hsaid ⟨hreached, nofun⟩ hleft
  apply writes_get
  apply writes_ite
  · intro
    exact hrefused _ _ (by decide) _
  · intro
    apply writes_ite
    · intro
      apply hrefused
      cases remoteOk <;> decide
    · intro
      apply writes_seq (checkUser_reaches H _ _ _ _ _ _ _ _ _ _)
      intro label s' reached hreached
      refine writes_mono (leave_logs (passed (nameHash H userPrefix (id.getD "")) userpass)
        _ _ _ _ _ _) ?_
      rintro _ _ left ⟨rfl, hleft⟩
      exact left_reports hsaid hreached hleft

theorem writeHash_logs (w : FileWrite) (fname : String) (hash : List UInt8) (s : State) :
    logs (writeHash w fname hash) (fun _ new => new = []) s := by
  unfold writeHash
  apply writes_ite
  · intro
    exact writes_pure _ rfl
  · intro
    apply writes_seq (modify_logs rfl)
    rintro _ s' _ rfl
    apply writes_ite
    · intro
      apply writes_seq (remove_logs _ _)
      rintro _ s' _ rfl
      exact writes_pure _ rfl
    · intro
      exact writes_pure _ rfl

theorem nextWrite_logs (s : State) : logs (nextWrite H) (fun _ new => new = []) s := by
  unfold nextWrite
  apply writes_get
  apply writes_bind
  exact writes_set (List.append_nil _).symm (writes_pure _ rfl)

theorem nonNull_logs (string : Option String) (s : State) :
    logs (nonNull string) (fun _ new => new = []) s := by
  cases string with
  | none => exact writes_throw _
  | some string => exact writes_pure _ rfl

theorem authWriteLocalHash_logs (fname : String) (password : Option String) (s : State) :
    logs (authWriteLocalHash H fname password) (fun _ new => new = []) s := by
  unfold authWriteLocalHash
  apply writes_seq (nonNull_logs _ _)
  rintro _ s' _ rfl
  apply writes_seq (nextWrite_logs H _)
  rintro _ s' _ rfl
  exact writeHash_logs _ _ _ _

theorem authWriteRemoteHash_logs (fname : String) (password : Option String) (s : State) :
    logs (authWriteRemoteHash H fname password) (fun _ new => new = []) s := by
  unfold authWriteRemoteHash
  apply writes_seq (nonNull_logs _ _)
  rintro _ s' _ rfl
  apply writes_seq (nextWrite_logs H _)
  rintro _ s' _ rfl
  apply writes_ite
  · intro
    exact writes_pure _ rfl
  · intro
    exact writeHash_logs _ _ _ _

/-- What changing a password has reported when it knows its status: nothing, and where it is to
succeed the password was checked last. -/
structure Ready (checks : List (Script × Int)) (failed : Option AuthStatus)
    (new : List AuthEvent) : Prop where
  quiet : ∀ g ∈ new, AuthEvent.isReport g = false
  checked : failed = none → checks <:+ new.filterMap AuthEvent.script?
  refuses : ∀ status, failed = some status → status.Refuses

theorem Ready.refused (h : ∀ g ∈ new, AuthEvent.isReport g = false) {status : AuthStatus}
    (hstatus : status.Refuses) : Ready checks (some status) new :=
  ⟨h, nofun, by rintro _ ⟨rfl⟩; exact hstatus⟩

theorem Ready.quiet_append (ha : ∀ g ∈ a, AuthEvent.isReport g = false)
    (hb : Ready checks failed b) : Ready checks failed (a ++ b) where
  quiet := by
    intro g hg
    obtain hg | hg := List.mem_append.mp hg
    · exact ha g hg
    · exact hb.quiet g hg
  checked := by
    intro hfailed
    rw [List.filterMap_append]
    exact (hb.checked hfailed).trans (List.suffix_append _ _)
  refuses := hb.refuses

theorem createLocalUser_logs (user uname passwordFname : String) (s : State) :
    logs (createLocalUser H user uname passwordFname) (Ready []) s := by
  unfold createLocalUser
  apply writes_seq (userCreate_quiet H _ _ _ _ _)
  intro status s' new hnew
  refine writes_pure _ ⟨by simpa using hnew, fun _ => List.nil_suffix, ?_⟩
  intro status' h
  split at h <;> cases h
  decide

theorem replacePassword_logs (uname passwordFname oldpasswordFname : String) (s : State) :
    logs (replacePassword H uname passwordFname oldpasswordFname) (Ready []) s := by
  unfold replacePassword
  apply writes_seq (runScript_logs H _ _)
  rintro status s' _ rfl
  apply writes_ite
  · intro
    exact writes_pure _ (Ready.refused (by simp [AuthEvent.isReport]) (by decide))
  · intro
    apply writes_ite
    · intro
      exact writes_pure _ (Ready.refused (by simp [AuthEvent.isReport]) (by decide))
    · intro
      apply writes_seq (runScript_logs H _ _)
      rintro status' s' _ rfl
      refine writes_pure _ ⟨by simp [AuthEvent.isReport], fun _ => List.nil_suffix, ?_⟩
      intro status'' h
      split at h <;> cases h
      decide

theorem changeOrCreate_logs (user uname passwordFname oldpasswordFname : String) (s : State) :
    logs (changeOrCreate H user uname passwordFname oldpasswordFname)
      (Ready (passed uname passwordFname)) s := by
  unfold changeOrCreate
  apply writes_seq (runScript_logs H _ _)
  rintro status s' _ rfl
  have hscript : ∀ g ∈ [AuthEvent.script (.checkUser uname) status], g.isReport = false := by
    simp [AuthEvent.isReport]
  apply writes_ite
  · intro
    exact writes_pure _ (Ready.refused (by simpa using hscript) (by decide))
  · intro
    apply writes_seq (writes_ite (fun _ => createLocalUser_logs H _ _ _ _)
      fun _ => replacePassword_logs H _ _ _ _)
    intro failed s' new hnew
    apply writes_ite
    · intro hfailed
      refine writes_pure _ (Ready.quiet_append hscript ?_)
      rw [List.append_nil]
      refine ⟨hnew.quiet, ?_, hnew.refuses⟩
      intro h
      rw [h] at hfailed
      cases hfailed
    · intro
      apply writes_seq (secCheckPassAndMount_logs H _ _ _)
      intro status s' checks hchecks
      refine writes_pure _ (Ready.quiet_append hscript (Ready.quiet_append hnew.quiet ?_))
      rw [List.append_nil]
      by_cases hstatus : status = 0
      · rw [if_neg (not_not.mpr hstatus)]
        exact ⟨hchecks.1, fun _ => by rw [hchecks.2 hstatus], nofun⟩
      · rw [if_pos hstatus]
        exact Ready.refused hchecks.1 (by decide)

theorem reportChange_reports (uname user : String) (s : State) (h : Ready checks failed said) :
    logs (reportChange uname user failed) (fun _ new => Reports checks 1 (said ++ new)) s := by
  cases failed with
  | some status =>
    have hreports : logs (authStatus status 0) (fun _ new => Reports checks 1 new) s :=
      refuses_reports (h.refuses status rfl) 0 s
    exact writes_mono hreports fun _ _ _ hnew => (Reports.quiet h.quiet).quiet_append hnew
  | none =>
    apply writes_seq (authUpdateCache_logs _ _ _ _)
    rintro _ s' _ rfl
    refine writes_mono (authStatus_logs _ _ _) ?_
    rintro _ _ _ ⟨hidden, flags, hhidden, rfl⟩
    rw [List.nil_append, ← List.append_assoc]
    apply Reports.success
    · intro g hg
      obtain hg | hg := List.mem_append.mp hg
      · exact h.quiet g hg
      · exact hidden_quiet hhidden g hg
    · rw [List.filterMap_append, hidden_scripts hhidden, List.append_nil]
      exact h.checked rfl

theorem changeOrCreateLocalPassword_reports (user : String) (passwordNew passwordOld : Option String)
    (s : State) : logs (changeOrCreateLocalPassword H user passwordNew passwordOld)
      (fun _ new => Reports (passed (hashLocalUser H user) (localHashFile H user)) 1 new) s := by
  unfold changeOrCreateLocalPassword
  apply writes_seq (inProgress_quiet _ _)
  intro _ s' said hsaid
  apply writes_seq (authWriteLocalHash_logs H _ _ _)
  rintro written s' _ rfl
  apply writes_seq (writes_ite (fun _ => authWriteLocalHash_logs H _ _ _)
    fun _ => writes_pure _ rfl)
  rintro written' s' _ rfl
  apply writes_seq (P := fun failed _ new =>
    Ready (passed (hashLocalUser H user) (localHashFile H user)) failed new)
  · apply writes_ite
    · intro
      exact writes_pure _ (Ready.refused (by simp) (by decide))
    · intro
      exact changeOrCreate_logs H _ _ _ _ _
  intro failed s' new hnew
  apply writes_seq (reportChange_reports _ _ _ hnew)
  intro _ s' reported hreported
  apply writes_seq (remove_logs _ _)
  rintro _ s' _ rfl
  apply writes_seq (cleanup_logs _ _ _)
  rintro _ s' _ rfl
  refine writes_pure _ ((Reports.quiet hsaid).quiet_append ?_)
  simpa using hreported

theorem changeRoot_logs (passwd : String) (s : State) :
    logs (changeRoot H passwd none) (fun changed new => (∀ g ∈ new, AuthEvent.isReport g = false) ∧
      (changed = true → new.filterMap AuthEvent.script? =
        [(.changeRootCredentials passNew none, 0)])) s := by
  have hfile (path : String) (string : Option String) (s : State) :
      logs (stringMaybeToFile H path string) (fun _ new => new = []) s := by
    unfold stringMaybeToFile
    cases string with
    | none => exact writes_pure _ rfl
    | some string =>
      apply writes_seq (nextWrite_logs H _)
      rintro _ s' _ rfl
      apply writes_ite
      · intro
        exact writes_pure _ rfl
      · intro
        apply writes_seq (modify_logs rfl)
        rintro _ s' _ rfl
        exact writes_pure _ rfl
  have hhave (s : State) : logs (haveRootPassword H) (fun _ new => new = []) s := by
    unfold haveRootPassword
    apply writes_get
    cases H.rootPasswd s.ran with
    | none => exact writes_pure _ rfl
    | some passwd => exact writes_pure _ rfl
  unfold changeRoot
  apply writes_seq (hhave s)
  rintro _ s' _ rfl
  apply writes_ite
  · intro
    exact writes_pure _ ⟨by simp, nofun⟩
  · intro
    apply writes_seq (hfile _ _ _)
    rintro _ s' _ rfl
    apply writes_ite
    · intro
      exact writes_pure _ ⟨by simp, nofun⟩
    · intro
      apply writes_seq (hfile _ _ _)
      rintro _ s' _ rfl
      apply writes_ite
      · intro
        exact writes_pure _ ⟨by simp, nofun⟩
      · intro
        apply writes_seq (runScript_logs H _ _)
        rintro status s' _ rfl
        refine writes_pure _ ⟨by simp [AuthEvent.isReport], ?_⟩
        intro hstatus
        have hstatus : status = 0 := of_decide_eq_true hstatus
        simp [AuthEvent.script?, hstatus]

/-- The last script behind an `ok` of `auth_end`, by the flags of the context. -/
def authEndChecks (flags : UInt32) (user : Option String) : List (Script × Int) :=
  if flags &&& authFlagSetRootPw ≠ 0 then [(.changeRootCredentials passNew none, 0)]
  else passed (hashLocalUser H (user.getD "")) (localHashFile H (user.getD ""))

theorem changeRootPassword_logs (passwd : String) (s : State) :
    logs (changeRootPassword H passwd none)
      (fun changed new => (∀ g ∈ new, AuthEvent.isReport g = false) ∧
        (changed = true → [(.changeRootCredentials passNew none, 0)] <:+
          new.filterMap AuthEvent.script?)) s := by
  unfold changeRootPassword
  apply writes_seq (inProgress_quiet _ _)
  intro _ s' said hsaid
  apply writes_seq (changeRoot_logs H _ _)
  intro changed s' new hnew
  apply writes_seq (remove_logs _ _)
  rintro _ s' _ rfl
  apply writes_seq (remove_logs _ _)
  rintro _ s' _ rfl
  have htell : logs (onlyIf (changed = true) (emit (.installState "dom0-password-set")))
      (fun _ more => (∀ g ∈ more, AuthEvent.isReport g = false) ∧
        more.filterMap AuthEvent.script? = []) s' := by
    apply onlyIf_logs
    · intro
      refine writes_mono (emit_logs _ _) ?_
      rintro _ _ _ rfl
      exact ⟨by simp [AuthEvent.isReport], rfl⟩
    · intro
      exact ⟨nofun, rfl⟩
  apply writes_seq htell
  intro _ s' more hmore
  refine writes_pure _ ⟨?_, ?_⟩
  · intro g hg
    simp only [List.nil_append, List.append_nil, List.mem_append] at hg
    obtain hg | hg | hg := hg
    · exact hsaid g hg
    · exact hnew.1 g hg
    · exact hmore.1 g hg
  · intro hchanged
    simp only [List.nil_append, List.append_nil, List.filterMap_append, hmore.2, hnew.2 hchanged]
    exact List.suffix_append _ _

theorem authEndRoot_reports (password : Option String) (s : State) :
    logs (authEndRoot H password)
      (fun _ new => Reports [(.changeRootCredentials passNew none, 0)] 1 new) s := by
  unfold authEndRoot
  apply writes_ite
  · intro
    exact refuses_reports (by decide) _ _
  · intro
    apply writes_seq (changeRootPassword_logs H _ _)
    intro changed s' new hnew
    apply writes_ite
    · intro hchanged
      refine writes_mono (authStatus_logs _ _ _) ?_
      rintro _ _ _ ⟨hidden, flags, hhidden, rfl⟩
      rw [← List.append_assoc]
      apply Reports.success
      · intro g hg
        obtain hg | hg := List.mem_append.mp hg
        · exact hnew.1 g hg
        · exact hidden_quiet hhidden g hg
      · rw [List.filterMap_append, hidden_scripts hhidden, List.append_nil]
        exact hnew.2 hchanged
    · intro
      refine writes_mono (refuses_logs (by decide) _ _) ?_
      intro _ _ more hmore
      exact (Reports.quiet hnew.1).quiet_append (Reports.failure hmore.1 hmore.2)

theorem startRemoteLogin_reports (checks : List (Script × Int)) (user : String)
    (password : Option String) (ctxFlags : UInt32) (s : State) :
    logs (startRemoteLogin H user password ctxFlags) (fun _ new => Reports checks 1 new) s := by
  unfold startRemoteLogin
  apply writes_seq (authWriteRemoteHash_logs H _ _ _)
  rintro _ s' _ rfl
  apply writes_ite
  · intro
    exact refuses_reports (by decide) _ _
  · intro
    apply writes_seq (inProgress_quiet _ _)
    intro _ s' said hsaid
    refine writes_mono (emit_logs _ _) ?_
    rintro _ _ _ rfl
    apply Reports.quiet_append (Reports.quiet hsaid)
    refine ⟨rfl, ?_⟩
    intro before flags after h
    cases before with
    | nil => cases h
    | cons => simp at h

theorem authEndUser_reports (ctx : AuthContext) (user : String) (password passwordOld : Option String)
    (s : State) : logs (authEndUser H ctx user password passwordOld)
      (fun _ new => Reports (passed (hashLocalUser H user) (localHashFile H user)) 1 new) s := by
  unfold authEndUser
  apply writes_ite
  · intro
    apply writes_discard
    exact changeOrCreateLocalPassword_reports H user password passwordOld s
  · intro
    apply writes_seq (authWriteLocalHash_logs H _ _ _)
    rintro _ s' _ rfl
    apply writes_ite
    · intro
      exact refuses_reports (by decide) _ _
    · intro
      apply writes_ite
      · intro
        apply writes_discard
        refine writes_mono (localAuth_reports H _ _ _ _ _ _ _ _ _) ?_
        intro started _ new hnew
        cases started with
        | false => exact hnew.1
        | true => cases (hnew.2 rfl).1
      · intro
        exact startRemoteLogin_reports H _ _ _ _ _

theorem authWindowShown_logs (s : State) : logs authWindowShown (fun _ new => new = []) s := by
  unfold authWindowShown
  apply writes_get
  cases s.uivm with
  | none => exact writes_throw _
  | some domid =>
    dsimp only
    cases s.xenstore (stateNode domid) with
    | none => exact writes_pure _ rfl
    | some v => exact writes_pure _ rfl

theorem mismatch_logs (password passwordConfirm : Option String) (s : State) :
    logs (mismatch password passwordConfirm) (fun _ new => new = []) s := by
  unfold mismatch
  cases passwordConfirm with
  | none => exact writes_pure _ rfl
  | some confirm =>
    apply writes_seq (nonNull_logs _ _)
    rintro _ s' _ rfl
    exact writes_pure _ rfl

/-- However `auth_end` goes, it reports once. -/
theorem authEnd_reports (user password passwordConfirm passwordOld : Option String) (s : State) :
    logs (authEnd H user password passwordConfirm passwordOld)
      (fun _ new => new.countP AuthEvent.isReport = 1 ∧
        ∀ before flags after, new = before ++ .authStatus "ok" flags :: after →
          ∃ ctx, s.context = some ctx ∧
            authEndChecks H ctx.flags user <:+ before.filterMap AuthEvent.script?) s := by
  have hnever {status : AuthStatus} (h : status.Refuses) (s' : State) : logs (authStatus status 0)
      (fun _ new => new.countP AuthEvent.isReport = 1 ∧
        ∀ before flags after, new = before ++ .authStatus "ok" flags :: after →
          ∃ ctx, s.context = some ctx ∧
            authEndChecks H ctx.flags user <:+ before.filterMap AuthEvent.script?) s' := by
    refine writes_mono (refuses_logs h _ _) ?_
    rintro _ _ new ⟨hcount, hno⟩
    refine ⟨hcount, ?_⟩
    intro before flags after hnew
    exact absurd (by simp [hnew]) (hno flags)
  unfold authEnd
  apply writes_get
  apply writes_seq (authWindowShown_logs s)
  rintro shown s' _ rfl
  apply writes_ite
  · intro
    exact hnever (by decide) _
  · intro
    cases hctx : s.context with
    | none =>
      have hrefuses : authInternalError.Refuses := by decide
      rw [hctx] at hnever
      exact hnever hrefuses _
    | some ctx =>
      rw [hctx] at hnever
      have hmismatch : logs (if ctx.flags &&& authFlagConfirmPw = 0 then pure false
          else mismatch password passwordConfirm) (fun _ new => new = []) s' := by
        apply writes_ite
        · intro
          exact writes_pure _ rfl
        · intro
          exact mismatch_logs _ _ _
      have hreports {m : AuthM Unit} {s' : State} (h : logs m
          (fun _ new => Reports (authEndChecks H ctx.flags user) 1 new) s') : logs m
          (fun _ new => new.countP AuthEvent.isReport = 1 ∧
            ∀ before flags after, new = before ++ .authStatus "ok" flags :: after →
              ∃ ctx', some ctx = some ctx' ∧
                authEndChecks H ctx'.flags user <:+ before.filterMap AuthEvent.script?) s' := by
        refine writes_mono h ?_
        intro _ _ new hnew
        refine ⟨hnew.count, ?_⟩
        intro before flags after heq
        exact ⟨ctx, rfl, hnew.checked before flags after heq⟩
      apply writes_seq hmismatch
      rintro differs s' _ rfl
      apply writes_ite
      · intro
        exact hnever (by decide) _
      · intro
        apply writes_ite
        · intro hroot
          apply hreports
          rw [authEndChecks, if_pos hroot]
          exact authEndRoot_reports H password s'
        · intro hroot
          apply writes_ite
          · intro
            exact hnever (by decide) _
          · intro
            apply hreports
            rw [authEndChecks, if_neg hroot]
            exact authEndUser_reports H ctx _ password passwordOld s'

/-- `auth_remote_status` lets nobody in by itself. -/
theorem authRemoteStatus_reports (autoStarted : Bool) (status : Int) (id : Option String)
    (username : String) (recoveryKeyFile : Option String) (ctxFlags : UInt32) (s : State) :
    logs (authRemoteStatus H autoStarted status id username recoveryKeyFile ctxFlags)
      (fun _ new => ∃ n, Reports
        (passed (hashRemoteUser H (id.getD "")) (localHashFile H username)) n new) s := by
  unfold authRemoteStatus
  apply writes_seq (cleanup_logs _ _ _)
  rintro _ s' _ rfl
  have hreport : logs (reportRemote H (remoteReport status)
      (if autoStarted then authFlagAutoStarted else authFlagNone) id username recoveryKeyFile
      (localHashFile H username) ctxFlags) (fun _ new => ∃ n, Reports
        (passed (hashRemoteUser H (id.getD "")) (localHashFile H username)) n new) s' := by
    unfold reportRemote
    cases hr : remoteReport status with
    | none => exact writes_pure _ ⟨0, Reports.nil⟩
    | some report =>
      cases report with
      | localAuth remoteOk flag =>
        refine writes_mono (localAuth_reports H _ _ _ _ _ _ _ _ _) ?_
        intro started _ new hnew
        exact ⟨_, hnew.1⟩
      | report reported flag =>
        have hnotOk : reported.name ≠ "ok" := remoteReport_notOk hr
        apply writes_seq (authStatus_logs _ _ _)
        rintro _ s' _ ⟨hidden, flags, hhidden, rfl⟩
        refine writes_pure _ ⟨_, Reports.failure rfl ?_⟩
        intro flags' hmem
        rw [List.append_nil] at hmem
        obtain hmem | hmem := List.mem_append.mp hmem
        · cases hhidden _ hmem
        · injection List.mem_singleton.mp hmem with hname
          exact hnotOk hname.symm
  apply writes_seq hreport
  rintro started s' new ⟨n, hnew⟩
  apply writes_seq (cleanup_logs _ _ _)
  rintro _ s' _ rfl
  refine writes_mono (cleanup_logs _ _ _) ?_
  rintro _ _ _ rfl
  exact ⟨n, by simpa using hnew⟩

end

/-- An `ok` is sent only after the password was checked, and `auth_end` reports exactly once. -/
theorem ok_means_checked (H : Helpers) :
    (∀ user password passwordConfirm passwordOld s s',
      authEnd H user password passwordConfirm passwordOld s = .ok ((), s') →
      ∃ new, s'.log = s.log ++ new ∧
        (∀ before flags after, new = before ++ .authStatus "ok" flags :: after →
          ∃ ctx, s.context = some ctx ∧
            authEndChecks H ctx.flags user <:+ before.filterMap AuthEvent.script?) ∧
        new.countP AuthEvent.isReport = 1) ∧
    (∀ autoStarted status id username recoveryKeyFile ctxFlags s s',
      authRemoteStatus H autoStarted status id username recoveryKeyFile ctxFlags s = .ok ((), s') →
      ∃ new, s'.log = s.log ++ new ∧
        ∀ before flags after, new = before ++ .authStatus "ok" flags :: after →
          passed (hashRemoteUser H (id.getD "")) (localHashFile H username) <:+
            before.filterMap AuthEvent.script?) ∧
    ∀ user password passwordConfirm passwordOld s, password ≠ none →
      authWindowShown s = .ok (true, s) → s.context ≠ none →
      ∃ s', authEnd H user password passwordConfirm passwordOld s = .ok ((), s') := by
  refine ⟨?_, ?_, ?_⟩
  · intro user password passwordConfirm passwordOld s s' hrun
    obtain ⟨new, hnew, hcount, hchecked⟩ := authEnd_reports H user password passwordConfirm
      passwordOld s () s' hrun
    exact ⟨new, hnew, hchecked, hcount⟩
  · intro autoStarted status id username recoveryKeyFile ctxFlags s s' hrun
    obtain ⟨new, hnew, n, hreports⟩ := authRemoteStatus_reports H autoStarted status id username
      recoveryKeyFile ctxFlags s () s' hrun
    exact ⟨new, hnew, hreports.checked⟩
  · intro user password passwordConfirm passwordOld s hpassword hshown _
    have huivm : s.hasUivm := by
      intro hnone
      rw [authWindowShown, bind_ok (get_apply s), hnone] at hshown
      cases hshown
    obtain ⟨_, s', hrun, _⟩ :=
      authEnd_returns H user hpassword passwordConfirm passwordOld s huivm
    exact ⟨s', hrun⟩

/-- Every script succeeds and every write goes through. -/
def obliging : Helpers where
  sha1 _ := []
  sha256 _ := []
  md4 _ := []
  script _ files _ := (0, files)
  write _ := ⟨true, true, 32⟩
  rootPasswd _ := none

/-- The window is up for a context with the given flags. -/
def asking (flags : UInt32) : State where
  context := some ⟨"user", "user", flags⟩
  status := "none"
  statusFlags := 0
  uivm := some 1
  xenstore _ := some "1"
  secureMode := true
  files _ := none
  db _ := none
  writes := 0
  log := []

theorem ok_means_checked_login : ∃ s' before flags after,
    authEnd obliging (some "user") (some "secret") none none (asking 0) = .ok ((), s') ∧
      s'.log = before ++ .authStatus "ok" flags :: after ∧
      authEndChecks obliging 0 (some "user") <:+ before.filterMap AuthEvent.script? := by
  obtain ⟨s', hrun⟩ := (ok_means_checked obliging).2.2 (some "user") (some "secret") none none
    (asking 0) nofun rfl nofun
  obtain ⟨new, hnew, hchecked, _⟩ := (ok_means_checked obliging).1 _ _ _ _ _ _ hrun
  have hlog : (authEnd obliging (some "user") (some "secret") none none (asking 0)).toOption.map
      (fun r => r.2.log.getLast?) = some (some (.authStatus "ok" 0)) := by decide +kernel
  rw [hrun] at hlog
  have hlast : s'.log.getLast? = some (.authStatus "ok" 0) := Option.some.inj hlog
  obtain ⟨before, hbefore⟩ := List.getLast?_eq_some_iff.mp hlast
  have hnew' : new = before ++ .authStatus "ok" 0 :: [] := by
    rw [← hbefore, hnew]
    rfl
  obtain ⟨ctx, hctx, hsuffix⟩ := hchecked before 0 [] hnew'
  cases hctx
  exact ⟨s', before, 0, [], hrun, hbefore, hsuffix⟩

end InputServer.Secure
