import InputServer.AuthEffects
import InputServer.Library.Run

namespace InputServer
set_option autoImplicit true

theorem digitValue_digit (h : c.isDigit = true) :
    digitValue c = c.toNat - '0'.toNat ∧ digitValue c < 10 := by
  have hc := Char.isDigit_iff_toNat.mp h
  have hrange : '0' ≤ c ∧ c ≤ '9' := by
    simpa [Char.isDigit, Char.le_def] using h
  have hbound : '0'.toNat ≤ c.toNat ∧ c.toNat ≤ '0'.toNat + 9 := hc
  rw [digitValue, if_pos hrange]
  omega

theorem readDigits_digits (h : ∀ c ∈ cs, c.isDigit = true) (n : Nat) :
    readDigits 10 n cs = Nat.ofDigitChars 10 cs n := by
  induction cs generalizing n with
  | nil => rfl
  | cons c cs ih =>
    have hc := digitValue_digit (h c List.mem_cons_self)
    rw [readDigits, if_pos hc.2, Nat.ofDigitChars_cons,
      ih fun c hc => h c (List.mem_cons_of_mem _ hc), hc.1, Nat.mul_comm]

theorem toDigits_isDigit (n : Nat) : ∀ c ∈ Nat.toDigits 10 n, c.isDigit = true :=
  fun _ hc => Nat.isDigit_of_mem_toDigits (by decide) (by decide) hc

theorem readDigits_toDigits (n : Nat) : readDigits 10 0 (Nat.toDigits 10 n) = n := by
  rw [readDigits_digits (toDigits_isDigit n), Nat.ofDigitChars_ten_toDigits]

theorem isDigit_not_whitespace {c : Char} (h : c.isDigit = true) : c.isWhitespace = false := by
  cases hw : c.isWhitespace with
  | false => rfl
  | true =>
    simp only [Char.isWhitespace, Bool.or_eq_true, decide_eq_true_eq] at hw
    obtain ((rfl | rfl) | rfl) | rfl := hw <;> cases h

/-- `strtol` reads back what `"%d"` prints. -/
theorem strtol_toString (i : Int) : strtol (toString i) 10 = i := by
  cases i with
  | ofNat n =>
    have hlist : (toString (Int.ofNat n)).toList = Nat.toDigits 10 n := Nat.toList_repr
    have hread := readDigits_toDigits n
    unfold strtol
    rw [hlist]
    cases hcs : Nat.toDigits 10 n with
    | nil => exact absurd hcs Nat.toDigits_ne_nil
    | cons c cs =>
      have hdigit : c.isDigit = true := toDigits_isDigit n c (by simp [hcs])
      have hspace : ¬c.isWhitespace = true := by
        rw [isDigit_not_whitespace hdigit]
        exact Bool.false_ne_true
      rw [List.dropWhile_cons_of_neg hspace]
      rw [hcs] at hread
      have hminus : (c :: cs).head? ≠ some '-' := by
        intro heq
        cases heq
        cases hdigit
      dsimp only
      rw [if_neg (by decide : ¬(10 : Nat) = 0), if_neg hminus]
      split
      · rename_i heq
        cases heq
        cases hdigit
      · rename_i heq
        cases heq
        cases hdigit
      · rw [hread]
        rfl
  | negSucc n =>
    have hlist : (toString (Int.negSucc n)).toList = '-' :: Nat.toDigits 10 (n + 1) := by
      change ("-" ++ Nat.repr (n + 1)).toList = _
      rw [String.toList_append, Nat.toList_repr]
      rfl
    unfold strtol
    rw [hlist, List.dropWhile_cons_of_neg (by decide)]
    change -(readDigits 10 0 (Nat.toDigits 10 (n + 1)) : Int) = _
    rw [readDigits_toDigits]
    rfl
end InputServer

namespace InputServer.Secure
open Program

/-- What the daemon is asked to do that may change the context or the platform user. -/
inductive Request where
  | lock (canSwitchOut : Bool)
  | authForce
  | setContext (user title : String) (flags : UInt32)
  | authEnd (user password passwordConfirm passwordOld : Option String)
  | remoteLogin (user : String) (password : Option String)
  | remoteStatus (autoStarted : Bool) (status : Int) (id : Option String) (username : String)
      (recoveryKeyFile : Option String) (ctxFlags : UInt32)
  | escape
  | restart
  | uivm (domid : Option Int)
  | xenstore (path : String) (value : Option String)

/-- `KEY_ESC` in `input_secure_mode`. -/
def escapeKey : AuthM Unit := do
  match (← get).context with
  | none => throw .segv
  | some ctx =>
    if ctx.flags &&& authFlagCannotCancel ≠ 0 then authStatus authUserCancelDontHide 0
    else authStatus authUserCancel 0

def serve (H : Helpers) : Request → AuthM Unit
  | .lock canSwitchOut => discard (switcherLock canSwitchOut)
  | .authForce => discard switcherAuthForce
  | .setContext user title flags => authSetContext user title flags
  | .authEnd user password passwordConfirm passwordOld =>
    authEnd H user password passwordConfirm passwordOld
  | .remoteLogin user password => authRemoteLogin H user password
  | .remoteStatus autoStarted status id username recoveryKeyFile ctxFlags =>
    authRemoteStatus H autoStarted status id username recoveryKeyFile ctxFlags
  | .escape => escapeKey
  -- The database outlives the daemon.
  | .restart => modify fun s =>
    { s with context := none, status := "none", statusFlags := 0, secureMode := false }
  | .uivm domid => modify fun s => { s with uivm := domid }
  | .xenstore path value => modify fun s =>
    { s with xenstore := Function.update s.xenstore path value }

def State.platformUser (s : State) : String :=
  (s.db "/platform/username").getD ""

def State.platformFlags (s : State) : UInt32 :=
  UInt32.ofInt (strtol ((s.db "/platform/flags").getD "") 10)

/-- Whether the context carries `AUTH_FLAG_LOCK`. -/
def State.locked (s : State) : Prop :=
  ∃ ctx, s.context = some ctx ∧ ctx.flags &&& authFlagLock ≠ 0

/-- Neither the context nor what the next one is made of demands a lock without a user. -/
structure Unlocked (s : State) : Prop where
  flags : s.platformUser ≠ "" → s.platformFlags &&& authFlagLock = 0
  context : s.locked → s.platformUser ≠ ""

/-- The daemon has started, and the database holds no lock flag for the platform user. -/
structure Fresh (s : State) : Prop where
  context : s.context = none
  flags : s.platformUser ≠ "" → s.platformFlags &&& authFlagLock = 0

/-- A user is let in between two states. -/
def LetsIn (s s' : State) : Prop :=
  (s'.log.drop s.log.length).any AuthEvent.isOk = true

/-- A context's flags are those with which a local user is let in. -/
def AuthContext.LocalLogin (ctx : AuthContext) : Prop :=
  ctx.flags &&& authFlagSetRootPw = 0 ∧ ctx.flags &&& authFlagSetLocalPw = 0 ∧
    ctx.flags &&& authFlagChangeLocalPw = 0 ∧ ctx.flags &&& authFlagRemoteUser = 0

/-- The steps that carry the lock flag to where `switcher_lock` does not take it away: a local user
is let in under a lock, as is one that the backend daemon reports with the flag and not as remote,
and a context with the flag is set up without there being a platform user. -/
def Carries : Request → State → State → Prop
  | .authEnd _ _ _ _, s, s' => LetsIn s s' ∧
    ∃ ctx, s.context = some ctx ∧ ctx.flags &&& authFlagLock ≠ 0 ∧ ctx.LocalLogin
  | .remoteStatus _ _ _ username _ ctxFlags, s, s' => LetsIn s s' ∧ username ≠ "" ∧
    ctxFlags &&& authFlagLock ≠ 0 ∧ ctxFlags &&& authFlagRemoteUser = 0
  | .setContext _ _ flags, s, _ => flags &&& authFlagLock ≠ 0 ∧ s.platformUser = ""
  | _, _, _ => False

/-- What an attempt does to the context and to what the database holds of the platform user:
somebody who is `allowed` is let in, or nothing happens to the latter. -/
structure Platform (allowed : String → UInt32 → Prop) (unlocks : Prop) (s s' : State)
    (new : List AuthEvent) : Prop where
  log : s'.log = s.log ++ new
  context : s'.context = s.context ∨ s'.context = none
  user : s'.platformUser = s.platformUser ∧ s'.platformFlags = s.platformFlags ∧
      (new.any AuthEvent.isOk = true → unlocks) ∨
    new.any AuthEvent.isOk = true ∧ s'.context = none ∧
      ∃ username flags, allowed username flags ∧ s'.platformUser = username ∧
        s'.platformFlags = cachedFlags flags

abbrev Goes.Platform (allowed : String → UInt32 → Prop) (unlocks : Prop) (s s' : State) : Prop :=
  ∃ new, Secure.Platform allowed unlocks s s' new

theorem Platform.refl (s : State) : Platform allowed unlocks s s [] where
  log := (List.append_nil _).symm
  context := .inl rfl
  user := .inl ⟨rfl, rfl, nofun⟩

theorem Platform.trans (h : Platform allowed unlocks s s' new)
    (h' : Platform allowed unlocks s' s'' new') :
    Platform allowed unlocks s s'' (new ++ new') where
  log := by rw [h'.log, h.log, List.append_assoc]
  context := by
    obtain hsame | hnone := h'.context
    · rw [hsame]
      exact h.context
    · exact .inr hnone
  user := by
    rw [List.any_append, Bool.or_eq_true]
    obtain ⟨huser', hflags', hok'⟩ | ⟨hok', hnone', hin'⟩ := h'.user
    · rw [huser', hflags']
      obtain ⟨huser, hflags, hok⟩ | ⟨hok, hnone, hin⟩ := h.user
      · exact .inl ⟨huser, hflags, fun hnew => hnew.elim hok hok'⟩
      · refine .inr ⟨.inl hok, ?_, hin⟩
        obtain hsame | hnone' := h'.context
        · rw [hsame, hnone]
        · exact hnone'
    · exact .inr ⟨.inr hok', hnone', hin'⟩

instance : IsPreorder State (Goes.Platform allowed unlocks) where
  refl s := ⟨[], .refl s⟩
  trans _ _ _ := by
    rintro ⟨new, h⟩ ⟨new', h'⟩
    exact ⟨new ++ new', h.trans h'⟩

/-- The acts that let in only who is allowed. -/
def Act.Within (allowed : String → UInt32 → Prop) (unlocks : Prop) : Act → Prop
  | .letIn username ctxFlags => allowed username ctxFlags
  | .unlock => unlocks
  | _ => True

theorem mapPath_ne {key : String} (h : key.length < 23) (hash : String) :
    key ≠ "/platform/username-map/" ++ hash := by
  intro heq
  have hlength := congrArg String.length heq
  rw [String.length_append] at hlength
  have hmap : "/platform/username-map/".length = 23 := by decide
  omega

theorem assoc_platform (db : String → Option String) (key : String) (h : key.length < 23)
    (hash name : String) :
    Function.update db ("/platform/username-map/" ++ hash) (some name) key = db key :=
  Function.update_of_ne (mapPath_ne h hash) _ _

theorem ofInt_toInt (flags : UInt32) : UInt32.ofInt flags.toInt32.toInt = flags := by
  have hsigned : flags.toInt32.toInt = Int.bmod flags.toNat (2 ^ 32) :=
    BitVec.toInt_eq_toNat_bmod _
  have hwrapped : flags.toInt32.toInt % 2 ^ 32 = flags.toNat := by
    rw [hsigned]
    have hlt := flags.toNat_lt
    have hmod := Int.bmod_emod (x := (flags.toNat : Int)) (m := 2 ^ 32)
    omega
  rw [UInt32.ofInt, hwrapped, Int.toNat_natCast, UInt32.ofNat_toNat]

section
variable {s s' : State}

theorem cached_platformUser (h : s'.db = cached db uidHash username flags) :
    s'.platformUser = username := by
  rw [State.platformUser, h, cached, assoc_platform _ _ (by decide),
    Function.update_of_ne (by decide), Function.update_self]
  rfl

/-- The flags that the next lock reads are those that were written. -/
theorem cached_platformFlags (h : s'.db = cached db uidHash username flags) :
    s'.platformFlags = cachedFlags flags := by
  rw [State.platformFlags, h, cached, assoc_platform _ _ (by decide), Function.update_self,
    Option.getD_some, strtol_toString, ofInt_toInt]

theorem platform_same (huser : s'.db "/platform/username" = s.db "/platform/username")
    (hflags : s'.db "/platform/flags" = s.db "/platform/flags") :
    s'.platformUser = s.platformUser ∧ s'.platformFlags = s.platformFlags := by
  rw [State.platformUser, State.platformFlags, huser, hflags]
  exact ⟨rfl, rfl⟩

/-- Where the scripts and the files do not matter. -/
theorem Platform.quiet (hlog : s'.log = s.log ++ new) (hquiet : new.any AuthEvent.isOk = false)
    (hcontext : s'.context = s.context)
    (huser : s'.db "/platform/username" = s.db "/platform/username")
    (hflags : s'.db "/platform/flags" = s.db "/platform/flags") :
    Platform allowed unlocks s s' new where
  log := hlog
  context := .inl hcontext
  user := by
    rw [hquiet]
    have hsame := platform_same huser hflags
    exact .inl ⟨hsame.1, hsame.2, nofun⟩

end

theorem authOk_logs (flags : UInt32) (s : State) :
    logs (authStatus authOk flags) (fun _ new => new.any AuthEvent.isOk = true) s := by
  refine writes_mono (authStatus_logs authOk flags s) ?_
  rintro _ _ _ ⟨said, flags', _, rfl⟩
  rw [List.any_append, Bool.or_eq_true]
  exact .inr rfl

theorem letIn_logs (uname username : String) (ctxFlags flags : UInt32) (s : State) :
    logs (letIn uname username ctxFlags flags) (fun _ new => new.any AuthEvent.isOk = true) s := by
  apply writes_seq (authUpdateCache_logs _ _ _ _)
  rintro _ s' _ rfl
  refine writes_mono (authOk_logs flags s') ?_
  intro _ _ new hnew
  rw [List.nil_append]
  exact hnew

theorem platform_permits (H : Helpers) (allowed : String → UInt32 → Prop) (unlocks : Prop) :
    Permits H (Goes.Platform allowed unlocks) (Act.Within allowed unlocks) where
  silent hlog hquiet hcontext _ _ hdb :=
    ⟨_, .quiet hlog hquiet hcontext (congrFun hdb _) (congrFun hdb _)⟩
  assoc s hash name := by
    have huser := assoc_platform s.db "/platform/username" (by decide) hash name
    have hflags := assoc_platform s.db "/platform/flags" (by decide) hash name
    exact ⟨[], .quiet (List.append_nil _).symm rfl rfl huser hflags⟩
  script s c := ⟨[_], .quiet rfl rfl rfl rfl rfl⟩
  remove s _ _ := ⟨[], .quiet (List.append_nil _).symm rfl rfl rfl rfl⟩
  write s _ _ _ := ⟨[], .quiet (List.append_nil _).symm rfl rfl rfl rfl⟩
  letIn s username ctxFlags uname flags h := by
    intro a s' hrun
    have hsame := letIn_same _ _ _ _ s a s' hrun
    obtain ⟨new, hlog, hok⟩ := letIn_logs _ _ _ _ s a s' hrun
    exact ⟨new, hlog, .inr hsame.context, .inr ⟨hok, hsame.context, username, ctxFlags, h,
      cached_platformUser hsame.db, cached_platformFlags hsame.db⟩⟩
  unlock s flags h := by
    intro a s' hrun
    have hsame := authStatus_same _ _ s a s' hrun
    obtain ⟨new, hlog, _⟩ := authOk_logs _ s a s' hrun
    have hdb := platform_same (congrFun hsame.db _) (congrFun hsame.db _)
    exact ⟨new, hlog, .inr hsame.context, .inl ⟨hdb.1, hdb.2, fun _ => h⟩⟩

theorem or_and (a b c : UInt32) : (a ||| b) &&& c = a &&& c ||| b &&& c := by
  apply UInt32.toBitVec_inj.mp
  exact BitVec.and_or_distrib_right

/-- A lock flag is kept for the next lock exactly when the user is not a remote one. -/
theorem cachedFlags_lock (flags : UInt32) : cachedFlags flags &&& authFlagLock = 0 ↔
    flags &&& authFlagLock = 0 ∨ flags &&& authFlagRemoteUser ≠ 0 := by
  unfold cachedFlags
  by_cases hremote : flags &&& authFlagRemoteUser ≠ 0
  · rw [if_pos hremote]
    exact ⟨fun _ => .inr hremote, fun _ => by decide⟩
  · rw [if_neg hremote, or_iff_left hremote]

theorem dbRead_ok (path : String) (s : State) : dbRead path s = .ok ((s.db path).getD "", s) :=
  rfl

theorem platformFlags_ok (s : State) : platformFlags s = .ok (s.platformFlags, s) := by
  unfold platformFlags State.platformFlags
  rw [bind_ok (dbRead_ok _ s)]
  by_cases hnone : (s.db "/platform/flags").getD "" = ""
  · rw [if_pos hnone, hnone]
    rfl
  · rw [if_neg hnone]
    rfl

/-- The window is not looked for without a UIVM. -/
theorem authBegin_returns (s : State) : wp authBegin (fun _ _ => True) s := by
  unfold authBegin
  rw [wp_bind, wp_get]
  by_cases hnone : s.context.isNone = true ∨ s.uivm.isNone = true
  · rw [if_pos hnone, wp_pure]
    trivial
  · rw [if_neg hnone]
    have huivm : s.hasUivm := fun h => hnone (.inr (by rw [h]; rfl))
    rw [wp_bind]
    refine wp_mono (authWindowShown_returns s huivm) ?_
    intro shown s' huivm'
    apply wp_ite
    · intro _
      rw [wp_pure]
      trivial
    · intro _
      rw [wp_bind]
      refine wp_mono (authWindow_returns true s' huivm') ?_
      intro _ s'' _
      rw [wp_pure]
      trivial

theorem inputSecure_on (s : State) : wp (inputSecure true) (fun _ => Same s) s := by
  have hreturns : wp (inputSecure true) (fun _ _ => True) s := by
    unfold inputSecure
    rw [wp_bind, wp_get]
    apply wp_ite
    · intro _
      rw [wp_pure]
      trivial
    · intro _
      unfold emit
      rw [wp_bind, wp_modify, wp_bind, wp_modify, if_pos rfl]
      exact authBegin_returns _
  exact (inputSecure_same true s).and_returns hreturns

/-- The context that `switcher_lock` leaves. -/
def State.lockContext (s : State) (canSwitchOut : Bool) : Option AuthContext :=
  if s.platformUser = "" then s.context
  else
    let flags := if canSwitchOut then s.platformFlags else s.platformFlags ||| authFlagLock
    some ⟨s.platformUser, s.platformUser, flags ||| authFlagCannotCancel⟩

theorem switcherLock_leaves (canSwitchOut : Bool) (s : State) :
    wp (switcherLock canSwitchOut)
      (fun _ s' => s'.context = s.lockContext canSwitchOut ∧ s'.db = s.db) s := by
  unfold switcherLock State.lockContext
  rw [wp_bind]
  refine ⟨_, _, dbRead_ok _ s, ?_⟩
  change wp (if s.platformUser ≠ "" then _ else _) _ s
  by_cases huser : s.platformUser = ""
  · rw [if_neg (not_not_intro huser), if_pos huser, wp_pure]
    exact ⟨rfl, rfl⟩
  · rw [if_pos huser, if_neg huser, wp_bind]
    refine ⟨_, _, platformFlags_ok s, ?_⟩
    let flags := if canSwitchOut then s.platformFlags else s.platformFlags ||| authFlagLock
    change wp (authSetContext s.platformUser s.platformUser (flags ||| authFlagCannotCancel) >>=
      fun _ => inputSecure true) _ s
    unfold authSetContext
    rw [wp_bind, wp_modify]
    refine wp_mono (inputSecure_on _) ?_
    intro _ s' hs'
    exact ⟨hs'.context, hs'.db⟩

/-- `switcher_auth_force` keeps a context, and makes one without the lock flag. -/
theorem switcherAuthForce_leaves (s : State) :
    wlp switcherAuthForce (fun _ s' => s'.db = s.db ∧ (s'.context = s.context ∨
      s.platformUser ≠ "" ∧ s'.context = some ⟨s.platformUser, s.platformUser,
        s.platformFlags &&& ~~~authFlagLock ||| authFlagCannotCancel⟩)) s := by
  unfold switcherAuthForce
  rw [wlp_bind, wlp_get]
  apply wlp_ite
  · intro _
    rw [wlp_bind]
    intro user s₁ hread
    cases hread
    change wlp (if s.platformUser ≠ "" then _ else _) _ s
    apply wlp_ite
    · intro huser
      rw [wlp_bind]
      intro flags s₂ hflags
      rw [platformFlags_ok] at hflags
      cases hflags
      unfold authSetContext
      rw [wlp_bind, wlp_modify]
      refine wlp_mono (inputSecure_same true _) ?_
      intro _ s' hs'
      exact ⟨hs'.db, .inr ⟨huser, hs'.context⟩⟩
    · intro _
      rw [wlp_pure]
      exact ⟨rfl, .inl rfl⟩
  · intro _
    refine wlp_mono (inputSecure_same true s) ?_
    intro _ s' hs'
    exact ⟨hs'.db, .inl hs'.context⟩

section
variable {s s' : State}

theorem locked_context (h : s'.context = s.context) : s'.locked ↔ s.locked := by
  rw [State.locked, State.locked, h]

theorem not_locked_none (h : s.context = none) : ¬s.locked := by
  rintro ⟨ctx, hctx, _⟩
  rw [h] at hctx
  cases hctx

theorem LetsIn.iff (h : s'.log = s.log ++ new) : LetsIn s s' ↔ new.any AuthEvent.isOk = true := by
  rw [LetsIn, h, List.drop_left]

/-- Closing the context, or leaving everything as it is. -/
theorem Unlocked.kept (h : Unlocked s) (hcontext : s'.context = s.context ∨ s'.context = none)
    (huser : s'.platformUser = s.platformUser) (hflags : s'.platformFlags = s.platformFlags) :
    Unlocked s' where
  flags := by
    rw [huser, hflags]
    exact h.flags
  context hlocked := by
    rw [huser]
    obtain hsame | hnone := hcontext
    · exact h.context ((locked_context hsame).mp hlocked)
    · exact absurd hlocked (not_locked_none hnone)

/-- An attempt that lets in nobody whose lock flag would be kept. -/
theorem Unlocked.attempt (h : Unlocked s) (hmoved : Goes.Platform allowed unlocks s s')
    (hclear : ∀ username flags, LetsIn s s' → allowed username flags → username ≠ "" →
      cachedFlags flags &&& authFlagLock = 0) : Unlocked s' := by
  obtain ⟨new, hmoved⟩ := hmoved
  obtain ⟨huser, hflags, _⟩ | ⟨hok, hnone, username, flags, hallowed, huser, hflags⟩ := hmoved.user
  · exact h.kept hmoved.context huser hflags
  · constructor
    · intro hnonempty
      rw [huser] at hnonempty
      rw [hflags]
      exact hclear username flags ((LetsIn.iff hmoved.log).mpr hok) hallowed hnonempty
    · intro hlocked
      exact absurd hlocked (not_locked_none hnone)

end

/-- Whom `auth_end` lets in under a context, and with which flags. -/
def AuthContext.Admits (ctx : AuthContext) (user : Option String) (username : String)
    (flags : UInt32) : Prop :=
  nonEmpty user = true ∧ username = user.getD "" ∧
    (flags = 0 ∧ ¬ctx.LocalLogin ∨ flags = ctx.flags ∧ ctx.LocalLogin)

def State.Admits (s : State) (user : Option String) (username : String) (flags : UInt32) : Prop :=
  ∃ ctx, s.context = some ctx ∧ ctx.Admits user username flags

def State.SetsRoot (s : State) : Prop :=
  ∃ ctx, s.context = some ctx ∧ ctx.flags &&& authFlagSetRootPw ≠ 0

section
variable (H : Helpers)

theorem overwrites_within (path : String) : Overwrites (Act.Within allowed unlocks) path :=
  ⟨trivial, trivial⟩

theorem authEnd_platform
    (h : authEnd H user password passwordConfirm passwordOld s = .ok (a, s')) :
    Goes.Platform (s.Admits user) s.SetsRoot s s' := by
  have hmoves : Moves (fun _ => True) (Goes.Platform (s.Admits user) s.SetsRoot)
      (authEnd H user password passwordConfirm passwordOld) s := by
    apply authEnd_moves (platform_permits H (s.Admits user) s.SetsRoot)
    · intro ctx hctx hroot
      exact ⟨ctx, hctx, hroot⟩
    · intro ctx hctx huser hset
      refine ⟨ctx, hctx, huser, rfl, .inl ⟨rfl, ?_⟩⟩
      intro hlogin
      exact hset.elim (fun h => h hlogin.2.1) fun h => h hlogin.2.2.1
    · intro ctx hctx huser hroot hset hremote
      rw [not_or, not_not, not_not] at hset
      exact ⟨ctx, hctx, huser, rfl, .inr ⟨rfl, not_not.mp hroot, hset.1, hset.2, hremote⟩⟩
    · exact overwrites_within
  exact (hmoves trivial a s' h).2.1

theorem authRemoteLogin_platform (h : authRemoteLogin H user password s = .ok (a, s')) :
    Goes.Platform (fun _ _ => False) False s s' :=
  (authRemoteLogin_goes (platform_permits H _ _) overwrites_within user password s trivial a s'
    h).2.1

theorem authRemoteStatus_platform {id : Option String} (h : authRemoteStatus H autoStarted status id
    username recoveryKeyFile ctxFlags s = .ok (a, s')) :
    Goes.Platform (fun username' flags => username' = username ∧ flags = ctxFlags) False s s' := by
  have hpermits := platform_permits H
    (fun username' flags => username' = username ∧ flags = ctxFlags) False
  have hgoes : Goes _ (authRemoteStatus H autoStarted status id username recoveryKeyFile ctxFlags) :=
    authRemoteStatus_goes hpermits ⟨rfl, rfl⟩ (fun _ => trivial) (fun _ => trivial)
      (fun _ => trivial) status id
  exact (hgoes s trivial a s' h).2.1

theorem escapeKey_platform (h : escapeKey s = .ok (a, s')) :
    s'.db = s.db ∧ (s'.context = s.context ∨ s'.context = none) := by
  have hclosed (status : AuthStatus) : wlp (authStatus status 0)
      (fun _ s' => s'.db = s.db ∧ (s'.context = s.context ∨ s'.context = none)) s := by
    refine wlp_mono (authStatus_same status 0 s) ?_
    intro _ s' hs'
    refine ⟨hs'.db, ?_⟩
    rw [hs'.context]
    by_cases hhide : status.hideWindow = true
    · exact .inr (if_pos hhide)
    · exact .inl (if_neg hhide)
  have hall : wlp escapeKey
      (fun _ s' => s'.db = s.db ∧ (s'.context = s.context ∨ s'.context = none)) s := by
    unfold escapeKey
    rw [wlp_bind, wlp_get]
    cases hctx : s.context with
    | none => exact wlp_throw _ _ _
    | some ctx =>
      simp only [hctx] at hclosed
      change wlp (if ctx.flags &&& authFlagCannotCancel ≠ 0 then authStatus authUserCancelDontHide 0
        else authStatus authUserCancel 0) _ s
      exact wlp_ite (fun _ => hclosed _) fun _ => hclosed _
  exact hall a s' h

end

theorem lock_unlocked (canSwitchOut : Bool) (h : Unlocked s) :
    wlp (switcherLock canSwitchOut) (fun _ => Unlocked) s := by
  refine wlp_mono (switcherLock_leaves canSwitchOut s).wlp ?_
  intro _ s' hs'
  have hsame := platform_same (congrFun hs'.2 _) (congrFun hs'.2 _)
  constructor
  · rw [hsame.1, hsame.2]
    exact h.flags
  · intro hlocked
    rw [hsame.1]
    intro hnone
    have hcontext := hs'.1
    rw [State.lockContext, if_pos hnone] at hcontext
    exact h.context ((locked_context hcontext).mp hlocked) hnone

theorem authForce_unlocked (h : Unlocked s) :
    wlp switcherAuthForce (fun _ => Unlocked) s := by
  refine wlp_mono (switcherAuthForce_leaves s) ?_
  rintro _ s' ⟨hdb, hcontext⟩
  have hsame := platform_same (congrFun hdb _) (congrFun hdb _)
  obtain hcontext | ⟨huser, _⟩ := hcontext
  · exact h.kept (.inl hcontext) hsame.1 hsame.2
  · constructor
    · rw [hsame.1, hsame.2]
      exact h.flags
    · intro _
      rw [hsame.1]
      exact huser

theorem discard_ok {m : AuthM α} {a : PUnit} (h : discard m s = .ok (a, s')) : ∃ b, m s = .ok (b, s') := by
  have hrun : (m >>= fun _ => pure ()) s = .ok (a, s') := h
  obtain ⟨b, _, hm, hpure⟩ := run_bind hrun
  cases hpure
  exact ⟨b, hm⟩

/-- No request but the ones that carry a lock flag over spoils the invariant. -/
theorem serve_unlocked (H : Helpers) (h : Unlocked s) (hrun : serve H r s = .ok ((), s'))
    (hnot : ¬Carries r s s') : Unlocked s' := by
  cases r with
  | lock canSwitchOut =>
    obtain ⟨b, hlock⟩ := discard_ok hrun
    exact lock_unlocked canSwitchOut h b s' hlock
  | authForce =>
    obtain ⟨b, hforce⟩ := discard_ok hrun
    exact authForce_unlocked h b s' hforce
  | setContext user title flags =>
    cases hrun
    constructor
    · exact h.flags
    · rintro ⟨ctx, hctx, hlock⟩ hnone
      cases hctx
      exact hnot ⟨hlock, hnone⟩
  | authEnd user password passwordConfirm passwordOld =>
    apply h.attempt (authEnd_platform H hrun)
    rintro username flags hin ⟨ctx, hctx, _, _, ⟨rfl, _⟩ | ⟨rfl, hlogin⟩⟩ _
    · decide
    · rw [cachedFlags_lock]
      by_contra hlock
      rw [not_or] at hlock
      exact hnot ⟨hin, ctx, hctx, hlock.1, hlogin⟩
  | remoteLogin user password =>
    apply h.attempt (authRemoteLogin_platform H hrun)
    rintro _ _ _ ⟨⟩
  | remoteStatus autoStarted status id username recoveryKeyFile ctxFlags =>
    apply h.attempt (authRemoteStatus_platform H hrun)
    rintro _ _ hin ⟨rfl, rfl⟩ huser
    rw [cachedFlags_lock]
    by_contra hlock
    rw [not_or, not_not] at hlock
    exact hnot ⟨hin, huser, hlock.1, hlock.2⟩
  | escape =>
    have hescape := escapeKey_platform hrun
    have hsame := platform_same (congrFun hescape.1 _) (congrFun hescape.1 _)
    exact h.kept hescape.2 hsame.1 hsame.2
  | restart =>
    cases hrun
    exact h.kept (.inr rfl) rfl rfl
  | uivm domid =>
    cases hrun
    exact h.kept (.inl rfl) rfl rfl
  | xenstore path value =>
    cases hrun
    exact h.kept (.inl rfl) rfl rfl

theorem Unlocked.lock (h : Unlocked s) :
    wp (switcherLock true) (fun _ s' => ¬s'.locked) s := by
  refine wp_mono (switcherLock_leaves true s) ?_
  rintro _ s' ⟨hcontext, _⟩ ⟨ctx, hctx, hlock⟩
  rw [hcontext, State.lockContext] at hctx
  by_cases huser : s.platformUser = ""
  · rw [if_pos huser] at hctx
    exact h.context ⟨ctx, hctx, hlock⟩ huser
  · rw [if_neg huser] at hctx
    cases hctx
    have hcannot : authFlagCannotCancel &&& authFlagLock = 0 := by decide
    rw [if_pos rfl, or_and, h.flags huser, hcannot] at hlock
    exact hlock rfl

/-- A lock flag that the database holds is in the next context. -/
theorem lock_kept (huser : s.platformUser ≠ "") (hflags : ¬s.platformFlags &&& authFlagLock = 0) :
    wp (switcherLock true) (fun _ s' => s'.locked) s := by
  refine wp_mono (switcherLock_leaves true s) ?_
  rintro _ s' ⟨hcontext, _⟩
  rw [State.lockContext, if_neg huser] at hcontext
  refine ⟨_, hcontext, ?_⟩
  have hcannot : authFlagCannotCancel &&& authFlagLock = 0 := by decide
  rw [if_pos rfl, or_and, hcannot, UInt32.or_zero]
  exact hflags

/-- What a request carries over, the next lock finds. -/
theorem carries_locked (H : Helpers) (hrun : serve H r s = .ok ((), s')) (h : Carries r s s') :
    wp (switcherLock true) (fun _ s'' => s''.locked) s' := by
  cases r with
  | setContext user title flags =>
    cases hrun
    refine wp_mono (switcherLock_leaves true _) ?_
    rintro _ s' ⟨hcontext, _⟩
    rw [State.lockContext] at hcontext
    have huser : (State.platformUser { s with
        context := some ⟨user, title, flags⟩, status := "none", statusFlags := 0 }) = "" := h.2
    rw [if_pos huser] at hcontext
    exact ⟨_, hcontext, h.1⟩
  | authEnd user password passwordConfirm passwordOld =>
    obtain ⟨hin, ctx, hctx, hlock, hlogin⟩ := h
    obtain ⟨new, hmoved⟩ := authEnd_platform H hrun
    rw [LetsIn.iff hmoved.log] at hin
    obtain ⟨_, _, hunlocks⟩ | ⟨_, _, username, flags, ⟨ctx', hctx', hadmits⟩, huser, hflags⟩ :=
      hmoved.user
    · obtain ⟨ctx', hctx', hroot⟩ := hunlocks hin
      rw [hctx] at hctx'
      cases hctx'
      exact absurd hlogin.1 hroot
    · rw [hctx] at hctx'
      cases hctx'
      obtain ⟨hnonempty, rfl, ⟨_, hnot⟩ | ⟨rfl, _⟩⟩ := hadmits
      · exact absurd hlogin hnot
      · apply lock_kept
        · rw [huser]
          cases user with
          | none => cases hnonempty
          | some user => simpa [nonEmpty] using hnonempty
        · rw [hflags, cachedFlags_lock, not_or, not_not]
          exact ⟨hlock, hlogin.2.2.2⟩
  | remoteStatus autoStarted status id username recoveryKeyFile ctxFlags =>
    obtain ⟨hin, hnonempty, hlock, hremote⟩ := h
    obtain ⟨new, hmoved⟩ := authRemoteStatus_platform H hrun
    rw [LetsIn.iff hmoved.log] at hin
    obtain ⟨_, _, hunlocks⟩ | ⟨_, _, _, _, ⟨rfl, rfl⟩, huser, hflags⟩ := hmoved.user
    · exact (hunlocks hin).elim
    · apply lock_kept
      · rw [huser]
        exact hnonempty
      · rw [hflags, cachedFlags_lock, not_or, not_not]
        exact ⟨hlock, hremote⟩
  | lock _ => cases h
  | authForce => cases h
  | remoteLogin _ _ => cases h
  | escape => cases h
  | restart => cases h
  | uivm _ => cases h
  | xenstore _ _ => cases h

/-- The requests served one after the other. -/
abbrev Served (H : Helpers) : State → List Request → State → Prop :=
  Run fun r s s' => serve H r s = .ok ((), s')

/-- A lock that allows to switch out has no lock flag as long as no request carries one over, and
has one right after a request that does. -/
theorem switch_out_allowed (H : Helpers) :
    (∀ s₀ rs s, Fresh s₀ →
      Run (fun r s s' => serve H r s = .ok ((), s') ∧ ¬Carries r s s') s₀ rs s →
      ∃ b s', switcherLock true s = .ok (b, s') ∧ ¬s'.locked) ∧
    ∀ r s s', serve H r s = .ok ((), s') → Carries r s s' →
      ∃ b s'', switcherLock true s' = .ok (b, s'') ∧ s''.locked := by
  constructor
  · intro s₀ rs s hfresh hrun
    have hunlocked : Unlocked s := by
      apply hrun.invariant (I := fun _ => Unlocked)
      · exact ⟨hfresh.flags, fun hlocked => absurd hlocked (not_locked_none hfresh.context)⟩
      · intro rs r s s' hs hstep
        exact serve_unlocked H hs hstep.1 hstep.2
    exact hunlocked.lock
  · intro r s s' hrun hcarries
    exact carries_locked H hrun hcarries

/-- Nobody has been asked yet, and the platform has a local user. -/
def idle : State :=
  { asking 0 with
    context := none
    secureMode := false
    db := fun path => if path = "/platform/username" then some "user" else none }

theorem idle_fresh : Fresh idle where
  context := rfl
  flags _ := by decide +kernel

/-- One session: the screen is locked, and the user logs in. -/
def session : List Request :=
  [.lock false, .authEnd (some "user") (some "secret") none none]

/-- The lock flag of one session is in the context of a later lock that allows to switch out. -/
theorem lock_flag_kept : Fresh idle ∧ ∃ s b s', Served obliging idle session s ∧
    switcherLock true s = .ok (b, s') ∧ s'.locked := by
  have hrun : ((serve obliging (.lock false) >>= fun _ =>
      serve obliging (.authEnd (some "user") (some "secret") none none) >>= fun _ =>
      switcherLock true) idle).toOption.map
        (fun r => r.2.context.map fun ctx => ctx.flags &&& authFlagLock) = some (some 1) := by
    decide +kernel
  obtain ⟨⟨b, s'⟩, hok, hflag⟩ := returns_of_map hrun
  obtain ⟨_, s₁, hlock, hrest⟩ := run_bind hok
  obtain ⟨_, s₂, hlogin, hagain⟩ := run_bind hrest
  refine ⟨idle_fresh, s₂, b, s', ?_, hagain, ?_⟩
  · exact .snoc (.snoc .nil hlock) hlogin
  · obtain ⟨ctx, hctx, hflag⟩ := Option.map_eq_some_iff.mp hflag
    refine ⟨ctx, hctx, ?_⟩
    rw [hflag]
    decide

theorem switch_out_allowed_escape : ∃ s b s',
    Served obliging idle [.lock false, .escape] s ∧
      switcherLock true s = .ok (b, s') ∧ ¬s'.locked := by
  have hrun : ((serve obliging (.lock false) >>= fun _ => serve obliging .escape)
      idle).toOption.map (fun _ => ()) = some () := by
    decide +kernel
  obtain ⟨⟨_, s⟩, hok, _⟩ := returns_of_map hrun
  obtain ⟨_, s₁, hlock, hescape⟩ := run_bind hok
  obtain ⟨b, s', hagain, hlocked⟩ := (switch_out_allowed obliging).1 idle [.lock false, .escape] s
    idle_fresh (.snoc (.snoc .nil ⟨hlock, nofun⟩) ⟨hescape, nofun⟩)
  exact ⟨s, b, s', .snoc (.snoc .nil hlock) hescape, hagain, hlocked⟩

end InputServer.Secure
