import InputServer.LockFlags
import InputServer.Routing

namespace InputServer.Secure
open Program
set_option autoImplicit true

def KEY_ENTER : UInt16 := 28
def VALUE_KEY_DOWN : Int32 := 1

/-- What has been typed into the fields of the authentication window. -/
structure Fields where
  username : Option String
  passwd : Option String
  passwdConfirm : Option String
  passwdPrevious : Option String

/-- An event that is read from a keyboard, with the domid that is focused, whether
`input_exec_bindings` matches a sequence with it, and what has been typed before it. -/
structure KeyRead where
  event : InputEvent
  focused : Int
  matched : Bool
  fields : Fields

/-- Keys are not taken away while another domain than the UIVM is on screen. -/
def State.inputCheckSecureMode (s : State) (focused : Int) : Bool :=
  s.secureMode && s.uivm.all (· = focused)

/-- What `input_secure_mode` does about a key that is pressed. The other keys change nothing but
the fields. -/
def secureKey (H : Helpers) (code : UInt16) (fields : Fields) : AuthM Unit :=
  if code = KEY_ESC then escapeKey
  else if code = KEY_ENTER then
    authEnd H fields.username (some (fields.passwd.getD "")) fields.passwdConfirm
      fields.passwdPrevious
  else pure ()

/-- Whether an event is the press of a key of the authentication window. -/
def State.handles (s : State) (k : KeyRead) : Bool :=
  let locked := s.context.any fun ctx => ctx.flags &&& authFlagLock ≠ 0
  s.inputCheckSecureMode k.focused && (locked || !k.matched) &&
    k.event.type = EV_KEY && k.event.code < BTN_MOUSE && k.event.value = VALUE_KEY_DOWN

/-- `input_secure_mode`; true means that the event is dropped. -/
def inputSecureMode (H : Helpers) (k : KeyRead) : AuthM Bool := do
  let s ← get
  if !s.inputCheckSecureMode k.focused then pure false
  else if k.event.type = EV_REL ∨ k.event.type = EV_ABS ∨
      (k.event.type = EV_SYN ∧ k.event.code = SYN_REPORT) then pure false
  else
    onlyIf (s.handles k) (secureKey H k.event.code k.fields)
    pure true

/-- What happens to the daemon: a request, a key, or a change to what others hold. -/
inductive Ask where
  | request (r : Request)
  | key (k : KeyRead)
  | outside (uivm : Option Int) (xenstore db : String → Option String) (files : Files)

def ask (H : Helpers) : Ask → AuthM Unit
  | .request r => serve H r
  | .key k => discard (inputSecureMode H k)
  | .outside uivm xenstore db files => modify fun s =>
    { s with uivm := uivm, xenstore := xenstore, db := db, files := files }

/-- One thing after the other. -/
abbrev Asked (H : Helpers) : State → List Ask → State → Prop :=
  Run fun a s s' => ask H a s = .ok ((), s')

/-- Secure mode has a context. -/
def State.Backed (s : State) : Prop :=
  s.secureMode = true → s.context ≠ none

/-- Secure mode is not entered, and where it goes on a context stays. -/
def Retreats (s s' : State) : Prop :=
  s'.secureMode = true → s.secureMode = true ∧ (s.context ≠ none → s'.context ≠ none)

theorem Retreats.backed (h : Retreats s s') (hs : s.Backed) : s'.Backed := by
  intro hmode
  obtain ⟨hbefore, hkept⟩ := h hmode
  exact hkept (hs hbefore)

theorem retreats_same (hcontext : s'.context = s.context)
    (hmode : s'.secureMode = s.secureMode) : Retreats s s' := by
  intro hafter
  rw [hmode] at hafter
  refine ⟨hafter, ?_⟩
  rw [hcontext]
  exact id

instance : IsPreorder State Retreats where
  refl _ := retreats_same rfl rfl
  trans _ _ _ h h' := by
    intro hmode
    obtain ⟨hmiddle, hkept'⟩ := h' hmode
    obtain ⟨hbefore, hkept⟩ := h hmiddle
    exact ⟨hbefore, fun hcontext => hkept' (hkept hcontext)⟩

theorem inputSecure_off (s : State) :
    wlp (inputSecure false) (fun _ s' => s'.secureMode = false) s := by
  unfold inputSecure
  rw [wlp_bind, wlp_get]
  apply wlp_ite
  · intro hmode
    rw [wlp_pure]
    exact hmode.symm
  · intro _
    unfold emit
    rw [wlp_bind, wlp_modify, wlp_bind, wlp_modify, if_neg Bool.false_ne_true, wlp_pure]

/-- A status that takes the window away ends secure mode, and any other leaves it. -/
theorem authStatus_mode (status : AuthStatus) (flags : UInt32) (s : State) :
    wlp (authStatus status flags) (fun _ s' => s'.secureMode =
      if status.hideWindow then false else s.secureMode) s := by
  unfold authStatus
  have hhide : wlp (onlyIf status.hideWindow do
      modify fun s => { s with context := none }
      authWindow false
      discard (inputSecure false))
      (fun _ s' => s'.secureMode = if status.hideWindow then false else s.secureMode) s := by
    apply wlp_ite
    · intro hide
      rw [if_pos hide, wlp_bind, wlp_modify, wlp_bind]
      intro _ s₁ _
      change wlp (inputSecure false >>= fun _ => (pure () : AuthM Unit)) _ s₁
      rw [wlp_bind]
      refine wlp_mono (inputSecure_off s₁) ?_
      intro _ s₂ hs₂
      rw [wlp_pure]
      exact hs₂
    · intro hide
      rw [wlp_pure, if_neg hide]
  rw [wlp_bind]
  refine wlp_mono hhide ?_
  intro _ s' hs'
  unfold emit
  rw [wlp_bind, wlp_modify, wlp_modify]
  exact hs'

theorem authStatus_retreats (status : AuthStatus) (flags : UInt32) (s : State) :
    wlp (authStatus status flags) (fun _ => Retreats s) s := by
  intro a s' hrun
  have hmode := authStatus_mode status flags s a s' hrun
  have hsame := authStatus_same status flags s a s' hrun
  by_cases hide : status.hideWindow = true
  · rw [if_pos hide] at hmode
    intro hafter
    rw [hmode] at hafter
    cases hafter
  · rw [if_neg hide] at hmode
    have hcontext := hsame.context
    rw [if_neg hide] at hcontext
    exact retreats_same hcontext hmode

theorem retreats_permits (H : Helpers) : Permits H Retreats (fun _ => True) where
  silent _ _ hcontext hmode _ _ := retreats_same hcontext hmode
  assoc _ _ _ := retreats_same rfl rfl
  script _ _ := retreats_same rfl rfl
  remove _ _ _ := retreats_same rfl rfl
  write _ _ _ _ := retreats_same rfl rfl
  letIn s username ctxFlags uname flags _ := by
    unfold letIn authUpdateCache dbWrite
    rw [wlp_bind, wlp_bind, wlp_modify, wlp_bind, wlp_modify]
    change wlp (userAssoc uname username >>= fun _ => (pure () : AuthM Unit)) _ _
    unfold userAssoc dbWrite
    rw [wlp_bind, wlp_bind, wlp_modify, wlp_pure, wlp_pure]
    exact authStatus_retreats authOk flags _
  unlock s flags _ := authStatus_retreats authOk flags s

section
variable {s s' : State} (H : Helpers)

theorem overwrites_all (path : String) : Overwrites (fun _ => True) path :=
  ⟨trivial, trivial⟩

theorem authEnd_retreats (user password passwordConfirm passwordOld : Option String) (s : State) :
    wlp (authEnd H user password passwordConfirm passwordOld) (fun _ => Retreats s) s := by
  have hmoves : Moves (fun _ => True) Retreats
      (authEnd H user password passwordConfirm passwordOld) s :=
    authEnd_moves (retreats_permits H) (fun _ _ _ => trivial) (fun _ _ _ _ => trivial)
      (fun _ _ _ _ _ _ => trivial) overwrites_all password passwordConfirm passwordOld
  intro a s' hrun
  exact (hmoves trivial a s' hrun).2.1

theorem escapeKey_retreats (s : State) : wlp escapeKey (fun _ => Retreats s) s := by
  unfold escapeKey
  rw [wlp_bind, wlp_get]
  cases s.context with
  | none => exact wlp_throw _ _ _
  | some ctx =>
    change wlp (if ctx.flags &&& authFlagCannotCancel ≠ 0 then authStatus authUserCancelDontHide 0
      else authStatus authUserCancel 0) _ s
    exact wlp_ite (fun _ => authStatus_retreats _ _ s) fun _ => authStatus_retreats _ _ s

theorem secureKey_retreats (code : UInt16) (fields : Fields) (s : State) :
    wlp (secureKey H code fields) (fun _ => Retreats s) s := by
  unfold secureKey
  apply wlp_ite
  · intro _
    exact escapeKey_retreats s
  · intro _
    apply wlp_ite
    · intro _
      exact authEnd_retreats H _ _ _ _ s
    · intro _
      rw [wlp_pure]
      exact retreats_same rfl rfl

theorem inputSecureMode_retreats (k : KeyRead) (s : State) :
    wlp (inputSecureMode H k) (fun _ => Retreats s) s := by
  unfold inputSecureMode
  rw [wlp_bind, wlp_get]
  apply wlp_ite
  · intro _
    rw [wlp_pure]
    exact retreats_same rfl rfl
  · intro _
    apply wlp_ite
    · intro _
      rw [wlp_pure]
      exact retreats_same rfl rfl
    · intro _
      rw [wlp_bind]
      apply wlp_ite
      · intro _
        refine wlp_mono (secureKey_retreats H k.event.code k.fields s) ?_
        intro _ s' hs'
        rw [wlp_pure]
        exact hs'
      · intro _
        rw [wlp_pure, wlp_pure]
        exact retreats_same rfl rfl

/-- The requests that may enter secure mode. -/
def Ask.enters : Ask → Bool
  | .request (.lock _) => true
  | .request .authForce => true
  | _ => false

theorem ask_retreats (H : Helpers) {a : Ask} (henters : a.enters = false)
    (hrun : ask H a s = .ok ((), s')) : Retreats s s' := by
  cases a with
  | key k =>
    obtain ⟨b, hkey⟩ := discard_ok hrun
    exact inputSecureMode_retreats H k s b s' hkey
  | outside uivm xenstore db files =>
    cases hrun
    exact retreats_same rfl rfl
  | request r =>
    cases r with
    | lock canSwitchOut => cases henters
    | authForce => cases henters
    | setContext user title flags =>
      cases hrun
      intro hmode
      exact ⟨hmode, fun _ => nofun⟩
    | authEnd user password passwordConfirm passwordOld =>
      exact authEnd_retreats H user password passwordConfirm passwordOld s () s' hrun
    | remoteLogin user password =>
      exact (authRemoteLogin_goes (retreats_permits H) overwrites_all user password s trivial ()
        s' hrun).2.1
    | remoteStatus autoStarted status id username recoveryKeyFile ctxFlags =>
      exact (authRemoteStatus_goes (retreats_permits H) trivial (fun _ => trivial)
        (fun _ => trivial) (fun _ => trivial) status id s trivial () s' hrun).2.1
    | escape => exact escapeKey_retreats s () s' hrun
    | restart =>
      cases hrun
      exact nofun
    | uivm domid =>
      cases hrun
      exact retreats_same rfl rfl
    | xenstore path value =>
      cases hrun
      exact retreats_same rfl rfl

/-- Whether the window of the UIVM is reported as shown. -/
def State.windowShown (s : State) (domid : Int) : Bool :=
  (s.xenstore (stateNode domid)).any (· ≠ "3")

/-- A UIVM is there that does not show the window yet. -/
def State.CanShow (s : State) : Prop :=
  ∃ domid, s.uivm = some domid ∧ s.windowShown domid = false

/-- What `auth_begin` needs. -/
def State.CanBegin (s : State) : Prop :=
  s.context ≠ none ∧ s.CanShow

theorem authWindowShown_ok (h : s.uivm = some domid) :
    authWindowShown s = .ok (s.windowShown domid, s) := by
  unfold authWindowShown State.windowShown
  rw [bind_ok (get_apply s), h]
  cases hnode : s.xenstore (stateNode domid) with
  | none => simp only [hnode]; rfl
  | some v => simp only [hnode]; rfl

theorem authBegin_begins (h : s.CanBegin) :
    wp authBegin (fun began s' => began = true ∧ Same s s' ∧ s'.secureMode = s.secureMode) s := by
  obtain ⟨hcontext, domid, huivm, hhidden⟩ := h
  have hneeds : ¬(s.context.isNone = true ∨ s.uivm.isNone = true) := by
    rw [Option.isNone_iff_eq_none, huivm]
    simp [hcontext]
  unfold authBegin
  rw [wp_bind, wp_get, if_neg hneeds, wp_bind]
  refine ⟨_, _, authWindowShown_ok huivm, ?_⟩
  dsimp only
  rw [hhidden, if_neg Bool.false_ne_true, wp_bind]
  unfold authWindow xenstoreWrite
  rw [wp_bind, wp_get, huivm]
  dsimp only
  rw [if_pos rfl, wp_bind, wp_modify, wp_modify, wp_pure]
  exact ⟨rfl, ⟨rfl, rfl, rfl⟩, rfl⟩

theorem authBegin_fails (h : ¬s.CanBegin) : authBegin s = .ok (false, s) := by
  unfold authBegin
  rw [bind_ok (get_apply s)]
  by_cases hnone : s.context.isNone = true ∨ s.uivm.isNone = true
  · rw [if_pos hnone]
    rfl
  · rw [if_neg hnone]
    rw [not_or, Option.isNone_iff_eq_none, Option.isNone_iff_eq_none] at hnone
    obtain ⟨domid, huivm⟩ := Option.ne_none_iff_exists'.mp hnone.2
    have hshown : s.windowShown domid = true := by
      rw [← Bool.not_eq_false]
      exact fun hhidden => h ⟨hnone.1, domid, huivm, hhidden⟩
    rw [bind_ok (authWindowShown_ok huivm), hshown]
    rfl

/-- `input_secure(1)` is in secure mode afterwards, whether authentication began or not. -/
theorem inputSecure_enters (s : State) :
    wp (inputSecure true) (fun began s' => s'.context = s.context ∧ s'.secureMode = true ∧
      (began = true ↔ s.secureMode = false ∧ s.CanBegin)) s := by
  unfold inputSecure emit
  rw [wp_bind, wp_get]
  by_cases hmode : s.secureMode = true
  · rw [if_pos hmode.symm, wp_pure]
    exact ⟨rfl, hmode, by simp [hmode]⟩
  · rw [if_neg (fun h => hmode h.symm), wp_bind, wp_modify, wp_bind, wp_modify, if_pos rfl]
    rw [Bool.not_eq_true] at hmode
    by_cases hbegin : s.CanBegin
    · refine wp_mono (authBegin_begins hbegin) ?_
      rintro began s' ⟨hbegan, hsame, hentered⟩
      exact ⟨hsame.context, hentered, by simp [hbegan, hmode, hbegin]⟩
    · exact ⟨_, _, authBegin_fails hbegin, rfl, rfl, by simp [hbegin]⟩

/-- The state in which `switcher_lock` enters secure mode. -/
def State.locking (s : State) (canSwitchOut : Bool) : State :=
  { s with context := s.lockContext canSwitchOut, status := "none", statusFlags := 0 }

/-- The state in which `switcher_auth_force` enters secure mode. -/
def State.forcing (s : State) : State :=
  if s.context = none then
    { s with
      context := some ⟨s.platformUser, s.platformUser,
        s.platformFlags &&& ~~~authFlagLock ||| authFlagCannotCancel⟩
      status := "none"
      statusFlags := 0 }
  else s

theorem switcherLock_eq (canSwitchOut : Bool) (s : State) :
    switcherLock canSwitchOut s =
      if s.platformUser = "" then .ok (false, s) else inputSecure true (s.locking canSwitchOut) := by
  unfold switcherLock
  rw [bind_ok (dbRead_ok _ s)]
  change (if s.platformUser ≠ "" then _ else _ : AuthM Bool) s = _
  by_cases huser : s.platformUser = ""
  · rw [if_neg (not_not_intro huser), if_pos huser]
    rfl
  · rw [if_pos huser, if_neg huser, bind_ok (platformFlags_ok s), State.locking,
      State.lockContext, if_neg huser]
    rfl

theorem switcherAuthForce_eq (s : State) :
    switcherAuthForce s =
      if s.context = none ∧ s.platformUser = "" then .ok (false, s)
      else inputSecure true s.forcing := by
  unfold switcherAuthForce State.forcing
  rw [bind_ok (get_apply s)]
  cases hcontext : s.context with
  | some ctx => rfl
  | none =>
    rw [if_pos (show (none : Option AuthContext).isNone = true from rfl), bind_ok (dbRead_ok _ s)]
    change (if s.platformUser ≠ "" then _ else _ : AuthM Bool) s = _
    by_cases huser : s.platformUser = ""
    · rw [if_neg (not_not_intro huser), if_pos ⟨rfl, huser⟩]
      rfl
    · rw [if_pos huser, if_neg (fun h => huser h.2), bind_ok (platformFlags_ok s)]
      rfl

theorem locking_context (canSwitchOut : Bool) (huser : s.platformUser ≠ "") :
    (s.locking canSwitchOut).context ≠ none := by
  rw [State.locking, State.lockContext, if_neg huser]
  exact Option.some_ne_none _

theorem forcing_context (s : State) : s.forcing.context ≠ none := by
  unfold State.forcing
  split
  · exact nofun
  · assumption

/-- The state in which a request makes the attempt to enter secure mode. -/
def Ask.attempts : Ask → State → Option State
  | .request (.lock canSwitchOut), s =>
    if s.platformUser = "" then none else some (s.locking canSwitchOut)
  | .request .authForce, s =>
    if s.context = none ∧ s.platformUser = "" then none else some s.forcing
  | _, _ => none

theorem attempts_context {a : Ask} (h : a.attempts s = some t) : t.context ≠ none := by
  unfold Ask.attempts at h
  split at h
  · rename_i canSwitchOut
    split at h
    · cases h
    · rename_i huser
      cases h
      exact locking_context canSwitchOut huser
  · split at h
    · cases h
    · cases h
      exact forcing_context s
  · cases h

/-- A request that enters secure mode is `input_secure(1)`, or nothing where there is no user. -/
theorem ask_attempts {a : Ask} (henters : a.enters = true) (hrun : ask H a s = .ok ((), s')) :
    (a.attempts s = none ∧ s' = s) ∨
      ∃ t began, a.attempts s = some t ∧ inputSecure true t = .ok (began, s') := by
  unfold Ask.enters at henters
  split at henters
  · obtain ⟨b, hlock⟩ := discard_ok hrun
    rw [switcherLock_eq] at hlock
    unfold Ask.attempts
    split at hlock
    · rename_i huser
      cases hlock
      exact .inl ⟨if_pos huser, rfl⟩
    · rename_i huser
      exact .inr ⟨_, b, if_neg huser, hlock⟩
  · obtain ⟨b, hforce⟩ := discard_ok hrun
    rw [switcherAuthForce_eq] at hforce
    unfold Ask.attempts
    split at hforce
    · rename_i hnobody
      cases hforce
      exact .inl ⟨if_pos hnobody, rfl⟩
    · rename_i hsomebody
      exact .inr ⟨_, b, if_neg hsomebody, hforce⟩
  · cases henters

theorem ask_backed {a : Ask} (h : s.Backed) (hrun : ask H a s = .ok ((), s')) : s'.Backed := by
  cases henters : a.enters with
  | false => exact (ask_retreats H henters hrun).backed h
  | true =>
    obtain ⟨_, rfl⟩ | ⟨t, began, hattempts, hsecure⟩ := ask_attempts H henters hrun
    · exact h
    · have hcontext := attempts_context hattempts
      obtain ⟨b, t', hrun', hkept, _⟩ := inputSecure_enters t
      rw [hsecure] at hrun'
      cases hrun'
      intro _
      rw [hkept]
      exact hcontext

/-- Whatever is asked, and in whichever order: in secure mode there is a context, so that no key of
the authentication window is handled without. -/
theorem secure_has_context (s₀ s : State) (as : List Ask) (h₀ : s₀.secureMode = false)
    (hrun : Asked H s₀ as s) :
    (s.secureMode = true → s.context ≠ none) ∧
      ∀ k, s.handles k = true → ∃ ctx, s.context = some ctx ∧
        escapeKey s = authStatus (if ctx.flags &&& authFlagCannotCancel ≠ 0 then
          authUserCancelDontHide else authUserCancel) 0 s := by
  have hbacked : s.Backed := by
    apply hrun.invariant (I := fun _ => State.Backed)
    · intro hmode
      rw [h₀] at hmode
      cases hmode
    · intro as a s s' hs hstep
      exact ask_backed H hs hstep
  refine ⟨hbacked, ?_⟩
  intro k hhandles
  have hmode : s.secureMode = true := by
    simp only [State.handles, State.inputCheckSecureMode, Bool.and_eq_true] at hhandles
    exact hhandles.1.1.1.1.1
  obtain ⟨ctx, hctx⟩ := Option.ne_none_iff_exists'.mp (hbacked hmode)
  refine ⟨ctx, hctx, ?_⟩
  unfold escapeKey
  rw [bind_ok (get_apply s), hctx]
  dsimp only
  split <;> rfl

theorem attempts_same {a : Ask} (h : a.attempts s = some t) :
    t.secureMode = s.secureMode ∧ t.uivm = s.uivm ∧ t.xenstore = s.xenstore := by
  unfold Ask.attempts at h
  split at h
  · split at h
    · cases h
    · cases h
      exact ⟨rfl, rfl, rfl⟩
  · split at h
    · cases h
    · cases h
      unfold State.forcing
      split <;> exact ⟨rfl, rfl, rfl⟩
  · cases h

theorem attempts_canBegin {a : Ask} (h : a.attempts s = some t) (hshow : s.CanShow) :
    t.CanBegin := by
  obtain ⟨domid, huivm, hhidden⟩ := hshow
  obtain ⟨_, huivm', hxenstore⟩ := attempts_same h
  refine ⟨attempts_context h, domid, huivm'.trans huivm, ?_⟩
  rw [State.windowShown, hxenstore]
  exact hhidden

/-- An attempt began authentication, and secure mode has been on from then. -/
def Began (H : Helpers) (s₀ : State) (as : List Ask) (s : State) : Prop :=
  ∃ before a after s₁ s₂ t, as = before ++ a :: after ∧ Asked H s₀ before s₁ ∧
    a.attempts s₁ = some t ∧ inputSecure true t = .ok (true, s₂) ∧
    Run (fun a s s' => ask H a s = .ok ((), s') ∧ s'.secureMode = true) s₂ after s

theorem Began.snoc (h : Began H s₀ as s) (hrun : ask H a s = .ok ((), s'))
    (hmode : s'.secureMode = true) : Began H s₀ (as ++ [a]) s' := by
  obtain ⟨before, b, after, s₁, s₂, t, has, hbefore, hattempts, hbegan, hafter⟩ := h
  refine ⟨before, b, after ++ [a], s₁, s₂, t, ?_, hbefore, hattempts, hbegan, ?_⟩
  · rw [has, List.append_assoc]
    rfl
  · exact .snoc hafter ⟨hrun, hmode⟩

/-- The request is made in secure mode, or the window can be shown, unless there is no user. -/
def Ask.Starts (a : Ask) (s : State) : Prop :=
  a.attempts s ≠ none → s.secureMode = true ∨ s.CanShow

theorem began_snoc (hrun : Asked H s₀ as s) (h : s.secureMode = true → Began H s₀ as s)
    (hask : ask H a s = .ok ((), s')) (hstarts : a.Starts s) (hmode : s'.secureMode = true) :
    Began H s₀ (as ++ [a]) s' := by
  cases henters : a.enters with
  | false =>
    obtain ⟨hbefore, _⟩ := ask_retreats H henters hask hmode
    exact (h hbefore).snoc H hask hmode
  | true =>
    obtain ⟨_, rfl⟩ | ⟨t, began, hattempts, hsecure⟩ := ask_attempts H henters hask
    · exact (h hmode).snoc H hask hmode
    · by_cases hbefore : s.secureMode = true
      · exact (h hbefore).snoc H hask hmode
      · have hshow := (hstarts (by rw [hattempts]; exact nofun)).resolve_left hbefore
        have hbegan : began = true := by
          obtain ⟨b, t', hrun', _, _, hiff⟩ := inputSecure_enters t
          rw [hsecure] at hrun'
          cases hrun'
          rw [hiff, (attempts_same hattempts).1]
          exact ⟨Bool.eq_false_iff.mpr hbefore, attempts_canBegin hattempts hshow⟩
        rw [hbegan] at hsecure
        exact ⟨as, a, [], s, s', t, rfl, hrun, hattempts, hsecure, .nil⟩

/-- A failed `input_secure(1)` leaves secure mode as it was exactly when the mode is on already, or
there was nothing to fail; and where no attempt can fail, secure mode comes with authentication. -/
theorem failed_start :
    (∀ s, ∃ began s', inputSecure true s = .ok (began, s') ∧
      ((began = false → s'.secureMode = s.secureMode) ↔ s.secureMode = true ∨ s.CanBegin)) ∧
    ∀ s₀ as s, s₀.secureMode = false →
      Run (fun a s s' => ask H a s = .ok ((), s') ∧ a.Starts s) s₀ as s →
      s.secureMode = true → Began H s₀ as s := by
  constructor
  · intro s
    obtain ⟨began, s', hrun, _, hmode, hiff⟩ := inputSecure_enters s
    refine ⟨began, s', hrun, ?_⟩
    rw [hmode]
    cases hbefore : s.secureMode with
    | true => exact ⟨fun _ => .inl rfl, fun _ _ => rfl⟩
    | false =>
      rw [hbefore] at hiff
      cases began with
      | true => exact ⟨fun _ => .inr (hiff.mp rfl).2, nofun⟩
      | false =>
        constructor
        · intro h
          exact absurd (h rfl) nofun
        · rintro (h | h)
          · cases h
          · exact absurd (hiff.mpr ⟨rfl, h⟩) nofun
  · intro s₀ as s h₀ hrun
    induction hrun with
    | nil =>
      intro hmode
      rw [h₀] at hmode
      cases hmode
    | snoc hbefore hstep ih =>
      exact began_snoc H (hbefore.mono fun _ _ _ h => h.1) ih hstep.1 hstep.2

end

/-- In secure mode a lock makes no attempt. -/
theorem lock_again (canSwitchOut : Bool) (hmode : s.secureMode = true) :
    ∃ s', switcherLock canSwitchOut s = .ok (false, s') ∧ s'.xenstore = s.xenstore := by
  rw [switcherLock_eq]
  by_cases huser : s.platformUser = ""
  · rw [if_pos huser]
    exact ⟨s, rfl, rfl⟩
  · rw [if_neg huser]
    have honce : inputSecure true (s.locking canSwitchOut) =
        .ok (false, s.locking canSwitchOut) := by
      unfold inputSecure
      rw [bind_ok (get_apply _), if_pos (show true = (s.locking canSwitchOut).secureMode from
        hmode.symm)]
      rfl
    exact ⟨_, honce, rfl⟩

/-- The platform has a user, and its UIVM is being started anew. -/
def deserted : State :=
  { idle with uivm := none, xenstore := fun _ => none }

def State.returned (s : State) : State :=
  { s with uivm := some 1 }

/-- A lock without a UIVM fails and leaves secure mode on, so that the lock after the UIVM is back
does not show its window. -/
theorem failed_start_traps : deserted.secureMode = false ∧
    ∃ s s', switcherLock false deserted = .ok (false, s) ∧ s.secureMode = true ∧
      s.returned.CanBegin ∧ switcherLock false s.returned = .ok (false, s') ∧
      s'.xenstore (stateNode 1) = none := by
  refine ⟨rfl, ?_⟩
  have hfirst : (switcherLock false deserted).toOption.map (fun r => (r.1, r.2.secureMode,
      r.2.context.isSome, r.2.xenstore (stateNode 1))) = some (false, true, true, none) := by
    decide +kernel
  obtain ⟨⟨began, s⟩, hlock, heq⟩ := returns_of_map hfirst
  obtain ⟨rfl, hmode, hcontext, hnode⟩ : began = false ∧ s.secureMode = true ∧
      s.context.isSome = true ∧ s.xenstore (stateNode 1) = none := by
    simpa using heq
  have hbegin : s.returned.CanBegin := by
    refine ⟨Option.isSome_iff_ne_none.mp hcontext, 1, rfl, ?_⟩
    change (s.xenstore (stateNode 1)).any _ = false
    rw [hnode]
    rfl
  obtain ⟨s', hagain, hsame⟩ := lock_again false (s := s.returned) hmode
  refine ⟨s, s', hlock, hmode, hbegin, hagain, ?_⟩
  rw [hsame]
  exact hnode

/-- Its UIVM is there, and shows no window. -/
def prepared : State :=
  deserted.returned

theorem prepared_locks : ∃ s, ask obliging (.request (.lock false)) prepared = .ok ((), s) ∧
    s.secureMode = true := by
  have hrun : (ask obliging (.request (.lock false)) prepared).toOption.map
      (fun r => r.2.secureMode) = some true := by
    decide +kernel
  obtain ⟨⟨_, s⟩, hlock, hmode⟩ := returns_of_map hrun
  exact ⟨s, hlock, hmode⟩

theorem failed_start_prepared : ∃ s, Asked obliging prepared [.request (.lock false)] s ∧
    s.secureMode = true ∧ Began obliging prepared [.request (.lock false)] s := by
  obtain ⟨s, hlock, hmode⟩ := prepared_locks
  refine ⟨s, .snoc .nil hlock, hmode, ?_⟩
  apply (failed_start obliging).2 prepared _ s rfl (.snoc .nil ⟨hlock, ?_⟩) hmode
  intro _
  exact .inr ⟨1, rfl, rfl⟩

theorem secure_has_context_prepared : ∃ s, Asked obliging prepared [.request (.lock false)] s ∧
    s.secureMode = true ∧ s.context ≠ none := by
  obtain ⟨s, hlock, hmode⟩ := prepared_locks
  have hcontext := secure_has_context obliging prepared s _ rfl (.snoc .nil hlock)
  exact ⟨s, .snoc .nil hlock, hmode, hcontext.1 hmode⟩

end InputServer.Secure
