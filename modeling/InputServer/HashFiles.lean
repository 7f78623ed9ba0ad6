import InputServer.AuthEffects
import InputServer.PasswordChecked

namespace InputServer.Secure
open Program
set_option autoImplicit true

/-- What a file may become, from what it was. -/
def Along (ρ : Option (List UInt8) → Option (List UInt8) → Prop) (path : String)
    (s s' : State) : Prop :=
  ρ (s.files path) (s'.files path)

instance [h : IsPreorder (Option (List UInt8)) ρ] : IsPreorder State (Along ρ path) where
  refl s := h.refl (s.files path)
  trans s s' s'' := h.trans (s.files path) (s'.files path) (s''.files path)

section
variable {H : Helpers} {ρ : Option (List UInt8) → Option (List UInt8) → Prop}
  [IsPreorder (Option (List UInt8)) ρ]

theorem along_permits {may : Act → Prop}
    (hscript : ∀ ran files c, ρ (files path) ((H.script ran files c).2 path))
    (hremove : may (.remove path) → ∀ a, ρ a none) (hwrite : ¬may (.write path)) :
    Permits H (Along ρ path) may where
  silent _ _ _ _ hfiles _ := by
    rw [Along, hfiles]
    exact refl _
  assoc s _ _ := refl (r := ρ) (s.files path)
  script s c := hscript s.ran s.files c
  remove s other h := by
    change ρ (s.files path) (Function.update s.files other none path)
    by_cases hother : path = other
    · rw [hother] at hremove ⊢
      rw [Function.update_self]
      exact hremove h _
    · rw [Function.update_of_ne hother]
      exact refl _
  write s other content h := by
    change ρ (s.files path) (Function.update s.files other (some content) path)
    by_cases hother : path = other
    · rw [hother] at hwrite
      exact absurd h hwrite
    · rw [Function.update_of_ne hother]
      exact refl _
  letIn s _ _ uname flags _ := by
    refine wlp_mono (letIn_same _ _ _ _ s) ?_
    intro _ s' hs'
    rw [Along, hs'.files]
    exact refl _
  unlock s flags _ := by
    refine wlp_mono (authStatus_same _ _ s) ?_
    intro _ s' hs'
    rw [Along, hs'.files]
    exact refl _

end

theorem onlyIf_remove_ok {p : Prop} [Decidable p]
    (h : onlyIf p (remove path) s = .ok (a, s')) :
    s'.log = s.log ∧ s'.files = if p then Function.update s.files path none else s.files := by
  unfold onlyIf at h
  by_cases hp : p
  · rw [if_pos hp] at h ⊢
    cases h
    exact ⟨rfl, rfl⟩
  · rw [if_neg hp] at h ⊢
    cases h
    exact ⟨rfl, rfl⟩

theorem removed_stays {p : Prop} [Decidable p] {files : Files} (hnone : files path = none) :
    (if p then Function.update files other none else files) path = none := by
  by_cases hp : p
  · rw [if_pos hp]
    by_cases hother : path = other
    · rw [hother, Function.update_self]
    · rw [Function.update_of_ne hother, hnone]
  · rw [if_neg hp, hnone]

/-- The scripts neither create nor delete the file. -/
def Spares (H : Helpers) (path : String) : Prop :=
  ∀ ran files c, ((H.script ran files c).2 path).isSome = (files path).isSome

/-- Everything but writing files. -/
def Act.Removes : Act → Prop
  | .write _ => False
  | _ => True

/-- Removing other files than this one. -/
def Act.Elsewhere (kept : String) : Act → Prop
  | .remove path => path ≠ kept
  | .write _ => False
  | _ => True

section
variable {H : Helpers} {autoStarted : Bool} {status : Int} {id : Option String}
  {recoveryKeyFile : Option String}

/-- A recovery is started only with the signal that asks for it. -/
theorem reportRemote_started (h : reportRemote H report flags id username recoveryKeyFile fname
    ctxFlags s = .ok (started, s')) :
    ∃ new, s'.log = s.log ++ new ∧ (started = true → new.any AuthEvent.isRecovery) := by
  cases report with
  | none =>
    cases h
    exact ⟨[], (List.append_nil _).symm, nofun⟩
  | some report =>
    cases report with
    | localAuth remoteOk flag =>
      obtain ⟨new, hnew, _, hstarted⟩ := localAuth_reports H _ _ _ _ _ _ _ _ _ _ _ h
      exact ⟨new, hnew, fun hs => (hstarted hs).2⟩
    | report status flag =>
      obtain ⟨_, s₁, h₁, h₂⟩ := run_bind h
      obtain ⟨new, hnew, _⟩ := authStatus_logs status (flags ||| flag) s _ _ h₁
      cases h₂
      exact ⟨new, hnew, nofun⟩

theorem reportRemote_creates_not (hspares : Spares H path)
    (h : reportRemote H (remoteReport status) (if autoStarted then authFlagAutoStarted else
      authFlagNone) id username recoveryKeyFile fname ctxFlags s = .ok (started, s'))
    (hnone : s.files path = none) : s'.files path = none := by
  have hgone : IsPreorder (Option (List UInt8)) fun a b => a = none → b = none :=
    { refl := fun _ h => h, trans := fun _ _ _ hab hbc h => hbc (hab h) }
  have hpermits : Permits H (Along (fun a b => a = none → b = none) path) Act.Removes := by
    apply along_permits
    · intro ran files c hfile
      have hsame := hspares ran files c
      rw [hfile] at hsame
      exact Option.isSome_eq_false_iff.mp hsame |> Option.isNone_iff_eq_none.mp
    · intro _ _ _
      rfl
    · intro hwrite
      exact hwrite
  have hgoes : Goes (Along (fun a b => a = none → b = none) path)
      (reportRemote H (remoteReport status) (if autoStarted then authFlagAutoStarted else
        authFlagNone) id username recoveryKeyFile fname ctxFlags) :=
    reportRemote_goes hpermits trivial (fun _ => trivial) (fun _ => trivial) status id
  exact (hgoes s trivial started s' h).2.1 hnone

/-- What is left of the files of an attempt. -/
theorem authRemoteStatus_cleans (hremote : Spares H (remoteHashFile H username))
    (h : authRemoteStatus H autoStarted status id username recoveryKeyFile ctxFlags s =
      .ok ((), s')) :
    ∃ new, s'.log = s.log ++ new ∧
      (autoStarted = false → s'.files (remoteHashFile H username) = none ∧
        ((s'.files (localHashFile H username)).isSome → new.any AuthEvent.isRecovery)) ∧
      (nonEmpty recoveryKeyFile → (s'.files (recoveryKeyFile.getD "")).isSome →
        new.any AuthEvent.isRecovery) := by
  obtain ⟨_, s₁, h₁, hrun⟩ := run_bind h
  obtain ⟨started, s₂, h₂, hrun⟩ := run_bind hrun
  obtain ⟨_, s₃, h₃, h₄⟩ := run_bind hrun
  obtain ⟨hlog₁, hfiles₁⟩ := onlyIf_remove_ok h₁
  obtain ⟨hlog₃, hfiles₃⟩ := onlyIf_remove_ok h₃
  obtain ⟨hlog₄, hfiles₄⟩ := onlyIf_remove_ok h₄
  obtain ⟨new, hnew, hstarted⟩ := reportRemote_started h₂
  refine ⟨new, by rw [hlog₄, hlog₃, hnew, hlog₁], ?_, ?_⟩
  · intro hauto
    subst hauto
    constructor
    · have hnone₁ : s₁.files (remoteHashFile H username) = none := by
        rw [hfiles₁, if_pos Bool.not_false, Function.update_self]
      have hnone₂ := reportRemote_creates_not hremote h₂ hnone₁
      rw [hfiles₄]
      apply removed_stays
      rw [hfiles₃]
      exact removed_stays hnone₂
    · intro hlocal
      cases started with
      | true => exact hstarted rfl
      | false =>
        have hnone₃ : s₃.files (localHashFile H username) = none := by
          rw [hfiles₃, if_pos ⟨Bool.not_false, Bool.not_false⟩, Function.update_self]
        rw [hfiles₄, removed_stays hnone₃] at hlocal
        cases hlocal
  · intro hkey hleft
    cases started with
    | true => exact hstarted rfl
    | false =>
      rw [hfiles₄, if_pos ⟨hkey, Bool.not_false⟩, Function.update_self] at hleft
      cases hleft

/-- An attempt started automatically does not touch the local hash file, unless that is passed as
the recovery key file. -/
theorem authRemoteStatus_keeps {ρ : Option (List UInt8) → Option (List UInt8) → Prop}
    [IsPreorder (Option (List UInt8)) ρ]
    (hscript : ∀ ran files c,
      ρ (files (localHashFile H username)) ((H.script ran files c).2 (localHashFile H username)))
    (hkey : recoveryKeyFile ≠ some (localHashFile H username))
    (h : authRemoteStatus H true status id username recoveryKeyFile ctxFlags s = .ok ((), s')) :
    ρ (s.files (localHashFile H username)) (s'.files (localHashFile H username)) := by
  have hpermits : Permits H (Along ρ (localHashFile H username))
      (Act.Elsewhere (localHashFile H username)) := by
    apply along_permits hscript
    · intro hremove
      exact absurd rfl hremove
    · intro hwrite
      exact hwrite
  have hgoes : Goes (Along ρ (localHashFile H username))
      (authRemoteStatus H true status id username recoveryKeyFile ctxFlags) := by
    apply authRemoteStatus_goes hpermits trivial
    · intro hauto
      cases hauto
    · intro hauto
      cases hauto
    · intro hnonempty
      cases recoveryKeyFile with
      | none => cases hnonempty
      | some key =>
        intro heq
        exact hkey (congrArg some heq)
  exact (hgoes s trivial () s' h).2.1

end

/-- Hash and key files do not linger: what is left after an attempt belongs to a recovery. -/
theorem hash_files_cleaned (H : Helpers) (autoStarted : Bool) (status : Int) (id : Option String)
    (username : String) (recoveryKeyFile : Option String) (ctxFlags : UInt32) (s s' : State)
    (hremote : Spares H (remoteHashFile H username))
    (hlocal : Spares H (localHashFile H username))
    (h : authRemoteStatus H autoStarted status id username recoveryKeyFile ctxFlags s =
      .ok ((), s')) :
    ∃ new, s'.log = s.log ++ new ∧
      (autoStarted = false →
        s'.files (remoteHashFile H username) = none ∧
        ((s'.files (localHashFile H username)).isSome → new.any AuthEvent.isRecovery) ∧
        (nonEmpty recoveryKeyFile → (s'.files (recoveryKeyFile.getD "")).isSome →
          new.any AuthEvent.isRecovery)) ∧
      (autoStarted = true → recoveryKeyFile ≠ some (localHashFile H username) →
        (s'.files (localHashFile H username)).isSome =
          (s.files (localHashFile H username)).isSome ∧
        ((∀ ran files c, (H.script ran files c).2 (localHashFile H username) =
            files (localHashFile H username)) →
          s'.files (localHashFile H username) = s.files (localHashFile H username))) := by
  obtain ⟨new, hnew, hcleaned, hkey⟩ := authRemoteStatus_cleans hremote h
  refine ⟨new, hnew, ?_, ?_⟩
  · intro hauto
    exact ⟨(hcleaned hauto).1, (hcleaned hauto).2, hkey⟩
  · intro hauto hother
    subst hauto
    have hexists : IsPreorder (Option (List UInt8)) fun a b => b.isSome = a.isSome :=
      { refl := fun _ => rfl, trans := fun _ _ _ hab hbc => hbc.trans hab }
    have hsame : IsPreorder (Option (List UInt8)) fun a b => b = a :=
      { refl := fun _ => rfl, trans := fun _ _ _ hab hbc => hbc.trans hab }
    constructor
    · exact authRemoteStatus_keeps (ρ := fun a b => b.isSome = a.isSome) hlocal hother h
    · intro hcontent
      exact authRemoteStatus_keeps (ρ := fun a b => b = a) hcontent hother h

/-- `asking` with every file there is. -/
def holding (flags : UInt32) : State :=
  { asking flags with files := fun _ => some [] }

theorem obliging_spares (path : String) : Spares obliging path := by
  intro _ _ _
  rfl

/-- A local hash file that is passed as the recovery key file of an automatic attempt is removed. -/
theorem hash_file_taken_as_key : (∀ path, Spares obliging path) ∧
    ∃ s', authRemoteStatus obliging true 2 (some "id") "user"
        (some (localHashFile obliging "user")) 0 (holding 0) = .ok ((), s') ∧
      ((holding 0).files (localHashFile obliging "user")).isSome = true ∧
      (s'.files (localHashFile obliging "user")).isSome = false := by
  have hrun : (authRemoteStatus obliging true 2 (some "id") "user"
      (some (localHashFile obliging "user")) 0 (holding 0)).toOption.map
        (fun r => (r.2.files (localHashFile obliging "user")).isSome) = some false := by
    decide +kernel
  obtain ⟨⟨_, s'⟩, hok, hgone⟩ := returns_of_map hrun
  exact ⟨obliging_spares, s', hok, rfl, hgone⟩

theorem hash_files_cleaned_login : ∃ s',
    authRemoteStatus obliging false 1 (some "id") "user" (some "key") 8 (holding 8) =
      .ok ((), s') ∧ s'.files (remoteHashFile obliging "user") = none := by
  have hrun : (authRemoteStatus obliging false 1 (some "id") "user" (some "key") 8
      (holding 8)).toOption.map (fun _ => ()) = some () := by
    decide +kernel
  obtain ⟨⟨_, s'⟩, hok, _⟩ := returns_of_map hrun
  obtain ⟨_, _, hcleaned, _⟩ := hash_files_cleaned obliging false 1 (some "id") "user" (some "key")
    8 (holding 8) s' (obliging_spares _) (obliging_spares _) hok
  exact ⟨s', hok, (hcleaned rfl).1⟩

end InputServer.Secure
