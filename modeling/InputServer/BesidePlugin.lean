import InputServer.Reachable

namespace InputServer
open Program
set_option autoImplicit true

variable {F : Type} {T : Turnover} {w w' : World F} {d : DomPtr}

/-- What happens while nothing comes from the plugin: what the daemon does of its own, and clients
that come. -/
def Happening.Beside : Happening → Prop
  | .client _ _ => True
  | h => h.Internal

/-- What is done beside the plugin: its destination stays, a client stays, leaves or is logged, and
no guest gets an event without its slot. -/
structure Beside (w w' : World F) : Prop where
  plug : SameDest w.plug w'.plug
  log : ∃ new, w'.log = w.log ++ new ∧ (∀ h ∈ new, Happening.Beside h) ∧
    ∀ d guest, (w'.domains d).client = some guest →
      (w.domains d).client = some guest ∨ .client d guest ∈ new
  coherent : SlotCoherent w.log → SlotCoherent w'.log

theorem Happening.Internal.beside {h : Happening} (hh : h.Internal) : h.Beside := by
  cases h with
  | client d guest => exact trivial
  | message d guest source e => exact hh
  | vkbd d e => exact hh
  | accepted => exact hh
  | record r => exact hh
  | selected domid => exact hh
  | switched domid => exact hh
  | reclaimed d => exact hh

namespace Beside

/-- Nothing is logged, and every client stays. -/
theorem untold (hplug : SameDest w.plug w'.plug) (hlog : w'.log = w.log)
    (hclient : ∀ d, (w'.domains d).client = (w.domains d).client) : Beside w w' where
  plug := hplug
  log := by
    refine ⟨[], hlog.trans (List.append_nil _).symm, nofun, fun d guest hguest => .inl ?_⟩
    rw [← hclient]
    exact hguest
  coherent h := by
    rw [hlog]
    exact h

theorem of_evolved (h : Evolved T w w') : Beside w w' where
  plug := h.plug
  log := by
    obtain ⟨new, hlog, hnew⟩ := h.log
    refine ⟨new, hlog, fun happening hh => (hnew happening hh).beside, ?_⟩
    intro d guest hguest
    obtain hsame | hnone := h.client d
    · rw [← hsame]
      exact .inl hguest
    · rw [hnone] at hguest
      cases hguest
  coherent := h.coherent

theorem trans {w'' : World F} (h : Beside w w') (h' : Beside w' w'') : Beside w w'' where
  plug := IsTrans.trans _ _ _ h.plug h'.plug
  log := by
    obtain ⟨new, hlog, hnew, hclient⟩ := h.log
    obtain ⟨new', hlog', hnew', hclient'⟩ := h'.log
    refine ⟨new ++ new', by rw [hlog', hlog, List.append_assoc], ?_, ?_⟩
    · intro happening hh
      exact (List.mem_append.1 hh).elim (hnew happening) (hnew' happening)
    · intro d guest hguest
      obtain hbefore | hmem := hclient' d guest hguest
      · exact (hclient d guest hbefore).imp id (List.mem_append_left _)
      · exact .inr (List.mem_append_right _ hmem)
  coherent hcoherent := h'.coherent (h.coherent hcoherent)

instance : IsPreorder (World F) Beside where
  refl _ := untold (refl _) rfl fun _ => rfl
  trans _ _ _ := trans

/-- An entry is filled, and its client is logged. -/
theorem enrol {x : Domain F} (hnew : ∀ h ∈ new, Happening.Beside h)
    (hclient : ∀ guest, x.client = some guest → .client d guest ∈ new)
    (hcoherent : SlotCoherent w.log → SlotCoherent (w.log ++ new)) :
    Beside w (w.enrol d x new) where
  plug := ⟨rfl, rfl⟩
  log := by
    refine ⟨new, rfl, hnew, fun a guest hguest => ?_⟩
    by_cases had : a = d
    · rw [had, enrol_self] at hguest
      rw [had]
      exact .inr (hclient guest hguest)
    · rw [enrol_of_ne had] at hguest
      exact .inl hguest
  coherent := hcoherent

instance : Bystanding (Beside (F := F)) where
  evolved := of_evolved
  untold hplug hlog _ hclient := untold (hplug ▸ refl _) hlog hclient
  enrolled {w d x} hnone := by
    refine enrol nofun (fun guest hguest => ?_) (by rw [List.append_nil]; exact id)
    rw [hnone] at hguest
    cases hguest
  connected {w d x domid} hsome := by
    have hone : MessageCoherent w.log (.client d domid) := trivial
    refine enrol ?_ (fun guest hguest => ?_) fun h => h.snoc hone
    · intro h hh
      rw [List.mem_singleton.1 hh]
      exact trivial
    · rw [hsome] at hguest
      cases hguest
      exact List.mem_cons_self

end Beside

end InputServer
