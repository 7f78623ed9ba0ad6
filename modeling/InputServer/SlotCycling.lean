import InputServer.Library.Loop
import InputServer.Reachable
import InputServer.Routed

namespace InputServer
open Program
set_option autoImplicit true

section
variable {F : Type}

/-- One round of the loop of `go_to_next`, with the slot that it is at. -/
def nextRound (w : World F) (currentSlot slot : Int) : Option DomPtr ⊕ Int :=
  if slot = currentSlot then .inl none
  else
    let slot := slot.tmod 10
    match w.domainWithSlot slot with
    | none => .inr (slot + 1)
    | some d => if w.domainUivm ≠ some d then .inl (some d) else .inr (slot + 1)

/-- `go_to_next`: the domain that it hands to `switcher_switch`, and how it ends, where its loop has
ended within so many rounds. -/
def goToNext [Double F] (inject : Inject F) (fuel : Nat) (w : World F) :
    Option (Option DomPtr × Except Fault (Int × World F)) :=
  match w.switcher.current with
  | none => some (none, .ok (1, w))
  | some current =>
    if w.domainUivm = some current then some (none, .ok (0, w))
    else do
      let slot := (w.domains current).slot
      match ← Loop (nextRound w slot) fuel (slot + 1) with
      | none => pure (none, .ok (0, w))
      | some d =>
        let switch : WorldM F Int := do
          let _ ← switcherSwitch inject (some d) false
          pure 0
        pure (some d, switch w)

/-- The domain in a slot, if it is not the UIVM. -/
def World.otherInSlot (w : World F) (slot : Int) : Option DomPtr :=
  (w.domainWithSlot slot).filter fun d => w.domainUivm ≠ some d

/-- A slot with a domain to switch to. -/
def World.Occupied (w : World F) (slot : Int) : Prop :=
  (w.otherInSlot slot).isSome

/-- Of the slots that `domain_assign_slot` admits, the first behind the current one, in cyclic
order, that has a domain to switch to. -/
structure World.FollowsSlot (w : World F) (c n : Int) : Prop where
  lower : 0 ≤ n
  upper : n < NDOMAIN_MAX
  other : n ≠ c
  occupied : w.Occupied n
  first : ∀ s : Int, 0 ≤ s → s < NDOMAIN_MAX → s ≠ c → w.Occupied s →
    (n - c) % NDOMAIN_MAX ≤ (s - c) % NDOMAIN_MAX

/-- No other slot has a domain to switch to. -/
def World.Alone (w : World F) (c : Int) : Prop :=
  ∀ s : Int, 0 ≤ s → s < NDOMAIN_MAX → s ≠ c → ¬w.Occupied s

/-- `go_to_next` ends, and switches to the domain that follows, or does nothing if there is none. -/
def GoesToNext [Double F] (inject : Inject F) (w : World F) (c : Int) : Prop :=
  (∃ n d fuel result, w.FollowsSlot c n ∧ w.otherInSlot n = some d ∧
      goToNext inject fuel w = some (some d, result)) ∨
    w.Alone c ∧ ∃ fuel result, goToNext inject fuel w = some (none, result)

/-- The slot that follows is one of the first ten, and the loop does not come by another before it;
or there is no other, and the loop comes back to where it began. -/
def NextInReach (w : World F) (c : Int) : Prop :=
  w.Alone c ∧ 1 ≤ c ∧ c ≤ 10 ∨ ∃ n, w.FollowsSlot c n ∧ n < 10 ∧
    (c < 10 ∨ (c + 1) % 10 ≤ n ∨ ∀ s, (c + 1) % 10 ≤ s → s < 10 → ¬w.Occupied s)

section
variable {w : World F} {c : Int}

/-- The UIVM is the domain in slot 0. -/
theorem uivm_slot_free (w : World F) : ¬w.Occupied 0 := by
  unfold World.Occupied World.otherInSlot World.domainUivm
  cases hslot : w.domainWithSlot 0 with
  | none => exact Bool.false_ne_true
  | some d => simp

theorem otherInSlot_slot (h : w.otherInSlot s = some d) : (w.domains d).slot = s :=
  slot_of_domainWithSlot (Option.filter_eq_some_iff.1 h).1

/-- What a round does at a slot other than the current one. -/
theorem nextRound_other (hs : s ≠ c) (hpos : 0 ≤ s) :
    nextRound w c s = match w.otherInSlot (s % 10) with
      | some d => .inl (some d)
      | none => .inr (s % 10 + 1) := by
  unfold nextRound World.otherInSlot
  rw [if_neg hs, Int.tmod_eq_emod_of_nonneg hpos]
  dsimp only
  cases w.domainWithSlot (s % 10) with
  | none => rfl
  | some d =>
    dsimp only
    by_cases huivm : w.domainUivm ≠ some d
    · rw [if_pos huivm, Option.filter_some, if_pos (decide_eq_true huivm)]
    · rw [if_neg huivm, Option.filter_some, if_neg (by simpa using huivm)]

/-- Where the loop is before its round `k`. -/
def roundSlot (c : Int) (k : Nat) : Int :=
  if k = 0 then c + 1 else (c + k) % 10 + 1

theorem roundSlot_mod (c : Int) (k : Nat) : roundSlot c k % 10 = (c + 1 + k) % 10 := by
  unfold roundSlot
  split <;> omega

theorem roundSlot_ne (hk : k < 9 ∨ c = 0 ∨ 10 < c) : roundSlot c k ≠ c := by
  unfold roundSlot
  split <;> omega

theorem roundSlot_pos (hc : 0 ≤ c) (k : Nat) : 0 ≤ roundSlot c k := by
  unfold roundSlot
  split <;> omega

/-- The loop goes on while the slots it comes by are free. -/
theorem loop_walks (hc : 0 ≤ c) (hk : k ≤ 9 ∨ c = 0 ∨ 10 < c)
    (hfree : ∀ j < k, w.otherInSlot ((c + 1 + (j : Nat)) % 10) = none) (n : Nat) :
    Loop (nextRound w c) (n + k) (c + 1) = Loop (nextRound w c) n (roundSlot c k) := by
  induction k generalizing n with
  | zero => rfl
  | succ k ih =>
    have hwalk := ih (by omega) (fun j hj => hfree j (Nat.lt_succ_of_lt hj)) (n + 1)
    have hround := nextRound_other (w := w) (roundSlot_ne (k := k) (by omega))
      (roundSlot_pos hc k)
    rw [roundSlot_mod, hfree k (Nat.lt_succ_self k)] at hround
    rw [show n + (k + 1) = n + 1 + k by omega, hwalk, Loop.again hround]
    congr 1
    unfold roundSlot
    rw [if_neg (Nat.succ_ne_zero k)]
    omega

/-- The slot that the loop looks at in its round `k`. -/
abbrev lookedAt (c : Int) (k : Nat) : Int :=
  (c + 1 + k) % 10

theorem free_otherInSlot (h : ¬w.Occupied s) : w.otherInSlot s = none := by
  unfold World.Occupied at h
  rw [Bool.not_eq_true, Option.isSome_eq_false_iff, Option.isNone_iff_eq_none] at h
  exact h

/-- The first domain that the loop comes by is the one. -/
theorem loop_finds (hc : 0 ≤ c) (hk : k < 9 ∨ c = 0 ∨ 10 < c)
    (hfree : ∀ j < k, ¬w.Occupied (lookedAt c j))
    (hfound : w.otherInSlot (lookedAt c k) = some d) :
    Loop (nextRound w c) (1 + k) (c + 1) = some (some d) := by
  have hround := nextRound_other (w := w) (roundSlot_ne hk) (roundSlot_pos hc k)
  rw [roundSlot_mod, hfound] at hround
  rw [loop_walks hc (by omega) (fun j hj => free_otherInSlot (hfree j hj)) 1]
  exact Loop.leave hround 0

/-- The loop comes back to a slot from 1 to 10. -/
theorem loop_returns (hc : 1 ≤ c) (hten : c ≤ 10)
    (hfree : ∀ j < 9, ¬w.Occupied (lookedAt c j)) :
    Loop (nextRound w c) (1 + 9) (c + 1) = some none := by
  have hback : roundSlot c 9 = c := by
    unfold roundSlot
    rw [if_neg (by decide)]
    omega
  rw [loop_walks (by omega) (.inl (Nat.le_refl 9))
    (fun j hj => free_otherInSlot (hfree j hj)) 1, hback]
  have hround : nextRound w c c = .inl none := if_pos rfl
  exact Loop.leave hround 0

/-- It never comes back to any other, and goes on for ever when the first ten slots are free. -/
theorem loop_hangs (hc : 0 ≤ c) (hfar : c = 0 ∨ 10 < c)
    (hfree : ∀ s, 0 ≤ s → s < 10 → ¬w.Occupied s) (n : Nat) :
    Loop (nextRound w c) n (c + 1) = none := by
  apply Loop.diverges (I := fun s => 0 ≤ s ∧ s ≠ c)
  · rintro s ⟨hpos, hne⟩
    have hround := nextRound_other (w := w) hne hpos
    rw [free_otherInSlot (hfree (s % 10) (by omega) (by omega))] at hround
    exact ⟨_, hround, by omega, by omega⟩
  · omega

/-- The rounds look at each of the first ten slots. -/
theorem lookedAt_all (c : Int) (hs : 0 ≤ s) (hten : s < 10) : ∃ k ≤ 9, lookedAt c k = s := by
  refine ⟨((s - (c + 1)) % 10).toNat, by omega, ?_⟩
  unfold lookedAt
  omega

/-- How the loop ends, if it does: with the first domain that it comes by, or where it began. -/
theorem loop_ends (hc : 0 ≤ c) (h : Loop (nextRound w c) n (c + 1) = some target) :
    (∃ k ≤ 9, (∀ j < k, ¬w.Occupied (lookedAt c j)) ∧ target.isSome ∧
      w.otherInSlot (lookedAt c k) = target) ∨ target = none ∧ 1 ≤ c ∧ c ≤ 10 := by
  by_cases hsome : ∃ k, k ≤ 9 ∧ w.Occupied (lookedAt c k)
  · classical
    obtain ⟨hnine, hoccupied⟩ := Nat.find_spec hsome
    have hbefore : ∀ j < Nat.find hsome, ¬w.Occupied (lookedAt c j) := by
      intro j hj hoccupied
      exact Nat.find_min hsome hj ⟨by omega, hoccupied⟩
    obtain ⟨d, hd⟩ := Option.isSome_iff_exists.1 hoccupied
    by_cases hreached : Nat.find hsome < 9 ∨ c = 0 ∨ 10 < c
    · have htarget := Loop.unique h (loop_finds hc hreached hbefore hd)
      rw [htarget]
      exact .inl ⟨Nat.find hsome, hnine, hbefore, rfl, hd⟩
    · have hfree : ∀ j < 9, ¬w.Occupied (lookedAt c j) := fun j hj => hbefore j (by omega)
      exact .inr ⟨Loop.unique h (loop_returns (by omega) (by omega) hfree), by omega, by omega⟩
  · have hfree : ∀ s, 0 ≤ s → s < 10 → ¬w.Occupied s := by
      intro s hs hten hoccupied
      obtain ⟨k, hk, hlooked⟩ := lookedAt_all c hs hten
      exact hsome ⟨k, hk, by rw [hlooked]; exact hoccupied⟩
    by_cases hfar : c = 0 ∨ 10 < c
    · rw [loop_hangs hc hfar hfree] at h
      cases h
    · have hfree' : ∀ j < 9, ¬w.Occupied (lookedAt c j) :=
        fun j _ => hfree _ (by unfold lookedAt; omega) (by unfold lookedAt; omega)
      exact .inr ⟨Loop.unique h (loop_returns (by omega) (by omega) hfree'), by omega, by omega⟩

/-- Once the loop gets to the slot that follows, it has come by no other domain. -/
theorem follows_lookedAt (hc : 0 ≤ c) (hupper : c < 20) (h : w.FollowsSlot c n) (hten : n < 10)
    (hreach : c < 10 ∨ (c + 1) % 10 ≤ n ∨ ∀ s, (c + 1) % 10 ≤ s → s < 10 → ¬w.Occupied s) :
    ∃ k, lookedAt c k = n ∧ (k < 9 ∨ c = 0 ∨ 10 < c) ∧
      ∀ j < k, ¬w.Occupied (lookedAt c j) := by
  have hzero : n ≠ 0 := by
    rintro rfl
    exact uivm_slot_free w h.occupied
  have hlower := h.lower
  have hother := h.other
  refine ⟨((n - (c + 1)) % 10).toNat, by unfold lookedAt; omega, by omega, ?_⟩
  intro j hj hoccupied
  have hmax : (NDOMAIN_MAX : Int) = 20 := rfl
  have hfirst := h.first (lookedAt c j) (by unfold lookedAt; omega) (by unfold lookedAt; omega)
    (by unfold lookedAt; omega) hoccupied
  have hnotzero : lookedAt c j ≠ 0 := by
    intro hzero
    rw [hzero] at hoccupied
    exact uivm_slot_free w hoccupied
  rw [hmax] at hfirst
  obtain hnear | hforward | hfree := hreach
  · unfold lookedAt at hfirst
    omega
  · unfold lookedAt at hfirst hnotzero
    omega
  · by_cases hlate : (c + 1) % 10 ≤ lookedAt c j
    · exact hfree _ hlate (by unfold lookedAt; omega) hoccupied
    · unfold lookedAt at hfirst hlate
      omega

/-- What is handed to `switcher_switch` is what the loop ends with. -/
theorem goToNext_target [Double F] (inject : Inject F) {current : DomPtr}
    (hcurrent : w.switcher.current = some current) (huivm : w.domainUivm ≠ some current) :
    (∃ result, goToNext inject fuel w = some (target, result)) ↔
      Loop (nextRound w (w.domains current).slot) fuel ((w.domains current).slot + 1) =
        some target := by
  unfold goToNext
  rw [hcurrent]
  dsimp only
  rw [if_neg huivm]
  cases Loop (nextRound w (w.domains current).slot) fuel ((w.domains current).slot + 1) with
  | none => exact iff_of_false (fun h => nomatch h.choose_spec) fun h => nomatch h
  | some found =>
    cases found with
    | none =>
      constructor
      · rintro ⟨result, heq⟩
        cases heq
        rfl
      · intro heq
        cases heq
        exact ⟨_, rfl⟩
    | some d =>
      constructor
      · rintro ⟨result, heq⟩
        cases heq
        rfl
      · intro heq
        cases heq
        exact ⟨_, rfl⟩

end

end

/-- The UIVM in slot 0, and the focused domain and perhaps another in the slots given. -/
def slotWorld (slot : Int) (other : Option Int) : World ℚ :=
  let w := startWorld (fun _ => told "") []
  let inSlot (d : DomPtr) (slot : Int) : Domain ℚ :=
    { w.domains d with initialised := true, slot := slot }
  { w with
    domains := fun d =>
      if d.val = 0 then inSlot d 0
      else if d = secondEntry then inSlot d slot
      else if d.val = 2 then other.elim (w.domains d) (inSlot d)
      else w.domains d
    switcher := { w.switcher with current := some secondEntry } }

def injectNothing : Inject ℚ :=
  fun e _ _ => pure e

end InputServer
