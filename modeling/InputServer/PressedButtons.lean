import InputServer.Lifecycle

namespace InputServer
open Program
set_option autoImplicit true

/-- `mouse_pressed` and `num_mouse_pressed`. -/
structure PressedTable where
  cells : Nat → MouseButton
  num : Nat

def PressedTable.entries (p : PressedTable) : List MouseButton :=
  (List.range p.num).map p.cells

/-- `for (; i < num; i++)` over the `n` entries that are left, each one taken from behind. -/
def closeGap (cells : Nat → MouseButton) (i : Nat) : Nat → Nat → MouseButton
  | 0 => cells
  | n + 1 => closeGap (Function.update cells i (cells (i + 1))) (i + 1) n

/-- The loop of `input_domain_gone` from `i` on; the loop inside moves the same `i`. -/
def forgetPressed (d : DomPtr) : Nat → Nat → PressedTable → Option PressedTable
  | 0, _, _ => none
  | fuel + 1, i, p =>
    if i < p.num then
      if (p.cells i).domain = some d then
        let num := p.num - 1
        forgetPressed d fuel (max i num) { cells := closeGap p.cells i (num - i), num := num }
      else forgetPressed d fuel (i + 1) p
    else some p

theorem closeGap_apply (cells : Nat → MouseButton) (i n j : Nat) :
    closeGap cells i n j = if i ≤ j ∧ j < i + n then cells (j + 1) else cells j := by
  induction n generalizing cells i with
  | zero =>
    have hout : ¬(i ≤ j ∧ j < i + 0) := by omega
    rw [closeGap, if_neg hout]
  | succ n ih =>
    rw [closeGap, ih]
    by_cases hj : j = i
    · subst hj
      have hout : ¬(j + 1 ≤ j ∧ j < j + 1 + n) := by omega
      have hin : j ≤ j ∧ j < j + (n + 1) := by omega
      rw [if_neg hout, if_pos hin, Function.update_self]
    · have hnext : j + 1 ≠ i ∨ ¬(i + 1 ≤ j ∧ j < i + 1 + n) := by omega
      by_cases hin : i + 1 ≤ j ∧ j < i + 1 + n
      · have hin' : i ≤ j ∧ j < i + (n + 1) := by omega
        rw [if_pos hin, if_pos hin', Function.update_of_ne (by omega)]
      · have hout : ¬(i ≤ j ∧ j < i + (n + 1)) := by omega
        rw [if_neg hin, if_neg hout, Function.update_of_ne hj]

@[simp] theorem PressedTable.entries_length (p : PressedTable) : p.entries.length = p.num := by
  simp [entries]

theorem PressedTable.entries_getElem? (p : PressedTable) (i : Nat) :
    p.entries[i]? = if i < p.num then some (p.cells i) else none := by
  by_cases hi : i < p.num
  · simp [entries, hi]
  · simp [entries, hi]

/-- The gap closed, the entries are those before it and those behind it. -/
theorem closeGap_entries (p : PressedTable) (hi : i < p.num) :
    PressedTable.entries { cells := closeGap p.cells i (p.num - 1 - i), num := p.num - 1 } =
      p.entries.eraseIdx i := by
  apply List.ext_getElem?
  intro j
  rw [List.getElem?_eraseIdx]
  simp only [PressedTable.entries_getElem?, closeGap_apply]
  split_ifs <;> first | rfl | omega

def MouseButton.of (d : DomPtr) (mb : MouseButton) : Bool :=
  mb.domain = some d

/-- Nothing before `i` is of the domain: the loop removes the first entry that is. -/
theorem forgetPressed_eraseP (d : DomPtr) (p : PressedTable) (hi : i ≤ p.num)
    (hbefore : ∀ j < i, ¬(p.cells j).of d) (hfuel : p.num - i < fuel) :
    ∃ p', forgetPressed d fuel i p = some p' ∧ p'.entries = p.entries.eraseP (MouseButton.of d) := by
  induction fuel generalizing i with
  | zero => exact absurd hfuel (Nat.not_lt_zero _)
  | succ fuel ih =>
    unfold forgetPressed
    by_cases hlt : i < p.num
    · rw [if_pos hlt]
      by_cases hd : (p.cells i).domain = some d
      · rw [if_pos hd]
        have hof : (p.cells i).of d := decide_eq_true hd
        have hfind : p.entries.findIdx? (MouseButton.of d) = some i := by
          rw [List.findIdx?_eq_some_iff_getElem]
          refine ⟨by rwa [PressedTable.entries_length], ?_, ?_⟩
          · simpa [PressedTable.entries] using hof
          · intro j hj
            simpa [PressedTable.entries] using hbefore j hj
        rw [List.eraseP_eq_eraseIdx, hfind]
        have hmax : max i (p.num - 1) = p.num - 1 := by omega
        dsimp only
        rw [hmax]
        cases fuel with
        | zero => omega
        | succ fuel =>
          refine ⟨_, ?_, closeGap_entries p hlt⟩
          unfold forgetPressed
          rw [if_neg (Nat.lt_irrefl _)]
      · rw [if_neg hd]
        apply ih hlt
        · intro j hj
          obtain hj | rfl := Nat.lt_succ_iff_lt_or_eq.mp hj
          · exact hbefore j hj
          · exact fun h => hd (of_decide_eq_true h)
        · omega
    · rw [if_neg hlt]
      refine ⟨p, rfl, ?_⟩
      rw [List.eraseP_of_forall_not]
      intro mb hmb
      obtain ⟨j, hj, rfl⟩ := List.mem_map.mp hmb
      have hj : j < p.num := List.mem_range.mp hj
      exact hbefore j (by omega)

theorem forgetPressed_entries (d : DomPtr) (p : PressedTable) :
    ∃ p', forgetPressed d (p.num + 1) 0 p = some p' ∧
      p'.entries = p.entries.eraseP (MouseButton.of d) :=
  forgetPressed_eraseP d p (Nat.zero_le _) nofun (Nat.lt_succ_self p.num)

theorem inputDomainGone_pressed {F : Type} {w w' : World F} (d : DomPtr) (p : PressedTable)
    (hp : w.routing.mousePressed = p.entries) (h : inputDomainGone d w = .ok ((), w')) :
    ∃ p', forgetPressed d (p.num + 1) 0 p = some p' ∧ w'.routing.mousePressed = p'.entries := by
  obtain ⟨p', hrun, hentries⟩ := forgetPressed_entries d p
  refine ⟨p', hrun, ?_⟩
  cases h
  rw [hentries, ← hp]
  have hkept : (w.routing.forget d).mousePressed = w.routing.mousePressed := by
    unfold Routing.forget
    simp only [apply_ite Routing.mousePressed, ite_self]
  exact congrArg (List.eraseP (MouseButton.of d)) hkept

theorem eraseP_eq_filter_iff (P : α → Bool) (l : List α) :
    l.eraseP P = l.filter (fun a => !P a) ↔ l.countP P ≤ 1 := by
  induction l with
  | nil => simp
  | cons a l ih =>
    cases ha : P a with
    | false =>
      rw [List.eraseP_cons_of_neg (by simp [ha]), List.filter_cons_of_pos (by simp [ha]),
        List.countP_cons_of_neg (by simp [ha]), List.cons_inj_right, ih]
    | true =>
      rw [List.eraseP_cons_of_pos ha, List.filter_cons_of_neg (by simp [ha]),
        List.countP_cons_of_pos ha, eq_comm, List.filter_eq_self]
      have hnone : (∀ b ∈ l, !P b) ↔ l.countP P = 0 := by
        rw [List.countP_eq_zero]
        simp
      rw [hnone]
      omega

/-- The removal of a domain forgets its pressed buttons exactly where there is at most one. -/
theorem pressed_forgotten_iff (p : PressedTable) (d : DomPtr) :
    (∃ p', forgetPressed d (p.num + 1) 0 p = some p' ∧
      p'.entries = p.entries.filter (fun mb => mb.domain ≠ some d) ∧
      p'.num = p'.entries.length) ↔
    p.entries.countP (fun mb => mb.domain = some d) ≤ 1 := by
  obtain ⟨p', hrun, hentries⟩ := forgetPressed_entries d p
  have hfilter : p.entries.filter (fun mb => mb.domain ≠ some d) =
      p.entries.filter (fun mb => !mb.of d) := by
    apply List.filter_congr
    intro mb _
    exact (decide_not (p := mb.domain = some d))
  rw [hfilter]
  rw [← show MouseButton.of d = fun mb : MouseButton => decide (mb.domain = some d) from rfl,
    ← eraseP_eq_filter_iff]
  constructor
  · rintro ⟨p'', hrun', hentries', _⟩
    rw [hrun] at hrun'
    cases hrun'
    rw [← hentries, hentries']
  · intro heq
    exact ⟨p', hrun, hentries.trans heq, p'.entries_length.symm⟩

/-- Two buttons pressed in one domain. -/
def twoPressed : PressedTable where
  cells i := {
    code := if i = 0 then BTN_LEFT else BTN_RIGHT
    slot := 0, domain := some firstEntry, x := 0, y := 0 }
  num := 2

theorem pressed_button_left : forgetPressed firstEntry (twoPressed.num + 1) 0 twoPressed ≠ none ∧
    ∀ p', forgetPressed firstEntry (twoPressed.num + 1) 0 twoPressed = some p' →
      p'.entries ≠ twoPressed.entries.filter (fun mb => mb.domain ≠ some firstEntry) := by
  refine ⟨nofun, ?_⟩
  rintro p' ⟨⟩ h
  have hlength := congrArg List.length h
  rw [PressedTable.entries_length] at hlength
  revert hlength
  decide

end InputServer
