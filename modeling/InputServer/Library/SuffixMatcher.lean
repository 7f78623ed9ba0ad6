import Mathlib

set_option autoImplicit true

namespace SuffixMatcher

variable {α : Type} [DecidableEq α] {seq history : List α} {c : α} {m i j : Nat}

/-- A matcher goes back to the start of its sequence at what does not continue it. -/
def advance (seq : List α) (m : Nat) (c : α) : Nat :=
  if seq[m]? = some c then m + 1 else 0

omit [DecidableEq α] in
theorem take_suffix_concat (hj : j < seq.length) :
    seq.take (j + 1) <:+ history ++ [c] ↔ seq.take j <:+ history ∧ seq[j]? = some c := by
  rw [List.take_succ_eq_append_getElem hj, List.getElem?_eq_getElem hj]
  constructor
  · intro h
    obtain ⟨front, hfront⟩ := h
    rw [← List.append_assoc] at hfront
    obtain ⟨hhistory, hlast⟩ := List.append_inj' hfront rfl
    exact ⟨⟨front, hhistory⟩, congrArg some (List.singleton_inj.1 hlast)⟩
  · intro h
    obtain ⟨⟨front, hhistory⟩, hlast⟩ := h
    rw [Option.some.inj hlast]
    exact ⟨front, by rw [← List.append_assoc, hhistory]⟩

omit [DecidableEq α] in
/-- A history without repetitions ends in one part of the sequence only. -/
theorem ended_unique_of_le (hnodup : history.Nodup) (hi : 0 < i) (hij : i ≤ j)
    (hj : j ≤ seq.length) (hsi : seq.take i <:+ history) (hsj : seq.take j <:+ history) :
    i = j := by
  cases seq with
  | nil =>
    have hzero := Nat.le_zero.1 hj
    omega
  | cons a rest =>
    obtain ⟨i, rfl⟩ : ∃ k, i = k + 1 := ⟨i - 1, by omega⟩
    obtain ⟨j, rfl⟩ : ∃ k, j = k + 1 := ⟨j - 1, by omega⟩
    rw [List.take_succ_cons] at hsi hsj
    have hlength : (a :: rest.take i).length ≤ (a :: rest.take j).length := by
      rw [List.length_cons, List.length_cons, List.length_take, List.length_take]
      omega
    have hwithin := List.suffix_of_suffix_length_le hsi hsj hlength
    obtain heq | hlater := List.suffix_cons_iff.1 hwithin
    · have htake := congrArg List.length (List.cons.inj heq).2
      rw [List.length_take, List.length_take] at htake
      rw [List.length_cons] at hj
      omega
    · -- The first of the sequence would occur twice.
      have hagain : a ∈ rest.take j := hlater.subset List.mem_cons_self
      exact absurd hagain (List.nodup_cons.1 (hnodup.sublist hsj.sublist)).1

omit [DecidableEq α] in
theorem ended_unique (hnodup : history.Nodup) (hi : 0 < i) (hi' : i ≤ seq.length) (hj : 0 < j)
    (hj' : j ≤ seq.length) (hsi : seq.take i <:+ history) (hsj : seq.take j <:+ history) :
    i = j := by
  obtain hij | hji := Nat.le_total i j
  · exact ended_unique_of_le hnodup hi hij hj' hsi hsj
  · exact (ended_unique_of_le hnodup hj hji hi' hsj hsi).symm

/-- The matcher has come as far along the sequence as the history's end, short of all of it. -/
structure Tracks (seq : List α) (m : Nat) (history : List α) : Prop where
  short : m = 0 ∨ m < seq.length
  ended : seq.take m <:+ history
  only : ∀ j, 0 < j → j < seq.length → seq.take j <:+ history → m = j

omit [DecidableEq α] in
theorem tracks_nil (seq : List α) : Tracks seq 0 [] := by
  refine ⟨.inl rfl, List.suffix_refl _, ?_⟩
  intro j hj hlt hended
  have hnil := List.suffix_nil.1 hended
  obtain hzero | hempty := List.take_eq_nil_iff.1 hnil
  · omega
  · rw [hempty] at hlt
    exact absurd hlt (Nat.not_lt_zero _)

/-- The whole of the sequence has come just when the history ends in it. -/
theorem Tracks.advance_eq_length (h : Tracks seq m history) :
    advance seq m c = seq.length ↔ seq <:+ history ++ [c] := by
  unfold advance
  cases hlength : seq.length with
  | zero =>
    have hempty := List.length_eq_zero_iff.1 hlength
    have hnone : seq[m]? ≠ some c := by
      rw [hempty]
      intro h
      cases h
    rw [if_neg hnone, hempty]
    exact iff_of_true rfl (List.nil_suffix)
  | succ k =>
    have hk : k < seq.length := by omega
    have hall : seq.take (k + 1) = seq := List.take_of_length_le hlength.le
    have hwhole : seq.take (k + 1) <:+ history ++ [c] ↔
        seq.take k <:+ history ∧ seq[k]? = some c := take_suffix_concat hk
    rw [hall] at hwhole
    rw [hwhole]
    constructor
    · intro hadvance
      by_cases hnext : seq[m]? = some c
      · rw [if_pos hnext] at hadvance
        have hm : m = k := by omega
        rw [← hm]
        exact ⟨h.ended, hnext⟩
      · rw [if_neg hnext] at hadvance
        omega
    · intro hended
      obtain ⟨hbefore, hlast⟩ := hended
      have hm : m = k := by
        by_cases hk0 : 0 < k
        · exact h.only k hk0 hk hbefore
        · have hshort := h.short
          omega
      rw [hm, if_pos hlast]

/-- One step: at the end of the sequence the matcher starts again. -/
theorem Tracks.advance (h : Tracks seq m history) (hnodup : (history ++ [c]).Nodup) :
    Tracks seq (if advance seq m c = seq.length then 0 else advance seq m c)
      (history ++ [c]) := by
  have honly (j : Nat) (hj : 0 < j) (hlt : j < seq.length)
      (hended : seq.take j <:+ history ++ [c]) : SuffixMatcher.advance seq m c = j := by
    obtain ⟨j, rfl⟩ : ∃ k, j = k + 1 := ⟨j - 1, by omega⟩
    obtain ⟨hbefore, hlast⟩ := (take_suffix_concat (by omega)).1 hended
    have hm : m = j := by
      by_cases hj0 : 0 < j
      · exact h.only j hj0 (by omega) hbefore
      · -- Were the matcher under way, the first of the sequence would occur twice.
        by_contra hm
        have hzero : j = 0 := by omega
        rw [hzero] at hm hlast
        have hfirst : c ∈ seq.take m := by
          obtain ⟨k, rfl⟩ : ∃ k, m = k + 1 := ⟨m - 1, by omega⟩
          have hhead : (seq.take (k + 1))[0]? = some c := by
            rw [List.getElem?_take_of_lt (Nat.succ_pos k), hlast]
          exact List.mem_of_getElem? hhead
        have hagain := (List.nodup_append.1 hnodup).2.2 c (h.ended.subset hfirst) c
          (List.mem_singleton_self c)
        exact hagain rfl
    rw [hm, SuffixMatcher.advance, if_pos hlast]
  by_cases hwhole : SuffixMatcher.advance seq m c = seq.length
  · rw [if_pos hwhole]
    refine ⟨.inl rfl, List.nil_suffix, ?_⟩
    intro j hj hlt hended
    have heq := honly j hj hlt hended
    omega
  · rw [if_neg hwhole]
    refine ⟨?_, ?_, honly⟩
    · unfold SuffixMatcher.advance at hwhole ⊢
      by_cases hnext : seq[m]? = some c
      · obtain ⟨hlt, -⟩ := List.getElem?_eq_some_iff.1 hnext
        rw [if_pos hnext] at hwhole ⊢
        omega
      · rw [if_neg hnext]
        exact .inl rfl
    · unfold SuffixMatcher.advance
      by_cases hnext : seq[m]? = some c
      · obtain ⟨hlt, -⟩ := List.getElem?_eq_some_iff.1 hnext
        rw [if_pos hnext]
        exact (take_suffix_concat hlt).2 ⟨h.ended, hnext⟩
      · rw [if_neg hnext]
        exact List.nil_suffix

end SuffixMatcher
