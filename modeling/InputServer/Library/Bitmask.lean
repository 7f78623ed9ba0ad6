import Mathlib

set_option autoImplicit true

namespace Bitmask

variable {α : Type} {t : List α} {S S' : Set α} {mask mask' : UInt32}

theorem testBit_or (a b : UInt32) (i : Nat) :
    (a ||| b).toNat.testBit i = (a.toNat.testBit i || b.toNat.testBit i) := by
  rw [UInt32.toNat_or, Nat.testBit_or]

theorem testBit_one_shift (hi : i < 32) (j : Nat) :
    ((1 : UInt32) <<< UInt32.ofNat i).toNat.testBit j = decide (i = j) := by
  have hone : ((1 : UInt32) <<< UInt32.ofNat i).toNat = 2 ^ i := by
    rw [UInt32.toNat_shiftLeft, UInt32.toNat_ofNat_of_lt' (Nat.lt_trans hi (by decide)),
      Nat.mod_eq_of_lt hi, UInt32.toNat_one, Nat.one_shiftLeft]
    exact Nat.mod_eq_of_lt (Nat.pow_lt_pow_right (by decide) hi)
  rw [hone, Nat.testBit_two_pow]

/-- The test of one bit. -/
theorem and_shift_ne_zero (a : UInt32) (hi : i < 32) :
    a &&& 1 <<< UInt32.ofNat i ≠ 0 ↔ a.toNat.testBit i = true := by
  rw [not_iff_comm, Bool.not_eq_true, ← UInt32.toNat_inj, UInt32.toNat_and]
  constructor
  · intro hbit
    apply Nat.eq_of_testBit_eq
    intro j
    rw [Nat.testBit_and, testBit_one_shift hi]
    by_cases hij : i = j
    · rw [← hij, hbit, Bool.false_and]
      exact (Nat.zero_testBit i).symm
    · rw [decide_eq_false hij, Bool.and_false]
      exact (Nat.zero_testBit j).symm
  · intro hzero
    have hbit := congrArg (Nat.testBit · i) hzero
    rw [Nat.testBit_and, testBit_one_shift hi, decide_eq_true rfl, Bool.and_true] at hbit
    exact hbit.trans (Nat.zero_testBit i)

theorem testBit_not (a : UInt32) (hi : i < 32) : (~~~a).toNat.testBit i = !a.toNat.testBit i := by
  have hbit := BitVec.getLsbD_not (x := a.toBitVec) (i := i)
  rw [← UInt32.toBitVec_not] at hbit
  simpa [BitVec.getLsbD, hi] using hbit

theorem testBit_of_le (a : UInt32) (hi : 32 ≤ i) : a.toNat.testBit i = false :=
  Nat.testBit_lt_two_pow (Nat.lt_of_lt_of_le a.toNat_lt (Nat.pow_le_pow_right (by decide) hi))

theorem testBit_andNot (a b : UInt32) (i : Nat) :
    (a &&& ~~~b).toNat.testBit i = (a.toNat.testBit i && !b.toNat.testBit i) := by
  rw [UInt32.toNat_and, Nat.testBit_and]
  by_cases hi : i < 32
  · rw [testBit_not b hi]
  · rw [testBit_of_le a (Nat.le_of_not_lt hi), Bool.false_and, Bool.false_and]

theorem eq_of_testBit (h : ∀ i, mask.toNat.testBit i = mask'.toNat.testBit i) : mask = mask' :=
  UInt32.toNat_inj.mp (Nat.eq_of_testBit_eq h)

/-- The bits of the mask are the positions in the table of what the set holds. -/
def Codes (t : List α) (S : Set α) (mask : UInt32) : Prop :=
  ∀ i, mask.toNat.testBit i = true ↔ ∃ k, t[i]? = some k ∧ k ∈ S

theorem Codes.empty : Codes t ∅ 0 := by
  intro i
  simp

theorem getElem?_inj {i j : Nat} {k : α} (h : t.Nodup) (hi : t[i]? = some k)
    (hj : t[j]? = some k) : i = j := by
  obtain ⟨hlt, _⟩ := List.getElem?_eq_some_iff.mp hi
  exact (List.getElem?_inj hlt h).mp (hi.trans hj.symm)

theorem Codes.insert (h : Codes t S mask) (ht : t.Nodup) (hk : t[i]? = some k) (hi : i < 32) :
    Codes t (insert k S) (mask ||| 1 <<< UInt32.ofNat i) := by
  intro j
  rw [testBit_or, testBit_one_shift hi, Bool.or_eq_true, decide_eq_true_iff, h j]
  constructor
  · rintro (⟨x, hx, hS⟩ | rfl)
    · exact ⟨x, hx, .inr hS⟩
    · exact ⟨k, hk, .inl rfl⟩
  · rintro ⟨x, hx, rfl | hS⟩
    · exact .inr (getElem?_inj ht hk hx)
    · exact .inl ⟨x, hx, hS⟩

theorem Codes.remove (h : Codes t S mask) (ht : t.Nodup) (hk : t[i]? = some k) (hi : i < 32) :
    Codes t (S \ {k}) (mask &&& ~~~(1 <<< UInt32.ofNat i)) := by
  intro j
  rw [testBit_andNot, testBit_one_shift hi, Bool.and_eq_true, h j]
  constructor
  · rintro ⟨⟨x, hx, hS⟩, hne⟩
    refine ⟨x, hx, hS, ?_⟩
    rintro rfl
    have hij := getElem?_inj ht hk hx
    simp [hij] at hne
  · rintro ⟨x, hx, hS, hne⟩
    refine ⟨⟨x, hx, hS⟩, ?_⟩
    have hij : i ≠ j := by
      rintro rfl
      rw [hk] at hx
      exact hne (Option.some.inj hx).symm
    simpa using hij

/-- A longer table keeps the masks of what it had. -/
theorem Codes.extend (h : Codes t S mask) (hpre : t <+: t') (ht : t'.Nodup)
    (hS : ∀ k ∈ S, k ∈ t) : Codes t' S mask := by
  intro i
  rw [h i]
  have hkeep {j : Nat} {k : α} (hj : t[j]? = some k) : t'[j]? = some k := by
    obtain ⟨hlt, hk⟩ := List.getElem?_eq_some_iff.mp hj
    rw [List.prefix_iff_getElem?.mp hpre j hlt, hk]
  constructor
  · rintro ⟨k, hk, hmem⟩
    exact ⟨k, hkeep hk, hmem⟩
  · rintro ⟨k, hk, hmem⟩
    obtain ⟨j, hj⟩ := List.mem_iff_getElem?.mp (hS k hmem)
    have hij := getElem?_inj ht hk (hkeep hj)
    rw [hij]
    exact ⟨k, hj, hmem⟩

theorem Codes.mem_iff (h : Codes t S mask) (hk : t[i]? = some k) :
    mask.toNat.testBit i = true ↔ k ∈ S := by
  rw [h i]
  constructor
  · rintro ⟨x, hx, hmem⟩
    rw [hk] at hx
    cases hx
    exact hmem
  · intro hmem
    exact ⟨k, hk, hmem⟩

/-- Masks are equal where the sets are. -/
theorem Codes.eq_iff (h : Codes t S mask) (h' : Codes t S' mask') (hS : ∀ k ∈ S, k ∈ t)
    (hS' : ∀ k ∈ S', k ∈ t) : mask = mask' ↔ S = S' := by
  constructor
  · rintro rfl
    ext k
    constructor
    · intro hk
      obtain ⟨i, hi⟩ := List.mem_iff_getElem?.mp (hS k hk)
      exact (h'.mem_iff hi).mp ((h.mem_iff hi).mpr hk)
    · intro hk
      obtain ⟨i, hi⟩ := List.mem_iff_getElem?.mp (hS' k hk)
      exact (h.mem_iff hi).mp ((h'.mem_iff hi).mpr hk)
  · rintro rfl
    apply eq_of_testBit
    intro i
    rw [Bool.eq_iff_iff, h i, h' i]

/-- The entries whose bits are set, in the table's order. -/
theorem filterMap_testBit {P : α → Bool}
    (h : ∀ (i : Nat) k, t[i]? = some k → mask.toNat.testBit i = P k) :
    ((List.range t.length).filter fun i => mask.toNat.testBit i).filterMap (fun i => t[i]?) =
      t.filter P := by
  induction t using List.reverseRecOn with
  | nil => rfl
  | append_singleton t k ih =>
    have hlast : mask.toNat.testBit t.length = P k := h _ _ List.getElem?_concat_length
    have hbefore : ((List.range t.length).filter fun i => mask.toNat.testBit i).filterMap
        (fun i => (t ++ [k])[i]?) = t.filter P := by
      rw [← ih]
      · apply List.filterMap_congr
        intro i hi
        have hlt := List.mem_range.mp (List.mem_of_mem_filter hi)
        rw [List.getElem?_append_left hlt]
      · intro i x hx
        obtain ⟨hlt, _⟩ := List.getElem?_eq_some_iff.mp hx
        apply h
        rw [List.getElem?_append_left hlt, hx]
    rw [List.length_append, List.length_singleton, List.range_succ, List.filter_append,
      List.filterMap_append, hbefore, List.filter_append]
    congr 1
    cases hP : P k with
    | true =>
      rw [List.filter_cons_of_pos (by rw [hlast, hP]), List.filter_cons_of_pos hP]
      simp
    | false =>
      rw [List.filter_cons_of_neg (by simp [hlast, hP]), List.filter_cons_of_neg (by simp [hP])]
      rfl

end Bitmask
