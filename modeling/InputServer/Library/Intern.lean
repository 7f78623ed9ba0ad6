import Mathlib

set_option autoImplicit true

namespace Intern

variable {α : Type} [DecidableEq α] {cap : Nat} {t : List α}

/-- The position of a key in a table, which takes it in while there is room. -/
def intern (cap : Nat) (k : α) (t : List α) : Option Nat × List α :=
  match t.findIdx? (· = k) with
  | some i => (some i, t)
  | none => if t.length < cap then (some t.length, t ++ [k]) else (none, t)

/-- The table after the keys were taken in. -/
def internAll (cap : Nat) (ks : List α) (t : List α) : List α :=
  ks.foldl (fun t k => (intern cap k t).2) t

theorem intern_of_mem (h : k ∈ t) : (intern cap k t).2 = t := by
  unfold intern
  cases hfind : t.findIdx? (· = k) with
  | some i => rfl
  | none =>
    have hnone := List.findIdx?_eq_none_iff.mp hfind k h
    simp at hnone

theorem intern_of_not_mem (h : k ∉ t) :
    intern cap k t = if t.length < cap then (some t.length, t ++ [k]) else (none, t) := by
  unfold intern
  have hfind : t.findIdx? (· = k) = none := by
    rw [List.findIdx?_eq_none_iff]
    intro x hx
    have hne : x ≠ k := by
      rintro rfl
      exact h hx
    simpa using hne
  rw [hfind]

theorem intern_extends (k : α) (t : List α) : t <+: (intern cap k t).2 := by
  by_cases hk : k ∈ t
  · rw [intern_of_mem hk]
  · rw [intern_of_not_mem hk]
    split_ifs
    · exact List.prefix_append t [k]
    · exact List.prefix_rfl

theorem intern_nodup (h : t.Nodup) (k : α) : (intern cap k t).2.Nodup := by
  by_cases hk : k ∈ t
  · rw [intern_of_mem hk]
    exact h
  · rw [intern_of_not_mem hk]
    split_ifs
    · exact List.nodup_append.mpr ⟨h, List.nodup_singleton k, by
        intro a ha b hb
        rw [List.mem_singleton.mp hb]
        rintro rfl
        exact hk ha⟩
    · exact h

theorem intern_length_le (h : t.length ≤ cap) (k : α) : (intern cap k t).2.length ≤ cap := by
  by_cases hk : k ∈ t
  · rw [intern_of_mem hk]
    exact h
  · rw [intern_of_not_mem hk]
    split_ifs with hroom
    · rw [List.length_append]
      exact hroom
    · exact h

theorem intern_subset (h : x ∈ (intern cap k t).2) : x ∈ t ∨ x = k := by
  by_cases hk : k ∈ t
  · rw [intern_of_mem hk] at h
    exact .inl h
  · rw [intern_of_not_mem hk] at h
    split_ifs at h
    · rw [List.mem_append, List.mem_singleton] at h
      exact h
    · exact .inl h

/-- A table that is not full after the key has it. -/
theorem mem_intern_self (h : (intern cap k t).2.length < cap) : k ∈ (intern cap k t).2 := by
  by_cases hk : k ∈ t
  · rw [intern_of_mem hk]
    exact hk
  · rw [intern_of_not_mem hk] at h ⊢
    split_ifs at h ⊢ with hroom
    · exact List.mem_concat_self
    · exact absurd h hroom

/-- The position of a key is where the table holds it. -/
theorem intern_index (h : (intern cap k t).1 = some i) : (intern cap k t).2[i]? = some k := by
  unfold intern at h ⊢
  cases hfind : t.findIdx? (· = k) with
  | some j =>
    rw [hfind] at h
    cases h
    obtain ⟨hj, hk, _⟩ := List.findIdx?_eq_some_iff_getElem.mp hfind
    simpa [List.getElem?_eq_getElem hj] using hk
  | none =>
    rw [hfind] at h
    dsimp only at h ⊢
    split_ifs at h ⊢
    cases h
    rw [List.getElem?_concat_length]

theorem intern_index_none (h : (intern cap k t).1 = none) :
    (intern cap k t).2 = t ∧ cap ≤ t.length := by
  unfold intern at h ⊢
  cases hfind : t.findIdx? (· = k) with
  | some j =>
    rw [hfind] at h
    cases h
  | none =>
    rw [hfind] at h
    dsimp only at h ⊢
    split_ifs at h ⊢ with hroom
    exact ⟨rfl, Nat.le_of_not_lt hroom⟩

theorem internAll_append (ks ks' : List α) (t : List α) :
    internAll cap (ks ++ ks') t = internAll cap ks' (internAll cap ks t) :=
  List.foldl_append

theorem internAll_extends (ks : List α) (t : List α) : t <+: internAll cap ks t := by
  induction ks generalizing t with
  | nil => exact List.prefix_rfl
  | cons k ks ih => exact (intern_extends k t).trans (ih _)

theorem internAll_nodup (h : t.Nodup) (ks : List α) : (internAll cap ks t).Nodup := by
  induction ks generalizing t with
  | nil => exact h
  | cons k ks ih => exact ih (intern_nodup h k)

theorem internAll_length_le (h : t.length ≤ cap) (ks : List α) :
    (internAll cap ks t).length ≤ cap := by
  induction ks generalizing t with
  | nil => exact h
  | cons k ks ih => exact ih (intern_length_le h k)

theorem internAll_subset (h : x ∈ internAll cap ks t) : x ∈ t ∨ x ∈ ks := by
  induction ks generalizing t with
  | nil => exact .inl h
  | cons k ks ih =>
    obtain hx | hx := ih h
    · obtain hx | rfl := intern_subset hx
      · exact .inl hx
      · exact .inr List.mem_cons_self
    · exact .inr (List.mem_cons_of_mem k hx)

/-- A table that did not fill up took in every key. -/
theorem subset_internAll (h : (internAll cap ks t).length < cap) (hx : x ∈ t ∨ x ∈ ks) :
    x ∈ internAll cap ks t := by
  induction ks generalizing t with
  | nil =>
    obtain hx | hx := hx
    · exact hx
    · cases hx
  | cons k ks ih =>
    apply ih h
    obtain hx | hx := hx
    · exact .inl ((intern_extends k t).subset hx)
    · obtain rfl | hx := List.mem_cons.mp hx
      · have hlength : (intern cap x t).2.length ≤ (internAll cap ks (intern cap x t).2).length :=
          (internAll_extends ks _).length_le
        exact .inl (mem_intern_self (Nat.lt_of_le_of_lt hlength h))
      · exact .inr hx

/-- How many distinct keys there are decides whether the table fills up. -/
theorem internAll_length_lt_iff (h : t.Nodup) (ks : List α) :
    (internAll cap ks t).length < cap ↔ (t ++ ks).toFinset.card < cap := by
  have hcard : (internAll cap ks t).toFinset.card = (internAll cap ks t).length :=
    List.toFinset_card_of_nodup (internAll_nodup h ks)
  have hsub : (internAll cap ks t).toFinset ⊆ (t ++ ks).toFinset := by
    intro x hx
    rw [List.mem_toFinset] at hx ⊢
    exact List.mem_append.mpr (internAll_subset hx)
  constructor
  · intro hlt
    have hsup : (t ++ ks).toFinset ⊆ (internAll cap ks t).toFinset := by
      intro x hx
      rw [List.mem_toFinset] at hx ⊢
      exact subset_internAll hlt (List.mem_append.mp hx)
    rw [← hcard] at hlt
    exact Nat.lt_of_le_of_lt (Finset.card_le_card hsup) hlt
  · intro hlt
    rw [← hcard]
    exact Nat.lt_of_le_of_lt (Finset.card_le_card hsub) hlt

end Intern
