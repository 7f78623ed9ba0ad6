import Mathlib

set_option autoImplicit true

/-- What holds of every entry of a trace, given the trace before it. -/
def Throughout {α : Type} (P : List α → α → Prop) (trace : List α) : Prop :=
  ∀ past a later, trace = past ++ a :: later → P past a

namespace Throughout

variable {α : Type} {P : List α → α → Prop} {trace new : List α} {a : α}

theorem nil : Throughout P [] := by
  intro past a later heq
  cases past with
  | nil => cases heq
  | cons b past => cases heq

theorem snoc (h : Throughout P trace) (ha : P trace a) : Throughout P (trace ++ [a]) := by
  intro past b later heq
  cases later using List.reverseRecOn with
  | nil =>
    obtain ⟨hpast, hb⟩ := List.append_inj' heq rfl
    cases hb
    rw [← hpast]
    exact ha
  | append_singleton later c =>
    rw [← List.cons_append, ← List.append_assoc] at heq
    obtain ⟨hpast, hc⟩ := List.append_inj' heq rfl
    exact h past b later hpast

theorem of_append (h : Throughout P (trace ++ new)) : Throughout P trace := by
  intro past a later heq
  apply h past a (later ++ new)
  rw [heq, List.append_assoc, List.cons_append]

theorem of_snoc (h : Throughout P (trace ++ [a])) : Throughout P trace ∧ P trace a := by
  constructor
  · exact of_append h
  · exact h trace a [] rfl

/-- Entries that satisfy the property whatever stands before them. -/
theorem append (h : Throughout P trace) (hnew : ∀ a ∈ new, ∀ past, P past a) :
    Throughout P (trace ++ new) := by
  induction new using List.reverseRecOn with
  | nil => simpa only [List.append_nil] using h
  | append_singleton new a ih =>
    rw [← List.append_assoc]
    have hinit := ih fun b hb => hnew b (List.mem_append_left _ hb)
    exact hinit.snoc (hnew a List.mem_concat_self _)

/-- What is decided entry by entry, each with the trace before it. -/
def check (P : List α → α → Prop) [∀ past a, Decidable (P past a)] : List α → List α → Bool
  | _, [] => true
  | past, a :: rest => decide (P past a) && check P (past ++ [a]) rest

theorem of_check [∀ past a, Decidable (P past a)] {past : List α} (hpast : Throughout P past)
    (h : check P past trace = true) : Throughout P (past ++ trace) := by
  induction trace generalizing past with
  | nil =>
    rw [List.append_nil]
    exact hpast
  | cons a rest ih =>
    obtain ⟨hone, hrest⟩ := Bool.and_eq_true_iff.1 h
    have hall := ih (hpast.snoc (of_decide_eq_true hone)) hrest
    rw [List.append_assoc] at hall
    exact hall

end Throughout

/-- Entries that leave a fold as it is. -/
theorem List.foldl_append_fixed {α β : Type} {f : β → α → β} {b : β} {trace new : List α}
    (hnew : ∀ a ∈ new, ∀ b, f b a = b) : (trace ++ new).foldl f b = trace.foldl f b := by
  rw [List.foldl_append]
  generalize trace.foldl f b = c
  induction new generalizing c with
  | nil => rfl
  | cons a new ih =>
    rw [List.foldl_cons, hnew a List.mem_cons_self]
    exact ih (fun b hb => hnew b (List.mem_cons_of_mem a hb)) c
