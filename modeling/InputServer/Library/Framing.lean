import Mathlib

set_option autoImplicit true

/-- Fixed-width frames in a stream: `accepts` looks at `width` symbols, `parse` reads the frame. -/
structure Framing (α β : Type) where
  width : Nat
  width_pos : 0 < width
  accepts : List α → Bool
  parse : List α → β

namespace Framing

variable {α β : Type} (F : Framing α β)

/-- Greedy decoding of at most `fuel` symbols: take a frame where one is accepted, else skip one
symbol. The second component is the incomplete rest. -/
def decodeWith (F : Framing α β) : Nat → List α → List β × List α
  | 0, bs => ([], bs)
  | fuel + 1, bs =>
    if bs.length < F.width then ([], bs)
    else if F.accepts (bs.take F.width) then
      let r := decodeWith F fuel (bs.drop F.width)
      (F.parse (bs.take F.width) :: r.1, r.2)
    else decodeWith F fuel (bs.drop 1)

/-- Greedy decoding of a whole stream. -/
def decode (F : Framing α β) (bs : List α) : List β × List α :=
  decodeWith F bs.length bs

theorem decodeWith_eq {fuel : Nat} {bs : List α} (h : bs.length ≤ fuel) :
    F.decodeWith fuel bs = F.decode bs := by
  have hw := F.width_pos
  induction fuel using Nat.strong_induction_on generalizing bs with
  | _ fuel ih =>
    cases fuel with
    | zero =>
      have hnil : bs = [] := List.length_eq_zero_iff.mp (Nat.le_zero.mp h)
      subst hnil
      rfl
    | succ fuel =>
      cases bs with
      | nil =>
        exact if_pos hw
      | cons b bs =>
        rw [List.length_cons] at h
        have hstep : ∀ n, bs.length ≤ n → n ≤ fuel →
            F.decodeWith (n + 1) (b :: bs) = F.decodeWith (fuel + 1) (b :: bs) := by
          intro n hn hle
          have hdrop : ∀ k, 0 < k → F.decodeWith n ((b :: bs).drop k) =
              F.decodeWith fuel ((b :: bs).drop k) := by
            intro k hk
            have hlen : ((b :: bs).drop k).length ≤ n := by
              rw [List.length_drop, List.length_cons]
              omega
            rw [ih n (by omega) hlen, ih fuel (Nat.lt_succ_self _) (hlen.trans hle)]
          simp only [decodeWith, hdrop _ hw, hdrop 1 Nat.one_pos]
        exact (hstep bs.length (Nat.le_refl _) (by omega)).symm

theorem decode_short {bs : List α} (h : bs.length < F.width) : F.decode bs = ([], bs) := by
  cases bs with
  | nil => rfl
  | cons b bs => exact if_pos h

theorem decode_nil : F.decode [] = ([], []) := rfl

theorem decode_accept {bs : List α} (h : ¬bs.length < F.width)
    (ha : F.accepts (bs.take F.width)) :
    F.decode bs = (F.parse (bs.take F.width) :: (F.decode (bs.drop F.width)).1,
      (F.decode (bs.drop F.width)).2) := by
  have hw := F.width_pos
  cases bs with
  | nil => exact absurd hw h
  | cons b bs =>
    have hlen : ((b :: bs).drop F.width).length ≤ bs.length := by
      rw [List.length_drop, List.length_cons]
      omega
    rw [decode, List.length_cons, decodeWith, if_neg h, if_pos ha, F.decodeWith_eq hlen]

theorem decode_skip {bs : List α} (h : ¬bs.length < F.width)
    (ha : ¬F.accepts (bs.take F.width)) : F.decode bs = F.decode (bs.drop 1) := by
  have hw := F.width_pos
  cases bs with
  | nil => exact absurd hw h
  | cons b bs =>
    have hlen : ((b :: bs).drop 1).length ≤ bs.length := Nat.le_refl _
    rw [decode, List.length_cons, decodeWith, if_neg h, if_neg ha, F.decodeWith_eq hlen]

theorem decode_rest_lt (bs : List α) : (F.decode bs).2.length < F.width := by
  have hw := F.width_pos
  induction hn : bs.length using Nat.strong_induction_on generalizing bs with
  | _ n ih =>
    subst hn
    by_cases h : bs.length < F.width
    · rw [F.decode_short h]
      exact h
    · by_cases ha : F.accepts (bs.take F.width)
      · rw [F.decode_accept h ha]
        exact ih (bs.drop F.width).length (by rw [List.length_drop]; omega) _ rfl
      · rw [F.decode_skip h ha]
        exact ih (bs.drop 1).length (by rw [List.length_drop]; omega) _ rfl

/-- Decoding may be suspended anywhere: the rest of a prefix is decoded again with what follows. -/
theorem decode_append (bs cs : List α) :
    F.decode (bs ++ cs) = ((F.decode bs).1 ++ (F.decode ((F.decode bs).2 ++ cs)).1,
      (F.decode ((F.decode bs).2 ++ cs)).2) := by
  have hw := F.width_pos
  induction hn : bs.length using Nat.strong_induction_on generalizing bs with
  | _ n ih =>
    subst hn
    by_cases h : bs.length < F.width
    · rw [F.decode_short h, List.nil_append]
    · have hlen : ¬(bs ++ cs).length < F.width := by
        rw [List.length_append]
        omega
      have htake : (bs ++ cs).take F.width = bs.take F.width :=
        List.take_append_of_le_length (by omega)
      by_cases ha : F.accepts (bs.take F.width)
      · have hrec := ih (bs.drop F.width).length (by rw [List.length_drop]; omega) _ rfl
        rw [F.decode_accept hlen (by rwa [htake]), htake,
          List.drop_append_of_le_length (by omega), hrec, F.decode_accept h ha]
        rfl
      · have hrec := ih (bs.drop 1).length (by rw [List.length_drop]; omega) _ rfl
        rw [F.decode_skip hlen (by rwa [htake]), List.drop_append_of_le_length (by omega), hrec,
          F.decode_skip h ha]

/-- A stream of accepted frames decodes to exactly those frames. -/
theorem decode_flatMap (enc : γ → List α) (val : γ → β) (hlen : ∀ r, (enc r).length = F.width)
    (hacc : ∀ r, F.accepts (enc r)) (hval : ∀ r, F.parse (enc r) = val r) (rs : List γ) :
    F.decode (rs.flatMap enc) = (rs.map val, []) := by
  induction rs with
  | nil => exact F.decode_nil
  | cons r rs ih =>
    have htake : ((r :: rs).flatMap enc).take F.width = enc r := by
      rw [List.flatMap_cons, List.take_append_of_le_length (hlen r).ge, ← hlen r, List.take_length]
    have hdrop : ((r :: rs).flatMap enc).drop F.width = rs.flatMap enc := by
      rw [List.flatMap_cons, List.drop_append_of_le_length (hlen r).ge, ← hlen r, List.drop_length,
        List.nil_append]
    have hshort : ¬((r :: rs).flatMap enc).length < F.width := by
      rw [List.flatMap_cons, List.length_append, hlen]
      omega
    rw [F.decode_accept hshort (by rw [htake]; exact hacc r), htake, hdrop, ih, hval]
    rfl

end Framing
