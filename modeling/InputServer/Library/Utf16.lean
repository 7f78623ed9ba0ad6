import Mathlib

set_option autoImplicit true

/-- A 16-bit unit, low byte first. -/
def utf16Unit (n : Nat) : List UInt8 :=
  [UInt8.ofNat (n % 256), UInt8.ofNat (n / 256)]

/-- A character of the first plane, which takes one unit. -/
def Char.Basic (c : Char) : Prop :=
  c.val.toNat < 0x10000

instance : DecidablePred Char.Basic :=
  fun c => inferInstanceAs (Decidable (c.val.toNat < 0x10000))

/-- UTF-16LE: one unit, or a pair of surrogates. -/
def utf16EncodeChar (c : Char) : List UInt8 :=
  let v := c.val.toNat
  if c.Basic then utf16Unit v
  else utf16Unit (0xd800 + (v - 0x10000) / 0x400) ++ utf16Unit (0xdc00 + (v - 0x10000) % 0x400)

def utf16Encode (cs : List Char) : List UInt8 :=
  cs.flatMap utf16EncodeChar

namespace Utf16

theorem unit_inj {m n : Nat} {xs ys : List UInt8} (hm : m < 0x10000) (hn : n < 0x10000)
    (h : utf16Unit m ++ xs = utf16Unit n ++ ys) : m = n ∧ xs = ys := by
  obtain ⟨hlow, h⟩ := List.cons.inj h
  obtain ⟨hhigh, hrest⟩ := List.cons.inj h
  have hlow' := congrArg UInt8.toNat hlow
  have hhigh' := congrArg UInt8.toNat hhigh
  rw [UInt8.toNat_ofNat', UInt8.toNat_ofNat'] at hlow' hhigh'
  exact ⟨by omega, hrest⟩

theorem encodeChar_basic {c : Char} (h : c.Basic) : utf16EncodeChar c = utf16Unit c.val.toNat :=
  if_pos h

theorem encodeChar_ne_nil (c : Char) : utf16EncodeChar c ≠ [] := by
  unfold utf16EncodeChar
  dsimp only
  split <;> exact List.cons_ne_nil _ _

/-- No character is a surrogate. -/
theorem not_surrogate (c : Char) : c.val.toNat < 0xd800 ∨ 0xe000 ≤ c.val.toNat := by
  cases c.valid with
  | inl h => exact .inl h
  | inr h =>
    right
    exact h.1

theorem val_lt (c : Char) : c.val.toNat < 0x110000 := by
  cases c.valid with
  | inl h => exact h.trans (by decide)
  | inr h => exact h.2

/-- What a text starts with tells its first character. -/
theorem encodeChar_inj {c d : Char} {xs ys : List UInt8}
    (h : utf16EncodeChar c ++ xs = utf16EncodeChar d ++ ys) : c = d ∧ xs = ys := by
  have hcs := not_surrogate c
  have hds := not_surrogate d
  have hc := val_lt c
  have hd := val_lt d
  have hval (heq : c.val.toNat = d.val.toNat) : c = d := Char.ext (UInt32.toNat_inj.mp heq)
  unfold utf16EncodeChar at h
  dsimp only at h
  by_cases hcb : c.Basic
  · have hcb' : c.val.toNat < 0x10000 := hcb
    rw [if_pos hcb] at h
    by_cases hdb : d.Basic
    · rw [if_pos hdb] at h
      obtain ⟨heq, hrest⟩ := unit_inj hcb hdb h
      exact ⟨hval heq, hrest⟩
    · have hdb' : ¬d.val.toNat < 0x10000 := hdb
      rw [if_neg hdb, List.append_assoc] at h
      obtain ⟨heq, _⟩ := unit_inj hcb (by omega) h
      omega
  · have hcb' : ¬c.val.toNat < 0x10000 := hcb
    rw [if_neg hcb, List.append_assoc] at h
    by_cases hdb : d.Basic
    · rw [if_pos hdb] at h
      obtain ⟨heq, _⟩ := unit_inj (by omega) hdb h
      have hdb' : d.val.toNat < 0x10000 := hdb
      omega
    · have hdb' : ¬d.val.toNat < 0x10000 := hdb
      rw [if_neg hdb, List.append_assoc] at h
      obtain ⟨hhigh, h⟩ := unit_inj (by omega) (by omega) h
      obtain ⟨hlow, hrest⟩ := unit_inj (by omega) (by omega) h
      exact ⟨hval (by omega), hrest⟩

/-- Different texts have different encodings. -/
theorem encode_inj {cs ds : List Char} (h : utf16Encode cs = utf16Encode ds) : cs = ds := by
  induction cs generalizing ds with
  | nil =>
    cases ds with
    | nil => rfl
    | cons d ds =>
      have hnil := List.append_eq_nil_iff.mp h.symm
      exact absurd hnil.1 (encodeChar_ne_nil d)
  | cons c cs ih =>
    cases ds with
    | nil =>
      have hnil := List.append_eq_nil_iff.mp h
      exact absurd hnil.1 (encodeChar_ne_nil c)
    | cons d ds =>
      obtain ⟨hfirst, hrest⟩ := encodeChar_inj h
      rw [hfirst, ih hrest]

end Utf16
