import InputServer.Library.Utf16
import InputServer.Secure

namespace InputServer.Secure
set_option autoImplicit true

/-- A password as it is typed: the UTF-8 encoding of its characters. -/
def utf8 (cs : List Char) : List UInt8 :=
  cs.flatMap String.utf8EncodeChar

section
variable {c : Char} {src dest : List UInt8} {len : Nat}

/-- The loop has room as long as it has written no more than two bytes for each one read. -/
def Room (len : Nat) (src dest : List UInt8) : Prop :=
  dest.length + 2 * src.length ≤ 2 * len

theorem utf8_cons (c : Char) (cs : List Char) : utf8 (c :: cs) = String.utf8EncodeChar c ++ utf8 cs :=
  rfl

theorem encode_cons (c : Char) (cs : List Char) :
    utf16Encode (c :: cs) = utf16EncodeChar c ++ utf16Encode cs :=
  rfl

theorem utf16le_eq (v : UInt16) : utf16le v = utf16Unit v.toNat := by
  have hlow : (v &&& 0xff).toUInt8 = UInt8.ofNat (v.toNat % 256) := by
    apply UInt8.toNat_inj.mp
    rw [UInt16.toNat_toUInt8, UInt16.toNat_and, UInt8.toNat_ofNat']
    change (v.toNat &&& 2 ^ 8 - 1) % 2 ^ 8 = _
    rw [Nat.and_two_pow_sub_one_eq_mod]
  have hhigh : (v >>> 8).toUInt8 = UInt8.ofNat (v.toNat / 256) := by
    apply UInt8.toNat_inj.mp
    rw [UInt16.toNat_toUInt8, UInt16.toNat_shiftRight, UInt8.toNat_ofNat']
    change v.toNat >>> 8 % 2 ^ 8 = _
    rw [Nat.shiftRight_eq_div_pow]
  unfold utf16le utf16Unit
  rw [hlow, hhigh]

theorem and_low (c : UInt8) (k : Nat) (mask : UInt16) (hmask : mask.toNat = 2 ^ k - 1) :
    (c.toUInt16 &&& mask).toNat = c.toNat % 2 ^ k := by
  rw [UInt16.toNat_and, UInt8.toNat_toUInt16, hmask, Nat.and_two_pow_sub_one_eq_mod]

theorem shiftLeft_small (v k : UInt16) (n : Nat) (hk : k.toNat = n) (hn : n < 16)
    (hv : v.toNat * 2 ^ n < 2 ^ 16) : (v <<< k).toNat = v.toNat <<< n := by
  rw [UInt16.toNat_shiftLeft, hk, Nat.mod_eq_of_lt hn, Nat.shiftLeft_eq, Nat.mod_eq_of_lt hv]

theorem or_low {low n : Nat} (hlow : low < 2 ^ n) (high : Nat) :
    high <<< n ||| low = high * 2 ^ n + low := by
  rw [← Nat.shiftLeft_add_eq_or_of_lt hlow, Nat.shiftLeft_eq]

theorem two_bytes (c c2 : UInt8) :
    ((c.toUInt16 &&& 0x1f) <<< 6 ||| (c2.toUInt16 &&& 0x3f)).toNat =
      c.toNat % 32 * 64 + c2.toNat % 64 := by
  have hc := and_low c 5 0x1f rfl
  have hc2 := and_low c2 6 0x3f rfl
  have hshift := shiftLeft_small (c.toUInt16 &&& 0x1f) 6 6 rfl (by decide) (by omega)
  have hlow : c2.toNat % 2 ^ 6 < 2 ^ 6 := Nat.mod_lt _ (by decide)
  rw [UInt16.toNat_or, hshift, hc, hc2, or_low hlow]
  rfl

theorem three_bytes (c c2 c3 : UInt8) :
    ((c.toUInt16 &&& 0x0f) <<< 12 ||| (c2.toUInt16 &&& 0x3f) <<< 6 |||
        (c3.toUInt16 &&& 0x3f)).toNat =
      c.toNat % 16 * 4096 + (c2.toNat % 64 * 64 + c3.toNat % 64) := by
  have hc := and_low c 4 0x0f rfl
  have hc2 := and_low c2 6 0x3f rfl
  have hc3 := and_low c3 6 0x3f rfl
  have hshift := shiftLeft_small (c.toUInt16 &&& 0x0f) 12 12 rfl (by decide) (by omega)
  have hshift2 := shiftLeft_small (c2.toUInt16 &&& 0x3f) 6 6 rfl (by decide) (by omega)
  have hlow : c3.toNat % 2 ^ 6 < 2 ^ 6 := Nat.mod_lt _ (by decide)
  have hrest : c2.toNat % 2 ^ 6 * 2 ^ 6 + c3.toNat % 2 ^ 6 < 2 ^ 12 := by
    have hmid : c2.toNat % 2 ^ 6 < 2 ^ 6 := Nat.mod_lt _ (by decide)
    omega
  rw [UInt16.toNat_or, UInt16.toNat_or, hshift, hshift2, hc, hc2, hc3, Nat.or_assoc, or_low hlow,
    or_low hrest]
  rfl

/-- The loop goes on where it has room, and there is something to read. -/
theorem Room.goes (h : Room len src dest) (hsrc : src ≠ []) : dest.length < len * 2 - 1 := by
  have hlength : 0 < src.length := List.length_pos_of_ne_nil hsrc
  unfold Room at h
  omega

theorem nibble {n : Nat} (hn : n < 256) (k : UInt8) :
    UInt8.ofNat n >>> 4 = k ↔ n / 16 = k.toNat := by
  rw [← UInt8.toNat_inj, UInt8.toNat_shiftRight, UInt8.toNat_ofNat', Nat.mod_eq_of_lt hn]
  change n >>> 4 = _ ↔ _
  rw [Nat.shiftRight_eq_div_pow]

theorem nibble_lt {n : Nat} (hn : n < 256) : UInt8.ofNat n >>> 4 < 8 ↔ n < 128 := by
  rw [UInt8.lt_iff_toNat_lt, UInt8.toNat_shiftRight, UInt8.toNat_ofNat', Nat.mod_eq_of_lt hn]
  change n >>> 4 < 8 ↔ _
  rw [Nat.shiftRight_eq_div_pow]
  omega

theorem from_one {n : Nat} (hn : n < 128) (hroom : Room len (UInt8.ofNat n :: src) dest) :
    utf8ToUtf16leFrom len (UInt8.ofNat n :: src) dest =
      utf8ToUtf16leFrom len src (dest ++ utf16Unit n) := by
  have hunit : utf16le (UInt8.ofNat n).toUInt16 = utf16Unit n := by
    rw [utf16le_eq, UInt8.toNat_toUInt16, UInt8.toNat_ofNat', Nat.mod_eq_of_lt (by omega)]
  rw [utf8ToUtf16leFrom.eq_2, if_pos (hroom.goes (List.cons_ne_nil _ _))]
  dsimp only
  rw [if_pos ((nibble_lt (by omega)).mpr hn), hunit]

theorem from_two {n n2 : Nat} (hn : 192 ≤ n ∧ n < 224) (hn2 : n2 < 256)
    (hroom : Room len (UInt8.ofNat n :: UInt8.ofNat n2 :: src) dest) :
    utf8ToUtf16leFrom len (UInt8.ofNat n :: UInt8.ofNat n2 :: src) dest =
      utf8ToUtf16leFrom len src (dest ++ utf16Unit (n % 32 * 64 + n2 % 64)) := by
  have hkind : UInt8.ofNat n >>> 4 = 12 ∨ UInt8.ofNat n >>> 4 = 13 := by
    rw [nibble (by omega), nibble (by omega)]
    change n / 16 = 12 ∨ n / 16 = 13
    omega
  have hlong : ¬UInt8.ofNat n >>> 4 < 8 := by
    rw [nibble_lt (by omega)]
    omega
  rw [utf8ToUtf16leFrom.eq_2, if_pos (hroom.goes (List.cons_ne_nil _ _))]
  dsimp only
  rw [if_neg hlong, if_pos hkind, utf16le_eq, two_bytes, UInt8.toNat_ofNat', UInt8.toNat_ofNat',
    Nat.mod_eq_of_lt (by omega : n < 2 ^ 8), Nat.mod_eq_of_lt (by omega : n2 < 2 ^ 8)]

theorem from_three {n n2 n3 : Nat} (hn : 224 ≤ n ∧ n < 240) (hn2 : n2 < 256) (hn3 : n3 < 256)
    (hroom : Room len (UInt8.ofNat n :: UInt8.ofNat n2 :: UInt8.ofNat n3 :: src) dest) :
    utf8ToUtf16leFrom len (UInt8.ofNat n :: UInt8.ofNat n2 :: UInt8.ofNat n3 :: src) dest =
      utf8ToUtf16leFrom len src
        (dest ++ utf16Unit (n % 16 * 4096 + (n2 % 64 * 64 + n3 % 64))) := by
  have hkind : UInt8.ofNat n >>> 4 = 14 := by
    rw [nibble (by omega)]
    change n / 16 = 14
    omega
  have hother : ¬((14 : UInt8) = 12 ∨ (14 : UInt8) = 13) := by decide
  have hlong : ¬(14 : UInt8) < 8 := by decide
  rw [utf8ToUtf16leFrom.eq_2, if_pos (hroom.goes (List.cons_ne_nil _ _))]
  dsimp only
  rw [hkind, if_neg hlong, if_neg hother, if_pos rfl, utf16le_eq, three_bytes, UInt8.toNat_ofNat',
    UInt8.toNat_ofNat', UInt8.toNat_ofNat', Nat.mod_eq_of_lt (by omega : n < 2 ^ 8),
    Nat.mod_eq_of_lt (by omega : n2 < 2 ^ 8), Nat.mod_eq_of_lt (by omega : n3 < 2 ^ 8)]

/-- The loop gives up at the first byte of four. -/
theorem from_four {n : Nat} (hn : 240 ≤ n ∧ n < 256) (hroom : Room len (UInt8.ofNat n :: src) dest) :
    utf8ToUtf16leFrom len (UInt8.ofNat n :: src) dest = dest := by
  have hkind : UInt8.ofNat n >>> 4 = 15 := by
    rw [nibble (by omega)]
    change n / 16 = 15
    omega
  have hother : ¬((15 : UInt8) = 12 ∨ (15 : UInt8) = 13) := by decide
  have hlong : ¬(15 : UInt8) < 8 := by decide
  have hthree : ¬(15 : UInt8) = 14 := by decide
  rw [utf8ToUtf16leFrom.eq_2, if_pos (hroom.goes (List.cons_ne_nil _ _))]
  dsimp only
  rw [hkind, if_neg hlong, if_neg hother, if_neg hthree]

/-- A character of the first plane is taken over. -/
theorem from_basic (hc : c.Basic) (hroom : Room len (String.utf8EncodeChar c ++ src) dest) :
    utf8ToUtf16leFrom len (String.utf8EncodeChar c ++ src) dest =
      utf8ToUtf16leFrom len src (dest ++ utf16EncodeChar c) := by
  have hv : c.val.toNat < 0x10000 := hc
  rw [Utf16.encodeChar_basic hc]
  unfold String.utf8EncodeChar at hroom ⊢
  dsimp only at hroom ⊢
  generalize c.val.toNat = v at hv hroom
  by_cases hone : v ≤ 0x7f
  · rw [if_pos hone] at hroom ⊢
    exact from_one (by omega) hroom
  rw [if_neg hone] at hroom ⊢
  by_cases htwo : v ≤ 0x7ff
  · rw [if_pos htwo] at hroom ⊢
    have hvalue : (v / 64 % 32 + 192) % 32 * 64 + (v % 64 + 128) % 64 = v := by omega
    have hstep := from_two (by omega) (by omega) hroom
    rw [hvalue] at hstep
    exact hstep
  rw [if_neg htwo] at hroom ⊢
  have hthree : v ≤ 0xffff := by omega
  rw [if_pos hthree] at hroom ⊢
  have hvalue : (v / 4096 % 16 + 224) % 16 * 4096 +
      ((v / 64 % 64 + 128) % 64 * 64 + (v % 64 + 128) % 64) = v := by omega
  have hstep := from_three (by omega) (by omega) (by omega) hroom
  rw [hvalue] at hstep
  exact hstep

/-- Any other character ends the loop. -/
theorem from_other (hc : ¬c.Basic) (hroom : Room len (String.utf8EncodeChar c ++ src) dest) :
    utf8ToUtf16leFrom len (String.utf8EncodeChar c ++ src) dest = dest := by
  have hv : ¬c.val.toNat < 0x10000 := hc
  unfold String.utf8EncodeChar at hroom ⊢
  dsimp only at hroom ⊢
  generalize c.val.toNat = v at hv hroom
  rw [if_neg (by omega), if_neg (by omega), if_neg (by omega)] at hroom ⊢
  exact from_four (by omega) hroom

theorem length_basic (hc : c.Basic) :
    (utf16EncodeChar c).length ≤ 2 * (String.utf8EncodeChar c).length := by
  have hlength : 0 < (String.utf8EncodeChar c).length :=
    List.length_pos_of_ne_nil String.utf8EncodeChar_ne_nil
  rw [Utf16.encodeChar_basic hc]
  change 2 ≤ _
  omega

/-- What comes out is the encoding up to the first character that is not of the first plane. -/
theorem utf8ToUtf16leFrom_eq (cs : List Char) (hroom : Room len (utf8 cs) dest) :
    utf8ToUtf16leFrom len (utf8 cs) dest =
      dest ++ utf16Encode (cs.takeWhile (Char.Basic ·)) := by
  induction cs generalizing dest with
  | nil => exact (List.append_nil dest).symm
  | cons c cs ih =>
    rw [utf8_cons] at hroom ⊢
    by_cases hc : c.Basic
    · have hrest : Room len (utf8 cs) (dest ++ utf16EncodeChar c) := by
        have hlength := length_basic hc
        unfold Room at hroom ⊢
        rw [List.length_append] at hroom ⊢
        omega
      have htake : (c :: cs).takeWhile (Char.Basic ·) = c :: cs.takeWhile (Char.Basic ·) :=
        List.takeWhile_cons_of_pos (decide_eq_true hc)
      rw [from_basic hc hroom, ih hrest, htake, encode_cons, List.append_assoc]
    · have htake : (c :: cs).takeWhile (Char.Basic ·) = [] :=
        List.takeWhile_cons_of_neg (by rwa [decide_eq_true_eq])
      rw [from_other hc hroom, htake]
      exact (List.append_nil dest).symm

theorem utf8ToUtf16le_eq (cs : List Char) :
    utf8ToUtf16le (utf8 cs) = utf16Encode (cs.takeWhile (Char.Basic ·)) := by
  have hroom : Room (utf8 cs).length (utf8 cs) [] := Nat.le_of_eq (Nat.zero_add _)
  exact utf8ToUtf16leFrom_eq cs hroom

end

/-- A password is encoded whole exactly when all its characters are of the first plane, and such
passwords are told apart. -/
theorem password_encoded_iff (cs : List Char) :
    (utf8ToUtf16le (utf8 cs) = utf16Encode cs ↔ ∀ c ∈ cs, c.Basic) ∧
      ((∀ c ∈ cs, c.Basic) → ∀ cs' : List Char, (∀ c ∈ cs', c.Basic) →
        utf8ToUtf16le (utf8 cs) = utf8ToUtf16le (utf8 cs') → cs = cs') := by
  have hwhole (cs : List Char) :
      utf8ToUtf16le (utf8 cs) = utf16Encode cs ↔ ∀ c ∈ cs, c.Basic := by
    rw [utf8ToUtf16le_eq]
    constructor
    · intro h
      have htake := Utf16.encode_inj h
      intro c hc
      exact of_decide_eq_true (List.takeWhile_eq_self_iff.mp htake c hc)
    · intro h
      rw [List.takeWhile_eq_self_iff.mpr fun c hc => decide_eq_true (h c hc)]
  refine ⟨hwhole cs, ?_⟩
  intro hcs cs' hcs' heq
  rw [(hwhole cs).mpr hcs, (hwhole cs').mpr hcs'] at heq
  exact Utf16.encode_inj heq

/-- Two passwords that start with a character of another plane give no bytes to be hashed. -/
theorem passwords_confused :
    ¬∀ cs cs' : List Char, utf8ToUtf16le (utf8 cs) = utf16Encode cs ∧
      (utf8ToUtf16le (utf8 cs) = utf8ToUtf16le (utf8 cs') → cs = cs') := by
  intro h
  have hsame := (h [Char.ofNat 0x1f600, 'a'] [Char.ofNat 0x1f600, 'b']).2 (by decide +kernel)
  exact absurd hsame (by decide +kernel)

end InputServer.Secure
