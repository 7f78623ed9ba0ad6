import InputServer.Library.Loop
import InputServer.PasswordEncoding

namespace InputServer.Secure
set_option autoImplicit true

/-- What `utf8_to_utf16le` keeps while it runs; `size_t` has `w` bits. -/
structure Converter (w : Nat) where
  dest : List UInt8
  read : BitVec w
  write : BitVec w

/-- A byte of a buffer is written, if the buffer has it. -/
def store (dest : List UInt8) (i : BitVec w) (b : UInt8) : Option (List UInt8) :=
  if i.toNat < dest.length then some (dest.set i.toNat b) else none

namespace Converter

/-- The end of the loop's body. -/
def emit (s : Converter w) (v : UInt16) : Option (Converter w ⊕ Converter w) := do
  let dest ← store s.dest s.write (v &&& 0xff).toUInt8
  let dest ← store dest (s.write + 1) (v >>> 8).toUInt8
  pure (.inr { s with dest := dest, write := s.write + 2 })

/-- The loop of `utf8_to_utf16le`, with its accesses to the buffers: it returns, or goes on. -/
def body (src : List UInt8) (len : BitVec w) (s : Converter w) :
    Option (Converter w ⊕ Converter w) :=
  if s.read < len ∧ s.write < len * 2 - 1 then do
    let c ← src[s.read.toNat]?
    let c16 := c.toUInt16
    let n := c >>> 4
    let s := { s with read := s.read + 1 }
    if n < 8 then s.emit c16
    else if n = 12 ∨ n = 13 then
      if s.read ≥ len then pure (.inl s)
      else do
        let c2 ← src[s.read.toNat]?
        let s := { s with read := s.read + 1 }
        s.emit ((c16 &&& 0x1f) <<< 6 ||| (c2.toUInt16 &&& 0x3f))
    else if n = 14 then
      if s.read ≥ len - 1 then pure (.inl s)
      else do
        let c2 ← src[s.read.toNat]?
        let s := { s with read := s.read + 1 }
        let c3 ← src[s.read.toNat]?
        let s := { s with read := s.read + 1 }
        s.emit
          ((c16 &&& 0x0f) <<< 12 ||| (c2.toUInt16 &&& 0x3f) <<< 6 ||| (c3.toUInt16 &&& 0x3f))
    else pure (.inl s)
  else pure (.inl s)

/-- A round of the loop; an access outside a buffer ends it with nothing. -/
def round (src : List UInt8) (len : BitVec w) (s : Converter w) :
    Option (Converter w) ⊕ Converter w :=
  match s.body src len with
  | none => .inl none
  | some (.inl s) => .inl (some s)
  | some (.inr s) => .inr s

/-- `utf8_to_utf16le` within so many rounds; it returns what `write` is in the end. -/
def run (w fuel : Nat) (src dest : List UInt8) : Option (Option (Converter w)) :=
  Loop (round src (BitVec.ofNat w src.length)) fuel ⟨dest, 0, 0⟩

end Converter

section
variable {w : Nat} {src : List UInt8} {s s' : Converter w}

/-- What the loop keeps. -/
structure Converter.Fits (src : List UInt8) (s : Converter w) : Prop where
  dest : s.dest.length = 2 * src.length
  read : s.read.toNat ≤ src.length
  even : s.write.toNat % 2 = 0
  room : 2 * src.length < 2 ^ w → s.write.toNat ≤ 2 * s.read.toNat

/-- `size_t` is wide enough for the length of the source. -/
structure SizeOf (w : Nat) (src : List UInt8) : Prop where
  width : 16 ≤ w
  length : src.length < 2 ^ w

theorem SizeOf.pow (h : SizeOf w src) : ∃ m, 2 ^ w = 2 * m ∧ 16 ≤ m := by
  have hw := h.width
  refine ⟨2 ^ (w - 1), ?_, ?_⟩
  · rw [← Nat.pow_succ']
    congr 1
    omega
  · calc 16 = 2 ^ 4 := rfl
      _ ≤ 2 ^ (w - 1) := Nat.pow_le_pow_right (by decide) (by omega)

theorem SizeOf.len (h : SizeOf w src) : (BitVec.ofNat w src.length).toNat = src.length := by
  rw [BitVec.toNat_ofNat, Nat.mod_eq_of_lt h.length]

theorem SizeOf.one (h : SizeOf w src) : (1 : BitVec w).toNat = 1 := by
  obtain ⟨m, hm, hle⟩ := h.pow
  have hlt : 1 < 2 ^ w := by omega
  exact Nat.mod_eq_of_lt hlt

theorem SizeOf.two (h : SizeOf w src) : (2 : BitVec w).toNat = 2 := by
  obtain ⟨m, hm, hle⟩ := h.pow
  have hlt : 2 < 2 ^ w := by omega
  exact Nat.mod_eq_of_lt hlt

theorem emit_ok (h : SizeOf w src) (hroom : s.write.toNat + 1 < s.dest.length)
    (hwrap : s.write.toNat + 1 < 2 ^ w) (v : UInt16) :
    s.emit v = some (.inr { s with
      dest := (s.dest.set s.write.toNat (v &&& 0xff).toUInt8).set (s.write.toNat + 1)
        (v >>> 8).toUInt8
      write := s.write + 2 }) := by
  have hnext : (s.write + 1).toNat = s.write.toNat + 1 := by
    rw [BitVec.toNat_add, h.one, Nat.mod_eq_of_lt hwrap]
  unfold Converter.emit store
  rw [if_pos (Nat.lt_of_succ_lt hroom), Option.bind_eq_bind, Option.bind_some, hnext,
    List.length_set, if_pos hroom]
  rfl

theorem toNat_pred (hsize : SizeOf w src) (hne : 0 < src.length) :
    (BitVec.ofNat w src.length - 1).toNat = src.length - 1 := by
  have hlength := hsize.length
  rw [BitVec.toNat_sub, hsize.len, hsize.one]
  have hsum : 2 ^ w - 1 + src.length = 2 ^ w + (src.length - 1) := by omega
  rw [hsum, Nat.add_mod_left, Nat.mod_eq_of_lt (by omega)]

/-- What is left to do with the source, once so much of it has been read. -/
def Converter.rest (src : List UInt8) (r : Nat) (dest : List UInt8) : List UInt8 :=
  utf8ToUtf16leFrom src.length (src.drop r) dest

/-- What the body of the loop does: it returns where the conversion ends, or reads some bytes and
writes the two that they give. -/
inductive BodyDone (src : List UInt8) (s : Converter w) :
    Option (Converter w ⊕ Converter w) → Prop where
  | leaves {s' : Converter w} : s'.dest = s.dest → s'.write = s.write →
      (∀ d, d.length = s.write.toNat → 2 * src.length < 2 ^ w →
        Converter.rest src s.read.toNat d = d) →
      BodyDone src s (some (.inl s'))
  | writes {s' : Converter w} {v : UInt16} : s.read.toNat < s'.read.toNat →
      s'.read.toNat ≤ src.length →
      s'.write = s.write + 2 →
      s'.dest = (s.dest.set s.write.toNat (v &&& 0xff).toUInt8).set (s.write.toNat + 1)
        (v >>> 8).toUInt8 →
      (∀ d, d.length = s.write.toNat → 2 * src.length < 2 ^ w →
        Converter.rest src s.read.toNat d = Converter.rest src s'.read.toNat (d ++ utf16le v)) →
      BodyDone src s (some (.inr s'))

/-- Where the loop goes on, the two bytes have their place. -/
theorem Converter.Fits.place (h : s.Fits src) (hsize : SizeOf w src)
    (hgoes : s.read < BitVec.ofNat w src.length ∧ s.write < BitVec.ofNat w src.length * 2 - 1) :
    s.read.toNat < src.length ∧ s.write.toNat + 1 < 2 * src.length ∧
      s.write.toNat + 1 < 2 ^ w ∧
        (2 * src.length < 2 ^ w → s.write.toNat < src.length * 2 - 1) := by
  obtain ⟨m, hm, hle⟩ := hsize.pow
  have hread : s.read.toNat < src.length := by
    have hlt := BitVec.lt_def.1 hgoes.1
    rw [hsize.len] at hlt
    exact hlt
  have heven := h.even
  have hwrite := s.write.isLt
  have hwrap : s.write.toNat + 1 < 2 ^ w := by omega
  have hsmall (hfit : 2 * src.length < 2 ^ w) : s.write.toNat < src.length * 2 - 1 := by
    have hroom := h.room hfit
    omega
  refine ⟨hread, ?_, hwrap, hsmall⟩
  by_cases hfit : 2 * src.length < 2 ^ w
  · have hlt := hsmall hfit
    omega
  · omega

/-- Where the loop ends by itself and nothing has wrapped around, all of the source is read. -/
theorem Converter.Fits.ends (h : s.Fits src) (hsize : SizeOf w src)
    (hfit : 2 * src.length < 2 ^ w)
    (hends : ¬(s.read < BitVec.ofNat w src.length ∧
      s.write < BitVec.ofNat w src.length * 2 - 1)) : src.length ≤ s.read.toNat := by
  by_contra hmore
  have hdouble : (BitVec.ofNat w src.length * 2 - 1).toNat = src.length * 2 - 1 := by
    rw [BitVec.toNat_sub, BitVec.toNat_mul, hsize.len, hsize.two, hsize.one,
      Nat.mod_eq_of_lt (by omega : src.length * 2 < 2 ^ w)]
    have hsum : 2 ^ w - 1 + src.length * 2 = 2 ^ w + (src.length * 2 - 1) := by omega
    rw [hsum, Nat.add_mod_left, Nat.mod_eq_of_lt (by omega)]
  have hroom := h.room hfit
  apply hends
  rw [BitVec.lt_def, BitVec.lt_def, hsize.len, hdouble]
  omega

theorem toNat_succ (hsize : SizeOf w src) {i : BitVec w} (hi : i.toNat < src.length) :
    (i + 1).toNat = i.toNat + 1 := by
  have hlength := hsize.length
  rw [BitVec.toNat_add, hsize.one, Nat.mod_eq_of_lt (by omega)]

/-- The two bytes are written, behind what has been read. -/
theorem emit_writes (hsize : SizeOf w src) (h : s.Fits src) {s₁ : Converter w}
    (hplace : s.write.toNat + 1 < 2 * src.length) (hwrap : s.write.toNat + 1 < 2 ^ w)
    (hdest : s₁.dest = s.dest) (hwrite : s₁.write = s.write)
    (hread : s.read.toNat < s₁.read.toNat) (hlength : s₁.read.toNat ≤ src.length)
    (hrest : ∀ d, d.length = s.write.toNat → 2 * src.length < 2 ^ w →
      Converter.rest src s.read.toNat d = Converter.rest src s₁.read.toNat (d ++ utf16le v)) :
    BodyDone src s (s₁.emit v) := by
  have hroom : s₁.write.toNat + 1 < s₁.dest.length := by
    rw [hwrite, hdest, h.dest]
    exact hplace
  rw [emit_ok hsize hroom (by rw [hwrite]; exact hwrap), hdest, hwrite]
  exact .writes hread hlength rfl rfl hrest

theorem body_done (hsize : SizeOf w src) (h : s.Fits src) :
    BodyDone src s (s.body src (BitVec.ofNat w src.length)) := by
  unfold Converter.body
  by_cases hgoes : s.read < BitVec.ofNat w src.length ∧
      s.write < BitVec.ofNat w src.length * 2 - 1
  case neg =>
    rw [if_neg hgoes]
    refine .leaves rfl rfl fun d hd hfit => ?_
    have hend := h.ends hsize hfit hgoes
    unfold Converter.rest
    rw [List.drop_eq_nil_of_le hend]
    exact utf8ToUtf16leFrom.eq_1 ..
  case pos =>
    obtain ⟨hread, hplace, hwrap, hsmall⟩ := h.place hsize hgoes
    have hnext := toNat_succ hsize hread
    rw [if_pos hgoes, List.getElem?_eq_getElem hread]
    dsimp only [Option.bind_eq_bind, Option.bind_some]
    generalize hc : src[s.read.toNat] = c
    have hdrop : src.drop s.read.toNat = c :: src.drop (s.read.toNat + 1) := by
      rw [← hc]
      exact List.drop_eq_getElem_cons hread
    have hguard {d : List UInt8} (hd : d.length = s.write.toNat) (hfit : 2 * src.length < 2 ^ w) :
        d.length < src.length * 2 - 1 := by
      rw [hd]
      exact hsmall hfit
    by_cases hone : c >>> 4 < 8
    · rw [if_pos hone]
      refine emit_writes hsize h hplace hwrap rfl rfl ?_ ?_ fun d hd hfit => ?_
      · dsimp only
        omega
      · dsimp only
        omega
      · dsimp only
        unfold Converter.rest
        rw [hnext, hdrop, utf8ToUtf16leFrom.eq_2, if_pos (hguard hd hfit)]
        dsimp only
        rw [if_pos hone]
    rw [if_neg hone]
    by_cases htwo : c >>> 4 = 12 ∨ c >>> 4 = 13
    · rw [if_pos htwo]
      by_cases hshort : s.read + 1 ≥ BitVec.ofNat w src.length
      · rw [if_pos hshort]
        refine .leaves rfl rfl fun d hd hfit => ?_
        have hnil : src.drop (s.read.toNat + 1) = [] := by
          have hle := BitVec.le_def.1 hshort
          rw [hsize.len, hnext] at hle
          exact List.drop_eq_nil_of_le hle
        unfold Converter.rest
        rw [hdrop, hnil, utf8ToUtf16leFrom.eq_2, if_pos (hguard hd hfit)]
        dsimp only
        rw [if_neg hone, if_pos htwo]
      · rw [if_neg hshort]
        have hread2 : (s.read + 1).toNat < src.length := by
          have hlt := BitVec.lt_def.1 (BitVec.not_le.1 hshort)
          rw [hsize.len] at hlt
          exact hlt
        have hnext2 := toNat_succ hsize hread2
        rw [List.getElem?_eq_getElem hread2]
        dsimp only [Option.bind_some]
        refine emit_writes hsize h hplace hwrap rfl rfl ?_ ?_ fun d hd hfit => ?_
        · dsimp only
          omega
        · dsimp only
          omega
        · dsimp only
          unfold Converter.rest
          rw [hnext2, hdrop, ← hnext, List.drop_eq_getElem_cons hread2, utf8ToUtf16leFrom.eq_2,
            if_pos (hguard hd hfit)]
          dsimp only
          rw [if_neg hone, if_pos htwo]
    rw [if_neg htwo]
    by_cases hthree : c >>> 4 = 14
    · rw [if_pos hthree]
      have hpred := toNat_pred hsize (Nat.zero_lt_of_lt hread)
      by_cases hshort : s.read + 1 ≥ BitVec.ofNat w src.length - 1
      · rw [if_pos hshort]
        refine .leaves rfl rfl fun d hd hfit => ?_
        have hle := BitVec.le_def.1 hshort
        rw [hpred, hnext] at hle
        have hlast : (src.drop (s.read.toNat + 1)).length ≤ 1 := by
          rw [List.length_drop]
          omega
        unfold Converter.rest
        rw [hdrop, utf8ToUtf16leFrom.eq_2, if_pos (hguard hd hfit)]
        dsimp only
        rw [if_neg hone, if_neg htwo, if_pos hthree]
        generalize src.drop (s.read.toNat + 1) = tail at hlast ⊢
        cases tail with
        | nil => rfl
        | cons b rest =>
          rw [List.length_cons] at hlast
          rw [List.length_eq_zero_iff.1 (by omega : rest.length = 0)]
      · rw [if_neg hshort]
        have hroom : s.read.toNat + 1 < src.length - 1 := by
          have hlt := BitVec.lt_def.1 (BitVec.not_le.1 hshort)
          rw [hpred, hnext] at hlt
          exact hlt
        have hread2 : (s.read + 1).toNat < src.length := by omega
        have hnext2 := toNat_succ hsize hread2
        have hread3 : (s.read + 1 + 1).toNat < src.length := by omega
        have hnext3 := toNat_succ hsize hread3
        rw [List.getElem?_eq_getElem hread2, List.getElem?_eq_getElem hread3]
        dsimp only [Option.bind_some]
        refine emit_writes hsize h hplace hwrap rfl rfl ?_ ?_ fun d hd hfit => ?_
        · dsimp only
          omega
        · dsimp only
          omega
        · dsimp only
          unfold Converter.rest
          rw [hnext3, hdrop, ← hnext, List.drop_eq_getElem_cons hread2, ← hnext2,
            List.drop_eq_getElem_cons hread3, utf8ToUtf16leFrom.eq_2, if_pos (hguard hd hfit)]
          dsimp only
          rw [if_neg hone, if_neg htwo, if_pos hthree]
    · rw [if_neg hthree]
      refine .leaves rfl rfl fun d hd hfit => ?_
      unfold Converter.rest
      rw [hdrop, utf8ToUtf16leFrom.eq_2, if_pos (hguard hd hfit)]
      dsimp only
      rw [if_neg hone, if_neg htwo, if_neg hthree]

/-- Two bytes behind what has been written. -/
theorem take_set_set {dest : List UInt8} (hk : k + 1 < dest.length) (a b : UInt8) :
    ((dest.set k a).set (k + 1) b).take (k + 2) = dest.take k ++ [a, b] := by
  have hsplit : dest = dest.take k ++ dest[k] :: dest[k + 1] :: dest.drop (k + 2) := by
    rw [← List.drop_eq_getElem_cons hk, ← List.drop_eq_getElem_cons (Nat.lt_of_succ_lt hk),
      List.take_append_drop]
  have hlength : (dest.take k).length = k := List.length_take_of_le (by omega)
  generalize dest.take k = front at hsplit hlength ⊢
  generalize dest[k] = c at hsplit
  generalize dest[k + 1] = c2 at hsplit
  rw [hsplit, ← hlength]
  simp [List.take_append]

theorem Converter.Fits.next (h : s.Fits src) (hsize : SizeOf w src)
    (hread : s.read.toNat < s'.read.toNat) (hlength : s'.read.toNat ≤ src.length)
    (hwrite : s'.write = s.write + 2) (hdest : s'.dest.length = s.dest.length) : s'.Fits src := by
  obtain ⟨m, hm, hle⟩ := hsize.pow
  have heven := h.even
  have hnext : s'.write.toNat = (s.write.toNat + 2) % 2 ^ w := by
    rw [hwrite, BitVec.toNat_add, hsize.two]
  refine ⟨hdest.trans h.dest, hlength, ?_, fun hfit => ?_⟩
  · rw [hnext, hm, Nat.mod_mul_right_mod]
    omega
  · have hroom := h.room hfit
    rw [hnext, Nat.mod_eq_of_lt (by omega)]
    omega

/-- How the loop ends: with an even number of bytes written, and those of the conversion if nothing
has wrapped around. -/
structure Converted (src : List UInt8) (s : Converter w) : Prop where
  dest : s.dest.length = 2 * src.length
  even : s.write.toNat % 2 = 0
  bound : s.write.toNat ≤ 2 * src.length
  content : 2 * src.length < 2 ^ w → s.dest.take s.write.toNat = utf8ToUtf16le src

theorem run_converted (hsize : SizeOf w src) (hdest : dest.length = 2 * src.length)
    (hfuel : src.length < fuel) :
    ∃ s, Converter.run w fuel src dest = some (some s) ∧ Converted src s := by
  let I (s : Converter w) : Prop := s.Fits src ∧ (2 * src.length < 2 ^ w →
    Converter.rest src s.read.toNat (s.dest.take s.write.toNat) = utf8ToUtf16le src)
  have hloop : ∃ r, Converter.run w fuel src dest = some r ∧ ∃ s, r = some s ∧ Converted src s := by
    have hlt : src.length - (0 : BitVec w).toNat < fuel :=
      Nat.lt_of_le_of_lt (Nat.sub_le ..) hfuel
    apply Loop.total (I := I) (fun s => src.length - s.read.toNat) _ hlt
    · exact ⟨⟨hdest, Nat.zero_le _, rfl, fun _ => Nat.zero_le _⟩, fun _ => rfl⟩
    · intro s ⟨hfits, hrest⟩
      have htaken (hfit : 2 * src.length < 2 ^ w) :
          (s.dest.take s.write.toNat).length = s.write.toNat := by
        have hroom := hfits.room hfit
        have hread := hfits.read
        exact List.length_take_of_le (by rw [hfits.dest]; omega)
      have hdone := body_done hsize hfits
      unfold Converter.round
      generalize s.body src (BitVec.ofNat w src.length) = result at hdone
      cases hdone with
      | @leaves s' hsame hwrite hends =>
        refine ⟨s', rfl, hsame ▸ hfits.dest, hwrite ▸ hfits.even, ?_, fun hfit => ?_⟩
        · have hread := hfits.read
          have hlt := s.write.isLt
          rw [hwrite]
          by_cases hfit : 2 * src.length < 2 ^ w
          · have hroom := hfits.room hfit
            omega
          · omega
        · rw [hsame, hwrite, ← hrest hfit]
          exact (hends _ (htaken hfit) hfit).symm
      | @writes s' v hread hlength hwrite hbytes hgoes =>
        have hsame : s'.dest.length = s.dest.length := by
          rw [hbytes, List.length_set, List.length_set]
        refine ⟨⟨hfits.next hsize hread hlength hwrite hsame, fun hfit => ?_⟩, by omega⟩
        have hroom := hfits.room hfit
        have hnext : s'.write.toNat = s.write.toNat + 2 := by
          rw [hwrite, BitVec.toNat_add, hsize.two, Nat.mod_eq_of_lt (by omega)]
        have hplace : s.write.toNat + 1 < s.dest.length := by
          rw [hfits.dest]
          omega
        rw [hbytes, hnext, take_set_set hplace, ← hrest hfit]
        exact (hgoes _ (htaken hfit) hfit).symm
  obtain ⟨r, hrun, s, rfl, hconverted⟩ := hloop
  exact ⟨s, hrun, hconverted⟩

end

/-- The conversion ends within one round for each byte of the source and one more, makes no access
outside the two buffers, and returns an even length that is no more than that of `dest`. -/
theorem converter_in_buffers {w fuel : Nat} {src dest : List UInt8} (hsize : SizeOf w src)
    (hdest : dest.length = 2 * src.length) (hfuel : src.length < fuel) :
    ∃ s, Converter.run w fuel src dest = some (some s) ∧ s.dest.length = 2 * src.length ∧
      s.write.toNat % 2 = 0 ∧ s.write.toNat ≤ 2 * src.length := by
  obtain ⟨s, hrun, hconverted⟩ := run_converted hsize hdest hfuel
  exact ⟨s, hrun, hconverted.dest, hconverted.even, hconverted.bound⟩

/-- A password of one byte that announces three. -/
theorem converter_truncated : ∃ s, Converter.run 64 2 [0xe2] [0, 0] = some (some s) ∧
    s.dest.length = 2 * [0xe2].length ∧ s.write.toNat % 2 = 0 ∧
      s.write.toNat ≤ 2 * [0xe2].length :=
  converter_in_buffers ⟨by decide, by decide⟩ rfl (by decide)

/-- What stands in `dest` up to the length returned is the conversion of the source. -/
theorem converter_refines {w : Nat} {src dest : List UInt8} (hsize : SizeOf w src)
    (hdest : dest.length = 2 * src.length) (hfit : 2 * src.length < 2 ^ w) :
    ∃ fuel s, Converter.run w fuel src dest = some (some s) ∧
      s.dest.take s.write.toNat = utf8ToUtf16le src := by
  obtain ⟨s, hrun, hconverted⟩ := run_converted hsize hdest (Nat.lt_succ_self src.length)
  exact ⟨_, s, hrun, hconverted.content hfit⟩

end InputServer.Secure
