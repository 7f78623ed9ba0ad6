import Mathlib

set_option autoImplicit true

namespace Buffer

/-- The `n` elements of `buf` that start at index `i`. -/
def slice (buf : List α) (i n : Nat) : List α :=
  (buf.drop i).take n

/-- `buf` with `src` written over it from index `i` on. -/
def blit (buf : List α) (i : Nat) (src : List α) : List α :=
  buf.take i ++ src ++ buf.drop (i + src.length)

theorem slice_length (h : i + n ≤ buf.length) : (slice buf i n).length = n := by
  simp only [slice, List.length_take, List.length_drop]
  omega

theorem slice_zero (buf : List α) (i : Nat) : slice buf i 0 = [] := by
  simp only [slice, List.take_zero]

theorem slice_take (buf : List α) (i : Nat) (h : m ≤ n) :
    (slice buf i n).take m = slice buf i m := by
  rw [slice, List.take_take, Nat.min_eq_left h, slice]

theorem slice_drop (buf : List α) (i n m : Nat) :
    (slice buf i n).drop m = slice buf (i + m) (n - m) := by
  rw [slice, List.drop_take, List.drop_drop, slice]

theorem blit_length (h : i + src.length ≤ buf.length) : (blit buf i src).length = buf.length := by
  simp only [blit, List.length_append, List.length_take, List.length_drop]
  omega

theorem slice_blit_zero (buf src : List α) : slice (blit buf 0 src) 0 src.length = src := by
  simp [slice, blit]

/-- What precedes the written range and the range itself, read back together. -/
theorem slice_blit (h : i ≤ buf.length) :
    slice (blit buf i src) 0 (i + src.length) = slice buf 0 i ++ src := by
  have hlen : (buf.take i ++ src).length = i + src.length := by
    rw [List.length_append, List.length_take]
    omega
  simp only [slice, blit, List.drop_zero]
  rw [List.take_append_of_le_length (by omega), ← hlen, List.take_length]

/-- The `n` little-endian bytes of `x`; what lies above them is dropped. -/
def toBytes : Nat → Nat → List UInt8
  | 0, _ => []
  | n + 1, x => UInt8.ofNat x :: toBytes n (x / 256)

/-- The number with the given little-endian bytes. -/
def ofBytes : List UInt8 → Nat
  | [] => 0
  | b :: bs => b.toNat + 256 * ofBytes bs

theorem toBytes_length (n x : Nat) : (toBytes n x).length = n := by
  induction n generalizing x with
  | zero => rfl
  | succ n ih => rw [toBytes, List.length_cons, ih]

theorem ofBytes_toBytes (n x : Nat) : ofBytes (toBytes n x) = x % 256 ^ n := by
  induction n generalizing x with
  | zero => rw [toBytes, ofBytes, pow_zero, Nat.mod_one]
  | succ n ih =>
    rw [toBytes, ofBytes, ih, pow_succ', Nat.mod_mul]
    rfl

end Buffer
