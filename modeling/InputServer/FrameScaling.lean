import InputServer.Reachable

namespace InputServer
open Program
set_option autoImplicit true

/-- What an `int` can hold. -/
def InInt (x : Int) : Prop :=
  -2 ^ 31 ≤ x ∧ x < 2 ^ 31

/-- A difference of two coordinates as an `int`. -/
def signed (n : Nat) : Int :=
  if n < 2 ^ 31 then n else n - 2 ^ 32

/-- What is added to the corner of the destination at a distance from that of the source. -/
def scaledBy (source dest o : Nat) : Int :=
  (signed o * signed dest).tdiv (signed source)

/-- The extents between which the arithmetic of `scale_pointer_event` is right. -/
def Scalable (source dest : Nat) : Prop :=
  source * dest < 2 ^ 31 ∨ source = 1 ∨ (source < 2 ^ 31 ∧ dest = 2 ^ 32 - 1) ∨
    (source = 2 ^ 31 ∧ dest = 1)

/-- The arithmetic is defined and computes a monotone function from one extent to the other. -/
structure Interpolates (source dest : Nat) (j : Nat → Nat) : Prop where
  product : ∀ o, o ≤ source → InInt (signed o * signed dest)
  quotient : ∀ o, o ≤ source → InInt (scaledBy source dest o)
  same : ∀ o, o ≤ source → (scaledBy source dest o - j o) % 2 ^ 32 = 0
  first : j 0 = 0
  last : j source = dest
  mono : ∀ o o', o ≤ o' → o' ≤ source → j o ≤ j o'

section
variable {source dest o : Nat}

theorem signed_small (h : o < 2 ^ 31) : signed o = o :=
  if_pos h

theorem signed_large (h : ¬o < 2 ^ 31) : signed o = o - 2 ^ 32 :=
  if_neg h

theorem interpolates_small (hs : 0 < source) (hd : 0 < dest) (h : source * dest < 2 ^ 31) :
    Interpolates source dest fun o => o * dest / source := by
  have hsource : source < 2 ^ 31 := lt_of_le_of_lt (Nat.le_mul_of_pos_right source hd) h
  have hdest : dest < 2 ^ 31 := lt_of_le_of_lt (Nat.le_mul_of_pos_left dest hs) h
  have hproduct (o : Nat) (ho : o ≤ source) : o * dest < 2 ^ 31 :=
    lt_of_le_of_lt (Nat.mul_le_mul_right dest ho) h
  have hby (o : Nat) (ho : o ≤ source) : scaledBy source dest o = (o * dest / source : Nat) := by
    rw [scaledBy, signed_small (lt_of_le_of_lt ho hsource), signed_small hdest,
      signed_small hsource, ← Int.natCast_mul]
    exact Int.ofNat_tdiv (o * dest) source
  constructor
  · intro o ho
    have hlt := hproduct o ho
    rw [signed_small (lt_of_le_of_lt ho hsource), signed_small hdest, ← Int.natCast_mul]
    constructor <;> omega
  · intro o ho
    have hle : o * dest / source ≤ o * dest := Nat.div_le_self _ _
    have hlt := hproduct o ho
    rw [hby o ho]
    generalize o * dest / source = q at hle
    constructor <;> omega
  · intro o ho
    rw [hby o ho, Int.sub_self]
    rfl
  · rw [Nat.zero_mul, Nat.zero_div]
  · exact Nat.mul_div_cancel_left dest hs
  · intro o o' ho _
    exact Nat.div_le_div_right (Nat.mul_le_mul_right dest ho)

theorem interpolates_one (hd : dest < 2 ^ 32) : Interpolates 1 dest fun o => o * dest := by
  have hby (o : Nat) (ho : o ≤ 1) : signed o * signed dest = (o : Int) * signed dest := by
    rw [signed_small (by omega)]
  have hdest : InInt (signed dest) := by
    unfold signed InInt
    split <;> omega
  have hsame : (signed dest - dest) % 2 ^ 32 = 0 := by
    unfold signed
    split <;> omega
  have hcases (o : Nat) (ho : o ≤ 1) : o = 0 ∨ o = 1 := by omega
  have hquotient (o : Nat) (ho : o ≤ 1) : scaledBy 1 dest o = (o : Int) * signed dest := by
    rw [scaledBy, hby o ho]
    exact Int.tdiv_one _
  constructor
  · intro o ho
    rw [hby o ho]
    obtain rfl | rfl := hcases o ho
    · rw [Int.natCast_zero, Int.zero_mul]
      constructor <;> decide
    · rwa [Int.natCast_one, Int.one_mul]
  · intro o ho
    rw [hquotient o ho]
    obtain rfl | rfl := hcases o ho
    · rw [Int.natCast_zero, Int.zero_mul]
      constructor <;> decide
    · rwa [Int.natCast_one, Int.one_mul]
  · intro o ho
    rw [hquotient o ho]
    obtain rfl | rfl := hcases o ho
    · rw [Int.natCast_zero, Int.zero_mul, Nat.zero_mul]
      rfl
    · rwa [Int.natCast_one, Int.one_mul, Nat.one_mul]
  · exact Nat.zero_mul dest
  · exact Nat.one_mul dest
  · intro o o' ho _
    exact Nat.mul_le_mul_right dest ho

/-- A destination of all coordinates: everything but the far edge is its corner. -/
theorem interpolates_all (hs : 0 < source) (h : source < 2 ^ 31) :
    Interpolates source (2 ^ 32 - 1) fun o => if o < source then 0 else 2 ^ 32 - 1 := by
  have hdest : signed (2 ^ 32 - 1) = -1 := rfl
  have hby (o : Nat) (ho : o ≤ source) : signed o * signed (2 ^ 32 - 1) = -(o : Int) := by
    rw [signed_small (lt_of_le_of_lt ho h), hdest, Int.mul_neg_one]
  have hquotient (o : Nat) (ho : o ≤ source) :
      scaledBy source (2 ^ 32 - 1) o = -((o / source : Nat) : Int) := by
    rw [scaledBy, hby o ho, signed_small h, Int.neg_tdiv]
    exact congrArg Neg.neg (Int.ofNat_tdiv o source)
  have hdiv (o : Nat) (ho : o ≤ source) : o / source = if o < source then 0 else 1 := by
    by_cases hlt : o < source
    · rw [if_pos hlt, Nat.div_eq_of_lt hlt]
    · have heq : o = source := by omega
      rw [if_neg hlt, heq, Nat.div_self hs]
  constructor
  · intro o ho
    rw [hby o ho]
    constructor <;> omega
  · intro o ho
    rw [hquotient o ho, hdiv o ho]
    split <;> constructor <;> decide
  · intro o ho
    rw [hquotient o ho, hdiv o ho]
    split <;> rfl
  · exact if_pos hs
  · exact if_neg (Nat.lt_irrefl source)
  · intro o o' ho ho'
    split <;> split <;> omega

theorem interpolates_half : Interpolates (2 ^ 31) 1 fun o => if o < 2 ^ 31 then 0 else 1 := by
  have hproduct (o : Nat) : signed o * signed 1 = signed o := Int.mul_one _
  have hquotient (o : Nat) (ho : o ≤ 2 ^ 31) :
      scaledBy (2 ^ 31) 1 o = if o < 2 ^ 31 then 0 else 1 := by
    rw [scaledBy, hproduct]
    by_cases hlt : o < 2 ^ 31
    · rw [signed_small hlt, if_pos hlt]
      change (o : Int).tdiv (-(2 ^ 31 : Nat)) = 0
      rw [Int.tdiv_neg, Int.tdiv_eq_zero_of_lt (Int.natCast_nonneg o) (by omega)]
      rfl
    · have heq : o = 2 ^ 31 := by omega
      rw [if_neg hlt, heq]
      rfl
  constructor
  · intro o ho
    rw [hproduct]
    unfold signed InInt
    split <;> omega
  · intro o ho
    rw [hquotient o ho]
    split <;> constructor <;> decide
  · intro o ho
    rw [hquotient o ho]
    split <;> rfl
  · rfl
  · rfl
  · intro o o' ho _
    split <;> split <;> omega

theorem interpolates_scalable (hs : 0 < source) (hd : 0 < dest ∧ dest < 2 ^ 32)
    (h : Scalable source dest) : ∃ j, Interpolates source dest j := by
  obtain h | rfl | ⟨h, rfl⟩ | ⟨rfl, rfl⟩ := h
  · exact ⟨_, interpolates_small hs hd.1 h⟩
  · exact ⟨_, interpolates_one hd.2⟩
  · exact ⟨_, interpolates_all hs h⟩
  · exact ⟨_, interpolates_half⟩

/-- The point at a distance from the corner is in the destination, and got without overflow. -/
structure Lands (source dest corner o : Nat) : Prop where
  product : InInt (signed o * signed dest)
  quotient : InInt (scaledBy source dest o)
  low : (corner : Int) ≤ (corner + scaledBy source dest o) % 2 ^ 32
  high : (corner + scaledBy source dest o) % 2 ^ 32 ≤ corner + dest

theorem Interpolates.lands {j : Nat → Nat} (h : Interpolates source dest j) {corner : Nat}
    (hcorner : corner + dest < 2 ^ 32) (ho : o ≤ source) : Lands source dest corner o := by
  have hsame := h.same o ho
  have hle : j o ≤ dest := by
    rw [← h.last]
    exact h.mono o source ho (Nat.le_refl _)
  generalize hby : scaledBy source dest o = by' at hsame
  refine ⟨h.product o ho, h.quotient o ho, ?_, ?_⟩ <;>
  · rw [hby]
    omega

/-- Going down from the corner leaves the destination. -/
theorem below_outside {corner k : Nat} {by' : Int} (hdest : dest < 2 ^ 32)
    (hlow : (corner : Int) ≤ (corner + by') % 2 ^ 32)
    (hhigh : (corner + by') % 2 ^ 32 ≤ corner + dest) (hby : by' = -(k : Int)) (hk : 0 < k)
    (hk' : dest + k < 2 ^ 32) : False := by
  omega

theorem scalable_small {corner : Nat} (hs : 0 < source) (hd : 0 < dest ∧ dest < 2 ^ 32)
    (hsource : source < 2 ^ 31) (h : ∀ o, o ≤ source → Lands source dest corner o) :
    Scalable source dest := by
  by_cases hdest : dest < 2 ^ 31
  · have hproduct := (h source (Nat.le_refl _)).product
    rw [signed_small hsource, signed_small hdest, ← Int.natCast_mul] at hproduct
    have hlt := hproduct.2
    left
    omega
  obtain ⟨k, hk⟩ : ∃ k, dest + k = 2 ^ 32 := ⟨2 ^ 32 - dest, by omega⟩
  have hneg : signed dest = -(k : Int) := by
    rw [signed_large hdest]
    omega
  by_cases hone : source = 1
  · exact .inr (.inl hone)
  by_cases hall : k = 1
  · exact .inr (.inr (.inl ⟨hsource, by omega⟩))
  -- One step before the far edge the sum goes below the corner.
  have hlands := h (source - 1) (Nat.sub_le _ _)
  have hby : scaledBy source dest (source - 1) = -(((source - 1) * k / source : Nat) : Int) := by
    rw [scaledBy, signed_small (by omega), hneg, signed_small hsource, Int.mul_neg,
      ← Int.natCast_mul, Int.neg_tdiv]
    exact congrArg Neg.neg (Int.ofNat_tdiv _ source)
  have hpos : 0 < (source - 1) * k / source := by
    apply Nat.div_pos _ hs
    obtain ⟨r, rfl⟩ : ∃ r, source = r + 2 := ⟨source - 2, by omega⟩
    obtain ⟨q, rfl⟩ : ∃ q, k = q + 2 := ⟨k - 2, by omega⟩
    change r + 2 ≤ (r + 1) * (q + 2)
    nlinarith
  have hlt : (source - 1) * k / source < k := by
    apply Nat.div_lt_of_lt_mul
    have hk0 : 0 < k := by omega
    exact Nat.mul_lt_mul_of_pos_right (by omega) hk0
  exact absurd (below_outside hd.2 hlands.low hlands.high hby hpos (by omega)) id

theorem scalable_large {corner : Nat} (hd : 0 < dest ∧ dest < 2 ^ 32)
    (hsource : ¬source < 2 ^ 31) (hsource' : source < 2 ^ 32)
    (h : ∀ o, o ≤ source → Lands source dest corner o) : Scalable source dest := by
  have hfar := (h (2 ^ 31) (by omega)).product
  have hnear := h (2 ^ 31 - 1) (by omega)
  have hmost : signed (2 ^ 31 - 1) = 2 ^ 31 - 1 := rfl
  have hleast : signed (2 ^ 31) = -2 ^ 31 := rfl
  rw [hleast] at hfar
  have hdest : dest < 2 ^ 31 := by
    by_contra hlarge
    rw [signed_large hlarge] at hfar
    have hlt := hfar.2
    omega
  have hone : dest = 1 := by
    have hlt := hnear.product.2
    rw [hmost, signed_small hdest] at hlt
    omega
  subst hone
  obtain ⟨a, ha⟩ : ∃ a, source + a = 2 ^ 32 := ⟨2 ^ 32 - source, by omega⟩
  have hneg : signed source = -(a : Int) := by
    rw [signed_large hsource]
    omega
  by_cases hhalf : a = 2 ^ 31
  · exact .inr (.inr (.inr ⟨by omega, rfl⟩))
  have hby : scaledBy source 1 (2 ^ 31 - 1) = -(((2 ^ 31 - 1) / a : Nat) : Int) := by
    have hproduct : signed (2 ^ 31 - 1) * signed 1 = ((2 ^ 31 - 1 : Nat) : Int) := rfl
    rw [scaledBy, hproduct, hneg, Int.tdiv_neg]
    exact congrArg Neg.neg (Int.ofNat_tdiv _ a)
  have hpos : 0 < (2 ^ 31 - 1) / a := Nat.div_pos (by omega) (by omega)
  have hle : (2 ^ 31 - 1) / a ≤ 2 ^ 31 - 1 := Nat.div_le_self _ _
  generalize (2 ^ 31 - 1) / a = q at hby hpos hle
  exact absurd (below_outside hd.2 hnear.low hnear.high hby hpos (by omega)) id

/-- The arithmetic is right between two extents exactly when they are scalable. -/
theorem lands_iff {corner : Nat} (hs : 0 < source ∧ source < 2 ^ 32) (hd : 0 < dest)
    (hcorner : corner + dest < 2 ^ 32) :
    (∀ o, o ≤ source → Lands source dest corner o) ↔ Scalable source dest := by
  constructor
  · intro h
    by_cases hsource : source < 2 ^ 31
    · exact scalable_small hs.1 ⟨hd, by omega⟩ hsource h
    · exact scalable_large ⟨hd, by omega⟩ hsource hs.2 h
  · intro h o ho
    obtain ⟨j, hj⟩ := interpolates_scalable hs.1 ⟨hd, by omega⟩ h
    exact hj.lands hcorner ho

end

inductive Axis where
  | x
  | y

def Frame.low (f : Frame) : Axis → UInt32
  | .x => f.x1
  | .y => f.y1

def Frame.high (f : Frame) : Axis → UInt32
  | .x => f.x2
  | .y => f.y2

/-- The coordinate lies between the edges of the frame, as `mouse_outside_frame` compares it. -/
def Frame.Holds (f : Frame) (a : Axis) (value : Int32) : Prop :=
  f.low a ≤ value.toUInt32 ∧ value.toUInt32 ≤ f.high a

def Frame.extent (f : Frame) (a : Axis) : Nat :=
  (f.high a).toNat - (f.low a).toNat

/-- An event that is a coordinate on an axis. -/
def InputEvent.On (e : InputEvent) (a : Axis) : Prop :=
  e.type = EV_ABS ∧ match a with
    | .x => e.code = ABS_X ∨ e.code = ABS_MT_POSITION_X
    | .y => e.code = ABS_Y ∨ e.code = ABS_MT_POSITION_Y

/-- The divisor is not zero, and no `int` of the computation overflows. -/
structure ScaleDefined (value : Int32) (s1 s2 d1 d2 : UInt32) : Prop where
  divisor : (s2 - s1).toInt32 ≠ 0
  product : InInt ((value.toUInt32 - s1).toInt32.toInt * (d2 - d1).toInt32.toInt)
  quotient : InInt (((value.toUInt32 - s1).toInt32.toInt * (d2 - d1).toInt32.toInt).tdiv
    (s2 - s1).toInt32.toInt)

/-- The coordinates of the source frame are taken into the destination frame. -/
structure ScalesInto {F : Type} (w : World F) (dv : DivertInfo) (a : Axis) : Prop where
  defined : ∀ value, dv.sframe.Holds a value → ScaleDefined value (dv.sframe.low a)
    (dv.sframe.high a) (dv.dframe.low a) (dv.dframe.high a)
  inside : ∀ e : InputEvent, e.On a → dv.sframe.Holds a e.value →
    ∃ v, scalePointerEvent dv e w = .ok ({ e with value := v }, w) ∧ dv.dframe.Holds a v
  low : ∀ e : InputEvent, e.On a → e.value.toUInt32 = dv.sframe.low a →
    scalePointerEvent dv e w = .ok ({ e with value := (dv.dframe.low a).toInt32 }, w)
  high : ∀ e : InputEvent, e.On a → e.value.toUInt32 = dv.sframe.high a →
    scalePointerEvent dv e w = .ok ({ e with value := (dv.dframe.high a).toInt32 }, w)
  mono : ∀ e e' f f' : InputEvent, e.On a → e'.On a → dv.sframe.Holds a e.value →
    dv.sframe.Holds a e'.value → e.value.toUInt32 ≤ e'.value.toUInt32 →
    scalePointerEvent dv e w = .ok (f, w) → scalePointerEvent dv e' w = .ok (f', w) →
    f.value.toUInt32 ≤ f'.value.toUInt32

section
variable {F : Type} {dv : DivertInfo} {a : Axis} {e : InputEvent}

theorem toInt_eq_signed (x : UInt32) : x.toInt32.toInt = signed x.toNat := by
  have hlt := x.toNat_lt
  change BitVec.toInt _ = _
  rw [BitVec.toInt_eq_toNat_cond]
  change (if 2 * x.toNat < 2 ^ 32 then (x.toNat : Int) else x.toNat - (2 ^ 32 : Nat)) = _
  unfold signed
  split_ifs <;> omega

theorem toUInt32_toNat (x : Int32) : (x.toUInt32.toNat : Int) = x.toInt % 2 ^ 32 := by
  have hsigned := toInt_eq_signed x.toUInt32
  have hlt := x.toUInt32.toNat_lt
  have hround : x.toUInt32.toInt32 = x := rfl
  rw [hround] at hsigned
  rw [hsigned]
  unfold signed
  split <;> omega

theorem sub_toNat {x y : UInt32} (h : y ≤ x) : (x - y).toNat = x.toNat - y.toNat :=
  UInt32.toNat_sub_of_le x y h

theorem bmod_of_inInt {x : Int} (h : InInt x) : x.bmod (2 ^ 32) = x := by
  obtain ⟨hlow, hhigh⟩ := h
  apply Int.bmod_eq_of_le
  · omega
  · omega

/-- The event on an axis is scaled by the extents of that axis. -/
theorem scalePointerEvent_on (h : e.On a) (w : World F) :
    scalePointerEvent dv e w = (scaleCoordinate e.value (dv.sframe.low a) (dv.sframe.high a)
      (dv.dframe.low a) (dv.dframe.high a) w).map fun r => ({ e with value := r.1 }, r.2) := by
  obtain ⟨htype, hcode⟩ := h
  cases a with
  | x =>
    unfold scalePointerEvent
    rw [if_pos ⟨htype, hcode⟩]
    rfl
  | y =>
    have hother : ¬(e.code = ABS_X ∨ e.code = ABS_MT_POSITION_X) := by
      obtain hcode | hcode := hcode <;> rw [hcode] <;> decide
    unfold scalePointerEvent
    rw [if_neg fun h => hother h.2, if_pos ⟨htype, hcode⟩]
    rfl

/-- Where the arithmetic is defined it yields the corner and the scaled distance. -/
theorem scaleCoordinate_defined {value : Int32} {s1 s2 d1 d2 : UInt32} (w : World F)
    (h : ScaleDefined value s1 s2 d1 d2) :
    ∃ v, scaleCoordinate value s1 s2 d1 d2 w = .ok (v, w) ∧
      (v.toUInt32.toNat : Int) = (d1.toNat + scaledBy (s2 - s1).toNat (d2 - d1).toNat
        (value.toUInt32 - s1).toNat) % 2 ^ 32 := by
  have hrun : scaleCoordinate value s1 s2 d1 d2 w =
      .ok ((((value.toUInt32 - s1).toInt32 * (d2 - d1).toInt32 / (s2 - s1).toInt32).toUInt32
        + d1).toInt32, w) := by
    unfold scaleCoordinate
    rw [if_neg h.divisor]
    rfl
  refine ⟨_, hrun, ?_⟩
  have hproduct : ((value.toUInt32 - s1).toInt32 * (d2 - d1).toInt32).toInt =
      signed (value.toUInt32 - s1).toNat * signed (d2 - d1).toNat := by
    rw [Int32.toInt_mul, bmod_of_inInt h.product, toInt_eq_signed, toInt_eq_signed]
  have hquotient : (((value.toUInt32 - s1).toInt32 * (d2 - d1).toInt32 /
      (s2 - s1).toInt32).toUInt32.toNat : Int) = scaledBy (s2 - s1).toNat (d2 - d1).toNat
        (value.toUInt32 - s1).toNat % 2 ^ 32 := by
    rw [toUInt32_toNat, Int32.toInt_div, hproduct, toInt_eq_signed]
    exact Int.bmod_emod
  change ((_ + d1).toNat : Int) = _
  rw [UInt32.toNat_add, Int.natCast_emod, Int.natCast_add, hquotient]
  change (_ % 2 ^ 32 + (d1.toNat : Int)) % 2 ^ 32 = _
  rw [Int.emod_add_emod, Int.add_comm]

/-- A coordinate between the edges of a frame is a distance from its low edge. -/
theorem holds_distance {f : Frame} {value : Int32} (h : f.Holds a value) :
    (value.toUInt32 - f.low a).toNat ≤ f.extent a ∧
      value.toUInt32.toNat = (f.low a).toNat + (value.toUInt32 - f.low a).toNat := by
  have hlow := UInt32.le_iff_toNat_le.1 h.1
  have hhigh := UInt32.le_iff_toNat_le.1 h.2
  rw [sub_toNat h.1]
  unfold Frame.extent
  omega

theorem holds_at {f : Frame} {o : Nat} (h : f.low a ≤ f.high a) (ho : o ≤ f.extent a) :
    ∃ value, f.Holds a value ∧ (value.toUInt32 - f.low a).toNat = o := by
  have hedges := UInt32.le_iff_toNat_le.1 h
  have hlt := (f.high a).toNat_lt
  unfold Frame.extent at ho
  have hat : (f.low a + .ofNat o).toNat = (f.low a).toNat + o := by
    rw [UInt32.toNat_add, UInt32.toNat_ofNat', Nat.mod_eq_of_lt (by omega : o < 2 ^ 32)]
    exact Nat.mod_eq_of_lt (by omega)
  have hlow : f.low a ≤ f.low a + .ofNat o := by
    rw [UInt32.le_iff_toNat_le]
    omega
  have hhigh : f.low a + .ofNat o ≤ f.high a := by
    rw [UInt32.le_iff_toNat_le]
    omega
  have hround : (f.low a + .ofNat o).toInt32.toUInt32 = f.low a + .ofNat o := rfl
  refine ⟨(f.low a + .ofNat o).toInt32, ?_, ?_⟩
  · rw [Frame.Holds, hround]
    exact ⟨hlow, hhigh⟩
  · rw [hround, sub_toNat hlow]
    omega

theorem extent_pos {f : Frame} (h : f.low a < f.high a) : 0 < f.extent a :=
  Nat.sub_pos_of_lt (UInt32.lt_iff_toNat_lt.1 h)

theorem extent_lt {f : Frame} : f.extent a < 2 ^ 32 :=
  lt_of_le_of_lt (Nat.sub_le _ _) (f.high a).toNat_lt

theorem high_eq {f : Frame} (h : f.low a < f.high a) :
    (f.low a).toNat + f.extent a = (f.high a).toNat :=
  Nat.add_sub_of_le (Nat.le_of_lt (UInt32.lt_iff_toNat_lt.1 h))

/-- The arithmetic of a coordinate in terms of the extents. -/
theorem scaleDefined_iff {value : Int32} {f g : Frame} (hf : f.low a < f.high a)
    (hg : g.low a < g.high a) :
    ScaleDefined value (f.low a) (f.high a) (g.low a) (g.high a) ↔
      InInt (signed (value.toUInt32 - f.low a).toNat * signed (g.extent a)) ∧
        InInt (scaledBy (f.extent a) (g.extent a) (value.toUInt32 - f.low a).toNat) := by
  have hsource : (f.high a - f.low a).toNat = f.extent a := sub_toNat (UInt32.le_of_lt hf)
  have hdest : (g.high a - g.low a).toNat = g.extent a := sub_toNat (UInt32.le_of_lt hg)
  have hdivisor : (f.high a - f.low a).toInt32 ≠ 0 := by
    intro hzero
    have hpos := extent_pos hf
    have heq := congrArg (fun x => x.toUInt32.toNat) hzero
    change (f.high a - f.low a).toNat = 0 at heq
    omega
  constructor
  · intro h
    have hproduct := h.product
    have hquotient := h.quotient
    rw [toInt_eq_signed, toInt_eq_signed, hdest] at hproduct hquotient
    rw [toInt_eq_signed, hsource] at hquotient
    exact ⟨hproduct, hquotient⟩
  · intro h
    obtain ⟨hproduct, hquotient⟩ := h
    refine ⟨hdivisor, ?_, ?_⟩
    · rwa [toInt_eq_signed, toInt_eq_signed, hdest]
    · rwa [toInt_eq_signed, toInt_eq_signed, toInt_eq_signed, hdest, hsource]

/-- The event where the arithmetic is defined. -/
theorem scalePointerEvent_defined (w : World F) (hs : dv.sframe.low a < dv.sframe.high a)
    (hd : dv.dframe.low a < dv.dframe.high a) (he : e.On a)
    (h : ScaleDefined e.value (dv.sframe.low a) (dv.sframe.high a) (dv.dframe.low a)
      (dv.dframe.high a)) :
    ∃ v, scalePointerEvent dv e w = .ok ({ e with value := v }, w) ∧
      (v.toUInt32.toNat : Int) = ((dv.dframe.low a).toNat + scaledBy (dv.sframe.extent a)
        (dv.dframe.extent a) (e.value.toUInt32 - dv.sframe.low a).toNat) % 2 ^ 32 := by
  obtain ⟨v, hrun, hv⟩ := scaleCoordinate_defined w h
  rw [sub_toNat (UInt32.le_of_lt hs), sub_toNat (UInt32.le_of_lt hd)] at hv
  refine ⟨v, ?_, hv⟩
  rw [scalePointerEvent_on he, hrun]
  rfl

/-- Where the arithmetic interpolates, so does the event. -/
theorem scalePointerEvent_interpolates {j : Nat → Nat} (w : World F)
    (hs : dv.sframe.low a < dv.sframe.high a) (hd : dv.dframe.low a < dv.dframe.high a)
    (h : Interpolates (dv.sframe.extent a) (dv.dframe.extent a) j) (he : e.On a)
    (hvalue : dv.sframe.Holds a e.value) :
    ∃ v, scalePointerEvent dv e w = .ok ({ e with value := v }, w) ∧ v.toUInt32.toNat =
      (dv.dframe.low a).toNat + j (e.value.toUInt32 - dv.sframe.low a).toNat := by
  obtain ⟨ho, -⟩ := holds_distance hvalue
  have hdefined := (scaleDefined_iff hs hd).2 ⟨h.product _ ho, h.quotient _ ho⟩
  obtain ⟨v, hrun, hv⟩ := scalePointerEvent_defined w hs hd he hdefined
  have hsame := h.same _ ho
  have hle := h.mono _ _ ho (Nat.le_refl _)
  have hedge := high_eq hd
  have hlt := (dv.dframe.high a).toNat_lt
  rw [h.last] at hle
  refine ⟨v, hrun, ?_⟩
  omega

end

section
variable {F : Type} {dv : DivertInfo} {a : Axis}

theorem toInt32_of_toNat {v : Int32} {x : UInt32} (h : v.toUInt32.toNat = x.toNat) :
    v = x.toInt32 := by
  have heq := UInt32.toNat_inj.1 h
  rw [← heq]
  rfl

theorem scalesInto_of_interpolates {j : Nat → Nat} (w : World F)
    (hs : dv.sframe.low a < dv.sframe.high a) (hd : dv.dframe.low a < dv.dframe.high a)
    (h : Interpolates (dv.sframe.extent a) (dv.dframe.extent a) j) : ScalesInto w dv a := by
  have hpoint (e : InputEvent) (he : e.On a) (hvalue : dv.sframe.Holds a e.value) :=
    scalePointerEvent_interpolates w hs hd h he hvalue
  have hedge := high_eq hd
  constructor
  · intro value hvalue
    obtain ⟨ho, -⟩ := holds_distance hvalue
    exact (scaleDefined_iff hs hd).2 ⟨h.product _ ho, h.quotient _ ho⟩
  · intro e he hvalue
    obtain ⟨v, hrun, hv⟩ := hpoint e he hvalue
    obtain ⟨ho, -⟩ := holds_distance hvalue
    have hle := h.mono _ _ ho (Nat.le_refl _)
    rw [h.last] at hle
    refine ⟨v, hrun, ?_, ?_⟩ <;> rw [UInt32.le_iff_toNat_le] <;> omega
  · intro e he hlow
    have hvalue : dv.sframe.Holds a e.value := by
      rw [Frame.Holds, hlow]
      exact ⟨UInt32.le_refl _, UInt32.le_of_lt hs⟩
    obtain ⟨v, hrun, hv⟩ := hpoint e he hvalue
    rw [hlow, sub_toNat (UInt32.le_refl _), Nat.sub_self, h.first, Nat.add_zero] at hv
    rw [hrun, toInt32_of_toNat hv]
  · intro e he hhigh
    have hvalue : dv.sframe.Holds a e.value := by
      rw [Frame.Holds, hhigh]
      exact ⟨UInt32.le_of_lt hs, UInt32.le_refl _⟩
    obtain ⟨v, hrun, hv⟩ := hpoint e he hvalue
    rw [hhigh, sub_toNat (UInt32.le_of_lt hs)] at hv
    change _ = _ + j (dv.sframe.extent a) at hv
    rw [h.last, hedge] at hv
    rw [hrun, toInt32_of_toNat hv]
  · intro e e' f f' he he' hvalue hvalue' hle hrun hrun'
    obtain ⟨v, hrunv, hv⟩ := hpoint e he hvalue
    obtain ⟨v', hrunv', hv'⟩ := hpoint e' he' hvalue'
    obtain ⟨ho, hat⟩ := holds_distance hvalue
    obtain ⟨ho', hat'⟩ := holds_distance hvalue'
    rw [hrunv] at hrun
    rw [hrunv'] at hrun'
    cases hrun
    cases hrun'
    rw [UInt32.le_iff_toNat_le] at hle
    have hdistance : (e.value.toUInt32 - dv.sframe.low a).toNat ≤
        (e'.value.toUInt32 - dv.sframe.low a).toNat := by
      omega
    have hmono := h.mono _ _ hdistance ho'
    rw [UInt32.le_iff_toNat_le]
    change v.toUInt32.toNat ≤ v'.toUInt32.toNat
    omega

/-- Some event on each axis. -/
def coordinateOn : Axis → Int32 → InputEvent
  | .x, value => { type := EV_ABS, code := ABS_X, value }
  | .y, value => { type := EV_ABS, code := ABS_Y, value }

theorem coordinateOn_on (value : Int32) : (coordinateOn a value).On a := by
  cases a with
  | x => exact ⟨rfl, .inl rfl⟩
  | y => exact ⟨rfl, .inl rfl⟩

theorem coordinateOn_value (value : Int32) : (coordinateOn a value).value = value := by
  cases a <;> rfl

theorem lands_of_scalesInto {w : World F} (hs : dv.sframe.low a < dv.sframe.high a)
    (hd : dv.dframe.low a < dv.dframe.high a) (h : ScalesInto w dv a)
    (ho : o ≤ dv.sframe.extent a) :
    Lands (dv.sframe.extent a) (dv.dframe.extent a) (dv.dframe.low a).toNat o := by
  obtain ⟨value, hvalue, rfl⟩ := holds_at (UInt32.le_of_lt hs) ho
  have hon : (coordinateOn a value).On a := coordinateOn_on value
  rw [← coordinateOn_value (a := a) value] at hvalue ⊢
  have hdefined := h.defined _ hvalue
  obtain ⟨hproduct, hquotient⟩ := (scaleDefined_iff hs hd).1 hdefined
  obtain ⟨v, hrun, hv⟩ := scalePointerEvent_defined w hs hd hon hdefined
  obtain ⟨v', hrun', hlow, hhigh⟩ := h.inside _ hon hvalue
  rw [hrun] at hrun'
  cases hrun'
  rw [UInt32.le_iff_toNat_le] at hlow hhigh
  have hedge := high_eq hd
  refine ⟨hproduct, hquotient, ?_, ?_⟩ <;> omega

/-- An axis is scaled right exactly when its extents are scalable. -/
theorem scalesInto_iff (w : World F) (hs : dv.sframe.low a < dv.sframe.high a)
    (hd : dv.dframe.low a < dv.dframe.high a) :
    ScalesInto w dv a ↔ Scalable (dv.sframe.extent a) (dv.dframe.extent a) := by
  have hedge := high_eq hd
  have hlt := (dv.dframe.high a).toNat_lt
  have hcorner : (dv.dframe.low a).toNat + dv.dframe.extent a < 2 ^ 32 := by
    omega
  constructor
  · intro h
    rw [← lands_iff ⟨extent_pos hs, extent_lt⟩ (extent_pos hd) hcorner]
    intro o ho
    exact lands_of_scalesInto hs hd h ho
  · intro h
    obtain ⟨j, hj⟩ := interpolates_scalable (extent_pos hs) ⟨extent_pos hd, extent_lt⟩ h
    exact scalesInto_of_interpolates w hs hd hj

/-- The command refuses frames without an area. -/
theorem divert_accepts (sender : Int) (uuid : String) (s1 s2 s3 s4 d1 d2 d3 d4 : UInt32)
    (w : World F) :
    wlp (inputDaemonDivertMouseFocus sender uuid s1 s2 s3 s4 d1 d2 d3 d4) (fun refusal _ =>
      refusal = none → emptyFrame s1 s2 s3 s4 = false ∧ emptyFrame d1 d2 d3 d4 = false) w := by
  unfold inputDaemonDivertMouseFocus
  rw [wlp_bind, wlp_get]
  split
  · rw [wlp_pure]
    intro h
    cases h
  · rw [wlp_pure]
    intro h
    cases h
  · apply wlp_ite
    · intro _
      rw [wlp_pure]
      intro h
      cases h
    · intro hempty
      rw [not_or, Bool.not_eq_true, Bool.not_eq_true] at hempty
      intro _ _ _ _
      exact hempty

/-- An accepted frame has an extent on each axis. -/
theorem orderedFrame_edges {x1 y1 x2 y2 : UInt32} (h : emptyFrame x1 y1 x2 y2 = false) :
    (orderedFrame x1 y1 x2 y2).low a < (orderedFrame x1 y1 x2 y2).high a := by
  have hedge (x y : UInt32) (hne : x ≠ y) : min x y < max x y := by
    change (if x ≤ y then x else y) < if x ≤ y then y else x
    split
    · next hle => exact UInt32.lt_of_le_of_ne hle hne
    · next hle => exact UInt32.not_le.1 hle
  have hne : ¬(x1 = x2 ∨ y1 = y2) := of_decide_eq_false h
  cases a with
  | x => exact hedge x1 x2 fun h => hne (.inl h)
  | y => exact hedge y1 y2 fun h => hne (.inr h)

/-- Accepted frames are scaled right exactly when their extents are scalable on both axes. -/
theorem accepted_frames_scale_iff (w : World F) (dv : DivertInfo)
    {s1 s2 s3 s4 d1 d2 d3 d4 : UInt32} (hs : emptyFrame s1 s2 s3 s4 = false)
    (hd : emptyFrame d1 d2 d3 d4 = false) (hsource : dv.sframe = orderedFrame s1 s2 s3 s4)
    (hdest : dv.dframe = orderedFrame d1 d2 d3 d4) :
    (∀ a, ScalesInto w dv a) ↔ ∀ a, Scalable (dv.sframe.extent a) (dv.dframe.extent a) := by
  have haxis (a : Axis) : ScalesInto w dv a ↔
      Scalable (dv.sframe.extent a) (dv.dframe.extent a) := by
    apply scalesInto_iff w
    · rw [hsource]
      exact orderedFrame_edges hs
    · rw [hdest]
      exact orderedFrame_edges hd
  constructor
  · intro h a
    exact (haxis a).1 (h a)
  · intro h a
    exact (haxis a).2 (h a)

end

/-- A screen of 1920 by 1080 diverted from a tablet's 32767 by 32767 coordinates. -/
def screenDivert : DivertInfo :=
  { freshDivert with
    sframe := orderedFrame 0 0 32767 32767, dframe := orderedFrame 1920 0 0 1080 }

theorem accepted_frames_scale_screen :
    ScalesInto (startWorld (fun _ => told "") []) screenDivert .x ∧
      ScalesInto (startWorld (fun _ => told "") []) screenDivert .y := by
  have hs : emptyFrame 0 0 32767 32767 = false := rfl
  have hd : emptyFrame 1920 0 0 1080 = false := rfl
  have hiff := accepted_frames_scale_iff (startWorld (fun _ => told "") []) screenDivert hs hd
    rfl rfl
  have hscales := hiff.2 (by
    intro a
    left
    cases a <;> decide)
  exact ⟨hscales .x, hscales .y⟩

/-- Two frames of 65536 coordinates: the far edge overflows the product. -/
def wideDivert : DivertInfo :=
  { freshDivert with
    sframe := orderedFrame 0 0 65536 65536, dframe := orderedFrame 0 0 65536 65536 }

theorem wide_frames_overflow : ¬∀ (w : World ℚ) (dv : DivertInfo)
    (s1 s2 s3 s4 d1 d2 d3 d4 : UInt32), emptyFrame s1 s2 s3 s4 = false →
    emptyFrame d1 d2 d3 d4 = false → dv.sframe = orderedFrame s1 s2 s3 s4 →
    dv.dframe = orderedFrame d1 d2 d3 d4 → ∀ a, ScalesInto w dv a := by
  intro h
  have hscales := h (startWorld (fun _ => told "") []) wideDivert 0 0 65536 65536 0 0 65536 65536
    rfl rfl rfl rfl .x
  have hvalue : wideDivert.sframe.Holds .x 65536 := by
    constructor <;> decide
  have hlt := (hscales.defined 65536 hvalue).product.2
  exact absurd hlt (by decide)

end InputServer
