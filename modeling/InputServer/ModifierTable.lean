import InputServer.Commands
import InputServer.Library.Intern

namespace InputServer
set_option autoImplicit true

/-- The cells from `modifers[0]` on, and what became of them: the cells written, and the indices
shifted by, each with the modifier it was computed for. -/
structure ModifierMemory where
  cells : Nat → UInt32
  written : List Nat
  shifted : List (Int × UInt32)

/-- The entries behind the length in `modifers[0]`. -/
def ModifierMemory.table (m : ModifierMemory) : List UInt32 :=
  (List.range (m.cells 0).toNat).map fun i => m.cells (i + 1)

def ModifierMemory.write (i : Nat) (v : UInt32) (m : ModifierMemory) : ModifierMemory :=
  { m with cells := Function.update m.cells i v, written := m.written ++ [i] }

/-- `addmod`, with the index it returns. -/
def addmodCells (key : UInt32) (m : ModifierMemory) : Int × ModifierMemory :=
  let len := (m.cells 0).toNat
  match (List.range len).find? fun i => m.cells (i + 1) = key with
  | some i => (i, m)
  | none =>
    if len < MAX_MODS then (len, (m.write (len + 1) key).write 0 (.ofNat (len + 1)))
    else (-1, m)

def ModifierMemory.shift (a : Int) (key : UInt32) (m : ModifierMemory) : ModifierMemory :=
  { m with shifted := m.shifted ++ [(a, key)] }

/-- `1 << a`, as x86 computes it of -1. -/
def shiftedBit (a : Int) : UInt32 :=
  modifierBit (if a < 0 then none else some a.toNat)

/-- The loop of `input_daemon_set_divert_keyboard_filter`. -/
def filterLoop : List UInt32 → UInt32 → ModifierMemory → List KeyPair × ModifierMemory
  | [], _, m => ([], m)
  | k :: ks, bits, m =>
    if k = 0 then filterLoop ks bits m
    else if ks.headD 0 = 0 then
      let r := filterLoop ks 0 m
      ({ modBits := bits, keycode := k } :: r.1, r.2)
    else
      let r := addmodCells k m
      filterLoop ks (bits ||| shiftedBit r.1) (r.2.shift r.1 k)

def ModifierMemory.fresh (cells : Nat → UInt32) : ModifierMemory :=
  { cells := cells, written := [], shifted := [] }

/-- What `check_init_divert_info` writes. -/
def initCells (m : ModifierMemory) : ModifierMemory :=
  let keys := [KEY_LEFTALT, KEY_RIGHTALT, KEY_LEFTCTRL, KEY_RIGHTCTRL].map UInt16.toUInt32
  (keys.zipIdx 1).foldl (fun m k => m.write k.2 k.1) (m.write 0 4)

/-- One call of the method: its filter, and whether it is refused because the domain's keyboard is
diverted. -/
structure FilterCall where
  busy : Bool
  filter : List UInt32

def FilterCall.run (m : ModifierMemory) (c : FilterCall) : ModifierMemory :=
  if c.busy then m else (filterLoop c.filter 0 m).2

/-- The calls of a domain, from the divert info that the first one creates. -/
def setFilters (calls : List FilterCall) (m : ModifierMemory) : ModifierMemory :=
  calls.foldl FilterCall.run (initCells m)

/-- The keys of a filter that another key follows. -/
def modifiersOf : List UInt32 → List UInt32
  | [] => []
  | k :: ks => if k ≠ 0 ∧ ks.headD 0 ≠ 0 then k :: modifiersOf ks else modifiersOf ks

/-- Every write was into `modifers`, and every index shifted by is that of a stored modifier. -/
def ModifierMemory.Within (m : ModifierMemory) : Prop :=
  (∀ i ∈ m.written, i < MAX_MODS) ∧
    ∀ a ∈ m.shifted, 0 ≤ a.1 ∧ m.table[a.1.toNat]? = some a.2

theorem addmod_eq (key : UInt32) (mods : List UInt32) :
    addmod key mods = Intern.intern MAX_MODS key mods := rfl

@[simp] theorem ModifierMemory.table_length (m : ModifierMemory) :
    m.table.length = (m.cells 0).toNat := by
  simp [table]

theorem ModifierMemory.find_eq (m : ModifierMemory) (key : UInt32) :
    ((List.range (m.cells 0).toNat).find? fun i => m.cells (i + 1) = key) =
      m.table.findIdx? (· = key) := by
  cases hfind : m.table.findIdx? (· = key) with
  | some i =>
    obtain ⟨hi, hkey, hbefore⟩ := List.findIdx?_eq_some_iff_getElem.mp hfind
    rw [table_length] at hi
    rw [List.find?_range_eq_some]
    refine ⟨by simpa [table] using hkey, List.mem_range.mpr hi, ?_⟩
    intro j hj
    simpa [table] using hbefore j hj
  | none =>
    rw [List.find?_eq_none]
    intro i hi
    have hkey := List.findIdx?_eq_none_iff.mp hfind (m.cells (i + 1)) (List.mem_map_of_mem hi)
    simpa using hkey

/-- A key written behind the table, and the length after it. -/
theorem ModifierMemory.table_push (m : ModifierMemory) (key : UInt32)
    (hlen : (m.cells 0).toNat < MAX_MODS) :
    ((m.write ((m.cells 0).toNat + 1) key).write 0 (.ofNat ((m.cells 0).toNat + 1))).table =
      m.table ++ [key] := by
  have hlen' : (UInt32.ofNat ((m.cells 0).toNat + 1)).toNat = (m.cells 0).toNat + 1 :=
    UInt32.toNat_ofNat_of_lt' (Nat.lt_trans (Nat.succ_lt_succ hlen) (by decide))
  unfold table write
  dsimp only
  rw [Function.update_self, hlen', List.range_succ, List.map_append]
  congr 1
  · apply List.map_congr_left
    intro i hi
    have hi := List.mem_range.mp hi
    rw [Function.update_of_ne (Nat.succ_ne_zero i), Function.update_of_ne (by omega)]
  · rw [List.map_singleton, Function.update_of_ne (Nat.succ_ne_zero _), Function.update_self]

theorem addmodCells_table (key : UInt32) (m : ModifierMemory) :
    (addmodCells key m).2.table = (addmod key m.table).2 ∧
      (addmodCells key m).1 = (addmod key m.table).1.elim (-1) Int.ofNat := by
  unfold addmodCells addmod
  dsimp only
  rw [m.find_eq, m.table_length]
  cases m.table.findIdx? (· = key) with
  | some i => exact ⟨rfl, rfl⟩
  | none =>
    dsimp only
    split_ifs with hlen
    · exact ⟨m.table_push key hlen, rfl⟩
    · exact ⟨rfl, rfl⟩

theorem shiftedBit_elim (a : Option Nat) : shiftedBit (a.elim (-1) Int.ofNat) = modifierBit a := by
  cases a with
  | none => rfl
  | some i => rfl

theorem filterLoop_eq (ks : List UInt32) (bits : UInt32) (m : ModifierMemory) :
    ((filterLoop ks bits m).1, (filterLoop ks bits m).2.table) = parseFilter ks bits m.table := by
  induction ks generalizing bits m with
  | nil => rfl
  | cons k ks ih =>
    unfold filterLoop parseFilter
    split_ifs
    · exact ih bits m
    · dsimp only
      rw [← ih 0 m]
    · obtain ⟨htable, hindex⟩ := addmodCells_table k m
      dsimp only
      rw [ih, hindex, shiftedBit_elim, ← htable]
      rfl

theorem parseFilter_table (ks : List UInt32) (bits : UInt32) (mods : List UInt32) :
    (parseFilter ks bits mods).2 = Intern.internAll MAX_MODS (modifiersOf ks) mods := by
  induction ks generalizing bits mods with
  | nil => rfl
  | cons k ks ih =>
    unfold parseFilter modifiersOf
    by_cases hk : k = 0
    · rw [if_pos hk, if_neg fun h => h.1 hk]
      exact ih bits mods
    · rw [if_neg hk]
      by_cases hlast : ks.headD 0 = 0
      · rw [if_pos hlast, if_neg fun h => h.2 hlast]
        exact ih 0 mods
      · rw [if_neg hlast, if_pos ⟨hk, hlast⟩]
        exact ih _ _

/-- What the calls keep of the memory; `keys` are the modifiers asked for. -/
structure ModifierMemory.Tracks (m : ModifierMemory) (keys : List UInt32) : Prop where
  table : m.table = Intern.internAll MAX_MODS keys freshDivert.modifers
  last : m.table.length ∈ m.written
  within : ∀ i ∈ m.written, i ≤ m.table.length
  shifted : ∀ a ∈ m.shifted, a.1 = -1 ∧ MAX_MODS ≤ m.table.length ∨
    0 ≤ a.1 ∧ m.table[a.1.toNat]? = some a.2

section
variable {m : ModifierMemory} {keys : List UInt32}

/-- What `addmod` writes: nothing, or the new last cell and the length. -/
theorem addmodCells_written (key : UInt32) (m : ModifierMemory) :
    (addmodCells key m).2 = m ∨
      (addmodCells key m).2.written = m.written ++ [m.table.length + 1] ++ [0] ∧
        (addmodCells key m).2.table.length = m.table.length + 1 ∧
        (addmodCells key m).2.shifted = m.shifted := by
  unfold addmodCells
  dsimp only
  rw [m.find_eq]
  cases m.table.findIdx? (· = key) with
  | some i => exact .inl rfl
  | none =>
    dsimp only
    split_ifs with hlen
    · refine .inr ⟨?_, ?_, rfl⟩
      · rw [m.table_length]
        rfl
      · rw [m.table_push key hlen, List.length_append]
        rfl
    · exact .inl rfl

theorem ModifierMemory.Tracks.shift {key : UInt32} (h : m.Tracks keys)
    (ha : a = -1 ∧ MAX_MODS ≤ m.table.length ∨ 0 ≤ a ∧ m.table[a.toNat]? = some key) :
    (m.shift a key).Tracks keys := by
  constructor
  · exact h.table
  · exact h.last
  · exact h.within
  · intro b hb
    obtain hb | hb := List.mem_append.mp hb
    · exact h.shifted b hb
    · rw [List.mem_singleton.mp hb]
      exact ha

theorem ModifierMemory.Tracks.addmod (h : m.Tracks keys) (key : UInt32) :
    ((addmodCells key m).2.shift (addmodCells key m).1 key).Tracks (keys ++ [key]) := by
  obtain ⟨htable, hindex⟩ := addmodCells_table key m
  rw [addmod_eq] at htable hindex
  have hpre : m.table <+: (addmodCells key m).2.table := by
    rw [htable]
    exact Intern.intern_extends key m.table
  have hkept : (addmodCells key m).2.Tracks (keys ++ [key]) := by
    constructor
    · rw [htable, h.table, Intern.internAll_append]
      rfl
    · obtain heq | ⟨hwritten, hlength, _⟩ := addmodCells_written key m
      · rw [heq]
        exact h.last
      · rw [hwritten, hlength]
        simp
    · obtain heq | ⟨hwritten, hlength, _⟩ := addmodCells_written key m
      · rw [heq]
        exact h.within
      · rw [hwritten, hlength]
        intro i hi
        rw [List.mem_append, List.mem_append, List.mem_singleton, List.mem_singleton] at hi
        obtain (hi | rfl) | rfl := hi
        · exact Nat.le_succ_of_le (h.within i hi)
        · exact le_rfl
        · exact Nat.zero_le _
    · have hshifted : (addmodCells key m).2.shifted = m.shifted := by
        obtain heq | ⟨_, _, hshifted⟩ := addmodCells_written key m
        · rw [heq]
        · exact hshifted
      rw [hshifted]
      intro a ha
      obtain ⟨hneg, hfull⟩ | ⟨hpos, hentry⟩ := h.shifted a ha
      · exact .inl ⟨hneg, le_trans hfull hpre.length_le⟩
      · refine .inr ⟨hpos, ?_⟩
        obtain ⟨hlt, hkey⟩ := List.getElem?_eq_some_iff.mp hentry
        rw [List.prefix_iff_getElem?.mp hpre _ hlt, hkey]
  apply hkept.shift
  rw [hindex, htable]
  cases hi : (Intern.intern MAX_MODS key m.table).1 with
  | none =>
    obtain ⟨hsame, hfull⟩ := Intern.intern_index_none hi
    rw [hsame]
    exact .inl ⟨rfl, hfull⟩
  | some i => exact .inr ⟨Int.natCast_nonneg i, Intern.intern_index hi⟩

theorem ModifierMemory.Tracks.filterLoop (h : m.Tracks keys) (ks : List UInt32) (bits : UInt32) :
    (filterLoop ks bits m).2.Tracks (keys ++ modifiersOf ks) := by
  induction ks generalizing bits m keys with
  | nil =>
    rw [modifiersOf, List.append_nil]
    exact h
  | cons k ks ih =>
    unfold InputServer.filterLoop modifiersOf
    by_cases hk : k = 0
    · rw [if_pos hk, if_neg fun h => h.1 hk]
      exact ih h bits
    · rw [if_neg hk]
      by_cases hlast : ks.headD 0 = 0
      · rw [if_pos hlast, if_neg fun h => h.2 hlast]
        exact ih h 0
      · rw [if_neg hlast, if_pos ⟨hk, hlast⟩, List.append_cons]
        exact ih (h.addmod k) _

theorem initCells_tracks (cells : Nat → UInt32) :
    (initCells (.fresh cells)).Tracks [] := by
  constructor
  · rfl
  · change 4 ∈ [0, 1, 2, 3, 4]
    decide
  · change ∀ i ∈ [0, 1, 2, 3, 4], i ≤ 4
    decide
  · nofun

/-- The modifiers of the calls that are not refused. -/
def acceptedModifiers (calls : List FilterCall) : List UInt32 :=
  (calls.filter fun c => !c.busy).flatMap fun c => modifiersOf c.filter

theorem setFilters_tracks (cells : Nat → UInt32) (calls : List FilterCall) :
    (setFilters calls (.fresh cells)).Tracks
      (acceptedModifiers calls) := by
  induction calls using List.reverseRecOn with
  | nil => exact initCells_tracks cells
  | append_singleton calls c ih =>
    have hrun : setFilters (calls ++ [c]) (.fresh cells) =
        FilterCall.run (setFilters calls (.fresh cells)) c :=
      List.foldl_concat ..
    rw [hrun]
    have hkeys : acceptedModifiers (calls ++ [c]) =
        acceptedModifiers calls ++ acceptedModifiers [c] := by
      unfold acceptedModifiers
      rw [List.filter_append, List.flatMap_append]
    rw [hkeys]
    unfold FilterCall.run
    cases hbusy : c.busy with
    | true =>
      have hnone : acceptedModifiers [c] = [] := by simp [acceptedModifiers, hbusy]
      rw [hnone, List.append_nil]
      exact ih
    | false =>
      have hone : acceptedModifiers [c] = modifiersOf c.filter := by
        simp [acceptedModifiers, hbusy]
      rw [hone]
      exact ih.filterLoop c.filter 0

theorem ModifierMemory.Tracks.within_iff (h : m.Tracks keys) :
    m.Within ↔ m.table.length < MAX_MODS := by
  constructor
  · intro hwithin
    exact hwithin.1 _ h.last
  · intro hroom
    constructor
    · intro i hi
      exact Nat.lt_of_le_of_lt (h.within i hi) hroom
    · intro a ha
      obtain ⟨_, hfull⟩ | hstored := h.shifted a ha
      · exact absurd hfull (Nat.not_le_of_lt hroom)
      · exact hstored

/-- The calls of a domain stay in the table exactly where their modifiers, with the four that are
always there, are fewer than `MAX_MODS`. -/
theorem modifiers_within_iff (cells : Nat → UInt32) (calls : List FilterCall) :
    (setFilters calls (.fresh cells)).Within ↔
      (freshDivert.modifers ++ acceptedModifiers calls).toFinset.card < MAX_MODS := by
  have htracks := setFilters_tracks cells calls
  rw [htracks.within_iff, htracks.table]
  exact Intern.internAll_length_lt_iff (by decide) _

/-- Sixteen modifiers of its own in one filter. -/
def longFilter : List UInt32 :=
  (List.range 17).map fun i => .ofNat (i + 1)

theorem modifier_written_outside :
    ¬(setFilters [{ busy := false, filter := longFilter }] (.fresh fun _ => 0)).Within := by
  intro h
  exact absurd (h.1 20 (by decide +kernel)) (by decide)

end

end InputServer
