import Mathlib

set_option autoImplicit true

/-- A ring of shared memory with free-running counters: entry `i` is entry `i` modulo the length. -/
structure CountedRing (α : Type) where
  entries : Nat → α
  prod : UInt32
  cons : UInt32

namespace CountedRing

variable {α : Type} (len : Nat) (r : CountedRing α)

def entry (i : UInt32) : α :=
  r.entries (i.toNat % len)

def push (a : α) : CountedRing α :=
  { r with entries := Function.update r.entries (r.prod.toNat % len) a, prod := r.prod + 1 }

def pop : CountedRing α :=
  { r with cons := r.cons + 1 }

/-- The number of entries that the producer is ahead. -/
def backlog : Nat :=
  (r.prod - r.cons).toNat

/-- The entries that were not consumed, in order. -/
def unread : List α :=
  (List.range r.backlog).map fun i => r.entry len (r.cons + UInt32.ofNat i)

/-- One more entry fits, and the one the producer is at holds none that is unread. -/
structure Room : Prop where
  free : r.backlog < len
  fresh : ∀ i < r.backlog, (r.cons + UInt32.ofNat i).toNat % len ≠ r.prod.toNat % len

variable {len r}

theorem backlog_push (h : r.backlog + 1 < 2 ^ 32) (a : α) :
    (r.push len a).backlog = r.backlog + 1 := by
  have hassoc : r.prod + 1 - r.cons = (r.prod - r.cons) + 1 := by grind
  change (r.prod + 1 - r.cons).toNat = _
  rw [hassoc, UInt32.toNat_add]
  exact Nat.mod_eq_of_lt h

theorem cons_add_backlog : r.cons + UInt32.ofNat r.backlog = r.prod := by
  rw [backlog, UInt32.ofNat_toNat]
  grind

theorem unread_push (h : r.Room len) (hlen : len < 2 ^ 32) (a : α) :
    (r.push len a).unread len = r.unread len ++ [a] := by
  have hfree := h.free
  rw [unread, backlog_push (by omega), List.range_succ, List.map_append, unread]
  congr 1
  · apply List.map_congr_left
    intro i hi
    exact Function.update_of_ne (h.fresh i (List.mem_range.mp hi)) ..
  · have hlast : (r.push len a).entry len (r.cons + UInt32.ofNat r.backlog) = a := by
      rw [cons_add_backlog]
      exact Function.update_self ..
    exact congrArg (fun b => [b]) hlast

theorem backlog_pop (h : r.prod ≠ r.cons) : r.backlog = r.pop.backlog + 1 := by
  have hne : r.prod - r.cons ≠ 0 := sub_ne_zero.mpr h
  have hpos : 0 < (r.prod - r.cons).toNat := by
    rw [Nat.pos_iff_ne_zero]
    intro hzero
    exact hne (UInt32.toNat_inj.mp hzero)
  have hassoc : r.prod - (r.cons + 1) = (r.prod - r.cons) - 1 := by grind
  have hone : (1 : UInt32) ≤ r.prod - r.cons := UInt32.le_iff_toNat_le.mpr hpos
  change (r.prod - r.cons).toNat = (r.prod - (r.cons + 1)).toNat + 1
  rw [hassoc, UInt32.toNat_sub_of_le _ _ hone, UInt32.toNat_one]
  exact (Nat.sub_add_cancel hpos).symm

theorem unread_pop (h : r.prod ≠ r.cons) :
    r.unread len = r.entry len r.cons :: r.pop.unread len := by
  rw [unread, backlog_pop h, List.range_succ_eq_map, List.map_cons, List.map_map, unread]
  congr 1
  · change r.entry len (r.cons + 0) = _
    rw [add_zero]
  · apply List.map_congr_left
    intro i _
    have hnext : r.cons + UInt32.ofNat (i + 1) = r.cons + 1 + UInt32.ofNat i := by
      rw [UInt32.ofNat_add]
      change r.cons + (UInt32.ofNat i + 1) = _
      grind
    change r.entry len (r.cons + UInt32.ofNat (i + 1)) = r.entry len (r.cons + 1 + UInt32.ofNat i)
    rw [hnext]

end CountedRing
