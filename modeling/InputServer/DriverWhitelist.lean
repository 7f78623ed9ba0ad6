import InputServer.Library.Loop

namespace InputServer
set_option autoImplicit true

def COMMA : UInt8 := 0x2c

/-- The entries of `driver[]`. -/
abbrev NDRIVERS : Nat := 64

/-- The statics of `domain_get_whitelist_drivers`; an entry is a string or NULL. -/
structure Whitelist where
  driver : Fin NDRIVERS → Option (List UInt8)
  driverRead : Bool

def startWhitelist : Whitelist := ⟨fun _ => none, false⟩

/-- `strchr`, in what is left of a string. -/
def strchr (c : UInt8) (s : List UInt8) : Option (List UInt8) :=
  match s.dropWhile (· ≠ c) with
  | [] => none
  | rest => some rest

/-- An entry is set, if there is such an entry. -/
def setDriver (driver : Fin NDRIVERS → Option (List UInt8)) (dri : Nat)
    (entry : Option (List UInt8)) : Option (Fin NDRIVERS → Option (List UInt8)) :=
  if h : dri < NDRIVERS then some (Function.update driver ⟨dri, h⟩ entry) else none

/-- The cursors of the tokeniser, `beg` and `end`: what is left of the buffer, up to its NUL, and
from the next comma on. -/
structure Tokeniser where
  beg : List UInt8
  stop : Option (List UInt8)
  dri : Nat
  driver : Fin NDRIVERS → Option (List UInt8)

/-- A round of the tokeniser; a store outside `driver[]` ends it with nothing. -/
def tokeniserRound (sizeofDriver : Nat) (t : Tokeniser) : Option Tokeniser ⊕ Tokeniser :=
  if t.beg ≠ [] ∧ t.dri < sizeofDriver - 1 then
    let sz :=
      match t.stop with
      | some e => t.beg.length - e.length
      | none => t.beg.length
    let stored :=
      if sz > 0 then
        (setDriver t.driver t.dri (some (t.beg.take sz))).map fun driver =>
          { t with driver := driver, dri := t.dri + 1 }
      else some t
    match stored, t.stop with
    | none, _ => .inl none
    | some t, none => .inl (some t)
    | some t, some e => .inr { t with beg := e.tail, stop := strchr COMMA e.tail }
  else .inl (some t)

/-- `domain_get_whitelist_drivers` within so many rounds, with what the database has: the list, or
NULL where there is none; nothing where a store is outside `driver[]`. -/
def domainGetWhitelistDrivers (sizeofPointer fuel : Nat) (w : Whitelist)
    (buf : Option (List UInt8)) :
    Option (Option (Whitelist × Option (Fin NDRIVERS → Option (List UInt8)))) :=
  if w.driverRead then some (some (w, some w.driver))
  else
    match buf with
    | none => some (some (w, none))
    | some buf => do
      let sizeofDriver := NDRIVERS * sizeofPointer
      let read ← Loop (tokeniserRound sizeofDriver) fuel ⟨buf, strchr COMMA buf, 0, w.driver⟩
      pure do
        let t ← read
        let driver ← setDriver t.driver t.dri none
        pure (⟨driver, true⟩, some driver)

/-- The items between the commas that are not empty. -/
def whitelistItems (text : List UInt8) : List (List UInt8) :=
  (text.splitOn COMMA).filter (· ≠ [])

/-- A NULL-terminated list of just these. -/
structure Lists (driver : Fin NDRIVERS → Option (List UInt8)) (items : List (List UInt8)) :
    Prop where
  room : items.length < NDRIVERS
  entry : ∀ (k : Nat) (h : k < items.length), driver ⟨k, h.trans room⟩ = some items[k]
  null : driver ⟨items.length, room⟩ = none

/-- The text is read, with every store in `driver[]`, and the list is that of its items. -/
def WhitelistParsed (sizeofPointer : Nat) (text : List UInt8) : Prop :=
  ∃ fuel driver, domainGetWhitelistDrivers sizeofPointer fuel startWhitelist (some text) =
    some (some (⟨driver, true⟩, some driver)) ∧ Lists driver (whitelistItems text)

section
variable {text : List UInt8} {driver : Fin NDRIVERS → Option (List UInt8)}
  {done items : List (List UInt8)} {t : Tokeniser}

theorem strchr_none (h : strchr c s = none) : c ∉ s := by
  unfold strchr at h
  split at h
  · rename_i hdrop
    intro hmem
    exact absurd rfl (of_decide_eq_true (List.dropWhile_eq_nil_iff.1 hdrop c hmem))
  · cases h

theorem strchr_some (h : strchr c s = some e) :
    ∃ front tail, s = front ++ c :: tail ∧ c ∉ front ∧ e = c :: tail := by
  unfold strchr at h
  cases hdrop : s.dropWhile (· ≠ c) with
  | nil =>
    rw [hdrop] at h
    cases h
  | cons b tail =>
    rw [hdrop] at h
    cases h
    have hhead := List.head?_dropWhile_not (· ≠ c) s
    rw [hdrop] at hhead
    have hb : b = c := not_not.1 (of_decide_eq_false hhead)
    subst hb
    refine ⟨s.takeWhile (· ≠ b), tail, ?_, fun hmem => ?_, rfl⟩
    · rw [← hdrop, List.takeWhile_append_dropWhile]
    · have hne := List.mem_takeWhile_imp (p := fun x => decide (x ≠ b)) hmem
      exact absurd rfl (of_decide_eq_true hne)

theorem items_last (h : COMMA ∉ text) :
    whitelistItems text = if text ≠ [] then [text] else [] := by
  unfold whitelistItems
  rw [List.splitOn_eq_singleton h, List.filter_singleton]
  by_cases hnil : text = [] <;> simp [hnil]

theorem items_next (h : COMMA ∉ front) (tail : List UInt8) :
    whitelistItems (front ++ COMMA :: tail) =
      (if front ≠ [] then [front] else []) ++ whitelistItems tail := by
  unfold whitelistItems
  rw [List.splitOn_append_cons_self_of_not_mem h, List.filter_cons]
  by_cases hnil : front = [] <;> simp [hnil]

/-- The entries that have been set so far. -/
structure Stored (driver : Fin NDRIVERS → Option (List UInt8)) (done : List (List UInt8)) :
    Prop where
  room : done.length ≤ NDRIVERS
  entry : ∀ (k : Nat) (h : k < done.length), driver ⟨k, Nat.lt_of_lt_of_le h room⟩ = some done[k]

theorem Stored.nil (driver : Fin NDRIVERS → Option (List UInt8)) : Stored driver [] :=
  ⟨Nat.zero_le _, fun _ h => absurd h (Nat.not_lt_zero _)⟩

/-- The next entry has its place, or the array is full. -/
theorem Stored.store (h : Stored driver done) (item : List UInt8) :
    done.length = NDRIVERS ∧ setDriver driver done.length (some item) = none ∨
      ∃ driver', setDriver driver done.length (some item) = some driver' ∧
        Stored driver' (done ++ [item]) := by
  unfold setDriver
  by_cases hroom : done.length < NDRIVERS
  · rw [dif_pos hroom]
    refine .inr ⟨_, rfl, by rw [List.length_append]; exact hroom, fun k hk => ?_⟩
    rw [List.length_append] at hk
    by_cases hlast : k = done.length
    · subst hlast
      rw [Function.update_self, List.getElem_concat_length rfl]
    · have hlt : k < done.length := by
        have hone : [item].length = 1 := rfl
        omega
      rw [Function.update_of_ne fun heq => hlast (Fin.mk.inj heq), h.entry k hlt,
        List.getElem_append_left hlt]
  · rw [dif_neg hroom]
    exact .inl ⟨Nat.le_antisymm h.room (Nat.not_lt.1 hroom), rfl⟩

/-- Where the tokeniser stands: the items that it has stored, and those that are to come. -/
structure Tokenised (text : List UInt8) (t : Tokeniser) (done : List (List UInt8)) : Prop where
  stop : t.stop = strchr COMMA t.beg
  items : whitelistItems text = done ++ whitelistItems t.beg
  dri : t.dri = done.length
  holds : Stored t.driver done

/-- How the loop ends: every item has been stored, or there was no room for one. -/
def TokeniserEnds (text : List UInt8) : Option Tokeniser → Prop
  | none => NDRIVERS ≤ (whitelistItems text).length
  | some t => t.dri = (whitelistItems text).length ∧ Stored t.driver (whitelistItems text)

theorem tokeniser_round (hpointer : 2 ≤ sizeofPointer) (h : Tokenised text t done) :
    match tokeniserRound (NDRIVERS * sizeofPointer) t with
    | .inl r => TokeniserEnds text r
    | .inr t' => (∃ done, Tokenised text t' done) ∧ t'.beg.length < t.beg.length := by
  have hroom := h.holds.room
  unfold tokeniserRound
  by_cases hbeg : t.beg = []
  · rw [if_neg fun htest => htest.1 hbeg]
    have hitems : whitelistItems text = done := by
      rw [h.items, hbeg]
      exact List.append_nil done
    change t.dri = (whitelistItems text).length ∧ Stored t.driver (whitelistItems text)
    rw [hitems]
    exact ⟨h.dri, h.holds⟩
  · have hdri := h.dri
    have hsize : NDRIVERS * 2 ≤ NDRIVERS * sizeofPointer := Nat.mul_le_mul_left _ hpointer
    have hcapacity : t.dri < NDRIVERS * sizeofPointer - 1 := by
      unfold NDRIVERS at *
      omega
    have htest : t.beg ≠ [] ∧ t.dri < NDRIVERS * sizeofPointer - 1 := ⟨hbeg, hcapacity⟩
    rw [if_pos htest]
    dsimp only
    cases hstop : t.stop with
    | none =>
      have hcomma : COMMA ∉ t.beg := strchr_none (h.stop.symm.trans hstop)
      have hitems : whitelistItems text = done ++ [t.beg] := by
        rw [h.items, items_last hcomma, if_pos hbeg]
      have hsz : t.beg.length > 0 := List.length_pos_of_ne_nil hbeg
      dsimp only
      rw [if_pos hsz, List.take_length, hdri]
      obtain ⟨hfull, hnone⟩ | ⟨driver', hsome, hholds⟩ := h.holds.store t.beg
      · rw [hnone]
        change NDRIVERS ≤ (whitelistItems text).length
        rw [hitems, List.length_append, hfull]
        exact Nat.le_add_right ..
      · rw [hsome]
        change done.length + 1 = (whitelistItems text).length ∧ Stored driver' (whitelistItems text)
        rw [hitems, List.length_append]
        exact ⟨rfl, hholds⟩
    | some e =>
      obtain ⟨front, tail, hfront, hcomma, rfl⟩ := strchr_some (h.stop.symm.trans hstop)
      have hsz : t.beg.length - (COMMA :: tail).length = front.length := by
        rw [hfront, List.length_append, Nat.add_sub_cancel]
      have htake : t.beg.take front.length = front := by
        rw [hfront, List.take_left]
      have hshorter : tail.length < t.beg.length := by
        rw [hfront, List.length_append, List.length_cons]
        omega
      have hitems : whitelistItems text =
          done ++ ((if front ≠ [] then [front] else []) ++ whitelistItems tail) := by
        rw [h.items, hfront, items_next hcomma]
      dsimp only [List.tail_cons]
      by_cases hempty : front = []
      · rw [if_neg (not_not.2 hempty), List.nil_append] at hitems
        have hzero : ¬t.beg.length - (COMMA :: tail).length > 0 := by
          rw [hsz, hempty]
          exact Nat.lt_irrefl 0
        rw [if_neg hzero]
        exact ⟨⟨done, rfl, hitems, h.dri, h.holds⟩, hshorter⟩
      · rw [if_pos hempty, ← List.append_assoc] at hitems
        have hpos : t.beg.length - (COMMA :: tail).length > 0 := by
          rw [hsz]
          exact List.length_pos_of_ne_nil hempty
        rw [if_pos hpos, hsz, htake, hdri]
        obtain ⟨hfull, hnone⟩ | ⟨driver', hsome, hholds⟩ := h.holds.store front
        · rw [hnone]
          change NDRIVERS ≤ (whitelistItems text).length
          rw [hitems, List.length_append, List.length_append, hfull]
          omega
        · rw [hsome]
          refine ⟨⟨done ++ [front], rfl, hitems, ?_, hholds⟩, hshorter⟩
          rw [List.length_append]
          rfl

theorem tokeniser_ends (hpointer : 2 ≤ sizeofPointer) (text : List UInt8)
    (driver : Fin NDRIVERS → Option (List UInt8)) (hfuel : text.length < fuel) :
    ∃ r, Loop (tokeniserRound (NDRIVERS * sizeofPointer)) fuel
      ⟨text, strchr COMMA text, 0, driver⟩ = some r ∧ TokeniserEnds text r := by
  apply Loop.total (I := fun t => ∃ done, Tokenised text t done) (fun t => t.beg.length) _ hfuel
  · exact ⟨[], rfl, rfl, rfl, .nil driver⟩
  · intro t ⟨done, htokenised⟩
    have hround := tokeniser_round hpointer htokenised
    generalize tokeniserRound (NDRIVERS * sizeofPointer) t = result at hround
    cases result with
    | inl r => exact hround
    | inr t' => exact hround

/-- The list is ended where there is an entry left. -/
theorem Stored.ended (h : Stored driver items) (hroom : items.length < NDRIVERS) :
    ∃ driver', setDriver driver items.length none = some driver' ∧ Lists driver' items := by
  unfold setDriver
  rw [dif_pos hroom]
  refine ⟨_, rfl, hroom, fun k hk => ?_, Function.update_self ..⟩
  have hne : (⟨k, hk.trans hroom⟩ : Fin NDRIVERS) ≠ ⟨items.length, hroom⟩ :=
    fun heq => absurd (Fin.mk.inj heq) (Nat.ne_of_lt hk)
  rw [Function.update_of_ne hne]
  exact h.entry k hk

/-- The text is read to its end, into the list of its items if that leaves an entry for the NULL;
otherwise there is a store behind `driver[]`. -/
theorem whitelist_read (hpointer : 2 ≤ sizeofPointer) (hread : w.driverRead = false)
    (text : List UInt8) (hfuel : text.length < fuel) :
    ∃ outcome, domainGetWhitelistDrivers sizeofPointer fuel w (some text) = some outcome ∧
      if (whitelistItems text).length < NDRIVERS then
        ∃ driver, outcome = some (⟨driver, true⟩, some driver) ∧ Lists driver (whitelistItems text)
      else outcome = none := by
  obtain ⟨r, hloop, hends⟩ := tokeniser_ends hpointer text w.driver hfuel
  unfold domainGetWhitelistDrivers
  rw [hread, if_neg Bool.false_ne_true]
  dsimp only
  rw [hloop]
  refine ⟨_, rfl, ?_⟩
  cases r with
  | none =>
    rw [if_neg (Nat.not_lt.2 hends)]
    rfl
  | some t =>
    obtain ⟨hdri, hholds⟩ := hends
    by_cases hroom : (whitelistItems text).length < NDRIVERS
    · rw [if_pos hroom]
      obtain ⟨driver, hset, hlists⟩ := hholds.ended hroom
      refine ⟨driver, ?_, hlists⟩
      change ((setDriver t.driver t.dri none).bind fun driver => _) = _
      rw [hdri, hset]
      rfl
    · rw [if_neg hroom]
      change ((setDriver t.driver t.dri none).bind fun driver => _) = _
      rw [hdri]
      unfold setDriver
      rw [dif_neg hroom]
      rfl

end

/-- The whitelist is parsed exactly when the array has an entry for each of its items and one more
for the NULL. -/
theorem whitelist_parsed_iff {sizeofPointer : Nat} (hpointer : 2 ≤ sizeofPointer)
    (text : List UInt8) :
    WhitelistParsed sizeofPointer text ↔ (whitelistItems text).length < NDRIVERS := by
  constructor
  · rintro ⟨fuel, driver, -, hlists⟩
    exact hlists.room
  · intro hroom
    obtain ⟨outcome, hread, houtcome⟩ :=
      whitelist_read hpointer (rfl : startWhitelist.driverRead = false) text
        (Nat.lt_succ_self text.length)
    rw [if_pos hroom] at houtcome
    obtain ⟨driver, rfl, hlists⟩ := houtcome
    exact ⟨_, driver, hread, hlists⟩

/-- `nvidia,,vga`, with an empty item. -/
def shortWhitelist : List UInt8 :=
  [0x6e, 0x76, 0x69, 0x64, 0x69, 0x61, 0x2c, 0x2c, 0x76, 0x67, 0x61]

theorem short_whitelist_parsed :
    WhitelistParsed 8 shortWhitelist ↔ (whitelistItems shortWhitelist).length < NDRIVERS :=
  whitelist_parsed_iff (by decide) shortWhitelist

/-- Sixty-four items of one letter. -/
def longWhitelist : List UInt8 :=
  0x61 :: (List.replicate 63 [COMMA, 0x61]).flatten

theorem long_whitelist_overflows : longWhitelist.length = 127 ∧ ¬WhitelistParsed 8 longWhitelist ∧
    ∃ fuel, domainGetWhitelistDrivers 8 fuel startWhitelist (some longWhitelist) = some none := by
  have hitems : ¬(whitelistItems longWhitelist).length < NDRIVERS := by
    decide +kernel
  refine ⟨by decide +kernel, fun h => hitems ?_, ?_⟩
  · obtain ⟨fuel, driver, -, hlists⟩ := h
    exact hlists.room
  · obtain ⟨outcome, hread, houtcome⟩ :=
      whitelist_read (by decide : 2 ≤ 8) (rfl : startWhitelist.driverRead = false) longWhitelist
        (Nat.lt_succ_self longWhitelist.length)
    rw [if_neg hitems] at houtcome
    exact ⟨_, houtcome ▸ hread⟩

end InputServer
