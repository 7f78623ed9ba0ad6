import InputServer.SwipeGestures

namespace InputServer
set_option autoImplicit true

/-- How an entry of a table of actions is read. -/
abbrev ReadAction := List SmallactionSlot → Nat → Option SmallactionSlot

/-- Only entries of the table are. -/
def ReadAction.within : ReadAction :=
  fun actions i => actions[i]?

def ReadAction.anywhere (beyond : Nat → SmallactionSlot) : ReadAction :=
  fun actions i => some (actionAt beyond actions i)

/-- `gesture_match`, with its accesses to the tables. -/
def gestureMatchReading (read : ReadAction) (slot : Fin NUM_FINGERS) (x y push : Int)
    (g : Gesture) (r : Recogniser) (tracking : Nat) : Option (Recogniser × Nat × Bool) := do
  let saList ← g.actionlist[(r.cursor g).act]?
  let actions ← saList.actions
  let current ← read actions (r.cursor g).subAct
  let success := actionMatch saList current x y push
  let cursor : Cursor :=
    if success then { r.cursor g with subAct := (r.cursor g).subAct + 1 } else ⟨0, 0⟩
  let r := if success then r.setFinger slot x y else r
  let reached ← read actions cursor.subAct
  if reached.action = .eEnd then
    let next ← g.actionlist[cursor.act + 1]?
    if next.actions.isNone then pure (g.callback (r.setCursor g ⟨0, 0⟩), tracking, true)
    else
      let cursor : Cursor := ⟨cursor.act + 1, 0⟩
      pure (r.setCursor g cursor, cursor.count tracking, false)
  else pure (r.setCursor g cursor, cursor.count tracking, false)

/-- `gesture_match_move`, with its accesses to the tables. -/
def gestureMatchMoveReading (read : ReadAction) (slot : Fin NUM_FINGERS) (x y : Int)
    (g : Gesture) (r : Recogniser) (tracking : Nat) : Option (Recogniser × Nat × Bool) := do
  let cursor := r.cursor g
  let saList ← g.actionlist[cursor.act]?
  let actions ← saList.actions
  let current ← read actions cursor.subAct
  let pmove := current.pmove
  let dx := x - (r.fingers slot).lastX
  let dy := y - (r.fingers slot).lastY
  if cursor = ⟨0, 0⟩ then pure (r, tracking, false)
  else if dx.natAbs < MIN_DIST ∧ dy.natAbs < MIN_DIST then pure (r, cursor.count tracking, false)
  else if pmove = .eNaM ∨ pmove = .eMoveAnywhere then pure (r, cursor.count tracking, false)
  else if moveFails (saList.movement pmove) dx dy then
    pure (r.setCursor g ⟨0, 0⟩, tracking, false)
  else pure (r.setFinger slot x y, cursor.count tracking, false)

/-- A call of `gesture_handler`. -/
structure GestureCall where
  slot : Fin NUM_FINGERS
  x : Int
  y : Int
  push : Int

def GestureCall.matcher (read : ReadAction) (c : GestureCall) :
    Gesture → Recogniser → Nat → Option (Recogniser × Nat × Bool) :=
  if c.push = -1 then gestureMatchMoveReading read c.slot c.x c.y
  else gestureMatchReading read c.slot c.x c.y c.push

/-- What a call leaves, if it makes no access but what is read. -/
def GestureCall.handle (read : ReadAction) (r : Recogniser) (c : GestureCall) :
    Option Recogniser :=
  let r := startGestures r
  (matchGestures (c.matcher read) (gestureList r) r 0).map (·.1)

def handleCalls (read : ReadAction) (cs : List GestureCall) : Option Recogniser :=
  cs.foldlM (GestureCall.handle read) startRecogniser

/-- The entries that a gesture's cursor designates are there. -/
def Recogniser.Designates (r : Recogniser) : Prop :=
  ∀ g, ∃ saList actions current, g.actionlist[(r.cursor g).act]? = some saList ∧
    saList.actions = some actions ∧ actions[(r.cursor g).subAct]? = some current

/-- Every access is to an entry of a table, and before and after every call the cursors designate
such entries. -/
def StayInTables (cs : List GestureCall) : Prop :=
  ∀ past later, cs = past ++ later →
    ∃ r, handleCalls .within past = some r ∧ r.Designates

/-- The crosses, and how each begins. -/
def Gesture.cross : Gesture → Option SmallactionList
  | .crossL => some rightDownDrag
  | .crossR => some leftDownDrag
  | .goleft | .goright | .goup => none

/-- A release where the first drag of a cross ends, when its contact was the last that the cross
has taken. -/
def EndsDrag (r : Recogniser) (c : GestureCall) : Prop :=
  c.push = 0 ∧ ∃ g drag, g.cross = some drag ∧ r.cursor g = ⟨0, 1⟩ ∧
    positionMatch drag.p2 c.x c.y = true

section
variable {read read' : ReadAction} {g : Gesture} {drag : SmallactionList} {r r' : Recogniser}
  {c : GestureCall}

theorem reading_anywhere : gestureMatchReading (.anywhere beyond) = gestureMatch beyond :=
  rfl

theorem reading_anywhere_move :
    gestureMatchMoveReading (.anywhere beyond) = gestureMatchMove beyond :=
  rfl

/-- The calls are those of the handler. -/
theorem handle_anywhere (beyond : Nat → SmallactionSlot) (r : Recogniser) (c : GestureCall) :
    c.handle (.anywhere beyond) r =
      (gestureHandler beyond c.slot c.x c.y c.push r).map (·.1) := by
  unfold GestureCall.handle GestureCall.matcher gestureHandler
  dsimp only
  split <;> rfl

theorem within_anywhere (h : ReadAction.within actions i = some a) :
    ReadAction.anywhere beyond actions i = some a := by
  unfold ReadAction.anywhere actionAt
  have h : actions[i]? = some a := h
  rw [h]
  rfl

theorem reading_mono (hread : ∀ actions i a, read actions i = some a → read' actions i = some a)
    (h : gestureMatchReading read slot x y push g r tracking = some result) :
    gestureMatchReading read' slot x y push g r tracking = some result := by
  unfold gestureMatchReading at h ⊢
  obtain ⟨saList, hlist, h⟩ := Option.bind_eq_some_iff.1 h
  obtain ⟨actions, hactions, h⟩ := Option.bind_eq_some_iff.1 h
  obtain ⟨current, hcurrent, h⟩ := Option.bind_eq_some_iff.1 h
  obtain ⟨reached, hreached, h⟩ := Option.bind_eq_some_iff.1 h
  refine Option.bind_eq_some_iff.2 ⟨saList, hlist, ?_⟩
  refine Option.bind_eq_some_iff.2 ⟨actions, hactions, ?_⟩
  refine Option.bind_eq_some_iff.2 ⟨current, hread _ _ _ hcurrent, ?_⟩
  exact Option.bind_eq_some_iff.2 ⟨reached, hread _ _ _ hreached, h⟩

theorem reading_move_mono
    (hread : ∀ actions i a, read actions i = some a → read' actions i = some a)
    (h : gestureMatchMoveReading read slot x y g r tracking = some result) :
    gestureMatchMoveReading read' slot x y g r tracking = some result := by
  unfold gestureMatchMoveReading at h ⊢
  obtain ⟨saList, hlist, h⟩ := Option.bind_eq_some_iff.1 h
  obtain ⟨actions, hactions, h⟩ := Option.bind_eq_some_iff.1 h
  obtain ⟨current, hcurrent, h⟩ := Option.bind_eq_some_iff.1 h
  refine Option.bind_eq_some_iff.2 ⟨saList, hlist, ?_⟩
  refine Option.bind_eq_some_iff.2 ⟨actions, hactions, ?_⟩
  exact Option.bind_eq_some_iff.2 ⟨current, hread _ _ _ hcurrent, h⟩

theorem matcher_mono (hread : ∀ actions i a, read actions i = some a → read' actions i = some a)
    (h : c.matcher read g r tracking = some result) :
    c.matcher read' g r tracking = some result := by
  unfold GestureCall.matcher at h ⊢
  split at h
  · rw [if_pos ‹_›]
    exact reading_move_mono hread h
  · rw [if_neg ‹_›]
    exact reading_mono hread h

theorem matchGestures_mono
    {matcher matcher' : Gesture → Recogniser → Nat → Option (Recogniser × Nat × Bool)}
    (hmatcher : ∀ g r t result, matcher g r t = some result → matcher' g r t = some result)
    (h : matchGestures matcher glist r tracking = some result) :
    matchGestures matcher' glist r tracking = some result := by
  induction glist generalizing r tracking with
  | nil => exact h
  | cons g rest ih =>
    obtain ⟨⟨r₁, t, found⟩, hmatch, h⟩ := Option.bind_eq_some_iff.1 h
    refine Option.bind_eq_some_iff.2 ⟨_, hmatcher g r tracking _ hmatch, ?_⟩
    cases found with
    | true => exact h
    | false => exact ih h

/-- A call that stays within the tables does the same wherever it may read. -/
theorem handle_mono (hread : ∀ actions i a, read actions i = some a → read' actions i = some a)
    (h : c.handle read r = some r') : c.handle read' r = some r' := by
  obtain ⟨result, hmatch, hr⟩ := Option.map_eq_some_iff.1 h
  have hmatch' := matchGestures_mono (fun g r t result => matcher_mono hread) hmatch
  exact Option.map_eq_some_iff.2 ⟨result, hmatch', hr⟩

theorem handleCalls_snoc : handleCalls read (cs ++ [c]) =
    (handleCalls read cs).bind fun r => c.handle read r := by
  unfold handleCalls
  rw [List.foldlM_append]
  congr 1
  funext r
  exact bind_pure _

theorem handleCalls_mono
    (hread : ∀ actions i a, read actions i = some a → read' actions i = some a)
    (h : handleCalls read cs = some r) : handleCalls read' cs = some r := by
  induction cs using List.reverseRecOn generalizing r with
  | nil => exact h
  | append_singleton cs c ih =>
    rw [handleCalls_snoc] at h ⊢
    obtain ⟨r₁, hbefore, hcall⟩ := Option.bind_eq_some_iff.1 h
    exact Option.bind_eq_some_iff.2 ⟨r₁, ih hbefore, handle_mono hread hcall⟩

/-- While the actions stand in the table, nothing depends on what is behind it. -/
theorem reading_within (beyond : Nat → SmallactionSlot) (hlist : g.actionlist = drag :: rest)
    (hactions : drag.actions = some actions) (hcursor : r.cursor g = ⟨0, k⟩)
    (hk : k + 1 < actions.length) :
    gestureMatchReading .within slot x y push g r tracking =
      gestureMatch beyond slot x y push g r tracking := by
  have hread (i : Nat) (hi : i < actions.length) :
      ReadAction.within actions i = ReadAction.anywhere beyond actions i :=
    (within_anywhere (List.getElem?_eq_getElem hi)).symm ▸ List.getElem?_eq_getElem hi
  rw [← reading_anywhere]
  unfold gestureMatchReading
  rw [hcursor, hlist]
  change (drag.actions.bind fun actions => _) = (drag.actions.bind fun actions => _)
  rw [hactions, Option.bind_some, Option.bind_some]
  dsimp only
  rw [hread k (by omega)]
  change ((some (actionAt beyond actions k)).bind fun current => _) =
    ((some (actionAt beyond actions k)).bind fun current => _)
  rw [Option.bind_some, Option.bind_some]
  cases actionMatch drag (actionAt beyond actions k) x y push with
  | false =>
    simp only [Bool.false_eq_true, if_false]
    rw [hread 0 (by omega)]
  | true =>
    simp only [if_true]
    rw [hread (k + 1) hk]

/-- What a contact or a release does to a cross that has not got past its first drag. -/
theorem reading_cross (hg : g.cross = some drag) (hcursor : r.cursor g = ⟨0, k⟩) (hk : k < 2) :
    gestureMatchReading .within slot x y push g r tracking =
      if k = 0 then
        if push ≠ 0 ∧ positionMatch drag.p1 x y = true then
          some ((r.setFinger slot x y).setCursor g ⟨0, 1⟩, tracking, false)
        else some (r.setCursor g ⟨0, 0⟩, tracking, false)
      else if push = 0 ∧ positionMatch drag.p2 x y = true then none
      else some (r.setCursor g ⟨0, 0⟩, tracking, false) := by
  have hlist : ∃ rest, g.actionlist = drag :: rest ∧ drag.actions = some singledragActions ∧
      drag.position .eGivenP1 = drag.p1 ∧ drag.position .eGivenP2 = drag.p2 := by
    cases g <;> cases hg <;> exact ⟨_, rfl, rfl, rfl, rfl⟩
  obtain ⟨rest, hlist, hactions, hp1, hp2⟩ := hlist
  unfold gestureMatchReading
  rw [hcursor, hlist]
  change (drag.actions.bind fun actions => _) = _
  rw [hactions, Option.bind_some]
  match k, hk with
  | 0, _ =>
    have hmatch : actionMatch drag ⟨.eContact, .eGivenP1, .eNaM⟩ x y push =
        (decide (push ≠ 0) && positionMatch drag.p1 x y) := by
      unfold actionMatch
      dsimp only
      rw [hp1]
    change ((some (⟨.eContact, .eGivenP1, .eNaM⟩ : SmallactionSlot)).bind fun current => _) = _
    rw [Option.bind_some, hmatch, if_pos rfl]
    by_cases h : push ≠ 0 ∧ positionMatch drag.p1 x y = true
    · rw [if_pos h, decide_eq_true h.1, h.2]
      rfl
    · have hfalse : (decide (push ≠ 0) && positionMatch drag.p1 x y) = false := by
        rw [Bool.eq_false_iff]
        exact fun hb => h (by simpa using hb)
      rw [if_neg h, hfalse]
      rfl
  | 1, _ =>
    have hmatch : actionMatch drag ⟨.eRelease, .eGivenP2, .eGivenM1⟩ x y push =
        (decide (push = 0) && positionMatch drag.p2 x y) := by
      unfold actionMatch
      dsimp only
      rw [hp2]
    change ((some (⟨.eRelease, .eGivenP2, .eGivenM1⟩ : SmallactionSlot)).bind fun current => _) = _
    rw [Option.bind_some, hmatch, if_neg Nat.one_ne_zero]
    by_cases h : push = 0 ∧ positionMatch drag.p2 x y = true
    -- There is no third entry in the table.
    · rw [if_pos h, decide_eq_true h.1, h.2]
      rfl
    · have hfalse : (decide (push = 0) && positionMatch drag.p2 x y) = false := by
        rw [Bool.eq_false_iff]
        exact fun hb => h (by simpa using hb)
      rw [if_neg h, hfalse]
      rfl

/-- What a move does: the cursor stays, or goes back. -/
theorem reading_move (hlist : g.actionlist = drag :: rest) (hactions : drag.actions = some actions)
    (hcursor : r.cursor g = ⟨0, k⟩) (hk : k < actions.length) :
    ∃ r' t, gestureMatchMoveReading .within slot x y g r tracking = some (r', t, false) ∧
      (r'.cursor g = ⟨0, 0⟩ ∨ r'.cursor g = ⟨0, k⟩) := by
  have hread : ReadAction.within actions k = some actions[k] := List.getElem?_eq_getElem hk
  unfold gestureMatchMoveReading
  rw [hcursor, hlist]
  change ∃ r' t, (drag.actions.bind fun actions => _) = _ ∧ _
  rw [hactions, Option.bind_some]
  change ∃ r' t, ((ReadAction.within actions k).bind fun current => _) = _ ∧ _
  rw [hread, Option.bind_some]
  dsimp only
  split
  · exact ⟨_, _, rfl, .inr hcursor⟩
  · split
    · exact ⟨_, _, rfl, .inr hcursor⟩
    · split
      · exact ⟨_, _, rfl, .inr hcursor⟩
      · split
        · exact ⟨_, _, rfl, .inl (Function.update_self ..)⟩
        · exact ⟨_, _, rfl, .inr hcursor⟩

/-- How many actions a gesture waits for, one after the other. -/
def Gesture.waits (g : Gesture) : Nat :=
  if g.drag.isSome then 4 else 2

theorem Gesture.waits_swipe (h : g.drag.isSome) : g.waits = 4 :=
  if_pos h

theorem Gesture.waits_two (g : Gesture) : 2 ≤ g.waits := by
  unfold Gesture.waits
  split <;> decide

/-- Where a call may bring a cursor. -/
def CursorMoves (c : GestureCall) (g : Gesture) (k k' : Nat) : Prop :=
  k' = 0 ∨ c.push = -1 ∧ k' = k ∨
    c.push ≠ -1 ∧ c.push ≠ 0 ∧ k' = k + 1 ∧ (g.drag.isSome ∧ k < 2 ∨ k = 0) ∨
    c.push = 0 ∧ g.drag.isSome ∧ k' = 3

/-- The call is the release at which a cross leaves its table. -/
def LeavesTable (c : GestureCall) (g : Gesture) (k : Nat) : Prop :=
  c.push = 0 ∧ k = 1 ∧ ∃ drag, g.cross = some drag ∧ positionMatch drag.p2 c.x c.y = true

/-- What a matcher makes of a call. -/
inductive Matched (c : GestureCall) (g : Gesture) (r : Recogniser) (k : Nat) :
    Option (Recogniser × Nat × Bool) → Prop where
  | leaves : LeavesTable c g k → Matched c g r k none
  | recognised {r' : Recogniser} : g.drag.isSome → k = 3 → c.push = 0 →
      r'.runstate = r.runstate → Matched c g r k (some (r', t, true))
  | moved {r' : Recogniser} : ¬LeavesTable c g k → r'.cursor g = ⟨0, k'⟩ → CursorMoves c g k k' →
      Matched c g r k (some (r', t, false))

theorem Gesture.tables (g : Gesture) : ∃ drag actions rest, g.actionlist = drag :: rest ∧
    drag.actions = some actions ∧ g.waits ≤ actions.length := by
  cases g <;> exact ⟨_, _, _, rfl, rfl, by decide⟩

theorem matched_move (hpush : c.push = -1) (hcursor : r.cursor g = ⟨0, k⟩) (hk : k < g.waits) :
    Matched c g r k (gestureMatchMoveReading .within c.slot c.x c.y g r tracking) := by
  obtain ⟨drag, actions, rest, hlist, hactions, hwaits⟩ := g.tables
  have hmove : ∃ r' t, gestureMatchMoveReading .within c.slot c.x c.y g r tracking =
      some (r', t, false) ∧ (r'.cursor g = ⟨0, 0⟩ ∨ r'.cursor g = ⟨0, k⟩) :=
    reading_move hlist hactions hcursor (Nat.lt_of_lt_of_le hk hwaits)
  obtain ⟨r', t, hmove, hcursor'⟩ := hmove
  have hstay : ¬LeavesTable c g k := by
    rintro ⟨hzero, -⟩
    exact absurd (hpush.symm.trans hzero) (by decide)
  rw [hmove]
  obtain hback | hkept := hcursor'
  · exact .moved hstay hback (.inl rfl)
  · exact .moved hstay hkept (.inr (.inl ⟨hpush, rfl⟩))

theorem matched_swipe (hg : g.drag = some drag) (hpush : c.push ≠ -1)
    (hcursor : r.cursor g = ⟨0, k⟩) (hk : k < 4) :
    Matched c g r k (gestureMatchReading .within c.slot c.x c.y c.push g r tracking) := by
  obtain ⟨hlist, hactions, -⟩ := drag_tables hg
  have hdrag : g.drag.isSome := by rw [hg]; rfl
  have hstay : ¬LeavesTable c g k := by
    rintro ⟨-, -, cross, hcross, -⟩
    cases g <;> cases hg <;> cases hcross
  have hlength : k + 1 < twodragActions.length := Nat.succ_lt_succ hk
  rw [reading_within (fun _ => endAction) hlist hactions hcursor hlength,
    gestureMatch_swipe hg hcursor hk]
  by_cases hawaits : drag.awaits k c.x c.y c.push = true
  · rw [if_pos hawaits]
    unfold SmallactionList.awaits at hawaits
    by_cases hthree : k = 3
    · rw [if_pos hthree]
      rw [if_neg (by omega), Bool.and_eq_true, decide_eq_true_eq] at hawaits
      exact .recognised hdrag hthree hawaits.1 rfl
    · rw [if_neg hthree]
      refine .moved hstay (Function.update_self ..) ?_
      by_cases hcontact : k < 2
      · rw [if_pos hcontact, Bool.and_eq_true, decide_eq_true_eq] at hawaits
        exact .inr (.inr (.inl ⟨hpush, hawaits.1, rfl, .inl ⟨hdrag, hcontact⟩⟩))
      · rw [if_neg hcontact, Bool.and_eq_true, decide_eq_true_eq] at hawaits
        exact .inr (.inr (.inr ⟨hawaits.1, hdrag, by omega⟩))
  · rw [if_neg hawaits]
    exact .moved hstay (Function.update_self ..) (.inl rfl)

theorem matched_cross (hg : g.cross = some drag) (hpush : c.push ≠ -1)
    (hcursor : r.cursor g = ⟨0, k⟩) (hk : k < 2) :
    Matched c g r k (gestureMatchReading .within c.slot c.x c.y c.push g r tracking) := by
  rw [reading_cross hg hcursor hk]
  by_cases hzero : k = 0
  · have hstay : ¬LeavesTable c g k := by
      rintro ⟨-, hone, -⟩
      exact absurd (hzero.symm.trans hone) (by decide)
    rw [if_pos hzero]
    split
    · rename_i hcontact
      refine .moved hstay (Function.update_self ..) ?_
      exact .inr (.inr (.inl ⟨hpush, hcontact.1, by rw [hzero], .inr hzero⟩))
    · exact .moved hstay (Function.update_self ..) (.inl rfl)
  · rw [if_neg hzero]
    split
    · rename_i hrelease
      exact .leaves ⟨hrelease.1, by omega, drag, hg, hrelease.2⟩
    · rename_i hother
      refine .moved ?_ (Function.update_self ..) (.inl rfl)
      rintro ⟨hrelease, -, drag', hg', hposition⟩
      cases hg.symm.trans hg'
      exact hother ⟨hrelease, hposition⟩

/-- Every gesture is a swipe or a cross. -/
theorem Gesture.kind (g : Gesture) : (∃ drag, g.drag = some drag ∧ g.waits = 4) ∨
    ∃ drag, g.cross = some drag ∧ g.waits = 2 := by
  cases g
  case crossL | crossR => exact .inr ⟨_, rfl, rfl⟩
  all_goals exact .inl ⟨_, rfl, rfl⟩

theorem matched (hcursor : r.cursor g = ⟨0, k⟩) (hk : k < g.waits) :
    Matched c g r k (c.matcher .within g r tracking) := by
  unfold GestureCall.matcher
  split
  · rename_i hpush
    exact matched_move hpush hcursor hk
  · rename_i hpush
    obtain ⟨drag, hg, hwaits⟩ | ⟨drag, hg, hwaits⟩ := g.kind
    · exact matched_swipe hg hpush hcursor (hwaits ▸ hk)
    · exact matched_cross hg hpush hcursor (hwaits ▸ hk)

theorem matcher_own (h : c.matcher .within g r tracking = some (r', n, found)) :
    OwnCursor g r r' found := by
  have hanywhere : c.matcher (.anywhere fun _ => endAction) g r tracking = some (r', n, found) :=
    matcher_mono (fun _ _ _ => within_anywhere) h
  unfold GestureCall.matcher at hanywhere
  split at hanywhere
  · exact (gestureMatchMove_own hanywhere).1
  · exact gestureMatch_own hanywhere

/-- The loop over the gestures, where a matcher may fail. -/
theorem matchGestures_cases {I : List Gesture → Recogniser → Prop} {N : Prop}
    {F : Recogniser → Prop} {all : List Gesture}
    {matcher : Gesture → Recogniser → Nat → Option (Recogniser × Nat × Bool)}
    (hnone : ∀ done g rest r t, all = done ++ g :: rest → I done r → matcher g r t = none → N)
    (hfound : ∀ done g rest r r' t t', all = done ++ g :: rest → I done r →
      matcher g r t = some (r', t', true) → F r')
    (hstep : ∀ done g rest r r' t t', all = done ++ g :: rest → I done r →
      matcher g r t = some (r', t', false) → I (done ++ [g]) r')
    (hall : all = done ++ glist) (hI : I done r) :
    matchGestures matcher glist r tracking = none ∧ N ∨
      ∃ r' found n, matchGestures matcher glist r tracking = some (r', found, n) ∧
        (I all r' ∨ ∃ r₁, F r₁ ∧ r' = gesturesClean r₁) := by
  induction glist generalizing done r tracking with
  | nil =>
    rw [List.append_nil] at hall
    exact .inr ⟨r, none, tracking, rfl, .inl (hall ▸ hI)⟩
  | cons g rest ih =>
    unfold matchGestures
    cases hmatch : matcher g r tracking with
    | none => exact .inl ⟨rfl, hnone done g rest r tracking hall hI hmatch⟩
    | some result =>
      obtain ⟨r₁, t, found⟩ := result
      cases found with
      | true =>
        have hF := hfound done g rest r r₁ tracking t hall hI hmatch
        exact .inr ⟨_, _, _, rfl, .inr ⟨r₁, hF, rfl⟩⟩
      | false =>
        have hnext := hstep done g rest r r₁ tracking t hall hI hmatch
        exact ih (by rw [hall, List.append_assoc, List.singleton_append]) hnext

/-- Where the cursors are while no access has been out of a table: a cross has been begun only if no
swipe waits for its last release. -/
structure DragsWithin (r : Recogniser) : Prop where
  running : r.runstate = .eRunning
  cursor : ∀ g, ∃ k < g.waits, r.cursor g = ⟨0, k⟩
  apart : (∀ g, g.drag.isSome → r.cursor g ≠ ⟨0, 3⟩) ∨ ∀ g, ¬g.drag.isSome → r.cursor g = ⟨0, 0⟩

namespace DragsWithin

theorem clean (h : r.runstate = .eRunning) : DragsWithin (gesturesClean r) where
  running := h
  cursor := fun g => ⟨0, Nat.lt_of_lt_of_le Nat.two_pos g.waits_two, rfl⟩
  apart := .inr fun _ _ => rfl

theorem start : DragsWithin (startGestures startRecogniser) :=
  clean (r := { startRecogniser with runstate := .eRunning }) rfl

theorem moves (h : DragsWithin r) (hrunning : r'.runstate = .eRunning)
    (hmoves : ∀ g, ∃ k k', r.cursor g = ⟨0, k⟩ ∧ r'.cursor g = ⟨0, k'⟩ ∧
      CursorMoves c g k k') : DragsWithin r' := by
  refine ⟨hrunning, fun g => ?_, ?_⟩
  · obtain ⟨k, k', hcursor, hcursor', hmove⟩ := hmoves g
    obtain ⟨n, hn, hcursor₁⟩ := h.cursor g
    cases hcursor.symm.trans hcursor₁
    refine ⟨k', ?_, hcursor'⟩
    have htwo := g.waits_two
    obtain hzero | ⟨-, hkept⟩ | ⟨-, -, hnext, ⟨hg, hcontact⟩ | hfirst⟩ | ⟨-, hg, hthree⟩ := hmove
    · omega
    · omega
    · have hwaits := Gesture.waits_swipe hg
      omega
    · omega
    · have hwaits := Gesture.waits_swipe hg
      omega
  · by_cases hcontact : c.push ≠ -1 ∧ c.push ≠ 0
    -- After a contact no swipe waits for its last release.
    · refine .inl fun g hg hlast => ?_
      obtain ⟨k, k', -, hcursor', hmove⟩ := hmoves g
      cases hcursor'.symm.trans hlast
      obtain hzero | ⟨hpush, -⟩ | ⟨-, -, hnext, ⟨-, hk⟩ | hk⟩ | ⟨hpush, -⟩ := hmove
      · cases hzero
      · exact hcontact.1 hpush
      · omega
      · omega
      · exact hcontact.2 hpush
    · have hcross : ∀ g, ¬g.drag.isSome → r.cursor g = ⟨0, 0⟩ ∨ c.push = 0 →
          r'.cursor g = ⟨0, 0⟩ := by
        intro g hg hback
        obtain ⟨k, k', hcursor, hcursor', hmove⟩ := hmoves g
        rw [hcursor']
        obtain hzero | ⟨hpush, hkept⟩ | ⟨hmove, hpush, -⟩ | ⟨-, hswipe, -⟩ := hmove
        · rw [hzero]
        · obtain hback | hzero := hback
          · rw [hkept, ← hcursor, hback]
          · exact absurd (hpush.symm.trans hzero) (by decide)
        · exact absurd ⟨hmove, hpush⟩ hcontact
        · exact absurd hswipe hg
      by_cases hzero : c.push = 0
      · exact .inr fun g hg => hcross g hg (.inr hzero)
      · obtain hswipes | hcrosses := h.apart
        · refine .inl fun g hg hlast => ?_
          obtain ⟨k, k', hcursor, hcursor', hmove⟩ := hmoves g
          cases hcursor'.symm.trans hlast
          obtain hback | ⟨-, hkept⟩ | ⟨hmove, hpush, -⟩ | ⟨hpush, -⟩ := hmove
          · cases hback
          · exact hswipes g hg (hkept ▸ hcursor)
          · exact hcontact ⟨hmove, hpush⟩
          · exact hzero hpush
        · exact .inr fun g hg => hcross g hg (.inl (hcrosses g hg))

/-- A call leaves a table exactly when it ends the drag of a cross; otherwise the cursors stay
within their tables. -/
theorem handle (h : DragsWithin r) (c : GestureCall) :
    EndsDrag r c ∧ c.handle .within r = none ∨
      ¬EndsDrag r c ∧ ∃ r', c.handle .within r = some r' ∧ DragsWithin r' := by
  have hstarted : startGestures r = r :=
    startGestures_running fun hstart => Runstate.noConfusion (h.running.symm.trans hstart)
  have hgestures : gestureList r = gestures :=
    if_neg fun hback => Runstate.noConfusion (h.running.symm.trans hback)
  have hends : EndsDrag r c ↔ ∃ g k, r.cursor g = ⟨0, k⟩ ∧ LeavesTable c g k := by
    constructor
    · rintro ⟨hpush, g, drag, hg, hcursor, hposition⟩
      exact ⟨g, 1, hcursor, hpush, rfl, drag, hg, hposition⟩
    · rintro ⟨g, k, hcursor, hpush, rfl, drag, hg, hposition⟩
      exact ⟨hpush, g, drag, hg, hcursor, hposition⟩
  unfold GestureCall.handle
  dsimp only
  rw [hstarted, hgestures]
  let I (done : List Gesture) (r₁ : Recogniser) : Prop := r₁.runstate = r.runstate ∧
    (∀ g, g ∉ done → r₁.cursor g = r.cursor g) ∧
    ∀ g ∈ done, ∃ k k', r.cursor g = ⟨0, k⟩ ∧ r₁.cursor g = ⟨0, k'⟩ ∧ CursorMoves c g k k' ∧
      ¬LeavesTable c g k
  have hnodup : gestures.Nodup := by decide
  have hfresh {done rest : List Gesture} {g : Gesture} (hall : gestures = done ++ g :: rest) :
      g ∉ done := by
    rw [hall] at hnodup
    exact fun hmem => (List.nodup_append.1 hnodup).2.2 g hmem g List.mem_cons_self rfl
  have hmatched {done rest : List Gesture} {g : Gesture} {r₁ : Recogniser}
      (hall : gestures = done ++ g :: rest) (hI : I done r₁) (t : Nat) :
      ∃ k, r.cursor g = ⟨0, k⟩ ∧ Matched c g r₁ k (c.matcher .within g r₁ t) := by
    obtain ⟨k, hk, hcursor⟩ := h.cursor g
    exact ⟨k, hcursor, matched ((hI.2.1 g (hfresh hall)).trans hcursor) hk⟩
  have hloop : matchGestures (c.matcher .within) gestures r 0 = none ∧ EndsDrag r c ∨
      ∃ r' found n, matchGestures (c.matcher .within) gestures r 0 = some (r', found, n) ∧
        (I gestures r' ∨ ∃ r₁, (¬EndsDrag r c ∧ r₁.runstate = .eRunning) ∧
          r' = gesturesClean r₁) := by
    refine matchGestures_cases (I := I) (F := fun r₁ => ¬EndsDrag r c ∧ r₁.runstate = .eRunning)
      ?_ ?_ ?_ (show gestures = [] ++ gestures from rfl) ?_
    · intro done g rest r₁ t hall hI hnone
      obtain ⟨k, hcursor, hmatch⟩ := hmatched hall hI t
      rw [hnone] at hmatch
      cases hmatch with
      | leaves hleaves => exact hends.2 ⟨g, k, hcursor, hleaves⟩
    · intro done g rest r₁ r₂ t t' hall hI hsome
      obtain ⟨k, hcursor, hmatch⟩ := hmatched hall hI t
      rw [hsome] at hmatch
      cases hmatch with
      | recognised hg hk hpush hrunstate =>
        refine ⟨?_, by rw [hrunstate, hI.1, h.running]⟩
        rintro ⟨-, g', drag, hg', hcursor', -⟩
        have hcross : ¬g'.drag.isSome := by cases g' <;> cases hg' <;> exact Bool.false_ne_true
        obtain hswipes | hcrosses := h.apart
        · exact hswipes g hg (hk ▸ hcursor)
        · cases hcursor'.symm.trans (hcrosses g' hcross)
    · intro done g rest r₁ r₂ t t' hall hI hsome
      obtain ⟨k, hcursor, hmatch⟩ := hmatched hall hI t
      have hown := matcher_own hsome
      rw [hsome] at hmatch
      cases hmatch with
      | @moved k' _ _ hstay hcursor' hmove =>
        refine ⟨(hown.runstate rfl).trans hI.1, fun g' hg' => ?_, fun g' hg' => ?_⟩
        · have hne : g' ≠ g := fun heq => hg' (heq ▸ List.mem_concat_self)
          rw [hown.others g' hne]
          exact hI.2.1 g' fun hmem => hg' (List.mem_append_left _ hmem)
        · obtain hmem | hmem := List.mem_append.1 hg'
          · have hne : g' ≠ g := fun heq => hfresh hall (heq ▸ hmem)
            rw [hown.others g' hne]
            exact hI.2.2 g' hmem
          · rw [List.mem_singleton.1 hmem]
            exact ⟨k, k', hcursor, hcursor', hmove, hstay⟩
    · exact ⟨rfl, fun _ _ => rfl, fun _ hmem => absurd hmem List.not_mem_nil⟩
  obtain ⟨hnone, hN⟩ | ⟨r', found, n, hsome, hout⟩ := hloop
  · refine .inl ⟨hN, ?_⟩
    rw [hnone]
    rfl
  · refine .inr ?_
    rw [hsome]
    have hall (g : Gesture) : g ∈ gestures := by cases g <;> decide
    obtain hI | ⟨r₁, ⟨hstay, hrunning⟩, rfl⟩ := hout
    · refine ⟨fun hend => ?_, r', rfl, h.moves (c := c) (hI.1.trans h.running) fun g => ?_⟩
      · obtain ⟨g, k, hcursor, hleaves⟩ := hends.1 hend
        obtain ⟨n, n', hcursor₁, -, -, hstay⟩ := hI.2.2 g (hall g)
        cases hcursor.symm.trans hcursor₁
        exact hstay hleaves
      · obtain ⟨k, k', hcursor, hcursor', hmove, -⟩ := hI.2.2 g (hall g)
        exact ⟨k, k', hcursor, hcursor', hmove⟩
    · exact ⟨hstay, _, rfl, clean hrunning⟩

end DragsWithin

/-- Where the cursors are between two calls. -/
structure BetweenCalls (r : Recogniser) : Prop where
  drags : DragsWithin (startGestures r)
  cursor : (startGestures r).cursor = r.cursor

namespace BetweenCalls

theorem start : BetweenCalls startRecogniser :=
  ⟨.start, rfl⟩

theorem of_running (h : DragsWithin r) : BetweenCalls r := by
  have hstarted : startGestures r = r :=
    startGestures_running fun hstart => Runstate.noConfusion (h.running.symm.trans hstart)
  refine ⟨?_, ?_⟩ <;> rw [hstarted]
  exact h

theorem handle (h : BetweenCalls r) (c : GestureCall) :
    EndsDrag r c ∧ c.handle .within r = none ∨
      ¬EndsDrag r c ∧ ∃ r', c.handle .within r = some r' ∧ BetweenCalls r' := by
  have hends : EndsDrag (startGestures r) c ↔ EndsDrag r c := by
    unfold EndsDrag
    rw [h.cursor]
  have htwice : startGestures (startGestures r) = startGestures r := startGestures_running
    fun hstart => Runstate.noConfusion (h.drags.running.symm.trans hstart)
  have hhandle : c.handle .within (startGestures r) = c.handle .within r := by
    unfold GestureCall.handle
    rw [htwice]
  rw [← hends, ← hhandle]
  obtain hends | ⟨hstay, r', hsome, hdrags⟩ := h.drags.handle c
  · exact .inl hends
  · exact .inr ⟨hstay, r', hsome, of_running hdrags⟩

theorem designates (h : BetweenCalls r) : r.Designates := by
  intro g
  obtain ⟨k, hk, hcursor⟩ := h.drags.cursor g
  obtain ⟨drag, actions, rest, hlist, hactions, hwaits⟩ := g.tables
  have hlt := Nat.lt_of_lt_of_le hk hwaits
  rw [← h.cursor, hcursor, hlist]
  exact ⟨drag, actions, actions[k], rfl, hactions, List.getElem?_eq_getElem hlt⟩

end BetweenCalls

theorem handleCalls_between (h : handleCalls .within cs = some r) : BetweenCalls r := by
  induction cs using List.reverseRecOn generalizing r with
  | nil =>
    cases h
    exact .start
  | append_singleton cs c ih =>
    rw [handleCalls_snoc] at h
    obtain ⟨r₁, hbefore, hcall⟩ := Option.bind_eq_some_iff.1 h
    obtain ⟨-, hnone⟩ | ⟨-, r₂, hsome, hbetween⟩ := (ih hbefore).handle c
    · rw [hnone] at hcall
      cases hcall
    · cases hsome.symm.trans hcall
      exact hbetween

end

/-- Every access is to an entry of a table exactly when no call ends the first drag of a cross:
the table of that drag has no end. -/
theorem tables_kept_iff (beyond : Nat → SmallactionSlot) (cs : List GestureCall) :
    StayInTables cs ↔ ∀ past c later r, cs = past ++ c :: later →
      handleCalls (.anywhere beyond) past = some r → ¬EndsDrag r c := by
  constructor
  · intro h past c later r hcs hrun hends
    obtain ⟨r₁, hbefore, -⟩ := h past (c :: later) hcs
    obtain ⟨r₂, hafter, -⟩ := h (past ++ [c]) later (by rw [hcs, List.append_assoc]; rfl)
    have hsame : handleCalls (.anywhere beyond) past = some r₁ :=
      handleCalls_mono (fun _ _ _ => within_anywhere) hbefore
    cases hsame.symm.trans hrun
    rw [handleCalls_snoc, hbefore, Option.bind_some] at hafter
    obtain ⟨-, hnone⟩ | ⟨hstay, -⟩ := (handleCalls_between hbefore).handle c
    · rw [hnone] at hafter
      cases hafter
    · exact hstay hends
  · intro h past later hcs
    have hwithin : ∃ r, handleCalls .within past = some r := by
      induction past using List.reverseRecOn generalizing later with
      | nil => exact ⟨startRecogniser, rfl⟩
      | append_singleton past c ih =>
        rw [List.append_assoc, List.singleton_append] at hcs
        obtain ⟨r, hbefore⟩ := ih (c :: later) hcs
        have hsame : handleCalls (.anywhere beyond) past = some r :=
          handleCalls_mono (fun _ _ _ => within_anywhere) hbefore
        rw [handleCalls_snoc, hbefore]
        obtain ⟨hends, -⟩ | ⟨-, r', hsome, -⟩ := (handleCalls_between hbefore).handle c
        · exact absurd hends (h past c later r hcs hsame)
        · exact ⟨r', hsome⟩
    obtain ⟨r, hrun⟩ := hwithin
    exact ⟨r, hrun, (handleCalls_between hrun).designates⟩

theorem firstFinger_lt : 0 < NUM_FINGERS := by
  decide

/-- A finger that is drawn from the top left corner to the bottom right. -/
def diagonalDrag : List GestureCall :=
  [⟨⟨0, firstFinger_lt⟩, 100, 100, 1⟩, ⟨⟨0, firstFinger_lt⟩, 32000, 32000, 0⟩]

theorem diagonal_leaves_table : ¬StayInTables diagonalDrag := by
  intro h
  obtain ⟨r, hrun, -⟩ := h diagonalDrag [] (List.append_nil _).symm
  have hnone : (handleCalls .within diagonalDrag).isNone := by decide
  rw [hrun] at hnone
  cases hnone

end InputServer
