import Mathlib

namespace InputServer
set_option autoImplicit true

def SCREEN_X : Int := 32767
def SCREEN_Y : Int := 32767

def LEFT_X : Int := SCREEN_X / 4
def RIGHT_X : Int := 3 * SCREEN_X / 4
def MIDDLE_X : Int := SCREEN_X / 2
def TOP_Y : Int := SCREEN_Y / 3
def BOTTEM_Y : Int := 2 * SCREEN_Y / 3
def MIDDLE_Y : Int := SCREEN_Y / 2
def DELTA_X : Int := SCREEN_X / 5
def DELTA_Y : Int := SCREEN_Y / 5

abbrev NUM_FINGERS : Nat := 3
def MIN_DIST : Int := SCREEN_X / 50

inductive GesturePosition where
  | eNaP
  | eGivenP1
  | eGivenP2
  | eAbsPosition
  | eLeft
  | eRight
  | eTop
  | eBottom
  | eTopLeft
  | eTopRight
  | eBottomLeft
  | eBottomRight
deriving DecidableEq

inductive ActionType where
  | eEnd
  | eContact
  | eRelease
  | eMove
deriving DecidableEq

inductive PostMovement where
  | eNaM
  | eDontMove
  | eMoveAnywhere
  | eMoveLeft
  | eMoveRight
  | eMoveUp
  | eMoveDown
  | eMoveLeftDown
  | eMoveRightDown
  | eMoveLeftUp
  | eMoveRighUp
  | eGivenM1
  | eGivenM2
deriving DecidableEq

structure SmallactionSlot where
  action : ActionType
  pos : GesturePosition
  pmove : PostMovement

/-- `struct smallaction_list`; there are no `actions` in the entry that ends an action list. -/
structure SmallactionList where
  actions : Option (List SmallactionSlot)
  p1 : GesturePosition
  p2 : GesturePosition
  m1 : PostMovement
  m2 : PostMovement

def endAction : SmallactionSlot := ⟨.eEnd, .eNaP, .eNaM⟩

def endActionList : SmallactionList := ⟨none, .eNaP, .eNaP, .eNaM, .eNaM⟩

/-- These have no end of their own. -/
def singledragActions : List SmallactionSlot :=
  [⟨.eContact, .eGivenP1, .eNaM⟩, ⟨.eRelease, .eGivenP2, .eGivenM1⟩]

def twodragActions : List SmallactionSlot :=
  [⟨.eContact, .eGivenP1, .eNaM⟩, ⟨.eContact, .eGivenP1, .eNaM⟩,
    ⟨.eRelease, .eGivenP2, .eGivenM1⟩, ⟨.eRelease, .eGivenP2, .eGivenM1⟩, endAction]

def goleftDrag : SmallactionList := ⟨some twodragActions, .eRight, .eLeft, .eMoveLeft, .eNaM⟩

def gorightDrag : SmallactionList := ⟨some twodragActions, .eLeft, .eRight, .eMoveRight, .eNaM⟩

def goupDrag : SmallactionList := ⟨some twodragActions, .eBottom, .eTop, .eMoveUp, .eNaM⟩

def rightDownDrag : SmallactionList :=
  ⟨some singledragActions, .eTopLeft, .eBottomRight, .eMoveRightDown, .eNaM⟩

def leftDownDrag : SmallactionList :=
  ⟨some singledragActions, .eTopRight, .eBottomLeft, .eMoveLeftDown, .eNaM⟩

inductive Gesture where
  | goleft
  | goright
  | goup
  | crossL
  | crossR
deriving DecidableEq

def Gesture.actionlist : Gesture → List SmallactionList
  | .goleft => [goleftDrag, endActionList]
  | .goright => [gorightDrag, endActionList]
  | .goup => [goupDrag, endActionList]
  | .crossL => [rightDownDrag, leftDownDrag, endActionList]
  | .crossR => [leftDownDrag, rightDownDrag, endActionList]

def gestures : List Gesture := [.goleft, .goright, .goup, .crossL, .crossR]

def standbackGestures : List Gesture := [.crossL, .crossR]

inductive Runstate where
  | eStartup
  | eRunning
  | eStandBack
deriving DecidableEq

/-- How far a gesture has been followed. -/
structure Cursor where
  act : Nat
  subAct : Nat
deriving DecidableEq

structure Fingerinfo where
  lastX : Int
  lastY : Int
deriving DecidableEq

/-- The statics of `gesture.c`. -/
structure Recogniser where
  runstate : Runstate
  fingers : Fin NUM_FINGERS → Fingerinfo
  cursor : Gesture → Cursor

def startRecogniser : Recogniser := ⟨.eStartup, fun _ => ⟨0, 0⟩, fun _ => ⟨0, 0⟩⟩

def standback (r : Recogniser) : Recogniser :=
  match r.runstate with
  | .eRunning => { r with runstate := .eStandBack }
  | .eStandBack => { r with runstate := .eRunning }
  | .eStartup => r

/-- What a callback does to the recogniser; those of the swipes switch to another domain. -/
def Gesture.callback : Gesture → Recogniser → Recogniser
  | .crossL | .crossR => standback
  | .goleft | .goright | .goup => id

def positionMatch (a : GesturePosition) (x y : Int) : Bool :=
  match a with
  | .eLeft => x < LEFT_X && y < MIDDLE_Y + DELTA_Y && y > MIDDLE_Y - DELTA_Y
  | .eRight => x > RIGHT_X && y < MIDDLE_Y + DELTA_Y && y > MIDDLE_Y - DELTA_Y
  | .eTop => y < TOP_Y && x < MIDDLE_X + DELTA_X && x > MIDDLE_X - DELTA_X
  | .eBottom => y > BOTTEM_Y && x < MIDDLE_X + DELTA_X && x > MIDDLE_X - DELTA_X
  | .eTopLeft => x < LEFT_X && y < TOP_Y
  | .eTopRight => x > RIGHT_X && y < TOP_Y
  | .eBottomLeft => x < LEFT_X && y > BOTTEM_Y
  | .eBottomRight => x > RIGHT_X && y > BOTTEM_Y
  | .eNaP | .eGivenP1 | .eGivenP2 | .eAbsPosition => false

/-- An action; behind the end of a table it is what happens to stand there. -/
def actionAt (beyond : Nat → SmallactionSlot) (actions : List SmallactionSlot) (i : Nat) :
    SmallactionSlot :=
  actions[i]?.getD (beyond (i - actions.length))

def SmallactionList.position (saList : SmallactionList) (pos : GesturePosition) :
    GesturePosition :=
  let pos := if pos = .eGivenP1 then saList.p1 else pos
  if pos = .eGivenP2 then saList.p2 else pos

def SmallactionList.movement (saList : SmallactionList) (pmove : PostMovement) : PostMovement :=
  let pmove := if pmove = .eGivenM1 then saList.m1 else pmove
  if pmove = .eGivenM2 then saList.m2 else pmove

def Recogniser.setCursor (r : Recogniser) (g : Gesture) (cursor : Cursor) : Recogniser :=
  { r with cursor := Function.update r.cursor g cursor }

def Recogniser.setFinger (r : Recogniser) (slot : Fin NUM_FINGERS) (x y : Int) : Recogniser :=
  { r with fingers := Function.update r.fingers slot ⟨x, y⟩ }

/-- A gesture that has been begun is tracked. -/
def Cursor.count (cursor : Cursor) (tracking : Nat) : Nat :=
  if cursor.subAct > 1 ∨ cursor.act > 0 then tracking + 1 else tracking

def actionMatch (saList : SmallactionList) (current : SmallactionSlot) (x y push : Int) : Bool :=
  match current.action with
  | .eContact => push ≠ 0 && positionMatch (saList.position current.pos) x y
  | .eRelease => push = 0 && positionMatch (saList.position current.pos) x y
  | .eEnd | .eMove => false

/-- `gesture_match`, which fails where there is no list or no table to read. -/
def gestureMatch (beyond : Nat → SmallactionSlot) (slot : Fin NUM_FINGERS) (x y push : Int)
    (g : Gesture) (r : Recogniser) (tracking : Nat) : Option (Recogniser × Nat × Bool) := do
  let saList ← g.actionlist[(r.cursor g).act]?
  let actions ← saList.actions
  let success := actionMatch saList (actionAt beyond actions (r.cursor g).subAct) x y push
  let cursor : Cursor :=
    if success then { r.cursor g with subAct := (r.cursor g).subAct + 1 } else ⟨0, 0⟩
  let r := if success then r.setFinger slot x y else r
  if (actionAt beyond actions cursor.subAct).action = .eEnd then
    let next ← g.actionlist[cursor.act + 1]?
    if next.actions.isNone then pure (g.callback (r.setCursor g ⟨0, 0⟩), tracking, true)
    else
      let cursor : Cursor := ⟨cursor.act + 1, 0⟩
      pure (r.setCursor g cursor, cursor.count tracking, false)
  else pure (r.setCursor g cursor, cursor.count tracking, false)

/-- Whether a movement restriction is broken. -/
def moveFails (pmove : PostMovement) (dx dy : Int) : Bool :=
  match pmove with
  | .eDontMove => true
  | .eMoveLeft => dx > 0 || -dx < dy.natAbs
  | .eMoveRight => dx < 0 || dx < dy.natAbs
  | .eMoveUp => dy > 0 || -dy < dx.natAbs
  | .eMoveDown => dy < 0 || dy < dx.natAbs
  | .eMoveLeftDown => dx > 0 || dy < 0
  | .eMoveRightDown => dx < 0 || dy < 0
  | .eMoveLeftUp => dx > 0 || dy > 0
  | .eMoveRighUp => dx < 0 || dy > 0
  | .eNaM | .eMoveAnywhere | .eGivenM1 | .eGivenM2 => false

def gestureMatchMove (beyond : Nat → SmallactionSlot) (slot : Fin NUM_FINGERS) (x y : Int)
    (g : Gesture) (r : Recogniser) (tracking : Nat) : Option (Recogniser × Nat × Bool) := do
  let cursor := r.cursor g
  let saList ← g.actionlist[cursor.act]?
  let actions ← saList.actions
  let pmove := (actionAt beyond actions cursor.subAct).pmove
  let dx := x - (r.fingers slot).lastX
  let dy := y - (r.fingers slot).lastY
  if cursor = ⟨0, 0⟩ then pure (r, tracking, false)
  else if dx.natAbs < MIN_DIST ∧ dy.natAbs < MIN_DIST then pure (r, cursor.count tracking, false)
  else if pmove = .eNaM ∨ pmove = .eMoveAnywhere then pure (r, cursor.count tracking, false)
  else if moveFails (saList.movement pmove) dx dy then
    pure (r.setCursor g ⟨0, 0⟩, tracking, false)
  else pure (r.setFinger slot x y, cursor.count tracking, false)

def gesturesClean (r : Recogniser) : Recogniser :=
  { r with cursor := fun _ => ⟨0, 0⟩ }

/-- The loop of `gesture_handler`: the first gesture that is recognised ends it. -/
def matchGestures (matcher : Gesture → Recogniser → Nat → Option (Recogniser × Nat × Bool)) :
    List Gesture → Recogniser → Nat → Option (Recogniser × Option Gesture × Nat)
  | [], r, tracking => some (r, none, tracking)
  | g :: glist, r, tracking => do
    let (r, tracking, found) ← matcher g r tracking
    if found then pure (gesturesClean r, some g, 0) else matchGestures matcher glist r tracking

def startGestures (r : Recogniser) : Recogniser :=
  if r.runstate = .eStartup then { gesturesClean r with runstate := .eRunning } else r

def gestureList (r : Recogniser) : List Gesture :=
  if r.runstate = .eStandBack then standbackGestures else gestures

/-- `gesture_handler`, with the gesture whose callback is invoked and what is returned. -/
def gestureHandler (beyond : Nat → SmallactionSlot) (slot : Fin NUM_FINGERS) (x y push : Int)
    (r : Recogniser) : Option (Recogniser × Option Gesture × Nat) :=
  let r := startGestures r
  if push = -1 then matchGestures (gestureMatchMove beyond slot x y) (gestureList r) r 0
  else matchGestures (gestureMatch beyond slot x y push) (gestureList r) r 0

/-- Every cursor is before the end of its action list. -/
def Recogniser.InLists (r : Recogniser) : Prop :=
  ∀ g, (r.cursor g).act + 1 < g.actionlist.length

section
variable {g : Gesture} {r : Recogniser}

/-- Before the end of a list there is a table, and after it another list. -/
theorem actionlist_entry (g : Gesture) (h : act + 1 < g.actionlist.length) :
    ∃ saList actions next, g.actionlist[act]? = some saList ∧ saList.actions = some actions ∧
      g.actionlist[act + 1]? = some next ∧
      (next.actions.isNone = false → act + 2 < g.actionlist.length) := by
  cases g <;> dsimp only [Gesture.actionlist, List.length_cons, List.length_nil] at h ⊢
  case crossL | crossR =>
    match act, h with
    | 0, _ => exact ⟨_, _, _, rfl, rfl, rfl, fun _ => by decide⟩
    | 1, _ => exact ⟨_, _, _, rfl, rfl, rfl, fun h => Bool.noConfusion h⟩
  all_goals
    match act, h with
    | 0, _ => exact ⟨_, _, _, rfl, rfl, rfl, fun h => Bool.noConfusion h⟩

theorem setCursor_inLists (h : r.InLists) (hact : cursor.act + 1 < g.actionlist.length) :
    (r.setCursor g cursor).InLists := by
  intro g'
  unfold Recogniser.setCursor
  dsimp only
  by_cases heq : g' = g
  · subst heq
    rw [Function.update_self]
    exact hact
  · rw [Function.update_of_ne heq]
    exact h g'

theorem Gesture.lists (g : Gesture) : 0 + 1 < g.actionlist.length := by
  cases g <;> decide

theorem callback_inLists (g : Gesture) (h : r.InLists) : (g.callback r).InLists := by
  have hstandback : (standback r).InLists := by
    unfold standback
    split <;> exact h
  cases g with
  | goleft => exact h
  | goright => exact h
  | goup => exact h
  | crossL => exact hstandback
  | crossR => exact hstandback

theorem gestureMatch_inLists (h : r.InLists) (g : Gesture) :
    ∃ r' n found, gestureMatch beyond slot x y push g r tracking = some (r', n, found) ∧
      r'.InLists := by
  obtain ⟨saList, actions, -, hlist, hactions, -, -⟩ := actionlist_entry g (h g)
  unfold gestureMatch
  rw [hlist, Option.bind_eq_bind, Option.bind_some, hactions, Option.bind_eq_bind,
    Option.bind_some]
  dsimp only
  generalize hr : (if actionMatch saList (actionAt beyond actions (r.cursor g).subAct) x y push then
    r.setFinger slot x y else r) = r₁
  have hr₁ : r₁.InLists := by
    rw [← hr]
    split <;> exact h
  generalize hc : (if actionMatch saList (actionAt beyond actions (r.cursor g).subAct) x y push then
    ({ r.cursor g with subAct := (r.cursor g).subAct + 1 } : Cursor) else ⟨0, 0⟩) = cursor
  have hcursor : cursor.act + 1 < g.actionlist.length := by
    rw [← hc]
    split
    · exact h g
    · exact g.lists
  obtain ⟨-, -, next, -, -, hnext, hmore⟩ := actionlist_entry g hcursor
  split
  · rw [hnext, Option.bind_some]
    cases hnone : next.actions.isNone with
    | true => exact ⟨_, _, _, rfl, callback_inLists g (setCursor_inLists hr₁ g.lists)⟩
    | false => exact ⟨_, _, _, rfl, setCursor_inLists hr₁ (hmore hnone)⟩
  · exact ⟨_, _, _, rfl, setCursor_inLists hr₁ hcursor⟩

theorem gestureMatchMove_inLists (h : r.InLists) (g : Gesture) :
    ∃ r' n found, gestureMatchMove beyond slot x y g r tracking = some (r', n, found) ∧
      r'.InLists := by
  obtain ⟨saList, actions, -, hlist, hactions, -, -⟩ := actionlist_entry g (h g)
  unfold gestureMatchMove
  dsimp only
  rw [hlist, Option.bind_eq_bind, Option.bind_some, hactions, Option.bind_eq_bind,
    Option.bind_some]
  split
  · exact ⟨_, _, _, rfl, h⟩
  · split
    · exact ⟨_, _, _, rfl, h⟩
    · split
      · exact ⟨_, _, _, rfl, h⟩
      · split
        · exact ⟨_, _, _, rfl, setCursor_inLists h g.lists⟩
        · exact ⟨_, _, _, rfl, h⟩

theorem gesturesClean_inLists (r : Recogniser) : (gesturesClean r).InLists :=
  fun g => g.lists

theorem matchGestures_inLists
    {matcher : Gesture → Recogniser → Nat → Option (Recogniser × Nat × Bool)}
    (hmatcher : ∀ g r t, r.InLists →
      ∃ r' n found, matcher g r t = some (r', n, found) ∧ r'.InLists)
    (glist : List Gesture) (h : r.InLists) (tracking : Nat) :
    ∃ r' found n, matchGestures matcher glist r tracking = some (r', found, n) ∧ r'.InLists := by
  induction glist generalizing r tracking with
  | nil => exact ⟨r, none, tracking, rfl, h⟩
  | cons g glist ih =>
    obtain ⟨r₁, t, found, hmatch, h₁⟩ := hmatcher g r tracking h
    unfold matchGestures
    rw [hmatch, Option.bind_eq_bind, Option.bind_some]
    cases found with
    | true => exact ⟨_, _, _, rfl, gesturesClean_inLists r₁⟩
    | false => exact ih h₁ t

/-- The handler goes on for ever: it never leaves an action list. -/
theorem gestureHandler_inLists (h : r.runstate = .eStartup ∨ r.InLists) :
    ∃ r' found n, gestureHandler beyond slot x y push r = some (r', found, n) ∧ r'.InLists := by
  have hstart : (startGestures r).InLists := by
    unfold startGestures
    split
    · exact gesturesClean_inLists r
    · rename_i hrunning
      exact h.resolve_left hrunning
  unfold gestureHandler
  dsimp only
  split
  · exact matchGestures_inLists (fun g r t h => gestureMatchMove_inLists h g) _ hstart 0
  · exact matchGestures_inLists (fun g r t h => gestureMatch_inLists h g) _ hstart 0

end

end InputServer
