import InputServer.Gestures
import InputServer.Library.Run
import InputServer.Library.Stages

namespace InputServer
set_option autoImplicit true

/-- A call of `gesture_handler`, with what stands behind the tables, the recogniser that it finds,
and the gesture whose callback it invokes. -/
structure Touch where
  slot : Fin NUM_FINGERS
  x : Int
  y : Int
  push : Int
  beyond : Nat → SmallactionSlot
  before : Recogniser
  recognised : Option Gesture

namespace Touch

def Step (c : Touch) (r r' : Recogniser) : Prop :=
  c.before = r ∧ ∃ tracking,
    gestureHandler c.beyond c.slot c.x c.y c.push r = some (r', c.recognised, tracking)

def IsMove (c : Touch) : Prop :=
  c.push = -1

def ContactIn (c : Touch) (pos : GesturePosition) : Prop :=
  c.push ≠ -1 ∧ c.push ≠ 0 ∧ positionMatch pos c.x c.y = true

def ReleaseIn (c : Touch) (pos : GesturePosition) : Prop :=
  c.push = 0 ∧ positionMatch pos c.x c.y = true

def dx (c : Touch) : Int :=
  c.x - (c.before.fingers c.slot).lastX

def dy (c : Touch) : Int :=
  c.y - (c.before.fingers c.slot).lastY

/-- A move that keeps to a direction, or does not go far from where its finger was recorded. -/
def KeepsTo (c : Touch) (pmove : PostMovement) : Prop :=
  c.IsMove ∧ (¬(c.dx.natAbs < MIN_DIST ∧ c.dy.natAbs < MIN_DIST) →
    moveFails pmove c.dx c.dy = false)

end Touch

/-- The swipes, which switch between the domains, and how each is made. -/
def Gesture.drag : Gesture → Option SmallactionList
  | .goleft => some goleftDrag
  | .goright => some gorightDrag
  | .goup => some goupDrag
  | .crossL | .crossR => none

namespace SmallactionList

/-- The four stages of a swipe. -/
def Stage (drag : SmallactionList) (k : Nat) (c : Touch) : Prop :=
  if k < 2 then c.ContactIn drag.p1 else c.ReleaseIn drag.p2

/-- What may pass after a stage. -/
def Passes (drag : SmallactionList) (k : Nat) (c : Touch) : Prop :=
  if k = 0 then c.IsMove else c.KeepsTo drag.m1

end SmallactionList

section
variable {g g' : Gesture} {drag drag' : SmallactionList} {r r' : Recogniser}

/-- No two swipes begin in one place, and no two end in one. -/
theorem drags_apart (hg : g.drag = some drag) (hg' : g'.drag = some drag') (x y : Int) :
    (positionMatch drag.p1 x y = true → positionMatch drag'.p1 x y = true → g = g') ∧
      (positionMatch drag.p2 x y = true → positionMatch drag'.p2 x y = true → g = g') := by
  have hleft : LEFT_X = 8191 := rfl
  have hright : RIGHT_X = 24575 := rfl
  have htop : TOP_Y = 10922 := rfl
  have hbottom : BOTTEM_Y = 21844 := rfl
  have hmiddle : MIDDLE_X - DELTA_X = 9830 ∧ MIDDLE_X + DELTA_X = 22936 := ⟨rfl, rfl⟩
  cases g <;> cases hg <;> cases g' <;> cases hg' <;>
    simp only [goleftDrag, gorightDrag, goupDrag, positionMatch, Bool.and_eq_true,
      decide_eq_true_eq, implies_true, and_self, reduceCtorEq, imp_false] <;> omega

/-- One call is a stage of one swipe at the most. -/
theorem stage_unique {c : Touch} (hg : g.drag = some drag) (hg' : g'.drag = some drag')
    (h : drag.Stage k c) (h' : drag'.Stage j c) : g = g' := by
  obtain ⟨hstarts, hends⟩ := drags_apart hg hg' c.x c.y
  unfold SmallactionList.Stage Touch.ContactIn Touch.ReleaseIn at h h'
  by_cases hk : k < 2 <;> by_cases hj : j < 2
  · rw [if_pos hk] at h
    rw [if_pos hj] at h'
    exact hstarts h.2.2 h'.2.2
  · rw [if_pos hk] at h
    rw [if_neg hj] at h'
    exact absurd h'.1 h.2.1
  · rw [if_neg hk] at h
    rw [if_pos hj] at h'
    exact absurd h.1 h'.2.1
  · rw [if_neg hk] at h
    rw [if_neg hj] at h'
    exact hends h.2 h'.2

theorem stage_push {c : Touch} (h : drag.Stage k c) : ¬c.IsMove := by
  unfold SmallactionList.Stage Touch.ContactIn Touch.ReleaseIn at h
  intro hmove
  split at h
  · exact h.1 hmove
  · exact absurd (hmove.symm.trans h.1) (by decide)

/-- What the tables say of a swipe. -/
theorem drag_tables (hg : g.drag = some drag) : g.actionlist = [drag, endActionList] ∧
    drag.actions = some twodragActions ∧ g.callback = id ∧
    drag.position .eGivenP1 = drag.p1 ∧ drag.position .eGivenP2 = drag.p2 ∧
    drag.movement .eGivenM1 = drag.m1 := by
  cases g <;> cases hg <;> exact ⟨rfl, rfl, rfl, rfl, rfl, rfl⟩

/-- Whether a contact or a release is the stage that a swipe waits for. -/
def SmallactionList.awaits (drag : SmallactionList) (k : Nat) (x y push : Int) : Bool :=
  if k < 2 then push ≠ 0 && positionMatch drag.p1 x y else push = 0 && positionMatch drag.p2 x y

theorem awaits_iff {c : Touch} (hpush : c.push ≠ -1) :
    drag.awaits k c.x c.y c.push = true ↔ drag.Stage k c := by
  unfold SmallactionList.awaits SmallactionList.Stage Touch.ContactIn Touch.ReleaseIn
  split <;> simp [hpush]

theorem actionMatch_awaits (hg : g.drag = some drag) (hk : k < 4) :
    actionMatch drag (actionAt beyond twodragActions k) x y push = drag.awaits k x y push := by
  obtain ⟨-, -, -, hp1, hp2, -⟩ := drag_tables hg
  have hstart : actionMatch drag ⟨.eContact, .eGivenP1, .eNaM⟩ x y push =
      (decide (push ≠ 0) && positionMatch drag.p1 x y) := by
    unfold actionMatch
    dsimp only
    rw [hp1]
  have hend : actionMatch drag ⟨.eRelease, .eGivenP2, .eGivenM1⟩ x y push =
      (decide (push = 0) && positionMatch drag.p2 x y) := by
    unfold actionMatch
    dsimp only
    rw [hp2]
  match k, hk with
  | 0, _ => exact hstart
  | 1, _ => exact hstart
  | 2, _ => exact hend
  | 3, _ => exact hend

/-- What a contact or a release does to a swipe: one stage more, or back to the start. -/
theorem gestureMatch_swipe (hg : g.drag = some drag) (hcursor : r.cursor g = ⟨0, k⟩) (hk : k < 4) :
    gestureMatch beyond slot x y push g r tracking =
      if drag.awaits k x y push then
        if k = 3 then some ((r.setFinger slot x y).setCursor g ⟨0, 0⟩, tracking, true)
        else some ((r.setFinger slot x y).setCursor g ⟨0, k + 1⟩,
          Cursor.count ⟨0, k + 1⟩ tracking, false)
      else some (r.setCursor g ⟨0, 0⟩, tracking, false) := by
  obtain ⟨hlist, hactions, hcallback, -⟩ := drag_tables hg
  unfold gestureMatch
  rw [hcursor, hlist]
  dsimp only
  change (drag.actions.bind fun actions => _) = _
  rw [hactions, Option.bind_some, actionMatch_awaits hg hk, hcallback]
  cases drag.awaits k x y push with
  | false => rfl
  | true =>
    match k, hk with
    | 0, _ => rfl
    | 1, _ => rfl
    | 2, _ => rfl
    | 3, _ => rfl

/-- What a move does to a swipe. -/
theorem gestureMatchMove_swipe (hg : g.drag = some drag) (hcursor : r.cursor g = ⟨0, k⟩)
    (hk : k < 4) (h : gestureMatchMove beyond slot x y g r tracking = some (r', n, found)) :
    found = false ∧ (k = 0 → r' = r) ∧
      (r'.cursor g = ⟨0, 0⟩ ∨ r'.cursor g = ⟨0, k⟩ ∧
        (2 ≤ k → ¬((x - (r.fingers slot).lastX).natAbs < MIN_DIST ∧
            (y - (r.fingers slot).lastY).natAbs < MIN_DIST) →
          moveFails drag.m1 (x - (r.fingers slot).lastX) (y - (r.fingers slot).lastY) =
            false)) := by
  obtain ⟨hlist, hactions, -, -, -, hm1⟩ := drag_tables hg
  unfold gestureMatchMove at h
  rw [hcursor, hlist] at h
  change (drag.actions.bind fun actions => _) = _ at h
  rw [hactions, Option.bind_some] at h
  dsimp only at h
  by_cases hzero : k = 0
  · subst hzero
    rw [if_pos rfl] at h
    cases h
    exact ⟨rfl, fun _ => rfl, .inl hcursor⟩
  · rw [if_neg fun heq => hzero (Cursor.mk.inj heq).2] at h
    by_cases hnear : (x - (r.fingers slot).lastX).natAbs < MIN_DIST ∧
        (y - (r.fingers slot).lastY).natAbs < MIN_DIST
    · rw [if_pos hnear] at h
      cases h
      exact ⟨rfl, fun h => absurd h hzero, .inr ⟨hcursor, fun _ hfar => absurd hnear hfar⟩⟩
    · rw [if_neg hnear] at h
      by_cases hsecond : 2 ≤ k
      · have hpmove : (actionAt beyond twodragActions k).pmove = .eGivenM1 := by
          match k, hk, hsecond with
          | 2, _, _ => rfl
          | 3, _, _ => rfl
        rw [hpmove, if_neg (by decide), hm1] at h
        cases hfails : moveFails drag.m1 (x - (r.fingers slot).lastX)
            (y - (r.fingers slot).lastY) with
        | true =>
          rw [hfails, if_pos rfl] at h
          cases h
          exact ⟨rfl, fun h => absurd h hzero, .inl (Function.update_self ..)⟩
        | false =>
          rw [hfails, if_neg Bool.false_ne_true] at h
          cases h
          exact ⟨rfl, fun h => absurd h hzero, .inr ⟨hcursor, fun _ _ => rfl⟩⟩
      · have hpmove : (actionAt beyond twodragActions k).pmove = .eNaM := by
          match k, hzero, hsecond with
          | 1, _, _ => rfl
          | k + 2, _, hsecond => exact absurd (Nat.le_add_left 2 k) hsecond
        rw [hpmove, if_pos (.inl rfl)] at h
        cases h
        exact ⟨rfl, fun h => absurd h hzero, .inr ⟨hcursor, fun hle => absurd hle hsecond⟩⟩

/-- A gesture moves its own cursor, and changes how the recogniser runs only where it is
recognised. -/
structure OwnCursor (g : Gesture) (r r' : Recogniser) (found : Bool) : Prop where
  others : ∀ g', g' ≠ g → r'.cursor g' = r.cursor g'
  runstate : found = false → r'.runstate = r.runstate
  running : r.runstate ≠ .eStartup → r'.runstate ≠ .eStartup

theorem setCursor_own (g : Gesture) (r : Recogniser) (cursor : Cursor) (found : Bool) :
    OwnCursor g r (r.setCursor g cursor) found :=
  ⟨fun _ hne => Function.update_of_ne hne _ _, fun _ => rfl, id⟩

theorem callback_own (h : OwnCursor g r r' false) : OwnCursor g r (g.callback r') true := by
  have hstandback : OwnCursor g r (standback r') true := by
    unfold standback
    split
    · exact ⟨h.others, fun h => Bool.noConfusion h, fun _ h => Runstate.noConfusion h⟩
    · exact ⟨h.others, fun h => Bool.noConfusion h, fun _ h => Runstate.noConfusion h⟩
    · exact ⟨h.others, fun h => Bool.noConfusion h, h.running⟩
  have hnone : OwnCursor g r r' true := ⟨h.others, fun h => Bool.noConfusion h, h.running⟩
  cases g with
  | goleft => exact hnone
  | goright => exact hnone
  | goup => exact hnone
  | crossL => exact hstandback
  | crossR => exact hstandback

theorem gestureMatch_own
    (h : gestureMatch beyond slot x y push g r tracking = some (r', n, found)) :
    OwnCursor g r r' found := by
  obtain ⟨saList, -, h⟩ := Option.bind_eq_some_iff.1 h
  obtain ⟨actions, -, h⟩ := Option.bind_eq_some_iff.1 h
  dsimp only at h
  generalize (if actionMatch saList (actionAt beyond actions (r.cursor g).subAct) x y push then
    ({ r.cursor g with subAct := (r.cursor g).subAct + 1 } : Cursor) else ⟨0, 0⟩) = cursor at h
  have hown (cursor : Cursor) (found : Bool) : OwnCursor g r
      ((if actionMatch saList (actionAt beyond actions (r.cursor g).subAct) x y push then
        r.setFinger slot x y else r).setCursor g cursor) found := by
    split
    · exact ⟨fun _ hne => Function.update_of_ne hne _ _, fun _ => rfl, id⟩
    · exact setCursor_own g r cursor found
  split at h
  · obtain ⟨next, -, h⟩ := Option.bind_eq_some_iff.1 h
    split at h
    · cases h
      exact callback_own (hown ⟨0, 0⟩ false)
    · cases h
      exact hown _ false
  · cases h
    exact hown _ false

theorem gestureMatchMove_own
    (h : gestureMatchMove beyond slot x y g r tracking = some (r', n, found)) :
    OwnCursor g r r' found ∧ found = false := by
  obtain ⟨saList, -, h⟩ := Option.bind_eq_some_iff.1 h
  obtain ⟨actions, -, h⟩ := Option.bind_eq_some_iff.1 h
  have hsame : OwnCursor g r r false := ⟨fun _ _ => rfl, fun _ => rfl, id⟩
  dsimp only at h
  split at h
  · cases h
    exact ⟨hsame, rfl⟩
  · split at h
    · cases h
      exact ⟨hsame, rfl⟩
    · split at h
      · cases h
        exact ⟨hsame, rfl⟩
      · split at h
        · cases h
          exact ⟨setCursor_own g r ⟨0, 0⟩ false, rfl⟩
        · cases h
          exact ⟨⟨fun _ _ => rfl, fun _ => rfl, id⟩, rfl⟩

/-- The loop over the gestures: what each of them keeps holds in the end, or before the one that is
recognised. -/
theorem matchGestures_rule {I : List Gesture → Recogniser → Prop} {all : List Gesture}
    {matcher : Gesture → Recogniser → Nat → Option (Recogniser × Nat × Bool)}
    (hstep : ∀ done g rest r r' t t', all = done ++ g :: rest → I done r →
      matcher g r t = some (r', t', false) → I (done ++ [g]) r')
    (hall : all = done ++ glist) (hI : I done r)
    (h : matchGestures matcher glist r tracking = some (r', found, n)) :
    found = none ∧ I all r' ∨ ∃ done g rest r₁ r₂ t t', found = some g ∧
      all = done ++ g :: rest ∧ I done r₁ ∧ matcher g r₁ t = some (r₂, t', true) ∧
      r' = gesturesClean r₂ := by
  induction glist generalizing done r tracking with
  | nil =>
    cases h
    rw [hall, List.append_nil]
    exact .inl ⟨rfl, hI⟩
  | cons g rest ih =>
    obtain ⟨⟨r₁, t, matched⟩, hmatch, h⟩ := Option.bind_eq_some_iff.1 h
    dsimp only at h
    cases matched with
    | true =>
      rw [if_pos rfl] at h
      cases h
      exact .inr ⟨done, g, rest, r, r₁, tracking, t, rfl, hall, hI, hmatch, rfl⟩
    | false =>
      rw [if_neg Bool.false_ne_true] at h
      have hnext := hstep done g rest r r₁ tracking t hall hI hmatch
      exact ih (by rw [hall, List.append_assoc, List.singleton_append]) hnext h

/-- Before a swipe come only other swipes, and only where the recogniser does not stand back. -/
theorem before_swipe (hall : gestureList r = done ++ g :: rest) (hg : g.drag = some drag) :
    r.runstate ≠ .eStandBack ∧ g ∉ done ∧ ∀ g' ∈ done, ∃ drag', g'.drag = some drag' := by
  unfold gestureList at hall
  split at hall
  · have hmem : g ∈ standbackGestures := by
      rw [hall]
      exact List.mem_append_right _ List.mem_cons_self
    cases g <;> cases hg <;> exact absurd hmem (by decide)
  · rename_i hstate
    refine ⟨hstate, ?_⟩
    unfold gestures at hall
    match done with
    | [] => exact ⟨List.not_mem_nil, fun g' hg' => absurd hg' List.not_mem_nil⟩
    | [_] =>
      cases hall
      exact ⟨by decide, by simp [Gesture.drag]⟩
    | [_, _] =>
      cases hall
      exact ⟨by decide, by simp [Gesture.drag]⟩
    | [_, _, _] =>
      cases hall
      cases hg
    | [_, _, _, _] =>
      cases hall
      cases hg
    | _ :: _ :: _ :: _ :: _ :: _ =>
      simp at hall

theorem gestureList_nodup (hall : gestureList r = done ++ g :: rest) : g ∉ done := by
  have hnodup : (gestureList r).Nodup := by
    unfold gestureList
    split <;> decide
  rw [hall] at hnodup
  exact fun hmem => (List.nodup_append.1 hnodup).2.2 g hmem g List.mem_cons_self rfl

/-- Each swipe has been followed as far as its cursor says; one at the most has begun, and none
while the recogniser stands back. -/
structure FollowsSwipes (cs : List Touch) (r : Recogniser) : Prop where
  running : r.runstate ≠ .eStartup
  back : r.runstate = .eStandBack → ∀ g drag, g.drag = some drag → r.cursor g = ⟨0, 0⟩
  swipe : ∀ g drag, g.drag = some drag →
    ∃ k < 4, r.cursor g = ⟨0, k⟩ ∧ Staged drag.Stage drag.Passes k cs
  one : ∀ g drag g' drag', g.drag = some drag → g'.drag = some drag' →
    r.cursor g ≠ ⟨0, 0⟩ → r.cursor g' ≠ ⟨0, 0⟩ → g = g'

namespace FollowsSwipes

theorem clean (hrunning : r.runstate ≠ .eStartup) (cs : List Touch) :
    FollowsSwipes cs (gesturesClean r) where
  running := hrunning
  back := fun _ _ _ _ => rfl
  swipe := fun _ _ _ => ⟨0, by decide, rfl, .start cs⟩
  one := fun _ _ _ _ _ _ h => absurd rfl h

/-- Where every swipe has kept its way or gone back to the start, the next state follows too. -/
theorem next {c : Touch} (h : FollowsSwipes cs r) (hrunstate : r'.runstate = r.runstate)
    (hswipes : ∀ g drag, g.drag = some drag → ∃ k < 4, r.cursor g = ⟨0, k⟩ ∧
      (r'.cursor g = ⟨0, 0⟩ ∨
        k + 1 < 4 ∧ r'.cursor g = ⟨0, k + 1⟩ ∧ drag.Stage k c ∧ r.runstate ≠ .eStandBack ∨
        r'.cursor g = ⟨0, k⟩ ∧ c.IsMove ∧ ∀ j, k = j + 1 → drag.Passes j c)) :
    FollowsSwipes (cs ++ [c]) r' := by
  constructor
  · rw [hrunstate]
    exact h.running
  · intro hback g drag hg
    rw [hrunstate] at hback
    obtain ⟨k, -, hcursor, hzero | ⟨-, -, -, hforward⟩ | ⟨hsame, -⟩⟩ := hswipes g drag hg
    · exact hzero
    · exact absurd hback hforward
    · rw [hsame, ← hcursor]
      exact h.back hback g drag hg
  · intro g drag hg
    obtain ⟨k', hk', hcursor', hstaged⟩ := h.swipe g drag hg
    obtain ⟨k, hk, hcursor, hzero | ⟨hnext, hforward, hstage, -⟩ | ⟨hsame, -, hpass⟩⟩ :=
      hswipes g drag hg
    · exact ⟨0, by decide, hzero, .start _⟩
    · obtain rfl : k = k' := (Cursor.mk.inj (hcursor.symm.trans hcursor')).2
      exact ⟨k + 1, hnext, hforward, .reach hstaged hstage⟩
    · obtain rfl : k = k' := (Cursor.mk.inj (hcursor.symm.trans hcursor')).2
      cases k with
      | zero => exact ⟨0, by decide, hsame, .start _⟩
      | succ j => exact ⟨j + 1, hk, hsame, .pass hstaged (hpass j rfl)⟩
  · intro g drag g' drag' hg hg' hne hne'
    obtain ⟨k, -, hcursor, hzero | ⟨-, -, hstage, -⟩ | ⟨hsame, hmove, -⟩⟩ := hswipes g drag hg
    · exact absurd hzero hne
    · obtain ⟨k', -, hcursor', hzero' | ⟨-, -, hstage', -⟩ | ⟨-, hmove', -⟩⟩ :=
        hswipes g' drag' hg'
      · exact absurd hzero' hne'
      · exact stage_unique hg hg' hstage hstage'
      · exact absurd hmove' (stage_push hstage)
    · obtain ⟨k', -, hcursor', hzero' | ⟨-, -, hstage', -⟩ | ⟨hsame', -⟩⟩ :=
        hswipes g' drag' hg'
      · exact absurd hzero' hne'
      · exact absurd hmove (stage_push hstage')
      · rw [hsame, ← hcursor] at hne
        rw [hsame', ← hcursor'] at hne'
        exact h.one g drag g' drag' hg hg' hne hne'

/-- A contact or a release advances the swipes that it is the next stage of; a swipe that is
recognised has come through all four. -/
theorem touch {c : Touch} (h : FollowsSwipes cs r) (hpush : c.push ≠ -1)
    (hmatch : matchGestures (gestureMatch c.beyond c.slot c.x c.y c.push) (gestureList r) r 0 =
      some (r', c.recognised, n)) : FollowsSwipes (cs ++ [c]) r' ∧
        ∀ g drag, c.recognised = some g → g.drag = some drag → r.runstate ≠ .eStandBack ∧
          Staged drag.Stage drag.Passes 3 cs ∧ drag.Stage 3 c := by
  let I (done : List Gesture) (r₁ : Recogniser) : Prop := r₁.runstate = r.runstate ∧
    (∀ g, g ∉ done → r₁.cursor g = r.cursor g) ∧
    ∀ g ∈ done, ∀ drag, g.drag = some drag → ∃ k < 4, r.cursor g = ⟨0, k⟩ ∧
      (r₁.cursor g = ⟨0, 0⟩ ∨ k + 1 < 4 ∧ r₁.cursor g = ⟨0, k + 1⟩ ∧ drag.Stage k c)
  have hstep : ∀ done g rest r₁ r₂ t t', gestureList r = done ++ g :: rest → I done r₁ →
      gestureMatch c.beyond c.slot c.x c.y c.push g r₁ t = some (r₂, t', false) →
      I (done ++ [g]) r₂ := by
    intro done g rest r₁ r₂ t t' hall hI hmatch
    have hnew := gestureList_nodup hall
    have hown := gestureMatch_own hmatch
    refine ⟨(hown.runstate rfl).trans hI.1, ?_, ?_⟩
    · intro g' hg'
      rw [List.mem_append, not_or, List.mem_singleton] at hg'
      exact (hown.others g' hg'.2).trans (hI.2.1 g' hg'.1)
    · intro g' hg' drag hdrag
      obtain hdone | hlast := List.mem_append.1 hg'
      · have hne : g' ≠ g := fun heq => hnew (heq ▸ hdone)
        rw [hown.others g' hne]
        exact hI.2.2 g' hdone drag hdrag
      · cases List.mem_singleton.1 hlast
        obtain ⟨k, hk, hcursor, -⟩ := h.swipe g drag hdrag
        have hcursor₁ := (hI.2.1 g hnew).trans hcursor
        rw [gestureMatch_swipe hdrag hcursor₁ hk] at hmatch
        refine ⟨k, hk, hcursor, ?_⟩
        cases hawaits : drag.awaits k c.x c.y c.push with
        | false =>
          rw [hawaits, if_neg Bool.false_ne_true] at hmatch
          cases hmatch
          exact .inl (Function.update_self ..)
        | true =>
          rw [hawaits, if_pos rfl] at hmatch
          by_cases hlast : k = 3
          · rw [if_pos hlast] at hmatch
            cases hmatch
          · rw [if_neg hlast] at hmatch
            cases hmatch
            exact .inr ⟨by omega, Function.update_self .., (awaits_iff hpush).1 hawaits⟩
  have hI₀ : I [] r :=
    ⟨rfl, fun _ _ => rfl, fun g hg => absurd hg List.not_mem_nil⟩
  obtain ⟨hnone, hI⟩ | ⟨done, g, rest, r₁, r₂, t, t', hfound, hall, hI, hlast, rfl⟩ :=
    matchGestures_rule (I := I) hstep rfl hI₀ hmatch
  · refine ⟨h.next hI.1 ?_, fun g drag hg => nomatch hnone.symm.trans hg⟩
    intro g drag hg
    obtain ⟨k, hk, hcursor, -⟩ := h.swipe g drag hg
    by_cases hmem : g ∈ gestureList r
    · obtain ⟨done, rest, hall⟩ := List.append_of_mem hmem
      obtain ⟨k, hk, hcursor, hzero | ⟨hnext, hforward, hstage⟩⟩ := hI.2.2 g hmem drag hg
      · exact ⟨k, hk, hcursor, .inl hzero⟩
      · exact ⟨k, hk, hcursor, .inr (.inl ⟨hnext, hforward, hstage, (before_swipe hall hg).1⟩)⟩
    · -- A swipe is left out only while the recogniser stands back.
      have hback : r.runstate = .eStandBack := by
        by_contra hne
        apply hmem
        unfold gestureList
        rw [if_neg hne]
        cases g <;> decide
      exact ⟨k, hk, hcursor, .inl ((hI.2.1 g hmem).trans (h.back hback g drag hg))⟩
  · have hown := gestureMatch_own hlast
    have hrunning : r₁.runstate ≠ .eStartup := by
      rw [hI.1]
      exact h.running
    refine ⟨.clean (hown.running hrunning) _, ?_⟩
    intro g' drag hg' hdrag
    cases hfound.symm.trans hg'
    obtain ⟨hforward, hnew, -⟩ := before_swipe hall hdrag
    obtain ⟨k, hk, hcursor, hstaged⟩ := h.swipe g drag hdrag
    rw [gestureMatch_swipe hdrag ((hI.2.1 g hnew).trans hcursor) hk] at hlast
    cases hawaits : drag.awaits k c.x c.y c.push with
    | false =>
      rw [hawaits, if_neg Bool.false_ne_true] at hlast
      cases hlast
    | true =>
      rw [hawaits, if_pos rfl] at hlast
      by_cases hthree : k = 3
      · subst hthree
        exact ⟨hforward, hstaged, (awaits_iff hpush).1 hawaits⟩
      · rw [if_neg hthree] at hlast
        cases hlast

/-- A move leaves a swipe where it is, unless it goes far and the wrong way. -/
theorem move {c : Touch} (h : FollowsSwipes cs r) (hpush : c.push = -1)
    (hbefore : c.before.fingers = r.fingers)
    (hmatch : matchGestures (gestureMatchMove c.beyond c.slot c.x c.y) (gestureList r) r 0 =
      some (r', c.recognised, n)) : FollowsSwipes (cs ++ [c]) r' ∧ c.recognised = none := by
  let Kept (r₁ : Recogniser) (g : Gesture) (drag : SmallactionList) : Prop :=
    ∃ k < 4, r.cursor g = ⟨0, k⟩ ∧ (r₁.cursor g = ⟨0, 0⟩ ∨
      r₁.cursor g = ⟨0, k⟩ ∧ ∀ j, k = j + 1 → drag.Passes j c)
  let I (done : List Gesture) (r₁ : Recogniser) : Prop := r₁.runstate = r.runstate ∧
    (∀ g, g ∉ done → r₁.cursor g = r.cursor g) ∧
    (∀ g ∈ done, ∀ drag, g.drag = some drag → Kept r₁ g drag) ∧
    ((∀ g ∈ done, (∃ drag, g.drag = some drag) ∧ r.cursor g = ⟨0, 0⟩) → r₁.fingers = r.fingers)
  have hstep : ∀ done g rest r₁ r₂ t t', gestureList r = done ++ g :: rest → I done r₁ →
      gestureMatchMove c.beyond c.slot c.x c.y g r₁ t = some (r₂, t', false) →
      I (done ++ [g]) r₂ := by
    intro done g rest r₁ r₂ t t' hall hI hmatch
    have hnew := gestureList_nodup hall
    have hown := (gestureMatchMove_own hmatch).1
    refine ⟨(hown.runstate rfl).trans hI.1, ?_, ?_, ?_⟩
    · intro g' hg'
      rw [List.mem_append, not_or, List.mem_singleton] at hg'
      exact (hown.others g' hg'.2).trans (hI.2.1 g' hg'.1)
    · intro g' hg' drag hdrag
      obtain hdone | hlast := List.mem_append.1 hg'
      · have hne : g' ≠ g := fun heq => hnew (heq ▸ hdone)
        dsimp only [Kept]
        rw [hown.others g' hne]
        exact hI.2.2.1 g' hdone drag hdrag
      · cases List.mem_singleton.1 hlast
        obtain ⟨k, hk, hcursor, -⟩ := h.swipe g drag hdrag
        have hcursor₁ := (hI.2.1 g hnew).trans hcursor
        obtain ⟨-, -, hzero | ⟨hsame, hkeeps⟩⟩ := gestureMatchMove_swipe hdrag hcursor₁ hk hmatch
        · exact ⟨k, hk, hcursor, .inl hzero⟩
        · refine ⟨k, hk, hcursor, .inr ⟨hsame, ?_⟩⟩
          rintro j rfl
          -- The swipes before this one have not begun, and leave the fingers alone.
          have hfingers : r₁.fingers = r.fingers := by
            apply hI.2.2.2
            intro g' hg'
            obtain ⟨drag', hdrag'⟩ := (before_swipe hall hdrag).2.2 g' hg'
            refine ⟨⟨drag', hdrag'⟩, ?_⟩
            by_contra hne
            have hbegun : r.cursor g ≠ ⟨0, 0⟩ := by
              rw [hcursor]
              exact fun heq => Nat.succ_ne_zero j (Cursor.mk.inj heq).2
            exact hnew (h.one g drag g' drag' hdrag hdrag' hbegun hne ▸ hg')
          rw [hfingers, ← hbefore] at hkeeps
          unfold SmallactionList.Passes
          split
          · exact hpush
          · exact ⟨hpush, hkeeps (by omega)⟩
    · intro hdone
      obtain ⟨⟨drag, hdrag⟩, hzero⟩ := hdone g (List.mem_append_right _ List.mem_cons_self)
      have hcursor₁ := (hI.2.1 g hnew).trans hzero
      obtain ⟨-, hsame, -⟩ := gestureMatchMove_swipe hdrag hcursor₁ (by decide) hmatch
      rw [hsame rfl]
      exact hI.2.2.2 fun g' hg' => hdone g' (List.mem_append_left _ hg')
  have hI₀ : I [] r :=
    ⟨rfl, fun _ _ => rfl, fun g hg => absurd hg List.not_mem_nil, fun _ => rfl⟩
  obtain ⟨hnone, hI⟩ | ⟨done, g, rest, r₁, r₂, t, t', -, -, -, hlast, -⟩ :=
    matchGestures_rule (I := I) hstep rfl hI₀ hmatch
  · refine ⟨h.next hI.1 ?_, hnone⟩
    intro g drag hg
    by_cases hmem : g ∈ gestureList r
    · obtain ⟨k, hk, hcursor, hzero | ⟨hsame, hpass⟩⟩ := hI.2.2.1 g hmem drag hg
      · exact ⟨k, hk, hcursor, .inl hzero⟩
      · exact ⟨k, hk, hcursor, .inr (.inr ⟨hsame, hpush, hpass⟩)⟩
    · obtain ⟨k, hk, hcursor, -⟩ := h.swipe g drag hg
      have hback : r.runstate = .eStandBack := by
        by_contra hne
        apply hmem
        unfold gestureList
        rw [if_neg hne]
        cases g <;> decide
      exact ⟨k, hk, hcursor, .inl ((hI.2.1 g hmem).trans (h.back hback g drag hg))⟩
  · exact Bool.noConfusion (gestureMatchMove_own hlast).2

end FollowsSwipes

theorem startGestures_follows (h : r.runstate = .eStartup) (cs : List Touch) :
    FollowsSwipes cs (startGestures r) := by
  unfold startGestures
  rw [if_pos h]
  exact .clean (r := { r with runstate := .eRunning }) (fun h => Runstate.noConfusion h) cs

theorem startGestures_running (h : r.runstate ≠ .eStartup) : startGestures r = r :=
  if_neg h

/-- What every call keeps, and what stands behind every swipe. -/
theorem Touch.Step.follows {c : Touch} (hstep : c.Step r r')
    (h : FollowsSwipes cs (startGestures r)) : FollowsSwipes (cs ++ [c]) (startGestures r') ∧
      ∀ g drag, c.recognised = some g → g.drag = some drag →
        (startGestures r).runstate ≠ .eStandBack ∧
          Staged drag.Stage drag.Passes 3 cs ∧ drag.Stage 3 c := by
  obtain ⟨hbefore, n, hhandler⟩ := hstep
  have hfingers : c.before.fingers = (startGestures r).fingers := by
    rw [hbefore]
    unfold startGestures
    split <;> rfl
  unfold gestureHandler at hhandler
  dsimp only at hhandler
  by_cases hpush : c.push = -1
  · rw [if_pos hpush] at hhandler
    obtain ⟨hfollows, hnone⟩ := h.move hpush hfingers hhandler
    rw [startGestures_running hfollows.running]
    exact ⟨hfollows, fun g drag hg => nomatch hnone.symm.trans hg⟩
  · rw [if_neg hpush] at hhandler
    obtain ⟨hfollows, hswipe⟩ := h.touch hpush hhandler
    rw [startGestures_running hfollows.running]
    exact ⟨hfollows, hswipe⟩

theorem touches_follow (h : Run Touch.Step r₀ cs r) (hstart : r₀.runstate = .eStartup) :
    FollowsSwipes cs (startGestures r) :=
  h.invariant (I := fun cs r => FollowsSwipes cs (startGestures r))
    (startGestures_follows hstart [])
    fun _ _ _ _ hfollows hstep => (hstep.follows hfollows).1

/-- A swipe switches only where two contacts in the place where it starts and two releases in the
place where it ends were the last contacts and releases, in this order, and no move after the second
contact went far against its direction; and never while the recogniser stands back. -/
theorem swipe_made {c : Touch} (h : Run Touch.Step r₀ cs r) (hstart : r₀.runstate = .eStartup)
    (hc : c.Step r r') (hrecognised : c.recognised = some g) (hdrag : g.drag = some drag) :
    r.runstate ≠ .eStandBack ∧ ∃ older c₁ ms₁ c₂ ms₂ r₁ ms₃,
      cs = older ++ c₁ :: ms₁ ++ c₂ :: ms₂ ++ r₁ :: ms₃ ∧
      c₁.ContactIn drag.p1 ∧ c₂.ContactIn drag.p1 ∧ r₁.ReleaseIn drag.p2 ∧ c.ReleaseIn drag.p2 ∧
      (∀ m ∈ ms₁, m.IsMove) ∧ ∀ m ∈ ms₂ ++ ms₃, m.KeepsTo drag.m1 := by
  obtain ⟨hforward, hstaged, hlast⟩ :=
    (hc.follows (touches_follow h hstart)).2 g drag hrecognised hdrag
  obtain ⟨past₂, r₁, ms₃, rfl, hstaged, hr₁, hms₃⟩ := hstaged.split
  obtain ⟨past₁, c₂, ms₂, rfl, hstaged, hc₂, hms₂⟩ := hstaged.split
  obtain ⟨older, c₁, ms₁, rfl, -, hc₁, hms₁⟩ := hstaged.split
  constructor
  · intro hback
    rw [startGestures_running (by rw [hback]; decide)] at hforward
    exact hforward hback
  · refine ⟨older, c₁, ms₁, c₂, ms₂, r₁, ms₃, rfl, hc₁, hc₂, hr₁, hlast, hms₁, ?_⟩
    intro m hm
    obtain hm | hm := List.mem_append.1 hm
    · exact hms₂ m hm
    · exact hms₃ m hm

end

/-- The touches of some calls, and what they leave. -/
def playTouches (beyond : Nat → SmallactionSlot) : Recogniser →
    List (Fin NUM_FINGERS × Int × Int × Int) → Option (List Touch × Recogniser)
  | r, [] => some ([], r)
  | r, (slot, x, y, push) :: calls => do
    let (r', recognised, _) ← gestureHandler beyond slot x y push r
    let (cs, r'') ← playTouches beyond r' calls
    pure (⟨slot, x, y, push, beyond, r, recognised⟩ :: cs, r'')

theorem playTouches_run (h : playTouches beyond r calls = some (cs, r')) :
    Run Touch.Step r cs r' := by
  induction calls generalizing r cs with
  | nil =>
    cases h
    exact .nil
  | cons call calls ih =>
    obtain ⟨slot, x, y, push⟩ := call
    obtain ⟨⟨r₁, recognised, n⟩, hhandler, h⟩ := Option.bind_eq_some_iff.1 h
    obtain ⟨⟨cs', r₂⟩, hplay, h⟩ := Option.bind_eq_some_iff.1 h
    cases h
    exact .cons ⟨rfl, n, hhandler⟩ (ih hplay)

/-- Two fingers that come down on the right and go to the left. -/
def leftSwipe : List (Fin NUM_FINGERS × Int × Int × Int) :=
  [(0, 30000, 16000, 1), (1, 30000, 17000, 1), (0, 16000, 16000, -1), (1, 16000, 17000, -1),
    (0, 2000, 16000, 0)]

theorem swipe_made_left : ∃ cs r r', ∃ c : Touch,
    Run Touch.Step startRecogniser cs r ∧ c.Step r r' ∧
    c.recognised = some .goleft ∧ r.runstate ≠ .eStandBack := by
  obtain ⟨⟨cs, r⟩, hplay, hlast⟩ := Option.map_eq_some_iff.1
    (show (playTouches (fun _ => endAction) startRecogniser leftSwipe).map (fun p =>
        (gestureHandler (fun _ => endAction) 1 2000 17000 0 p.2).map fun q => q.2.1) =
      some (some (some .goleft)) by decide +kernel)
  obtain ⟨⟨r', recognised, n⟩, hhandler, hgoleft⟩ := Option.map_eq_some_iff.1 hlast
  cases hgoleft
  have hstep : Touch.Step ⟨1, 2000, 17000, 0, fun _ => endAction, r, some .goleft⟩ r r' :=
    ⟨rfl, n, hhandler⟩
  exact ⟨cs, r, r', _, playTouches_run hplay, hstep, rfl,
    (swipe_made (playTouches_run hplay) rfl hstep rfl rfl).1⟩

end InputServer
