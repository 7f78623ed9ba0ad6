import InputServer.Library.CountedRing
import InputServer.Library.Run
import InputServer.XenEvent

namespace InputServer
set_option autoImplicit true

/-- The ring that a shared page holds. -/
def XenkbdPage.ring (page : XenkbdPage) : CountedRing XenkbdInEvent where
  entries := page.entries
  prod := page.inProd
  cons := page.inCons

/-- `xen_event_write_page` of the backend, or one event read by the frontend. -/
inductive RingAct where
  | write (event : XenkbdInEvent)
  | consume

/-- A page between the two, with the events written to it and read from it. -/
structure Exchange where
  page : XenkbdPage
  written : List XenkbdInEvent
  read : List XenkbdInEvent

namespace Exchange

/-- The frontend reads up to `in_prod`. -/
def act (len : Nat) (x : Exchange) : RingAct → Exchange
  | .write event => { x with page := x.page.write len event, written := x.written ++ [event] }
  | .consume =>
    if x.page.inProd = x.page.inCons then x
    else { x with
      page := { x.page with inCons := x.page.inCons + 1 }
      read := x.read ++ [x.page.inRingRef len x.page.inCons] }

/-- What was read is what was written, in order, and the ring holds what was not read yet. -/
structure Delivers (len : Nat) (x : Exchange) : Prop where
  inOrder : x.read ++ x.page.ring.unread len = x.written
  bounded : (x.page.inProd - x.page.inCons).toNat ≤ len

/-- A ring that nothing was written to yet, its counters anywhere. -/
structure Idle (x : Exchange) : Prop where
  empty : x.page.inProd = x.page.inCons
  written : x.written = []
  read : x.read = []

/-- A write finds room: fewer than `len` events are unread, and none of them in its entry. -/
def Fits (len : Nat) (x : Exchange) : RingAct → Prop
  | .write _ => x.page.ring.Room len
  | .consume => True

theorem Idle.delivers (h : Idle x) (len : Nat) : Delivers len x := by
  have hdiff : x.page.inProd - x.page.inCons = 0 := by
    rw [h.empty]
    exact UInt32.sub_self _
  constructor
  · have hunread : x.page.ring.unread len = [] := by
      have hnone : x.page.ring.backlog = 0 := congrArg UInt32.toNat hdiff
      rw [CountedRing.unread, hnone]
      rfl
    rw [hunread, h.written, h.read]
    rfl
  · rw [hdiff]
    exact Nat.zero_le len

theorem Delivers.act (h : Delivers len x) (hlen : len < 2 ^ 32) (a : RingAct) (hfits : x.Fits len a) :
    Delivers len (x.act len a) := by
  cases a with
  | write event =>
    have hroom : x.page.ring.Room len := hfits
    have hfree := hroom.free
    constructor
    · change x.read ++ (x.page.ring.push len event).unread len = x.written ++ [event]
      rw [CountedRing.unread_push hroom hlen, ← List.append_assoc, h.inOrder]
    · change (x.page.ring.push len event).backlog ≤ len
      rw [CountedRing.backlog_push (by omega)]
      exact hfree
  | consume =>
    by_cases hempty : x.page.inProd = x.page.inCons
    · rw [Exchange.act, if_pos hempty]
      exact h
    · rw [Exchange.act, if_neg hempty]
      have hread : x.page.ring.unread len =
          x.page.ring.entry len x.page.ring.cons :: x.page.ring.pop.unread len :=
        CountedRing.unread_pop hempty
      have horder := h.inOrder
      constructor
      · change x.read ++ [x.page.ring.entry len x.page.ring.cons] ++ x.page.ring.pop.unread len = _
        rw [hread] at horder
        rw [List.append_assoc]
        exact horder
      · have hbacklog := CountedRing.backlog_pop (r := x.page.ring) hempty
        have hbound : x.page.ring.backlog ≤ len := h.bounded
        change x.page.ring.pop.backlog ≤ len
        omega

end Exchange

/-- Every event is read once and in order, where every write finds room. -/
theorem vkbd_ring_delivers (len : Nat) (hlen : len < 2 ^ 32) (x₀ : Exchange) (h₀ : x₀.Idle)
    (acts : List RingAct) (x : Exchange)
    (hrun : Run (fun a x x' => x.Fits len a ∧ x' = x.act len a) x₀ acts x) : x.Delivers len := by
  apply hrun.invariant (I := fun _ x => x.Delivers len)
  · exact h₀.delivers len
  · intro _ a x x' hx hstep
    obtain ⟨hfits, heq⟩ := hstep
    rw [heq]
    exact hx.act hlen a hfits

/-- A page as the frontend shares it. -/
def idleExchange : Exchange where
  page := { entries := fun _ => .key false 0, inProd := 0, inCons := 0 }
  written := []
  read := []

theorem idleExchange_idle : idleExchange.Idle :=
  ⟨rfl, rfl, rfl⟩

theorem vkbd_ring_delivers_one :
    Exchange.Delivers 51 (idleExchange.act 51 (.write (.key true 30))) := by
  have hroom : idleExchange.page.ring.Room 51 := ⟨by decide, nofun⟩
  exact vkbd_ring_delivers 51 (by decide) idleExchange idleExchange_idle [.write (.key true 30)] _
    (.snoc .nil ⟨hroom, rfl⟩)

/-- A key press, and then as many releases as the ring has entries, while the frontend does not
read. -/
def floodedRing : List RingAct :=
  .write (.key true 30) :: List.replicate 51 (.write (.key false 30))

theorem vkbd_ring_delivers_fails : ¬∀ (acts : List RingAct),
    (acts.foldl (Exchange.act 51) idleExchange).Delivers 51 := by
  intro h
  have hbounded := (h floodedRing).bounded
  revert hbounded
  decide +kernel

end InputServer
