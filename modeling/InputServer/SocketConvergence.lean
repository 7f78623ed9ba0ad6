import InputServer.SocketDevices

namespace InputServer
open Program
open SockPlugin (Emits Live SameConnection Sent)
set_option autoImplicit true

/-- The set the queue will be replayed on: nothing where a reset-all goes out first. -/
def replayBase (p : SockPlugin) (rs : List EventRecord) : Finset UInt32 :=
  if p.resetall then ∅ else clientDevices rs

/-- The client has received `rs`, and what is pending brings it to `S`. -/
structure Converging (S : Finset UInt32) (p : SockPlugin) (rs : List EventRecord) : Prop where
  live : Live p
  magic : ∀ r ∈ rs, r.magic = MAGIC
  stream : p.stream = rs.flatMap EventRecord.encode
  agrees : Agrees S (replayBase p rs) p.devEvents

def Converges (S : Finset UInt32) (p : SockPlugin) : Prop :=
  ∃ rs, Converging S p rs

theorem clientDevices_snoc (rs : List EventRecord) (r : EventRecord) :
    clientDevices (rs ++ [r]) =
      if r.itype = EV_DEV then deviceFold (clientDevices rs) r.icode r.ivalue
      else clientDevices rs := by
  rw [clientDevices, List.foldl_append]
  rfl

/-- A state that has received one more record, where it was taken. -/
structure Received (rs : List EventRecord) (r : EventRecord) (ok : Bool) (p q : SockPlugin) :
    Prop where
  live : Live q
  magic : ∀ r' ∈ rs ++ if ok then [r] else [], r'.magic = MAGIC
  stream : q.stream = (rs ++ if ok then [r] else []).flatMap EventRecord.encode
  queue : q.devEvents = p.devEvents
  resetall : q.resetall = p.resetall

theorem Converging.sent (h : Converging S p rs) (hs : Sent r ok p q) (hr : r.magic = MAGIC) :
    Received rs r ok p q := by
  have hemits := hs.emits h.live hr
  refine ⟨hemits.live, ?_, ?_, hs.field _ fun _ _ _ _ => rfl, hs.field _ fun _ _ _ _ => rfl⟩
  · intro r' hmem
    cases List.mem_append.mp hmem with
    | inl hmem => exact h.magic r' hmem
    | inr hmem => exact hemits.magic r' hmem
  · rw [hemits.stream, h.stream, List.flatMap_append]

/-- A refused record changes nothing. -/
theorem Received.refused (h : Converging S p rs) (hq : Received rs r false p q) :
    Converging S q rs := by
  have hm := hq.magic
  have hstream := hq.stream
  simp only [Bool.false_eq_true, if_false, List.append_nil] at hm hstream
  refine ⟨hq.live, hm, hstream, ?_⟩
  rw [replayBase, hq.resetall, hq.queue]
  exact h.agrees

/-- A record that is no device record changes nothing. -/
theorem Received.other (h : Converging S p rs) (hq : Received rs r ok p q)
    (hr : r.itype = EV_DEV → r.icode = DEV_SET) : Converges S q := by
  refine ⟨_, hq.live, hq.magic, hq.stream, ?_⟩
  have hclient : clientDevices (rs ++ if ok then [r] else []) = clientDevices rs := by
    cases ok with
    | false => exact congrArg clientDevices (List.append_nil rs)
    | true =>
      simp only [if_true, clientDevices_snoc]
      by_cases hdev : r.itype = EV_DEV
      · rw [if_pos hdev, hr hdev]
        rfl
      · rw [if_neg hdev]
  rw [replayBase, hq.resetall, hq.queue, hclient]
  exact h.agrees

theorem deviceFold_conf (D : Finset UInt32) (v : UInt32) : deviceFold D DEV_CONF v = insert v D :=
  rfl

theorem deviceFold_reset (D : Finset UInt32) (hv : v ≠ 0xFF) :
    deviceFold D DEV_RESET v = D.erase v :=
  if_neg hv

/-- A device record was taken, and the queue or the pending reset-all changed with it. -/
theorem Received.taken {b : Bool} {q' : SockPlugin} (hq : Received rs r true p q)
    (hc : SameConnection q q') (hdev : r.itype = EV_DEV) (hreset : q'.resetall = b)
    (hqueue : q'.devEvents = dvs)
    (ha : Agrees S (if b then ∅ else deviceFold (clientDevices rs) r.icode r.ivalue) dvs) :
    Converging S q' (rs ++ [r]) := by
  subst hreset hqueue
  refine ⟨hq.live.update hc, hq.magic, ?_, ?_⟩
  · have hstream : q'.stream = q.stream := by
      rw [SockPlugin.stream, hc.wire, hc.partialBuffer, hc.delayed, SockPlugin.stream]
    rw [hstream]
    exact hq.stream
  · rw [replayBase, clientDevices_snoc, if_pos hdev]
    exact ha

theorem modify_snoc (q : List DevEvent) (dv : DevEvent) (f : DevEvent → DevEvent) :
    (q ++ [dv]).modify q.length f = q ++ [f dv] := by
  induction q with
  | nil => rfl
  | cons dv' q ih => exact congrArg (dv' :: ·) ih

/-- Records until the first announcement, in the order a flush sends the queue. -/
def firstAnnouncement : List DevEvent → Option Nat
  | [] => none
  | dv :: q =>
    if dv.add then some (dv.remove.toNat + 1)
    else (firstAnnouncement q).map (dv.remove.toNat + ·)

/-- The socket takes the next `n` records. -/
def Line.takes : Nat → Line → Bool
  | 0, _ => true
  | n + 1, l => l.send.1 && takes n l.send.2

/-- While a reset-all is pending, a flush does not get as far as an announcement. -/
def NoOvertaking (p : SockPlugin) : Prop :=
  p.resetall = true →
    ∀ n, firstAnnouncement p.devEvents.reverse = some n → p.line.takes n = false

theorem NoOvertaking.next (h : NoOvertaking p) (hans : p.line.send.1 = true)
    (hline : p'.line = p.line.send.2) (hreset : p'.resetall = p.resetall)
    (hfirst : ∀ n, firstAnnouncement p'.devEvents.reverse = some n →
      firstAnnouncement p.devEvents.reverse = some (n + 1)) : NoOvertaking p' := by
  intro hr n hn
  have htakes := h (hreset ▸ hr) (n + 1) (hfirst n hn)
  rw [Line.takes, hans, Bool.true_and] at htakes
  rw [hline]
  exact htakes

/-- The removal of the last entry, where it has one. -/
theorem flushRemove_spec (h : Converging S p rs) (hq : p.devEvents = q ++ [dv])
    (hover : NoOvertaking p) :
    wp (flushFlag q.length DevEvent.remove DEV_RESET fun dv => { dv with remove := false })
      (fun ok p' => (∃ rs', Converging S p' rs') ∧ p'.resetall = p.resetall ∧
        (ok = true → NoOvertaking p' ∧ ∃ dv' : DevEvent, p'.devEvents = q ++ [dv'] ∧
          dv'.remove = false)) p := by
  have hdv : p.devEvents[q.length]? = some dv := by
    rw [hq, List.getElem?_concat_length]
  refine wp_mono (flushFlag_spec h.live hdv _ _ _) ?_
  rintro ok p' (⟨hf, _, rfl⟩ | ⟨hf, p₁, hsent, rfl⟩)
  · exact ⟨⟨rs, h⟩, rfl, fun _ => ⟨hover, dv, hq, hf⟩⟩
  · have hrec := h.sent hsent rfl
    cases ok with
    | false => exact ⟨⟨rs, hrec.refused h⟩, hrec.resetall, nofun⟩
    | true =>
      have hmod : p₁.devEvents.modify q.length (fun dv => { dv with remove := false }) =
          q ++ [{ dv with remove := false }] := by
        rw [hrec.queue, hq, modify_snoc]
      have hagrees := h.agrees
      rw [hq] at hagrees
      have hsingle : dv.device ≠ 0xFF := hagrees.single dv List.mem_concat_self
      have hbase : (if p.resetall then ∅ else
          deviceFold (clientDevices rs) DEV_RESET dv.device) =
          (replayBase p rs).erase dv.device := by
        rw [replayBase, deviceFold_reset _ hsingle]
        cases p.resetall with
        | true => exact (Finset.erase_empty _).symm
        | false => rfl
      have hsend := hagrees.sendRemove hf
      rw [← hbase] at hsend
      refine ⟨⟨_, hrec.taken ⟨rfl, rfl, rfl, rfl, rfl, rfl⟩ rfl hrec.resetall hmod hsend⟩,
        hrec.resetall, fun _ => ⟨?_, { dv with remove := false }, hmod, rfl⟩⟩
      · refine hover.next hsent.answer.symm hsent.line hrec.resetall ?_
        intro n hn
        simp only [if_true] at hn
        rw [hmod, List.reverse_append] at hn
        rw [hq, List.reverse_append]
        change firstAnnouncement ({ dv with remove := false } :: q.reverse) = some n at hn
        change firstAnnouncement (dv :: q.reverse) = some (n + 1)
        rw [firstAnnouncement] at hn ⊢
        rw [hf]
        cases ha : dv.add with
        | true =>
          simp only [ha, if_true, Bool.toNat_false, Nat.zero_add, Option.some.injEq] at hn
          simp only [if_true, Bool.toNat_true, ← hn]
        | false =>
          simp only [ha, Bool.false_eq_true, if_false, Bool.toNat_false, Nat.zero_add,
            Option.map_id'] at hn
          simp only [Bool.false_eq_true, if_false, hn, Option.map_some, Bool.toNat_true,
            Nat.add_comm]

/-- The announcement of the last entry, where it has one: not while a reset-all is pending. -/
theorem flushAdd_spec (h : Converging S p rs) (hq : p.devEvents = q ++ [dv])
    (hr : dv.remove = false) (hover : NoOvertaking p) :
    wp (flushFlag q.length DevEvent.add DEV_CONF fun dv => { dv with add := false })
      (fun ok p' => (∃ rs', Converging S p' rs') ∧ p'.resetall = p.resetall ∧
        (ok = true → (p.resetall = true → p' = p ∧ dv.add = false) ∧
          ∃ dv' : DevEvent, p'.devEvents = q ++ [dv'] ∧ dv'.remove = false ∧
          dv'.add = false)) p := by
  have hdv : p.devEvents[q.length]? = some dv := by
    rw [hq, List.getElem?_concat_length]
  refine wp_mono (flushFlag_spec h.live hdv _ _ _) ?_
  rintro ok p' (⟨hf, _, rfl⟩ | ⟨hf, p₁, hsent, rfl⟩)
  · exact ⟨⟨rs, h⟩, rfl, fun _ => ⟨fun _ => ⟨rfl, hf⟩, dv, hq, hr, hf⟩⟩
  · have hrec := h.sent hsent rfl
    cases ok with
    | false => exact ⟨⟨rs, hrec.refused h⟩, hrec.resetall, nofun⟩
    | true =>
      have hmod : p₁.devEvents.modify q.length (fun dv => { dv with add := false }) =
          q ++ [{ dv with add := false }] := by
        rw [hrec.queue, hq, modify_snoc]
      have hagrees := h.agrees
      rw [hq] at hagrees
      -- an announcement taken while a reset-all is pending is what the hypothesis excludes
      have hreset : p.resetall = false := by
        by_contra hne
        have hfirst : firstAnnouncement p.devEvents.reverse = some 1 := by
          rw [hq, List.reverse_append]
          change firstAnnouncement (dv :: q.reverse) = some 1
          rw [firstAnnouncement, if_pos hf, hr]
          rfl
        have htakes := hover (Bool.eq_true_of_not_eq_false hne) 1 hfirst
        rw [Line.takes, ← hsent.answer] at htakes
        cases htakes
      have hsend := hagrees.sendAdd hr hf
      simp only [replayBase, hreset, Bool.false_eq_true, if_false] at hsend
      refine ⟨⟨_, hrec.taken (b := false) ⟨rfl, rfl, rfl, rfl, rfl, rfl⟩ rfl
          (hrec.resetall.trans hreset) hmod hsend⟩,
        hrec.resetall, fun _ => ⟨?_, { dv with add := false }, hmod, hr, rfl⟩⟩
      intro hne
      rw [hreset] at hne
      cases hne

theorem flushFrom_converges (i : Nat) (h : Converging S p rs) (hi : p.devEvents.length = i)
    (hover : NoOvertaking p) :
    wp (flushFrom i) (fun ok p' => (∃ rs', Converging S p' rs') ∧ p'.resetall = p.resetall ∧
      (ok = true → p'.devEvents = [])) p := by
  induction i generalizing p rs with
  | zero =>
    rw [flushFrom, wp_pure]
    exact ⟨⟨rs, h⟩, rfl, fun _ => List.length_eq_zero_iff.mp hi⟩
  | succ i ih =>
    obtain ⟨q, dv, hq⟩ : ∃ q dv, p.devEvents = q ++ [dv] := by
      rcases List.eq_nil_or_concat p.devEvents with hnil | ⟨q, dv, hq⟩
      · rw [hnil] at hi
        cases hi
      · exact ⟨q, dv, hq.trans List.concat_eq_append⟩
    have hlen : q.length = i := by
      rw [hq, List.length_append] at hi
      exact Nat.succ.inj hi
    subst hlen
    rw [flushFrom, wp_bind]
    refine wp_mono (flushRemove_spec h hq hover) ?_
    rintro ok p₁ ⟨⟨rs₁, h₁⟩, hr₁, hok₁⟩
    refine wp_ite (fun hok => ?_) (fun hok => (wp_pure ..).mpr
      ⟨⟨rs₁, h₁⟩, hr₁, fun h => by cases h⟩)
    obtain ⟨hover₁, dv₁, hq₁, hrem₁⟩ := hok₁ hok
    rw [wp_bind]
    refine wp_mono (flushAdd_spec h₁ hq₁ hrem₁ hover₁) ?_
    rintro ok p₂ ⟨⟨rs₂, h₂⟩, hr₂, hok₂⟩
    refine wp_ite (fun hok => ?_)
      (fun hok => (wp_pure ..).mpr ⟨⟨rs₂, h₂⟩, hr₂.trans hr₁, fun h => by cases h⟩)
    obtain ⟨hsame, dv₂, hq₂, hrem₂, hadd₂⟩ := hok₂ hok
    rw [wp_bind, useQueue_spec h₂.live.queue, wp_bind, wp_modify]
    have htake : p₂.devEvents.take q.length = q := by
      rw [hq₂, List.take_left]
    have hpop : Converging S { p₂ with devEvents := p₂.devEvents.take q.length } rs₂ := by
      refine ⟨h₂.live.update ⟨rfl, rfl, rfl, rfl, rfl, rfl⟩, h₂.magic, h₂.stream, ?_⟩
      have hagrees := h₂.agrees
      rw [hq₂] at hagrees
      dsimp only
      rw [htake]
      exact hagrees.pop hrem₂ hadd₂
    have hover₂ : NoOvertaking { p₂ with devEvents := p₂.devEvents.take q.length } := by
      intro hr n hn
      have hp₁ : p₁.resetall = true := hr₂ ▸ hr
      obtain ⟨rfl, hadd₁⟩ := hsame hp₁
      dsimp only at hn
      rw [htake] at hn
      refine hover₁ hp₁ n ?_
      rw [hq₁, List.reverse_append]
      change firstAnnouncement (dv₁ :: q.reverse) = some n
      simp only [firstAnnouncement, hadd₁, Bool.false_eq_true, if_false, hn, hrem₁,
        Bool.toNat_false, Nat.zero_add, Option.map_some]
    refine wp_mono (ih hpop (by dsimp only; rw [htake]) hover₂) ?_
    rintro ok p₃ ⟨h₃, hr₃, hok₃⟩
    exact ⟨h₃, (hr₃.trans hr₂).trans hr₁, hok₃⟩

/-- Fields that are neither the line nor the pending devices do not matter. -/
theorem Converging.update (h : Converging S p rs) (hc : SameConnection p p')
    (hr : p'.resetall = p.resetall) (hq : p'.devEvents = p.devEvents) :
    Converging S p' rs := by
  refine ⟨h.live.update hc, h.magic, ?_, ?_⟩
  · rw [SockPlugin.stream, hc.wire, hc.partialBuffer, hc.delayed]
    exact h.stream
  · rw [replayBase, hr, hq]
    exact h.agrees

theorem Converges.update (h : Converges S p) (hc : SameConnection p p')
    (hr : p'.resetall = p.resetall) (hq : p'.devEvents = p.devEvents) : Converges S p' := by
  obtain ⟨rs, h⟩ := h
  exact ⟨rs, h.update hc hr hq⟩

theorem Converges.live (h : Converges S p) : Live p := by
  obtain ⟨rs, h⟩ := h
  exact h.live

theorem sendOther_converges (h : Converges S p) (hm : r.magic = MAGIC)
    (hr : r.itype = EV_DEV → r.icode = DEV_SET) :
    wp (sendToPlugin r) (fun _ p' => Converges S p') p := by
  obtain ⟨rs, h⟩ := h
  refine wp_mono (sendToPlugin_spec r p h.live.toOpen) ?_
  intro ok q hsent
  exact (h.sent hsent hm).other h hr

/-- Once a reset of all devices was taken, the client has none. -/
theorem Received.resetAll_taken {q' : SockPlugin} (hq : Received rs r true p q)
    (hr : r = requestRecord true code value) (hc : SameConnection q q')
    (ha : Agrees S ∅ q'.devEvents) : Converges S q' := by
  subst hr
  refine ⟨_, hq.taken (b := q'.resetall) hc rfl rfl rfl ?_⟩
  cases q'.resetall with
  | true => exact ha
  | false => exact ha

theorem Converging.agrees_empty (h : Converging S p rs) (hr : p.resetall = true) :
    Agrees S ∅ p.devEvents := by
  have ha := h.agrees
  rwa [replayBase, if_pos hr] at ha

theorem sendPending_converges (h : Converges S p) :
    wp sendPending (fun _ p' => Converges S p') p := by
  have herror : wp sendPendingError (fun _ p' => Converges S p') p := by
    rw [sendPendingError, wp_bind, wp_get]
    refine wp_ite (fun _ => ?_) (fun _ => (wp_pure ..).mpr h)
    rw [sendMarked, wp_bind]
    refine wp_mono (sendOther_converges h rfl fun hdev => absurd hdev (by change ¬EV_VM = EV_DEV; decide)) ?_
    intro ok q hq
    refine wp_ite (fun _ => ?_) (fun _ => (wp_pure ..).mpr hq)
    rw [wp_bind, wp_modify, wp_pure]
    exact hq.update ⟨rfl, rfl, rfl, rfl, rfl, rfl⟩ rfl rfl
  have hreset : ∀ q, Converges S q → wp sendPendingReset
      (fun ok p' => Converges S p' ∧ (ok = true → p'.resetall = false)) q := by
    intro q hq
    rw [sendPendingReset, wp_bind, wp_get]
    refine wp_ite (fun hr => ?_) (fun hr => ?_)
    · obtain ⟨rs, hq⟩ := hq
      rw [sendMarked, wp_bind]
      refine wp_mono (sendToPlugin_spec _ q hq.live.toOpen) ?_
      intro ok q' hsent
      have hrec := hq.sent hsent rfl
      cases ok with
      | true =>
        simp only [if_true, wp_bind, wp_modify, wp_pure]
        refine ⟨hrec.resetAll_taken rfl ⟨rfl, rfl, rfl, rfl, rfl, rfl⟩ ?_, fun _ => trivial⟩
        dsimp only
        rw [hrec.queue]
        exact hq.agrees_empty hr
      | false =>
        simp only [Bool.false_eq_true, if_false, wp_pure]
        exact ⟨⟨rs, hrec.refused hq⟩, nofun⟩
    · rw [wp_pure]
      exact ⟨hq, fun _ => Bool.eq_false_of_not_eq_true hr⟩
  have hqueue : ∀ q, Converges S q → q.resetall = false →
      wp sendPendingQueue (fun _ p' => Converges S p') q := by
    intro q hq hr
    rw [sendPendingQueue, wp_bind, wp_get]
    refine wp_ite (fun _ => ?_) (fun _ => (wp_pure ..).mpr hq)
    obtain ⟨rs, hq⟩ := hq
    rw [flushQueuedDevEvents, wp_bind, wp_get]
    have hover : NoOvertaking q := by
      intro hreset
      rw [hr] at hreset
      cases hreset
    exact wp_mono (flushFrom_converges _ hq rfl hover) fun _ _ h => h.1
  rw [sendPending, wp_bind]
  refine wp_mono herror ?_
  intro ok q hq
  refine wp_ite (fun _ => ?_) (fun _ => (wp_pure ..).mpr hq)
  rw [wp_bind]
  refine wp_mono (hreset q hq) ?_
  rintro ok q' ⟨hq', hr⟩
  exact wp_ite (fun hok => hqueue q' hq' (hr hok)) (fun _ => (wp_pure ..).mpr hq')

theorem sendDevSet_converges (h : Converges S p) (slot : Int32) :
    wp (sendDevSet slot) (fun _ p' => Converges S p') p := by
  rw [sendDevSet, wp_bind]
  refine wp_mono (sendOther_converges h rfl fun _ => rfl) ?_
  intro ok q hq
  refine wp_ite (fun _ => ?_) (fun _ => ?_)
  · rw [wp_modify]
    exact hq.update ⟨rfl, rfl, rfl, rfl, rfl, rfl⟩ rfl rfl
  · rw [wp_modify]
    exact hq.update ⟨rfl, rfl, rfl, rfl, rfl, rfl⟩ rfl rfl

theorem sendSyn_converges (h : Converges S p) :
    wp (sendToPlugin synDropped) (fun _ p' => Converges S p') p :=
  sendOther_converges h rfl fun hdev => absurd hdev (by decide)

theorem selectSlot_converges (h : Converges S p) (slot : Int32) :
    wp (selectSlot slot) (fun _ p' => Converges S p') p := by
  rw [selectSlot, wp_bind, wp_get]
  refine wp_ite (fun _ => ?_) (fun _ => (wp_pure ..).mpr h)
  rw [sendSlot, wp_bind, wp_get]
  refine wp_ite (fun _ => ?_) (fun _ => sendDevSet_converges h slot)
  rw [wp_bind]
  refine wp_mono (sendSyn_converges h) ?_
  intro ok q hq
  refine wp_ite (fun _ => ?_) (fun _ => ?_)
  · rw [wp_bind, wp_modify]
    have hclear : Converges S { q with dropped := false } :=
      hq.update ⟨rfl, rfl, rfl, rfl, rfl, rfl⟩ rfl rfl
    exact sendDevSet_converges hclear slot
  · rw [wp_modify]
    exact hq.update ⟨rfl, rfl, rfl, rfl, rfl, rfl⟩ rfl rfl

theorem sendDroppedAndEvent_converges (h : Converges S p) (he : e.type ≠ EV_DEV) :
    wp (sendDroppedAndEvent e) (fun _ p' => Converges S p') p := by
  have hevent : ∀ q, Converges S q → wp (sendEventRecord e) (fun _ p' => Converges S p') q := by
    intro q hq
    rw [sendEventRecord, wp_bind]
    refine wp_mono (sendOther_converges hq rfl fun hdev => absurd hdev he) ?_
    intro ok q' hq'
    refine wp_ite (fun _ => (wp_pure ..).mpr hq') (fun _ => ?_)
    rw [wp_bind, wp_modify, wp_pure]
    exact hq'.update ⟨rfl, rfl, rfl, rfl, rfl, rfl⟩ rfl rfl
  rw [sendDroppedAndEvent, wp_bind, wp_get]
  refine wp_ite (fun _ => ?_) (fun _ => hevent p h)
  rw [wp_bind]
  refine wp_mono (sendSyn_converges h) ?_
  intro ok q hq
  refine wp_ite (fun _ => ?_) (fun _ => (wp_pure ..).mpr hq)
  rw [wp_bind, wp_modify]
  have hclear : Converges S { q with dropped := false } :=
    hq.update ⟨rfl, rfl, rfl, rfl, rfl, rfl⟩ rfl rfl
  exact hevent _ hclear

theorem sendPluginEvent_converges (h : Converges S p) (slot : Int32) (he : e.type ≠ EV_DEV) :
    wp (sendPluginEvent slot e) (fun _ p' => Converges S p') p := by
  rw [sendPluginEvent, wp_bind]
  refine wp_mono (sendPending_converges h) ?_
  intro ok q hq
  refine wp_ite (fun _ => ?_) (fun _ => ?_)
  · rw [wp_bind]
    refine wp_mono (selectSlot_converges hq slot) ?_
    intro _ q' hq'
    exact sendDroppedAndEvent_converges hq' he
  · rw [wp_bind, wp_modify, wp_pure]
    by_cases hs : q.slot ≠ slot
    · rw [if_pos hs]
      exact hq.update ⟨rfl, rfl, rfl, rfl, rfl, rfl⟩ rfl rfl
    · rw [if_neg hs]
      exact hq.update ⟨rfl, rfl, rfl, rfl, rfl, rfl⟩ rfl rfl

theorem sendError_converges (h : Converges S p) (code : UInt32) (type domain : UInt8) :
    wp (sendError code type domain) (fun _ p' => Converges S p') p := by
  rw [sendError, wp_bind]
  refine wp_mono (sendOther_converges h rfl
    fun hdev => absurd hdev (by change ¬EV_VM = EV_DEV; decide)) ?_
  intro ok q hq
  refine wp_ite (fun _ => (wp_pure ..).mpr hq) (fun _ => ?_)
  rw [wp_modify]
  by_cases he : q.error = 0
  · rw [if_pos he]
    exact hq.update ⟨rfl, rfl, rfl, rfl, rfl, rfl⟩ rfl rfl
  · rw [if_neg he]
    exact hq

/-- A request the daemon makes: devices are bytes, and 0xFF names all of them; a device that is
announced is not announced again. -/
def ValidRequest (S : Finset UInt32) (code : UInt16) (value : Int32) : Prop :=
  (code = DEV_CONF → value.toUInt32 < 0xFF ∧ value.toUInt32 ∉ S) ∧
  (code = DEV_RESET → value.toUInt32 ≤ 0xFF)

theorem queueDevEvent_converges (h : Converges S p) (hv : ValidRequest S code value)
    (hall : (code, value) ≠ resetAll) :
    wp (queueDevEvent code value)
      (fun _ p' => Converges (deviceFold S code value.toUInt32) p') p := by
  obtain ⟨rs, h⟩ := h
  -- an entry that is queued leaves everything else as it was
  have hqueue : ∀ {S' : Finset UInt32} {dvs : List DevEvent}, Agrees S' (replayBase p rs) dvs →
      Converges S' { p with devEvents := dvs } := by
    intro S' dvs ha
    exact ⟨rs, h.live.update ⟨rfl, rfl, rfl, rfl, rfl, rfl⟩, h.magic, h.stream, ha⟩
  rw [queueDevEvent]
  refine wp_ite (fun hconf => ?_) (fun hconf => wp_ite (fun hreset => ?_) (fun hreset => ?_))
  · subst hconf
    obtain ⟨hlt, hnew⟩ := hv.1 rfl
    rw [addQueueDevEventConf, wp_bind, useQueue_spec h.live.queue, wp_modify]
    rw [deviceFold_conf]
    exact hqueue (h.agrees.conf hnew hlt)
  · subst hreset
    have hne : value ≠ 0xFF := fun heq => hall (by rw [heq, resetAll])
    have hne' : value.toUInt32 ≠ 0xFF := fun heq => hne (toUInt32_inj heq)
    have hlt : value.toUInt32 < 0xFF := UInt32.lt_of_le_of_ne (hv.2 rfl) hne'
    rw [addQueueDevEventReset, if_neg hne, wp_bind, useQueue_spec h.live.queue, wp_modify]
    rw [deviceFold_reset _ hne']
    exact hqueue (h.agrees.reset hlt)
  · rw [wp_pure, deviceFold, if_neg hconf, if_neg hreset]
    exact ⟨rs, h⟩

/-- A request goes out behind the queue, or a pending reset-all does in its place. -/
theorem sendRequest_converges (h : Converges S p) (hall : (code, value) ≠ resetAll)
    (hover : NoOvertaking p) :
    wp (sendRequest code value) (fun ok p' => p'.resetall = p.resetall ∧
      if ok then
        if p.resetall then Converges S { p' with resetall := false } ∧ p'.devEvents = []
        else Converges (deviceFold S code value.toUInt32) p'
      else Converges S p') p := by
  obtain ⟨rs, h⟩ := h
  have hprepare : wp (prepareQueue code value) (fun ok p' => (∃ rs', Converging S p' rs') ∧
      p'.resetall = p.resetall ∧ (ok = true → p'.devEvents = [])) p := by
    rw [prepareQueue, wp_bind, wp_get, if_neg hall]
    refine wp_ite (fun _ => ?_) (fun hnil => ?_)
    · rw [flushQueuedDevEvents, wp_bind, wp_get]
      exact flushFrom_converges _ h rfl hover
    · rw [wp_pure]
      exact ⟨⟨rs, h⟩, rfl, fun _ => List.length_eq_zero_iff.mp (not_not.mp hnil)⟩
  rw [sendRequest, wp_bind, wp_get, wp_bind]
  refine wp_mono hprepare ?_
  rintro ok p₁ ⟨⟨rs₁, h₁⟩, hr₁, hnil⟩
  refine wp_ite (fun hok => ?_) (fun _ => ?_)
  · have hmagic : (requestRecord p.resetall code value).magic = MAGIC := by
      rw [requestRecord]
      split <;> rfl
    refine wp_mono (sendToPlugin_spec _ p₁ h₁.live.toOpen) ?_
    intro ok q hsent
    have hrec := h₁.sent hsent hmagic
    refine ⟨hrec.resetall.trans hr₁, ?_⟩
    have hempty : q.devEvents = [] := hrec.queue.trans (hnil hok)
    cases ok with
    | false => exact ⟨rs₁, hrec.refused h₁⟩
    | true =>
      have hagrees := h₁.agrees
      rw [hnil hok] at hagrees
      cases hreset : p.resetall with
      | true =>
        rw [replayBase, hr₁, hreset, if_pos rfl] at hagrees
        rw [hreset] at hrec
        refine ⟨hrec.resetAll_taken rfl ⟨rfl, rfl, rfl, rfl, rfl, rfl⟩ ?_, hempty⟩
        dsimp only
        rw [hempty]
        exact hagrees
      | false =>
        rw [replayBase, hr₁, hreset] at hagrees
        rw [hreset] at hrec
        have hS : S = clientDevices rs₁ := hagrees.agree
        refine ⟨_, hrec.taken (b := false) ⟨rfl, rfl, rfl, rfl, rfl, rfl⟩ rfl
          (hrec.resetall.trans (hr₁.trans hreset)) hempty ?_⟩
        rw [hS]
        exact Agrees.nil _
  · rw [wp_pure]
    exact ⟨hr₁, rs₁, h₁⟩

/-- A reset of all devices: the queue is dropped, and the reset is sent or pending. -/
theorem resetAllRequest_converges (h : Converges S p) :
    wp (sendRequest resetAll.1 resetAll.2) (fun ok p' => p'.resetall = p.resetall ∧
      if ok then Converges ∅ p' ∧ Converges ∅ { p' with resetall := false }
      else Converges ∅ { p' with resetall := true }) p := by
  obtain ⟨rs, h⟩ := h
  have hcleared : Converging (replayBase p rs) { p with devEvents := [] } rs :=
    ⟨h.live.update ⟨rfl, rfl, rfl, rfl, rfl, rfl⟩, h.magic, h.stream, Agrees.nil _⟩
  have hrecord : requestRecord p.resetall resetAll.1 resetAll.2 =
      requestRecord true resetAll.1 resetAll.2 := by
    rw [requestRecord, requestRecord]
    cases p.resetall <;> rfl
  rw [sendRequest, wp_bind, wp_get, wp_bind, prepareQueue, wp_bind, wp_get, if_pos rfl,
    h.live.queue]
  simp only [Bool.false_eq_true, if_false, wp_bind, wp_modify, wp_pure, if_true]
  rw [hrecord]
  refine wp_mono (sendToPlugin_spec _ _ hcleared.live.toOpen) ?_
  intro ok q hsent
  have hrec := hcleared.sent hsent rfl
  refine ⟨hrec.resetall, ?_⟩
  have hempty : q.devEvents = [] := hrec.queue
  cases ok with
  | true =>
    have hagrees : Agrees ∅ ∅ q.devEvents := hempty ▸ Agrees.nil ∅
    exact ⟨hrec.resetAll_taken rfl ⟨rfl, rfl, rfl, rfl, rfl, rfl⟩ hagrees,
      hrec.resetAll_taken rfl ⟨rfl, rfl, rfl, rfl, rfl, rfl⟩ hagrees⟩
  | false =>
    have hq := hrec.refused hcleared
    refine ⟨rs, hq.live.update ⟨rfl, rfl, rfl, rfl, rfl, rfl⟩, hq.magic, hq.stream, ?_⟩
    change Agrees ∅ ∅ q.devEvents
    rw [hempty]
    exact Agrees.nil ∅

theorem queueDevEvent_resetAll :
    queueDevEvent DEV_RESET 0xFF = modify fun p => { p with resetall := true } :=
  rfl

/-- Where no reset-all is pending, a request does not call itself. -/
theorem directRequest_converges (h : Converges S p) (hv : ValidRequest S code value)
    (hreset : p.resetall = false) :
    wp (sendPluginDevEventAt depth code value)
      (fun _ p' => Converges (deviceFold S code value.toUInt32) p') p := by
  have hover : NoOvertaking p := fun hr => absurd (hreset.symm.trans hr) Bool.false_ne_true
  rw [sendPluginDevEventAt.eq_def, wp_bind]
  by_cases hall : (code, value) = resetAll
  · obtain ⟨rfl, rfl⟩ := Prod.mk.inj hall
    refine wp_mono (resetAllRequest_converges h) ?_
    rintro ok q ⟨hr, hq⟩
    cases ok with
    | true =>
      have hr' : ¬q.resetall = true := fun ht => Bool.false_ne_true (hreset.symm.trans (hr ▸ ht))
      simp only [if_true, wp_bind, wp_get, if_neg hr', wp_pure]
      exact hq.1
    | false =>
      simp only [Bool.false_eq_true, if_false]
      rw [queueDevEvent_resetAll, wp_modify]
      exact hq
  · refine wp_mono (sendRequest_converges h hall hover) ?_
    rintro ok q ⟨hr, hq⟩
    cases ok with
    | true =>
      have hr' : ¬q.resetall = true := fun ht => Bool.false_ne_true (hreset.symm.trans (hr ▸ ht))
      simp only [if_true, wp_bind, wp_get, if_neg hr', wp_pure]
      rw [if_pos rfl, hreset] at hq
      exact hq
    | false => exact queueDevEvent_converges hq hv hall

/-- One device request: what is pending brings the client to the folded set. -/
theorem sendPluginDevEvent_converges (h : Converges S p) (hv : ValidRequest S code value)
    (hover : (code, value) ≠ resetAll → NoOvertaking p) :
    wp (sendPluginDevEvent code value)
      (fun _ p' => Converges (deviceFold S code value.toUInt32) p') p := by
  cases hreset : p.resetall with
  | false => exact directRequest_converges h hv hreset
  | true =>
    rw [sendPluginDevEvent, sendPluginDevEventAt, wp_bind]
    by_cases hall : (code, value) = resetAll
    · obtain ⟨rfl, rfl⟩ := Prod.mk.inj hall
      refine wp_mono (resetAllRequest_converges h) ?_
      rintro ok q ⟨hr, hq⟩
      cases ok with
      | true =>
        have hr' : q.resetall = true := hr.trans hreset
        simp only [if_true, wp_bind, wp_get, if_pos hr', wp_modify]
        have hv' : ValidRequest ∅ DEV_RESET 0xFF :=
          ⟨(fun h => by cases h), fun _ => UInt32.le_refl _⟩
        have hagain : wp (sendPluginDevEventAt 0 DEV_RESET 0xFF)
            (fun _ p' => Converges (deviceFold ∅ DEV_RESET 0xFF) p')
            { q with resetall := false } := directRequest_converges hq.2 hv' rfl
        exact hagain
      | false =>
        simp only [Bool.false_eq_true, if_false]
        rw [queueDevEvent_resetAll, wp_modify]
        exact hq
    · refine wp_mono (sendRequest_converges h hall (hover hall)) ?_
      rintro ok q ⟨hr, hq⟩
      cases ok with
      | true =>
        have hr' : q.resetall = true := hr.trans hreset
        simp only [if_true, wp_bind, wp_get, if_pos hr', wp_modify]
        rw [if_pos rfl, if_pos hreset] at hq
        exact directRequest_converges hq.1 hv rfl
      | false => exact queueDevEvent_converges hq hv hall

/-- A device request does not announce a device while a reset-all is pending. -/
def KeepsOrder : PluginCall → Session → Prop
  | .device code value sends, σ =>
    (code, value) ≠ resetAll → NoOvertaking { σ.plugin with sends := sends }
  | _, _ => True

/-- Each request is one the daemon makes after those before it. -/
def WellAnnounced (cs : List PluginCall) : Prop :=
  ∀ cs₁ code value sends cs₂, cs = cs₁ ++ .device code value sends :: cs₂ →
    ValidRequest (requestedDevices cs₁) code value

theorem WellAnnounced.init {cs : List PluginCall} (h : WellAnnounced (cs ++ [c])) :
    WellAnnounced cs := by
  intro cs₁ code value sends cs₂ heq
  exact h cs₁ code value sends (cs₂ ++ [c]) (by rw [heq, List.append_assoc]; rfl)

theorem WellAnnounced.snoc {cs : List PluginCall} (h : WellAnnounced cs)
    (hc : ∀ code value sends, c = .device code value sends →
      ValidRequest (requestedDevices cs) code value) : WellAnnounced (cs ++ [c]) := by
  intro cs₁ code value sends cs₂ heq
  rcases List.eq_nil_or_concat cs₂ with rfl | ⟨cs₃, c', rfl⟩
  · obtain ⟨rfl, hlast⟩ := List.append_inj' heq rfl
    exact hc code value sends (List.singleton_inj.mp hlast)
  · rw [List.concat_eq_append, ← List.cons_append, ← List.append_assoc] at heq
    obtain ⟨rfl, _⟩ := List.append_inj' heq rfl
    exact h cs₁ code value sends cs₃ rfl

/-- What a call requests. -/
def PluginCall.request (D : Finset UInt32) : PluginCall → Finset UInt32
  | .device code value _ => deviceFold D code value.toUInt32
  | _ => D

theorem requestedDevices_snoc (cs : List PluginCall) (c : PluginCall) :
    requestedDevices (cs ++ [c]) = c.request (requestedDevices cs) := by
  rw [requestedDevices, List.foldl_append]
  cases c <;> rfl

theorem Converges.start {os : List SendOutcome} (h : Converges S p) (ho : .fatal ∉ os) :
    Converges S { p with sends := os } := by
  obtain ⟨rs, h⟩ := h
  exact ⟨rs, ⟨h.live.toConnected.withSends ho, h.live.queue⟩, h.magic, h.stream, h.agrees⟩

/-- What is pending brings the client to the requested set. -/
def Settling (cs : List PluginCall) (σ : Session) : Prop :=
  Converges (requestedDevices cs) { σ.plugin with sends := [] }

/-- Each call returns, and leaves such a state. -/
theorem callStep_settling {c : PluginCall} {cs : List PluginCall} (h : Settling cs σ) (hc : c.Valid)
    (hreq : WellAnnounced (cs ++ [c])) (horder : KeepsOrder c σ) :
    ∃ σ', callStep σ c = .ok σ' ∧ Settling (cs ++ [c]) σ' := by
  have hstart : Converges (requestedDevices cs) (c.start σ) := h.start hc.1
  have hrun : wp c.run (fun _ p' => Converges (requestedDevices (cs ++ [c])) p') (c.start σ) := by
    rw [requestedDevices_snoc]
    cases c with
    | event slot e os => exact sendPluginEvent_converges hstart slot hc.2.2
    | error code type domain os =>
      rw [PluginCall.run, wp_bind]
      exact wp_mono (sendError_converges hstart code type domain) fun _ _ h => (wp_pure ..).mpr h
    | device code value os =>
      have hv := hreq cs code value os [] rfl
      rw [PluginCall.run, wp_bind]
      exact wp_mono (sendPluginDevEvent_converges hstart hv horder)
        fun _ _ h => (wp_pure ..).mpr h
  obtain ⟨out, p', heq, hp'⟩ := hrun
  exact ⟨_, callStep_eq heq, hp'.start (List.not_mem_nil)⟩

theorem acceptedSession_settling {p : SockPlugin} (hp : p.partialBuffer.length = EVENT_SIZE)
    (hs : s2 ≠ -1) : Settling [] (acceptedSession p s2) :=
  ⟨[], ⟨(acceptedPlugin_connected hs hp).withSends List.not_mem_nil, rfl⟩, nofun,
    acceptedPlugin_stream p s2, Agrees.nil ∅⟩

/-- The devices of the client, counting the bytes of the last record that are still delayed. -/
def Session.clientDevices (σ : Session) : Finset UInt32 :=
  InputServer.clientDevices (decodeRecords σ.plugin.stream)

/-- In every run in which no device is announced while a reset-all is pending, the client has the
requested devices whenever nothing is pending; and no such call is cut short. -/
theorem device_convergence {p : SockPlugin} (hp : p.partialBuffer.length = EVENT_SIZE)
    (hs : s2 ≠ -1) (hrun : CallRun KeepsOrder (acceptedSession p s2) cs σ)
    (hreq : WellAnnounced cs) :
    (σ.plugin.devEvents = [] → σ.plugin.resetall = false →
      σ.clientDevices = requestedDevices cs) ∧
    ∀ c : PluginCall, c.Valid → WellAnnounced (cs ++ [c]) → KeepsOrder c σ →
      ∃ σ', callStep σ c = .ok σ' := by
  have hinv : WellAnnounced cs → Settling cs σ := by
    refine Run.invariant (I := fun cs σ => WellAnnounced cs → Settling cs σ) hrun
      (fun _ => acceptedSession_settling hp hs) ?_
    intro cs c σ σ' ih hstep hreq
    obtain ⟨σ₁, heq, hσ₁⟩ := callStep_settling (ih hreq.init) hstep.1 hreq hstep.2.1
    obtain rfl : σ₁ = σ' := Except.ok.inj (heq.symm.trans hstep.2.2)
    exact hσ₁
  have hconv := hinv hreq
  refine ⟨?_, ?_⟩
  · intro hqueue hreset
    obtain ⟨rs, h⟩ := hconv
    have hstream : σ.plugin.stream = rs.flatMap EventRecord.encode := h.stream
    have hagrees := h.agrees
    rw [replayBase] at hagrees
    simp only [hqueue, hreset, Bool.false_eq_true, if_false] at hagrees
    rw [Session.clientDevices, decodeRecords, hstream, decode_encode h.magic]
    exact hagrees.agree.symm
  · intro c hc hreq' horder
    obtain ⟨σ', hσ', _⟩ := callStep_settling hconv hc hreq' horder
    exact ⟨σ', hσ'⟩

/-- All devices are reset and device 1 is announced while the socket is full, and an event comes
once it is not. -/
def pendingReset : List PluginCall :=
  [.device DEV_RESET 0xFF [], .device DEV_CONF 1 [],
    .event 1 keyA [.took 11, .took 11, .took 11, .took 11]]

theorem valid_device {code : UInt16} {os : List SendOutcome}
    (hcode : code = DEV_CONF ∨ code = DEV_RESET) (ho : .fatal ∉ os) :
    (PluginCall.device code value os).Valid :=
  ⟨ho, hcode⟩

theorem wellAnnounced_nil : WellAnnounced [] := by
  intro cs₁ code value sends cs₂ heq
  cases cs₁ <;> cases heq

/-- What a run of calls leaves pending, and the client with. -/
def outcome (cs : List PluginCall) : Except Fault (List DevEvent × Bool × Finset UInt32) :=
  (cs.foldlM callStep (acceptedSession idlePlugin 5)).map fun σ =>
    (σ.plugin.devEvents, σ.plugin.resetall, σ.clientDevices)

theorem device_convergence_pendingReset :
    ∃ σ, CallRun KeepsOrder (acceptedSession idlePlugin 5) pendingReset σ ∧
      σ.clientDevices = requestedDevices pendingReset := by
  have hreset : (PluginCall.device DEV_RESET 0xFF []).Valid :=
    valid_device (.inr rfl) List.not_mem_nil
  have hconf : (PluginCall.device DEV_CONF 1 []).Valid := valid_device (.inl rfl) List.not_mem_nil
  have hevent : (PluginCall.event 1 keyA [.took 11, .took 11, .took 11, .took 11]).Valid :=
    valid_keyA (by decide) (by decide)
  have hreq₁ : WellAnnounced ([] ++ [.device DEV_RESET 0xFF []]) := by
    refine wellAnnounced_nil.snoc ?_
    rintro _ _ _ ⟨⟩
    exact ⟨nofun, fun _ => UInt32.le_refl _⟩
  have hreq₂ : WellAnnounced ([] ++ [.device DEV_RESET 0xFF []] ++ [.device DEV_CONF 1 []]) := by
    refine hreq₁.snoc ?_
    rintro _ _ _ ⟨⟩
    exact ⟨fun _ => by decide, nofun⟩
  have hreq₃ : WellAnnounced pendingReset := hreq₂.snoc nofun
  have hrun₀ : CallRun KeepsOrder (acceptedSession idlePlugin 5) [] _ := .nil
  obtain ⟨σ₁, h₁⟩ := (device_convergence (by decide) (by decide) hrun₀ wellAnnounced_nil).2
    (.device DEV_RESET 0xFF []) hreset hreq₁ fun h => absurd rfl h
  have hrun₁ : CallRun KeepsOrder (acceptedSession idlePlugin 5)
      ([] ++ [.device DEV_RESET 0xFF []]) σ₁ := .snoc .nil ⟨hreset, fun h => absurd rfl h, h₁⟩
  have horder : KeepsOrder (.device DEV_CONF 1 []) σ₁ := by
    have hqueue : (callStep (acceptedSession idlePlugin 5) (.device DEV_RESET 0xFF [])).map
        (fun σ => σ.plugin.devEvents) = .ok [] := by decide +kernel
    rw [h₁] at hqueue
    have hqueue : σ₁.plugin.devEvents = [] := Except.ok.inj hqueue
    intro _ _ n hn
    dsimp only at hn
    rw [hqueue] at hn
    cases hn
  obtain ⟨σ₂, h₂⟩ := (device_convergence (by decide) (by decide) hrun₁ hreq₁).2
    (.device DEV_CONF 1 []) hconf hreq₂ horder
  have hrun₂ := Run.snoc hrun₁ ⟨hconf, horder, h₂⟩
  obtain ⟨σ₃, h₃⟩ := (device_convergence (by decide) (by decide) hrun₂ hreq₂).2 _ hevent hreq₃
    trivial
  have hrun₃ := Run.snoc hrun₂ ⟨hevent, trivial, h₃⟩
  have houtcome : outcome pendingReset =
      .ok (σ₃.plugin.devEvents, σ₃.plugin.resetall, σ₃.clientDevices) := by
    have hfold : pendingReset.foldlM callStep (acceptedSession idlePlugin 5) = .ok σ₃ :=
      hrun₃.foldlM_eq fun _ _ _ h => h.2.2
    rw [outcome, hfold]
    rfl
  have heval : outcome pendingReset = .ok ([], false, {1}) := by decide +kernel
  rw [houtcome, Except.ok.injEq, Prod.mk.injEq, Prod.mk.injEq] at heval
  obtain ⟨hqueue, hresetall, _⟩ := heval
  exact ⟨σ₃, hrun₃,
    (device_convergence (by decide) (by decide) hrun₃ hreq₃).1 hqueue hresetall⟩

/-- All devices are reset and device 1 is announced while the socket is full, then device 2 while
it is not. -/
def overtakenReset : List PluginCall :=
  [.device DEV_RESET 0xFF [], .device DEV_CONF 1 [],
    .device DEV_CONF 2 [.took 11, .took 11, .took 11]]

/-- The queued announcement of device 1 goes out before the pending reset-all, which undoes it. -/
theorem device_convergence_fails :
    ∃ σ, CallRun (fun _ _ => True) (acceptedSession idlePlugin 5) overtakenReset σ ∧
      WellAnnounced overtakenReset ∧ σ.plugin.devEvents = [] ∧ σ.plugin.resetall = false ∧
      σ.clientDevices ≠ requestedDevices overtakenReset := by
  have heval : outcome overtakenReset = .ok ([], false, {2}) := by decide +kernel
  cases hσ : overtakenReset.foldlM callStep (acceptedSession idlePlugin 5) with
  | error f =>
    rw [outcome, hσ] at heval
    cases heval
  | ok σ =>
    rw [outcome, hσ] at heval
    obtain ⟨hqueue, hrest⟩ := Prod.mk.inj (Except.ok.inj heval)
    obtain ⟨hresetall, hclient⟩ := Prod.mk.inj hrest
    have hvalid : ∀ c ∈ overtakenReset, c.Valid := by
      intro c hc
      simp only [overtakenReset, List.mem_cons, List.not_mem_nil, or_false] at hc
      rcases hc with rfl | rfl | rfl
      · exact valid_device (.inr rfl) (by decide)
      · exact valid_device (.inl rfl) (by decide)
      · exact valid_device (.inl rfl) (by decide)
    have hreq : WellAnnounced ([] ++ [.device DEV_RESET 0xFF []] ++ [.device DEV_CONF 1 []] ++
        [.device DEV_CONF 2 [.took 11, .took 11, .took 11]]) := by
      refine ((wellAnnounced_nil.snoc ?_).snoc ?_).snoc ?_
      · rintro _ _ _ ⟨⟩
        exact ⟨nofun, fun _ => UInt32.le_refl _⟩
      · rintro _ _ _ ⟨⟩
        exact ⟨fun _ => by decide, nofun⟩
      · rintro _ _ _ ⟨⟩
        exact ⟨fun _ => by decide, nofun⟩
    refine ⟨σ, (Run.of_foldlM hvalid hσ).mono fun c σ σ' h => ⟨h.1, trivial, h.2⟩, hreq, hqueue,
      hresetall, ?_⟩
    rw [hclient]
    decide
end InputServer
