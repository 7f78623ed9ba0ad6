import InputServer.SocketHistory

namespace InputServer
open Program
open SockPlugin (Emits Live SameConnection Sent)
set_option autoImplicit true

/-- The effect of an EV_DEV code and value on a set of devices. -/
def deviceFold (D : Finset UInt32) (code : UInt16) (value : UInt32) : Finset UInt32 :=
  if code = DEV_CONF then insert value D
  else if code = DEV_RESET then if value = 0xFF then ∅ else D.erase value
  else D

/-- The devices of a client that has received `rs`. -/
def clientDevices (rs : List EventRecord) : Finset UInt32 :=
  rs.foldl (fun D r => if r.itype = EV_DEV then deviceFold D r.icode r.ivalue else D) ∅

/-- The devices of the daemon after the requests among `cs`. -/
def requestedDevices (cs : List PluginCall) : Finset UInt32 :=
  cs.foldl (fun D c => match c with
    | .device code value _ => deviceFold D code value.toUInt32
    | _ => D) ∅

namespace DevEvent

/-- The device of an entry, as its records name it. -/
def device (dv : DevEvent) : UInt32 :=
  dv.slot.toUInt32

/-- What the records of an entry make of a set of devices. -/
def apply (dv : DevEvent) (B : Finset UInt32) : Finset UInt32 :=
  let B := if dv.remove then B.erase dv.device else B
  if dv.add then insert dv.device B else B

theorem apply_insert (dv : DevEvent) (h : dv.device ≠ d) (B : Finset UInt32) :
    dv.apply (insert d B) = insert d (dv.apply B) := by
  unfold apply
  cases dv.remove with
  | false =>
    cases dv.add with
    | false => rfl
    | true => exact Finset.insert_comm _ _ _
  | true =>
    have he : (insert d B).erase dv.device = insert d (B.erase dv.device) :=
      Finset.erase_insert_of_ne h.symm
    cases dv.add with
    | false => exact he
    | true =>
      change insert dv.device ((insert d B).erase dv.device) = _
      rw [he]
      exact Finset.insert_comm _ _ _

theorem apply_erase (dv : DevEvent) (h : dv.device ≠ d) (B : Finset UInt32) :
    dv.apply (B.erase d) = (dv.apply B).erase d := by
  unfold apply
  cases dv.remove with
  | false =>
    cases dv.add with
    | false => rfl
    | true => exact (Finset.erase_insert_of_ne h).symm
  | true =>
    have he : (B.erase d).erase dv.device = (B.erase dv.device).erase d := Finset.erase_right_comm
    cases dv.add with
    | false => exact he
    | true =>
      change insert dv.device ((B.erase d).erase dv.device) = _
      rw [he]
      exact (Finset.erase_insert_of_ne h).symm

theorem mem_apply (dv : DevEvent) (h : dv.device ≠ d) (B : Finset UInt32) :
    d ∈ dv.apply B ↔ d ∈ B := by
  unfold apply
  cases dv.remove <;> cases dv.add <;> simp [h.symm]

end DevEvent

/-- What replaying the queue, last entry first, makes of a set of devices. -/
def replay (q : List DevEvent) (B : Finset UInt32) : Finset UInt32 :=
  q.foldr DevEvent.apply B

/-- An entry adds a device without removing it first only where the device is absent by then. -/
def Fresh : List DevEvent → Finset UInt32 → Prop
  | [], _ => True
  | dv :: q, B =>
    (dv.add = true → dv.remove = false → dv.device ∉ replay q B) ∧ Fresh q B

theorem replay_snoc (q : List DevEvent) (dv : DevEvent) (B : Finset UInt32) :
    replay (q ++ [dv]) B = replay q (dv.apply B) := by
  rw [replay, List.foldr_append, replay]
  rfl

theorem replay_insert (h : ∀ dv ∈ q, dv.device ≠ d) (B : Finset UInt32) :
    replay q (insert d B) = insert d (replay q B) := by
  induction q with
  | nil => rfl
  | cons dv q ih =>
    have hq := ih fun dv hdv => h dv (List.mem_cons_of_mem _ hdv)
    change dv.apply (replay q (insert d B)) = insert d (dv.apply (replay q B))
    rw [hq, dv.apply_insert (h dv List.mem_cons_self)]

theorem replay_erase (h : ∀ dv ∈ q, dv.device ≠ d) (B : Finset UInt32) :
    replay q (B.erase d) = (replay q B).erase d := by
  induction q with
  | nil => rfl
  | cons dv q ih =>
    have hq := ih fun dv hdv => h dv (List.mem_cons_of_mem _ hdv)
    change dv.apply (replay q (B.erase d)) = (dv.apply (replay q B)).erase d
    rw [hq, dv.apply_erase (h dv List.mem_cons_self)]

theorem mem_replay (h : ∀ dv ∈ q, dv.device ≠ d) (B : Finset UInt32) :
    d ∈ replay q B ↔ d ∈ B := by
  induction q with
  | nil => rfl
  | cons dv q ih =>
    change d ∈ dv.apply (replay q B) ↔ d ∈ B
    rw [dv.mem_apply (h dv List.mem_cons_self), ih fun dv hdv => h dv (List.mem_cons_of_mem _ hdv)]

theorem fresh_snoc {q : List DevEvent} :
    Fresh (q ++ [dv]) B ↔
      Fresh q (dv.apply B) ∧ (dv.add = true → dv.remove = false → dv.device ∉ B) := by
  induction q with
  | nil => exact ⟨fun h => ⟨trivial, h.1⟩, fun h => ⟨h.2, trivial⟩⟩
  | cons dv' q ih =>
    rw [List.cons_append, Fresh, Fresh, replay_snoc, ih, and_assoc]

/-- The queue brings a client that has `B` to `S`. -/
structure Agrees (S B : Finset UInt32) (q : List DevEvent) : Prop where
  single : ∀ dv ∈ q, dv.device ≠ 0xFF
  agree : S = replay q B
  fresh : Fresh q B

theorem Agrees.nil (S : Finset UInt32) : Agrees S S [] :=
  ⟨nofun, rfl, trivial⟩

/-- The removal of the last entry was sent. -/
theorem Agrees.sendRemove (h : Agrees S B (q ++ [dv])) (hr : dv.remove = true) :
    Agrees S (B.erase dv.device) (q ++ [{ dv with remove := false }]) := by
  have happly : DevEvent.apply { dv with remove := false } (B.erase dv.device) = dv.apply B := by
    simp only [DevEvent.apply, hr, if_true, Bool.false_eq_true, if_false, DevEvent.device]
  refine ⟨?_, ?_, ?_⟩
  · intro dv' hdv
    cases List.mem_append.mp hdv with
    | inl hdv => exact h.single dv' (List.mem_append_left _ hdv)
    | inr hdv =>
      obtain rfl := List.mem_singleton.mp hdv
      exact h.single dv List.mem_concat_self
  · rw [h.agree, replay_snoc, replay_snoc, happly]
  · rw [fresh_snoc, happly]
    exact ⟨(fresh_snoc.mp h.fresh).1, fun _ _ => Finset.notMem_erase _ _⟩

/-- The announcement of the last entry was sent. -/
theorem Agrees.sendAdd (h : Agrees S B (q ++ [dv])) (hr : dv.remove = false)
    (ha : dv.add = true) :
    Agrees S (insert dv.device B) (q ++ [{ dv with add := false }]) := by
  have happly : DevEvent.apply { dv with add := false } (insert dv.device B) = dv.apply B := by
    simp only [DevEvent.apply, hr, ha, if_true, Bool.false_eq_true, if_false]
  refine ⟨?_, ?_, ?_⟩
  · intro dv' hdv
    cases List.mem_append.mp hdv with
    | inl hdv => exact h.single dv' (List.mem_append_left _ hdv)
    | inr hdv =>
      obtain rfl := List.mem_singleton.mp hdv
      exact h.single dv List.mem_concat_self
  · rw [h.agree, replay_snoc, replay_snoc, happly]
  · rw [fresh_snoc, happly]
    exact ⟨(fresh_snoc.mp h.fresh).1, nofun⟩

/-- An entry with nothing left to send is dropped. -/
theorem Agrees.pop (h : Agrees S B (q ++ [dv])) (hr : dv.remove = false) (ha : dv.add = false) :
    Agrees S B q := by
  have happly : dv.apply B = B := by
    simp only [DevEvent.apply, hr, ha, Bool.false_eq_true, if_false]
  refine ⟨fun dv' hdv => h.single dv' (List.mem_append_left _ hdv), ?_, ?_⟩
  · rw [h.agree, replay_snoc, happly]
  · have hf := (fresh_snoc.mp h.fresh).1
    rwa [happly] at hf

/-- How an entry that exists takes a request, by what it does to the set it replays to. -/
theorem updateSlot_replay (f : DevEvent → DevEvent) (g : Finset UInt32 → Finset UInt32)
    {slot : Int32} (hslot : ∀ dv, (f dv).device = dv.device)
    (hcomm : ∀ dv : DevEvent, dv.device ≠ slot.toUInt32 → ∀ X, dv.apply (g X) = g (dv.apply X))
    (hmem : ∀ d X, d ≠ slot.toUInt32 → (d ∈ g X ↔ d ∈ X)) {q q' : List DevEvent}
    (hq : updateSlot slot f q = some q') (hfresh : Fresh q B)
    (hf : ∀ dv X, dv.device = slot.toUInt32 →
      (dv.add = true → dv.remove = false → dv.device ∉ X) →
      (slot.toUInt32 ∈ replay q B ↔ slot.toUInt32 ∈ dv.apply X) →
      (f dv).apply X = g (dv.apply X) ∧
        ((f dv).add = true → (f dv).remove = false → (f dv).device ∉ X)) :
    replay q' B = g (replay q B) ∧ Fresh q' B ∧ q'.map DevEvent.device = q.map DevEvent.device := by
  induction q generalizing q' with
  | nil => cases hq
  | cons dv q ih =>
    rw [updateSlot] at hq
    by_cases hdv : dv.slot.toUInt32 = slot.toUInt32
    · rw [if_pos hdv] at hq
      cases hq
      obtain ⟨happly, hfr⟩ := hf dv (replay q B) hdv hfresh.1 Iff.rfl
      exact ⟨happly, ⟨hfr, hfresh.2⟩, by rw [List.map_cons, List.map_cons, hslot]⟩
    · rw [if_neg hdv] at hq
      obtain ⟨q'', hq'', rfl⟩ := Option.map_eq_some_iff.mp hq
      have hsame : slot.toUInt32 ∈ replay (dv :: q) B ↔ slot.toUInt32 ∈ replay q B :=
        dv.mem_apply hdv _
      obtain ⟨hreplay, hfr, hmap⟩ := ih hq'' hfresh.2 (fun dv' X h₁ h₂ h₃ =>
        hf dv' X h₁ h₂ (hsame.trans h₃))
      refine ⟨?_, ⟨?_, hfr⟩, by rw [List.map_cons, List.map_cons, hmap]⟩
      · change dv.apply (replay q'' B) = g (dv.apply (replay q B))
        rw [hreplay, hcomm dv hdv]
      · intro ha hr
        rw [hreplay, hmem dv.device _ hdv]
        exact hfresh.1 ha hr

theorem updateSlot_none {slot : Int32} {f : DevEvent → DevEvent} {q : List DevEvent}
    (h : updateSlot slot f q = none) : ∀ dv ∈ q, dv.device ≠ slot.toUInt32 := by
  induction q with
  | nil => nofun
  | cons dv q ih =>
    rw [updateSlot] at h
    by_cases hdv : dv.slot.toUInt32 = slot.toUInt32
    · rw [if_pos hdv] at h
      cases h
    · rw [if_neg hdv] at h
      intro dv' hmem
      cases List.mem_cons.mp hmem with
      | inl heq => exact heq ▸ hdv
      | inr hmem => exact ih (Option.map_eq_none_iff.mp h) dv' hmem

theorem toUInt8_toUInt32 {v : UInt32} (h : v < 0xFF) : v.toUInt8.toUInt32 = v := by
  have hv : v.toNat < 255 := h
  refine UInt32.toNat_inj.mp ?_
  simp only [UInt8.toNat_toUInt32, UInt32.toNat_toUInt8]
  omega

theorem single_of_map {q q' : List DevEvent} (h : ∀ dv ∈ q, dv.device ≠ 0xFF)
    (hmap : q'.map DevEvent.device = q.map DevEvent.device) : ∀ dv ∈ q', dv.device ≠ 0xFF := by
  intro dv hdv
  have hmem : dv.device ∈ q.map DevEvent.device := hmap ▸ List.mem_map_of_mem hdv
  obtain ⟨dv', hdv', heq⟩ := List.mem_map.mp hmem
  exact heq ▸ h dv' hdv'

theorem single_snoc {q : List DevEvent} (h : ∀ dv ∈ q, dv.device ≠ 0xFF) (dv : DevEvent)
    (hd : dv.device ≠ 0xFF) : ∀ dv' ∈ q ++ [dv], dv'.device ≠ 0xFF := by
  intro dv' hdv
  cases List.mem_append.mp hdv with
  | inl hdv => exact h dv' hdv
  | inr hdv =>
    obtain rfl := List.mem_singleton.mp hdv
    exact hd

theorem fresh_insert {q : List DevEvent} (hq : ∀ dv ∈ q, dv.device ≠ d) (h : Fresh q B) :
    Fresh q (insert d B) := by
  induction q with
  | nil => trivial
  | cons dv q ih =>
    have hq' : ∀ dv ∈ q, dv.device ≠ d := fun dv hdv => hq dv (List.mem_cons_of_mem _ hdv)
    refine ⟨fun ha hr => ?_, ih hq' h.2⟩
    rw [replay_insert hq', Finset.mem_insert, or_iff_right (hq dv List.mem_cons_self)]
    exact h.1 ha hr

theorem fresh_erase {q : List DevEvent} (hq : ∀ dv ∈ q, dv.device ≠ d) (h : Fresh q B) :
    Fresh q (B.erase d) := by
  induction q with
  | nil => trivial
  | cons dv q ih =>
    have hq' : ∀ dv ∈ q, dv.device ≠ d := fun dv hdv => hq dv (List.mem_cons_of_mem _ hdv)
    refine ⟨fun ha hr => ?_, ih hq' h.2⟩
    rw [replay_erase hq']
    exact fun hm => h.1 ha hr (Finset.mem_of_mem_erase hm)

theorem DevEvent.apply_conf {dv : DevEvent} (hdv : dv.device = d) (ha : dv.add = false)
    (X : Finset UInt32) : dv.conf.apply X = insert d (dv.apply X) := by
  have hdv' : dv.slot.toUInt32 = d := hdv
  simp only [conf, apply, device, ha, if_true, Bool.false_eq_true, if_false, hdv']

theorem DevEvent.apply_reset {dv : DevEvent} (hdv : dv.device = d) (X : Finset UInt32)
    (hfresh : dv.add = true → dv.remove = false → dv.device ∉ X) :
    dv.reset.apply X = (dv.apply X).erase d := by
  have hdv' : dv.slot.toUInt32 = d := hdv
  cases ha : dv.add with
  | true =>
    cases hr : dv.remove with
    | true =>
      simp only [reset, apply, device, ha, hr, if_true, Bool.false_eq_true, if_false, hdv',
        Finset.erase_insert_eq_erase, Finset.erase_idem]
    | false =>
      have hX : d ∉ X := hdv ▸ hfresh ha hr
      simp only [reset, apply, device, ha, hr, if_true, Bool.false_eq_true, if_false, hdv',
        Finset.erase_insert hX]
  | false =>
    cases hr : dv.remove with
    | true =>
      simp only [reset, apply, device, ha, hr, if_true, Bool.false_eq_true, if_false, hdv',
        Finset.erase_idem]
    | false =>
      simp only [reset, apply, device, ha, hr, if_true, Bool.false_eq_true, if_false, hdv']

theorem DevEvent.reset_device (dv : DevEvent) : dv.reset.device = dv.device := by
  unfold reset
  split <;> rfl

/-- A queued announcement of a device that is not announced. -/
theorem Agrees.conf {slot : Int32} (h : Agrees S B q) (hnew : slot.toUInt32 ∉ S)
    (hslot : slot.toUInt32 < 0xFF) :
    Agrees (insert slot.toUInt32 S) B ((updateSlot slot .conf q).getD (q ++ [.newConf slot])) := by
  cases hq : updateSlot slot DevEvent.conf q with
  | some q' =>
    obtain ⟨hreplay, hfresh, hmap⟩ := updateSlot_replay DevEvent.conf (insert slot.toUInt32)
      (fun _ => rfl) (fun dv hdv X => dv.apply_insert hdv X)
      (fun d X hd => by rw [Finset.mem_insert, or_iff_right hd]) hq h.fresh
      (by
        intro dv X hdv hfr hmem
        have habsent : slot.toUInt32 ∉ dv.apply X := fun hm => hnew (h.agree ▸ hmem.mpr hm)
        cases ha : dv.add with
        | true =>
          refine absurd ?_ habsent
          simp only [DevEvent.apply, ha, if_true, hdv, Finset.mem_insert_self]
        | false =>
          refine ⟨DevEvent.apply_conf hdv ha X, ?_⟩
          intro _ hr
          have hr' : dv.remove = false := hr
          simp only [DevEvent.apply, ha, hr', Bool.false_eq_true, if_false] at habsent
          exact hdv ▸ habsent)
    exact ⟨single_of_map h.single hmap, by rw [h.agree]; exact hreplay.symm, hfresh⟩
  | none =>
    have hother := updateSlot_none hq
    have hdev : (DevEvent.newConf slot).device = slot.toUInt32 := toUInt8_toUInt32 hslot
    have happly : (DevEvent.newConf slot).apply B = insert slot.toUInt32 B := by
      rw [DevEvent.apply, hdev]
      rfl
    have hB : slot.toUInt32 ∉ B := by
      rw [← mem_replay hother, ← h.agree]
      exact hnew
    refine ⟨single_snoc h.single _ ?_, ?_, ?_⟩
    · rw [hdev]
      exact fun heq => absurd (heq ▸ hslot) (by decide)
    · rw [Option.getD_none, replay_snoc, happly, replay_insert hother, h.agree]
    · rw [Option.getD_none, fresh_snoc, happly, hdev]
      exact ⟨fresh_insert hother h.fresh, fun _ _ => hB⟩

/-- A queued removal. -/
theorem Agrees.reset {slot : Int32} (h : Agrees S B q) (hslot : slot.toUInt32 < 0xFF) :
    Agrees (S.erase slot.toUInt32) B
      ((updateSlot slot .reset q).getD (q ++ [.newReset slot])) := by
  cases hq : updateSlot slot DevEvent.reset q with
  | some q' =>
    obtain ⟨hreplay, hfresh, hmap⟩ := updateSlot_replay DevEvent.reset
      (fun X => X.erase slot.toUInt32) DevEvent.reset_device
      (fun dv hdv X => dv.apply_erase hdv X)
      (fun d X hd => by rw [Finset.mem_erase, and_iff_right hd]) hq h.fresh
      (by
        intro dv X hdv hfr _
        refine ⟨DevEvent.apply_reset hdv X hfr, ?_⟩
        intro ha
        unfold DevEvent.reset at ha
        cases hadd : dv.add with
        | true => simp [hadd] at ha
        | false => simp [hadd] at ha)
    exact ⟨single_of_map h.single hmap, by rw [h.agree]; exact hreplay.symm, hfresh⟩
  | none =>
    have hother := updateSlot_none hq
    have hdev : (DevEvent.newReset slot).device = slot.toUInt32 := toUInt8_toUInt32 hslot
    have happly : (DevEvent.newReset slot).apply B = B.erase slot.toUInt32 := by
      rw [DevEvent.apply, hdev]
      rfl
    refine ⟨single_snoc h.single _ ?_, ?_, ?_⟩
    · rw [hdev]
      exact fun heq => absurd (heq ▸ hslot) (by decide)
    · rw [Option.getD_none, replay_snoc, happly, replay_erase hother, h.agree]
    · rw [Option.getD_none, fresh_snoc, happly]
      exact ⟨fresh_erase hother h.fresh, nofun⟩

end InputServer
