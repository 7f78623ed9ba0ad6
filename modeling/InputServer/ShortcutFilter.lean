import InputServer.ModifierTable
import InputServer.Library.Bitmask
import InputServer.Library.Run
import InputServer.VkbdForward

namespace InputServer
open Program
set_option autoImplicit true

/-- The keys that are held for a shortcut, and the key that it is for. -/
structure Shortcut where
  mods : List UInt32
  action : UInt32

/-- A group of a filter array: its last key is the action. -/
def Shortcut.ofGroup (group : List UInt32) : Option Shortcut :=
  group.getLast?.map fun action => { mods := group.dropLast, action := action }

/-- The shortcuts of a filter array, whose groups are separated by zeros and may be empty. -/
def shortcuts (filter : List UInt32) : List Shortcut :=
  (filter.splitOn 0).filterMap Shortcut.ofGroup

/-- An entry of `keylist` for a shortcut. -/
structure KeyPair.For (table : List UInt32) (kp : KeyPair) (s : Shortcut) : Prop where
  keycode : kp.keycode = s.action
  modBits : Bitmask.Codes table {k | k ∈ s.mods} kp.modBits
  stored : ∀ k ∈ s.mods, k ∈ table

theorem ofGroup_concat (acc : List UInt32) (k : UInt32) :
    Shortcut.ofGroup (acc ++ [k]) = some { mods := acc, action := k } := by
  simp [Shortcut.ofGroup]

/-- The groups of a rest of the array, when `acc` was read of the first. -/
def groupsFrom (acc ks : List UInt32) : List Shortcut :=
  ((ks.splitOn 0).modifyHead (acc ++ ·)).filterMap Shortcut.ofGroup

theorem groupsFrom_nil (filter : List UInt32) : groupsFrom [] filter = shortcuts filter := by
  unfold groupsFrom shortcuts
  cases filter.splitOn 0 <;> rfl

theorem groupsFrom_zero (ks : List UInt32) : groupsFrom [] (0 :: ks) = groupsFrom [] ks := by
  rw [groupsFrom_nil, groupsFrom_nil]
  unfold shortcuts
  rw [List.splitOn_cons_eq_if_modifyHead, if_pos (beq_self_eq_true 0)]
  rfl

theorem groupsFrom_action (acc : List UInt32) (hk : k ≠ 0) (hlast : ks.headD 0 = 0) :
    groupsFrom acc (k :: ks) = { mods := acc, action := k } :: groupsFrom [] ks := by
  have hfalse : ¬(k == 0) = true := by simpa using hk
  unfold groupsFrom
  rw [List.splitOn_cons_eq_if_modifyHead, if_neg hfalse]
  cases ks with
  | nil => exact List.filterMap_cons_some (ofGroup_concat acc k)
  | cons k' ks =>
    have hk' : k' = 0 := hlast
    subst hk'
    rw [List.splitOn_cons_eq_if_modifyHead, if_pos (beq_self_eq_true 0)]
    exact List.filterMap_cons_some (ofGroup_concat acc k)

theorem groupsFrom_modifier (acc : List UInt32) (hk : k ≠ 0) :
    groupsFrom acc (k :: ks) = groupsFrom (acc ++ [k]) ks := by
  have hfalse : ¬(k == 0) = true := by simpa using hk
  unfold groupsFrom
  rw [List.splitOn_cons_eq_if_modifyHead, if_neg hfalse, List.modifyHead_modifyHead]
  congr 2
  funext group
  exact List.append_cons acc k group

/-- A key that the table took in has a position below `MAX_MODS`. -/
theorem addmod_index (hfits : (addmod key mods).2.length < MAX_MODS) :
    ∃ i, (addmod key mods).1 = some i ∧ (addmod key mods).2[i]? = some key ∧ i < MAX_MODS := by
  rw [addmod_eq] at hfits ⊢
  cases hi : (Intern.intern MAX_MODS key mods).1 with
  | none =>
    obtain ⟨hsame, hfull⟩ := Intern.intern_index_none hi
    rw [hsame] at hfits
    exact absurd hfits (Nat.not_lt_of_le hfull)
  | some i =>
    have hentry := Intern.intern_index hi
    obtain ⟨hlt, _⟩ := List.getElem?_eq_some_iff.mp hentry
    exact ⟨i, rfl, hentry, Nat.lt_trans hlt hfits⟩

theorem parseFilter_for (ks : List UInt32) {bits : UInt32} {mods acc : List UInt32}
    (hmods : mods.Nodup) (hbits : Bitmask.Codes mods {k | k ∈ acc} bits)
    (hacc : ∀ k ∈ acc, k ∈ mods) (hopen : ks.headD 0 = 0 → acc = [])
    (hfits : (parseFilter ks bits mods).2.length < MAX_MODS) :
    List.Forall₂ (KeyPair.For (parseFilter ks bits mods).2) (parseFilter ks bits mods).1
      (groupsFrom acc ks) := by
  induction ks generalizing bits mods acc with
  | nil =>
    rw [hopen rfl]
    exact .nil
  | cons k ks ih =>
    by_cases hk : k = 0
    · subst hk
      have hnone : acc = [] := hopen rfl
      subst hnone
      have hsame : parseFilter (0 :: ks) bits mods = parseFilter ks bits mods := if_pos rfl
      rw [hsame] at hfits ⊢
      rw [groupsFrom_zero]
      exact ih hmods hbits hacc (fun _ => rfl) hfits
    · by_cases hlast : ks.headD 0 = 0
      · have haction : parseFilter (k :: ks) bits mods =
            ({ modBits := bits, keycode := k } :: (parseFilter ks 0 mods).1,
              (parseFilter ks 0 mods).2) := by
          rw [parseFilter, if_neg hk, if_pos hlast]
        rw [haction] at hfits ⊢
        rw [groupsFrom_action acc hk hlast]
        have htable := parseFilter_table ks 0 mods
        have hpre : mods <+: (parseFilter ks 0 mods).2 := by
          rw [htable]
          exact Intern.internAll_extends _ _
        have hnodup : (parseFilter ks 0 mods).2.Nodup := by
          rw [htable]
          exact Intern.internAll_nodup hmods _
        have hempty : Bitmask.Codes mods {k | k ∈ ([] : List UInt32)} 0 := by
          simpa using Bitmask.Codes.empty (t := mods)
        refine .cons ⟨rfl, hbits.extend hpre hnodup hacc, ?_⟩
          (ih hmods hempty nofun (fun _ => rfl) hfits)
        intro x hx
        exact hpre.subset (hacc x hx)
      · have hmodifier : parseFilter (k :: ks) bits mods =
            parseFilter ks (bits ||| modifierBit (addmod k mods).1) (addmod k mods).2 := by
          rw [parseFilter, if_neg hk, if_neg hlast]
        rw [hmodifier] at hfits ⊢
        rw [groupsFrom_modifier acc hk]
        have hpre : mods <+: (addmod k mods).2 := Intern.intern_extends k mods
        have hnodup : (addmod k mods).2.Nodup := Intern.intern_nodup hmods k
        have hroom : (addmod k mods).2.length < MAX_MODS := by
          apply Nat.lt_of_le_of_lt _ hfits
          rw [parseFilter_table]
          exact (Intern.internAll_extends _ _).length_le
        obtain ⟨i, hi, hentry, hsmall⟩ := addmod_index hroom
        have hkmem : k ∈ (addmod k mods).2 := List.mem_of_getElem? hentry
        have hcodes : Bitmask.Codes (addmod k mods).2 {x | x ∈ acc ++ [k]}
            (bits ||| modifierBit (addmod k mods).1) := by
          have hset : {x | x ∈ acc ++ [k]} = insert k {x | x ∈ acc} := by
            ext x
            simp [or_comm]
          rw [hset, hi]
          exact (hbits.extend hpre hnodup hacc).insert hnodup hentry
            (Nat.lt_trans hsmall (by decide))
        apply ih hnodup hcodes
        · intro x hx
          obtain hx | hx := List.mem_append.mp hx
          · exact hpre.subset (hacc x hx)
          · rw [List.mem_singleton.mp hx]
            exact hkmem
        · intro hhead
          exact absurd hhead hlast
        · exact hfits

/-- The last event of the key had a value other than 0. -/
def isHeld (es : List InputEvent) (k : UInt32) : Bool :=
  (es.filter fun e => e.code.toUInt32 = k).getLast?.any fun e => e.value ≠ 0

/-- The modifiers of the table that are held after the events. -/
def held (table : List UInt32) (es : List InputEvent) : Set UInt32 :=
  {k | k ∈ table ∧ isHeld es k = true}

theorem isHeld_snoc (es : List InputEvent) (e : InputEvent) (k : UInt32) :
    isHeld (es ++ [e]) k = if e.code.toUInt32 = k then decide (e.value ≠ 0) else isHeld es k := by
  unfold isHeld
  rw [List.filter_append]
  by_cases hk : e.code.toUInt32 = k
  · rw [if_pos hk, List.filter_cons_of_pos (by simpa using hk)]
    simp
  · rw [if_neg hk, List.filter_cons_of_neg (by simpa using hk), List.filter_nil, List.append_nil]

theorem held_snoc_other (h : e.code.toUInt32 ∉ table) (es : List InputEvent) :
    held table (es ++ [e]) = held table es := by
  ext k
  simp only [held, Set.mem_ofPred_eq, isHeld_snoc]
  constructor
  · rintro ⟨hk, hheld⟩
    rw [if_neg (by rintro rfl; exact h hk)] at hheld
    exact ⟨hk, hheld⟩
  · rintro ⟨hk, hheld⟩
    rw [if_neg (by rintro rfl; exact h hk)]
    exact ⟨hk, hheld⟩

theorem held_snoc_down (h : e.code.toUInt32 ∈ table) (hdown : e.value ≠ 0) (es : List InputEvent) :
    held table (es ++ [e]) = insert e.code.toUInt32 (held table es) := by
  ext k
  simp only [held, Set.mem_ofPred_eq, isHeld_snoc, Set.mem_insert_iff]
  by_cases hk : e.code.toUInt32 = k
  · subst hk
    simp [h, hdown]
  · simp [hk, Ne.symm hk]

theorem held_snoc_up (hup : e.value = 0) (es : List InputEvent) :
    held table (es ++ [e]) = held table es \ {e.code.toUInt32} := by
  ext k
  simp only [held, Set.mem_ofPred_eq, isHeld_snoc, Set.mem_sdiff, Set.mem_singleton_iff]
  by_cases hk : e.code.toUInt32 = k
  · subst hk
    simp [hup]
  · simp [hk, Ne.symm hk]

/-- `keyb_modbits` codes the modifiers that are held. -/
theorem trackModifier_codes {bits : UInt32} (ht : table.Nodup) (hlength : table.length ≤ MAX_MODS)
    (h : Bitmask.Codes table (held table es) bits) (e : InputEvent) :
    Bitmask.Codes table (held table (es ++ [e])) (trackModifier table e bits) := by
  unfold trackModifier
  cases hfind : table.findIdx? (· = e.code.toUInt32) with
  | none =>
    have hnone : e.code.toUInt32 ∉ table := by
      intro hmem
      have hne := List.findIdx?_eq_none_iff.mp hfind _ hmem
      simp at hne
    rw [held_snoc_other hnone]
    exact h
  | some i =>
    obtain ⟨hi, hk, _⟩ := List.findIdx?_eq_some_iff_getElem.mp hfind
    have hentry : table[i]? = some e.code.toUInt32 := by
      rw [List.getElem?_eq_getElem hi]
      simpa using hk
    have hmem : e.code.toUInt32 ∈ table := List.mem_of_getElem? hentry
    have hsmall : i < 32 := Nat.lt_of_lt_of_le hi (Nat.le_trans hlength (by decide))
    by_cases hdown : e.value ≠ 0
    · rw [held_snoc_down hmem hdown]
      dsimp only
      rw [if_pos hdown]
      exact h.insert ht hentry hsmall
    · rw [held_snoc_up (not_not.mp hdown)]
      dsimp only
      rw [if_neg hdown]
      exact h.remove ht hentry hsmall

/-- An entry of the list is for the key with the modifiers of the set held. -/
def KeyTaken (keylist : List KeyPair) (table : List UInt32) (S : Set UInt32) (code : UInt16) :
    Prop :=
  ∃ kp ∈ keylist, kp.keycode = code.toUInt32 ∧ Bitmask.Codes table S kp.modBits

theorem find_taken_iff (keylist : List KeyPair) {bits : UInt32}
    (hbits : Bitmask.Codes table S bits) (code : UInt16) :
    (keylist.find? fun kp => kp.keycode = code.toUInt32 ∧ kp.modBits = bits).isSome = true ↔
      KeyTaken keylist table S code := by
  rw [List.find?_isSome]
  constructor
  · rintro ⟨kp, hkp, hfound⟩
    obtain ⟨hkeycode, hmask⟩ := of_decide_eq_true hfound
    rw [← hmask] at hbits
    exact ⟨kp, hkp, hkeycode, hbits⟩
  · rintro ⟨kp, hkp, hkeycode, hcodes⟩
    refine ⟨kp, hkp, decide_eq_true ⟨hkeycode, Bitmask.eq_of_testBit ?_⟩⟩
    intro i
    rw [Bool.eq_iff_iff, hcodes i, hbits i]

def keyEvent (value : Int32) (code : UInt16) : InputEvent :=
  { type := EV_KEY, code := code, value := value }

/-- What `send_keypair` is to send: the modifiers and the key pressed, then released. -/
def keypairEvents (mods : List UInt16) (key : UInt16) : List InputEvent :=
  mods.map (keyEvent 1) ++ [keyEvent 1 key, keyEvent 0 key] ++ mods.map (keyEvent 0)

section
variable {F : Type}

/-- An event is handed to `input_send`, and where that sends it to a vkbd, the vkbd gets it. -/
structure Delivered (d : DomPtr) (e : InputEvent) (w w' : World F) : Prop where
  sent : ∃ e', inputSend (some d) INPUTSLOT_DEFAULT e w = .ok (e', w')
  vkbd : w.plug.plugin d = false → (w.domains d).isPvDomain = true →
    w'.log = w.log ++ [.vkbd d e]

/-- The events are delivered one after the other, up to one with which the plugin is lost that had
the domain. -/
inductive Got (d : DomPtr) : List InputEvent → World F → World F → Prop where
  | nil : Got d [] w w
  | cons : Delivered d e w w₁ → Got d es w₁ w' → Got d (e :: es) w w'
  | lost : Delivered d e w w₁ → w.plug.plugin d = true → w₁.plug.plugin d = false →
      Got d (e :: es) w w'

/-- `input_send` passes a key on to the domain: it is no PV domain, or the plugin's, or
`demultitouch` follows slot 0. -/
def PassesKeys (d : DomPtr) (w : World F) : Prop :=
  w.plug.plugin d = true ∨ (w.domains d).isPvDomain = false ∨ w.multitouch.slot = 0

/-- An entry, but for what `input_send` may change of it. -/
def Domain.unsent (x : Domain F) : Domain F :=
  { x with lastDevslot := 0, keyboardLedCode := 0 }

/-- What `input_send` leaves as it is. -/
structure SendFrame (w w' : World F) : Prop where
  routing : w'.routing = w.routing
  domains : ∀ d, (w'.domains d).unsent = (w.domains d).unsent
  types : w'.types = w.types

instance : IsPreorder (World F) SendFrame where
  refl _ := ⟨rfl, fun _ => rfl, rfl⟩
  trans _ _ _ h h' :=
    ⟨h'.routing.trans h.routing, fun d => (h'.domains d).trans (h.domains d),
      h'.types.trans h.types⟩

section
variable {w w' : World F}

/-- A field that `input_send` does not change. -/
theorem SendFrame.field {β : Type} (h : SendFrame w w') (g : Domain F → β)
    (hg : ∀ x : Domain F, g x.unsent = g x) (d : DomPtr) :
    g (w'.domains d) = g (w.domains d) := by
  rw [← hg, h.domains, hg]

theorem SendFrame.divertInfo (h : SendFrame w w') (d : DomPtr) :
    (w'.domains d).divertInfo = (w.domains d).divertInfo :=
  h.field Domain.divertInfo (fun _ => rfl) d

theorem SendFrame.isPvDomain (h : SendFrame w w') (d : DomPtr) :
    (w'.domains d).isPvDomain = (w.domains d).isPvDomain :=
  h.field Domain.isPvDomain (fun _ => rfl) d

theorem SendFrame.uuid (h : SendFrame w w') (d : DomPtr) :
    (w'.domains d).uuid = (w.domains d).uuid :=
  h.field Domain.uuid (fun _ => rfl) d

end

abbrev Frames (m : WorldM F α) (w : World F) : Prop :=
  Moves (fun _ => True) SendFrame m w

theorem frames_modifyDomain (d : DomPtr) {f : Domain F → Domain F} (w : World F)
    (hf : ∀ x, (f x).unsent = x.unsent) : Frames (modifyDomain d f) w := by
  apply moves_modify
  intro _
  refine ⟨trivial, rfl, ?_, rfl⟩
  intro a
  by_cases had : a = d
  · rw [had]
    change (Function.update w.domains d _ d).unsent = _
    rw [Function.update_self, hf]
  · change (Function.update w.domains d _ a).unsent = _
    rw [Function.update_of_ne had]

theorem frames_happens (h : Happening) (w : World F) : Frames (happens h) w :=
  moves_modify fun _ => ⟨trivial, rfl, fun _ => rfl, rfl⟩

theorem frames_onPlug (m : SockM α) (w : World F) : Frames (onPlug m) w := by
  intro _
  unfold onPlug
  rw [wlp_zoom]
  intro a p _
  exact ⟨trivial, ⟨rfl, fun _ => rfl, rfl⟩, trivial⟩

theorem frames_dom0InputEvent (d : DomPtr) (source : Source) (e : InputEvent) (w : World F) :
    Frames (dom0InputEvent d source e) w := by
  apply yields_get
  intro _
  cases (w.domains d).client with
  | none => exact moves_pure _
  | some guest => exact frames_happens _ w

theorem frames_sendToVkbd (d : DomPtr) (fuel : Nat) (e : InputEvent) (w : World F) :
    Frames (sendToVkbd d fuel e) w := by
  induction fuel generalizing e w with
  | zero => exact yields_throw _
  | succ fuel ih =>
    unfold sendToVkbd
    apply yields_get
    intro _
    apply yields_bind
    · intro _
      rw [wlp_set]
      exact ⟨trivial, ⟨rfl, fun _ => rfl, rfl⟩, trivial⟩
    intro _ w₁ _ _
    apply yields_ite
    · intro _
      exact moves_pure _
    intro _
    have hsend : Frames (xenVkbdSendEvent d (demultitouch w.multitouch e).event) w₁ := by
      apply yields_bind
      · apply yields_ite
        · intro _
          exact moves_pure _
        · intro _
          exact frames_modifyDomain d w₁ fun _ => rfl
      intro _ w₂ _ _
      exact frames_happens _ w₂
    apply yields_bind hsend
    intro _ w₂ _ _
    apply yields_ite
    · intro _
      exact ih _ w₂
    · intro _
      exact moves_pure _

theorem frames_inputSend (d : Option DomPtr) (slot : Int32) (e : InputEvent) (w : World F) :
    Frames (inputSend d slot e) w := by
  apply yields_get
  intro _
  cases d with
  | none => exact moves_pure _
  | some d =>
    apply yields_ite
    · intro _
      apply yields_bind (frames_onPlug _ w)
      intro _ w₁ _ _
      exact moves_pure _
    intro _
    apply yields_ite
    · intro _
      exact frames_sendToVkbd d 3 e w
    intro _
    have hslot : Frames (selectDevslot d slot) w := by
      apply yields_get
      intro _
      apply yields_ite
      · intro _
        have hset : Frames (modifyDomain d fun x => { x with lastDevslot := slot }) w :=
          frames_modifyDomain d w fun _ => rfl
        apply yields_bind hset
        intro _ w₁ _ _
        apply yields_get
        intro _
        exact frames_dom0InputEvent d _ _ w₁
      · intro _
        exact moves_pure _
    apply yields_bind hslot
    intro _ w₁ _ _
    apply yields_bind (frames_dom0InputEvent d _ e w₁)
    intro _ w₂ _ _
    exact moves_pure _

end

section
variable {F : Type} {d : DomPtr}

theorem dom0InputEvent_multitouch (source : Source) (e : InputEvent) (w : World F) :
    wlp (dom0InputEvent d source e) (fun _ w' => w'.multitouch = w.multitouch) w := by
  unfold dom0InputEvent happens
  rw [wlp_bind, wlp_get]
  cases (w.domains d).client with
  | none => exact (wlp_pure _ _ w).mpr rfl
  | some guest => exact (wlp_modify _ _ w).mpr rfl

theorem selectDevslot_multitouch (slot : Int32) (w : World F) :
    wlp (selectDevslot d slot) (fun _ w' => w'.multitouch = w.multitouch) w := by
  unfold selectDevslot modifyDomain Input.sendSlot
  rw [wlp_bind, wlp_get]
  apply wlp_ite
  · intro _
    rw [wlp_bind, wlp_modify, wlp_bind, wlp_get]
    exact dom0InputEvent_multitouch _ _ _
  · intro _
    exact (wlp_pure _ _ w).mpr rfl

theorem sendToVkbd_key {w : World F} (hidle : w.multitouch.draining = false)
    (hslot : w.multitouch.slot = 0) (he : e.type = EV_KEY) :
    wlp (sendToVkbd d 3 e) (fun e' _ => e' = e) w := by
  have hsyn : ¬e.type = EV_SYN := by rw [he]; decide
  have habs : ¬e.type = EV_ABS := by rw [he]; decide
  have hpass : demultitouch w.multitouch e =
      ⟨.sendEvent, e, { w.multitouch with hadSlot0 := true }⟩ := by
    rw [demultitouch, if_neg (by simp [hidle, hslot]), if_neg hsyn, if_neg habs]
  unfold sendToVkbd
  rw [wlp_bind, wlp_get, wlp_bind, wlp_set, hpass]
  dsimp only
  rw [if_neg (fun h => by cases h), wlp_bind]
  intro _ w' _
  rw [if_neg (fun h => by cases h), wlp_pure]

/-- Where keys are passed on, `input_send` leaves a key as it is. -/
theorem inputSend_key {w : World F} (h : PassesKeys d w) (hidle : w.multitouch.draining = false)
    (he : e.type = EV_KEY) :
    wlp (inputSend (some d) INPUTSLOT_DEFAULT e) (fun e' w' => e' = e ∧ Delivered d e w w' ∧
      w'.multitouch.draining = false ∧
      (w.plug.plugin d = true ∧ w'.plug.plugin d = false ∨ PassesKeys d w')) w := by
  intro e' w' hrun
  have hframe := (frames_inputSend (some d) INPUTSLOT_DEFAULT e w trivial e' w' hrun).2.1
  have hsent : ∃ e', inputSend (some d) INPUTSLOT_DEFAULT e w = .ok (e', w') := ⟨e', hrun⟩
  unfold inputSend at hrun
  rw [bind_ok (get_apply w)] at hrun
  change (if w.plug.plugin d = true then _ else _ : WorldM F InputEvent) w = _ at hrun
  by_cases hplug : w.plug.plugin d = true
  · rw [if_pos hplug] at hrun
    obtain ⟨_, w₁, hplugrun, hpure⟩ := run_bind hrun
    obtain ⟨p, _, rfl⟩ := zoom_ok hplugrun
    cases hpure
    refine ⟨rfl, ⟨hsent, fun h => absurd hplug (by simp [h])⟩, hidle, ?_⟩
    by_cases hlost : p.plugin d = true
    · exact .inr (.inl hlost)
    · exact .inl ⟨hplug, Bool.not_eq_true _ ▸ hlost⟩
  · rw [if_neg hplug] at hrun
    have hfree : w.plug.plugin d = false := Bool.not_eq_true _ ▸ hplug
    by_cases hpv : (w.domains d).isPvDomain = true
    · rw [if_pos hpv] at hrun
      have hslot : w.multitouch.slot = 0 := by
        obtain h | h | h := h
        · exact absurd h hplug
        · rw [hpv] at h
          cases h
        · exact h
      have hplain := drain_plain (e := e) hidle hslot (by rw [he]; decide) (by rw [he]; decide)
      have hforwarded := (sendToVkbd_forwards d hplain).wlp e' w' hrun
      refine ⟨sendToVkbd_key hidle hslot he e' w' hrun, ⟨hsent, fun _ _ => hforwarded.log⟩, ?_, ?_⟩
      · rw [hforwarded.multitouch]
        exact hidle
      · refine .inr (.inr (.inr ?_))
        rw [hforwarded.multitouch]
        exact hslot
    · rw [if_neg hpv] at hrun
      obtain ⟨_, w₁, hselect, hrun⟩ := run_bind hrun
      obtain ⟨_, w₂, hsend, hpure⟩ := run_bind hrun
      cases hpure
      have hmulti : w'.multitouch = w.multitouch :=
        (dom0InputEvent_multitouch _ _ w₁ _ _ hsend).trans
          (selectDevslot_multitouch _ w _ _ hselect)
      refine ⟨rfl, ⟨hsent, fun _ h => absurd h hpv⟩, ?_, ?_⟩
      · rw [hmulti]
        exact hidle
      · refine .inr (.inr (.inl ?_))
        rw [hframe.isPvDomain]
        exact Bool.not_eq_true _ ▸ hpv

/-- One key sent, and what is sent after it. -/
theorem sendKey_got {k : InputEvent → WorldM F α} {w : World F} (h : PassesKeys d w)
    (hidle : w.multitouch.draining = false) (he : e.type = EV_KEY)
    (hk : ∀ w₁, PassesKeys d w₁ → w₁.multitouch.draining = false →
      wlp (k e) (fun _ w' => Got d es w₁ w') w₁) :
    wlp (inputSend (some d) INPUTSLOT_DEFAULT e >>= k) (fun _ w' => Got d (e :: es) w w') w := by
  rw [wlp_bind]
  refine wlp_mono (inputSend_key h hidle he) ?_
  rintro e' w₁ ⟨rfl, hdelivered, hidle₁, ⟨hplug, hlost⟩ | hpasses⟩
  · intro a w' _
    exact .lost hdelivered hplug hlost
  · exact wlp_mono (hk w₁ hpasses hidle₁) fun _ w' hgot => .cons hdelivered hgot

theorem sendCodes_got {k : InputEvent → WorldM F α} {w : World F} (h : PassesKeys d w)
    (hidle : w.multitouch.draining = false) (he : e.type = EV_KEY)
    (hk : ∀ e' w₁, PassesKeys d w₁ → w₁.multitouch.draining = false → e'.type = EV_KEY →
      e'.value = e.value → wlp (k e') (fun _ w' => Got d es w₁ w') w₁) :
    wlp (sendCodes d codes e >>= k)
      (fun _ w' => Got d (codes.map (keyEvent e.value) ++ es) w w') w := by
  induction codes generalizing e w with
  | nil => exact hk e w h hidle he rfl
  | cons code codes ih =>
    have hcode : { e with code := code } = keyEvent e.value code := by
      unfold keyEvent
      rw [← he]
    unfold sendCodes
    rw [bind_assoc, hcode]
    apply sendKey_got h hidle rfl
    intro w₁ h₁ hidle₁
    exact ih h₁ hidle₁ rfl hk

theorem sendKeypair_got {kp : KeyPair} {dv : DivertInfo} {w : World F} (h : PassesKeys d w)
    (hidle : w.multitouch.draining = false) :
    wlp (sendKeypair kp dv d) (fun _ w' => Got d
      (keypairEvents (modifierCodes kp.modBits dv.modifers) kp.keycode.toUInt16) w w') w := by
  unfold sendKeypair keypairEvents
  rw [List.append_assoc]
  apply sendCodes_got h hidle rfl
  intro e w₁ h₁ hidle₁ he hvalue
  have hvalue : e.value = 1 := hvalue
  have hpress : { e with code := kp.keycode.toUInt16 } = keyEvent 1 kp.keycode.toUInt16 := by
    unfold keyEvent
    rw [← he, ← hvalue]
  rw [hpress]
  apply sendKey_got h₁ hidle₁ rfl
  intro w₂ h₂ hidle₂
  apply sendKey_got h₂ hidle₂ rfl
  intro w₃ h₃ hidle₃
  rw [← List.append_nil (List.map _ _)]
  apply sendCodes_got h₃ hidle₃ rfl
  intro _ w₄ _ _ _ _
  exact (wlp_pure _ _ w₄).mpr .nil

/-- What a vkbd gets in place of a key under another slot. -/
theorem delivered_other {w : World F} (hplug : w.plug.plugin d = false)
    (hpv : (w.domains d).isPvDomain = true) (hidle : w.multitouch.draining = false)
    (hslot : w.multitouch.slot ≠ 0) (he : e.type = EV_KEY) (h : Delivered d e w w') :
    w.multitouch.deferpressed.replaces = [e] ∧ w'.plug.plugin d = false ∧
      (w'.domains d).isPvDomain = true ∧ w'.multitouch.draining = false ∧
      w'.multitouch.slot ≠ 0 ∧
      w'.multitouch.deferpressed = w.multitouch.deferpressed.replaced := by
  have hforwarded := inputSend_forwards INPUTSLOT_DEFAULT hplug hpv (drain_other (e := e) hidle hslot)
  obtain ⟨e', hrun⟩ := h.sent
  have hgot := hforwarded.wlp e' w' hrun
  have hlog := h.vkbd hplug hpv
  rw [hgot.log] at hlog
  have hout := List.append_cancel_left hlog
  have hinj : Function.Injective (Happening.vkbd d) := by
    intro a b hab
    cases hab
    rfl
  refine ⟨List.map_injective_iff.mpr hinj hout, ?_, ?_, ?_, ?_, ?_⟩
  · rw [hgot.plug]
    exact hplug
  · rw [hgot.pv]
    exact hpv
  · rw [hgot.multitouch]
  · rw [hgot.multitouch]
    change (w.multitouch.follow e).slot ≠ 0
    have habs : ¬e.type = EV_ABS := by rw [he]; decide
    have hsyn : ¬e.type = EV_SYN := by rw [he]; decide
    rw [follow_slot hslot, followedSlot, if_neg fun h => habs h.1, if_neg fun h => hsyn h.1,
      if_neg fun h => hsyn h.1]
    exact hslot
  · rw [hgot.multitouch]

/-- Two keys are not both passed on under another slot. -/
theorem got_passes {w : World F} (hidle : w.multitouch.draining = false)
    (hkeys : ∀ e ∈ e₁ :: e₂ :: es, e.type = EV_KEY) (h : Got d (e₁ :: e₂ :: es) w w') :
    PassesKeys d w := by
  by_contra hother
  have hplug : w.plug.plugin d = false := by
    by_contra hplug
    exact hother (.inl (Bool.not_eq_false _ ▸ hplug))
  have hpv : (w.domains d).isPvDomain = true := by
    by_contra hpv
    exact hother (.inr (.inl (Bool.not_eq_true _ ▸ hpv)))
  have hslot : w.multitouch.slot ≠ 0 := fun hslot => hother (.inr (.inr hslot))
  have he₁ : e₁.type = EV_KEY := hkeys e₁ List.mem_cons_self
  have he₂ : e₂.type = EV_KEY := hkeys e₂ (List.mem_cons_of_mem _ List.mem_cons_self)
  cases h with
  | lost _ hlost _ =>
    rw [hplug] at hlost
    cases hlost
  | cons hfirst hrest =>
    rename_i w₁
    obtain ⟨hreplaces, hplug₁, hpv₁, hidle₁, hslot₁, hdefer₁⟩ :=
      delivered_other hplug hpv hidle hslot he₁ hfirst
    obtain ⟨w₂, hsecond⟩ : ∃ w₂, Delivered d e₂ w₁ w₂ := by
      cases hrest with
      | lost hsecond _ _ => exact ⟨_, hsecond⟩
      | cons hsecond _ => exact ⟨_, hsecond⟩
    have hreplaces₂ := (delivered_other hplug₁ hpv₁ hidle₁ hslot₁ he₂ hsecond).1
    rw [hdefer₁] at hreplaces₂
    cases hdefer : w.multitouch.deferpressed with
    | nope =>
      rw [hdefer] at hreplaces
      cases hreplaces
    | sendSync =>
      rw [hdefer] at hreplaces₂
      cases hreplaces₂
    | sendLeft =>
      rw [hdefer] at hreplaces₂
      cases hreplaces₂
      cases he₂
    | sendLeftUp =>
      rw [hdefer] at hreplaces₂
      cases hreplaces₂
      cases he₂

end

/-- The table that the calls of a domain leave. -/
def tableAfter (calls : List FilterCall) : List UInt32 :=
  Intern.internAll MAX_MODS (acceptedModifiers calls) freshDivert.modifers

/-- The divert info of a domain whose last accepted call, behind `calls`, had the filter. -/
structure DivertInfo.Filters (dv : DivertInfo) (calls : List FilterCall) (filter : List UInt32) :
    Prop where
  keylist : dv.keylist = some (parseFilter filter 0 (tableAfter calls)).1
  modifers : dv.modifers = (parseFilter filter 0 (tableAfter calls)).2

/-- The modifiers of the calls, of the filter and the four that are always there fit behind the
length in `modifers`. -/
def Fits (calls : List FilterCall) (filter : List UInt32) : Prop :=
  (freshDivert.modifers ++ acceptedModifiers calls ++ modifiersOf filter).toFinset.card < MAX_MODS

/-- A shortcut of the filter has the key as its action and the set as its modifiers. -/
def Fires (filter : List UInt32) (S : Set UInt32) (code : UInt16) : Prop :=
  ∃ s ∈ shortcuts filter, s.action = code.toUInt32 ∧ {k | k ∈ s.mods} = S

section
variable {dv : DivertInfo}

theorem DivertInfo.Filters.table_eq (h : dv.Filters calls filter) :
    dv.modifers = Intern.internAll MAX_MODS (acceptedModifiers calls ++ modifiersOf filter)
      freshDivert.modifers := by
  rw [h.modifers, parseFilter_table, Intern.internAll_append]
  rfl

theorem DivertInfo.Filters.nodup (h : dv.Filters calls filter) : dv.modifers.Nodup := by
  rw [h.table_eq]
  exact Intern.internAll_nodup (by decide) _

theorem DivertInfo.Filters.length_lt (h : dv.Filters calls filter) (hfits : Fits calls filter) :
    dv.modifers.length < MAX_MODS := by
  rw [h.table_eq, Intern.internAll_length_lt_iff (by decide), ← List.append_assoc]
  exact hfits

theorem DivertInfo.Filters.for (h : dv.Filters calls filter) (hfits : Fits calls filter) :
    List.Forall₂ (KeyPair.For dv.modifers) (parseFilter filter 0 (tableAfter calls)).1
      (shortcuts filter) := by
  have hempty : Bitmask.Codes (tableAfter calls) {k | k ∈ ([] : List UInt32)} 0 := by
    simpa using Bitmask.Codes.empty (t := tableAfter calls)
  have hnodup : (tableAfter calls).Nodup := Intern.internAll_nodup (by decide) _
  have hlength := h.length_lt hfits
  rw [h.modifers] at hlength
  have hfor := parseFilter_for filter hnodup hempty nofun (fun _ => rfl) hlength
  rw [groupsFrom_nil, ← h.modifers] at hfor
  exact hfor

theorem DivertInfo.Filters.length_le (h : dv.Filters calls filter) :
    dv.modifers.length ≤ MAX_MODS := by
  rw [h.table_eq]
  exact Intern.internAll_length_le (by decide) _

theorem forall₂_exists_right {R : α → β → Prop} (h : List.Forall₂ R l l') (ha : a ∈ l) :
    ∃ b ∈ l', R a b := by
  induction h with
  | nil => cases ha
  | cons hR _ ih =>
    obtain rfl | ha := List.mem_cons.mp ha
    · exact ⟨_, List.mem_cons_self, hR⟩
    · obtain ⟨b, hb, hab⟩ := ih ha
      exact ⟨b, List.mem_cons_of_mem _ hb, hab⟩

/-- What the filter decides about a key is what its shortcuts say. -/
theorem DivertInfo.Filters.taken_iff (h : dv.Filters calls filter) (hfits : Fits calls filter)
    (hS : ∀ k ∈ S, k ∈ dv.modifers) (code : UInt16) :
    KeyTaken (parseFilter filter 0 (tableAfter calls)).1 dv.modifers S code ↔
      Fires filter S code := by
  have hfor := h.for hfits
  constructor
  · rintro ⟨kp, hkp, hkeycode, hcodes⟩
    obtain ⟨s, hs, hkps⟩ := forall₂_exists_right hfor hkp
    refine ⟨s, hs, hkps.keycode.symm.trans hkeycode, ?_⟩
    exact (hkps.modBits.eq_iff hcodes hkps.stored hS).mp rfl
  · rintro ⟨s, hs, haction, rfl⟩
    obtain ⟨kp, hkp, hkps⟩ := forall₂_exists_right hfor.flip hs
    exact ⟨kp, hkp, hkps.keycode.trans haction, hkps.modBits⟩

/-- The modifiers that `send_keypair` sends are those that are held. -/
theorem modifierCodes_held {table : List UInt32} {bits : UInt32}
    (hbits : Bitmask.Codes table (held table es) bits) :
    modifierCodes bits table = (table.filter (isHeld es)).map UInt32.toUInt16 := by
  have hset : ∀ (i : Nat) k, table[i]? = some k → bits.toNat.testBit i = isHeld es k := by
    intro i k hk
    rw [Bool.eq_iff_iff, hbits.mem_iff hk]
    exact ⟨fun h => h.2, fun h => ⟨List.mem_of_getElem? hk, h⟩⟩
  rw [← Bitmask.filterMap_testBit hset, List.map_filterMap]
  rfl

end

section
variable {F : Type} {d : DomPtr} {dv : DivertInfo}

theorem inputSend_idle {w : World F} (slot : Int32) (e : InputEvent)
    (hidle : w.multitouch.draining = false) :
    wlp (inputSend (some d) slot e) (fun _ w' => w'.multitouch.draining = false) w := by
  unfold inputSend
  rw [wlp_bind, wlp_get]
  apply wlp_ite
  · intro _
    rw [wlp_bind]
    unfold onPlug
    rw [wlp_zoom]
    intro _ p _
    exact (wlp_pure _ _ _).mpr hidle
  intro _
  apply wlp_ite
  · intro _
    obtain ⟨out, m, hdrain, hm, _⟩ := drain_ends (e := e) hidle
    refine wlp_mono (sendToVkbd_forwards d hdrain).wlp ?_
    intro _ w' hw'
    rw [hw'.multitouch]
    exact hm
  · intro _
    rw [wlp_bind]
    refine wlp_mono (selectDevslot_multitouch slot w) ?_
    intro _ w₁ h₁
    rw [wlp_bind]
    refine wlp_mono (dom0InputEvent_multitouch (.input slot) e w₁) ?_
    intro _ w₂ h₂
    rw [wlp_pure, h₂, h₁]
    exact hidle

abbrev KeepsIdle (m : WorldM F α) (w : World F) : Prop :=
  Moves (fun w => w.multitouch.draining = false) SendFrame m w

theorem keepsIdle_inputSend (slot : Int32) (e : InputEvent) (w : World F) :
    KeepsIdle (inputSend (some d) slot e) w := by
  intro hidle e' w' hrun
  exact ⟨inputSend_idle slot e hidle e' w' hrun,
    (frames_inputSend (some d) slot e w trivial e' w' hrun).2.1, trivial⟩

theorem keepsIdle_sendCodes (codes : List UInt16) (e : InputEvent) (w : World F) :
    KeepsIdle (sendCodes d codes e) w := by
  induction codes generalizing e w with
  | nil => exact moves_pure e
  | cons code codes ih =>
    apply yields_bind (keepsIdle_inputSend _ _ w)
    intro e' w' _ _
    exact ih e' w'

theorem keepsIdle_sendKeypair (kp : KeyPair) (w : World F) : KeepsIdle (sendKeypair kp dv d) w := by
  apply yields_bind (keepsIdle_sendCodes _ _ w)
  intro e w₁ _ _
  apply yields_bind (keepsIdle_inputSend _ _ w₁)
  intro e w₂ _ _
  apply yields_bind (keepsIdle_inputSend _ _ w₂)
  intro e w₃ _ _
  apply yields_bind (keepsIdle_sendCodes _ _ w₃)
  intro e w₄ _ _
  exact moves_pure _

/-- The keyboard's parent has the divert info, and the events came since the keyboard was set. -/
structure Filtering (d : DomPtr) (dv : DivertInfo) (es : List InputEvent) (w : World F) : Prop where
  parent : w.routing.keybParent = some d
  divert : (w.domains d).divertInfo = some dv
  codes : Bitmask.Codes dv.modifers (held dv.modifers es) w.routing.keybModbits
  idle : w.multitouch.draining = false

theorem setKbdDomain_filtering {w : World F} (hdv : (w.domains d).divertInfo = some dv)
    (hkey : dv.keyDomain ≠ none) (hidle : w.multitouch.draining = false) :
    wlp (setKbdDomain d) (fun _ => Filtering d dv []) w := by
  obtain ⟨key, hkey⟩ := Option.ne_none_iff_exists'.mp hkey
  have hdiverted : w.diverted d DivertInfo.keyDomain = some key := by
    unfold World.diverted
    rw [hdv]
    exact hkey
  unfold setKbdDomain modifyRouting
  rw [wlp_bind, wlp_get, hdiverted]
  dsimp only
  rw [wlp_modify]
  refine ⟨rfl, hdv, ?_, hidle⟩
  have hnone : held dv.modifers [] = ∅ := by
    ext k
    simp [held, isHeld]
  rw [hnone]
  exact Bitmask.Codes.empty

/-- The key tracked, `filter_keys` takes it where an entry is for it and the modifiers held. -/
theorem filterKeys_filters {keylist : List KeyPair} {w : World F} (hw : Filtering d dv es w)
    (hkeylist : dv.keylist = some keylist) (hnodup : dv.modifers.Nodup)
    (hlength : dv.modifers.length ≤ MAX_MODS) (he : e.type = EV_KEY) :
    wlp (filterKeys e) (fun b w' => Filtering d dv (es ++ [e]) w' ∧
      (b = true ↔ KeyTaken keylist dv.modifers (held dv.modifers (es ++ [e])) e.code) ∧
      (b = true → e.value ≠ 0 → PassesKeys d w →
        Got d (keypairEvents ((dv.modifers.filter (isHeld (es ++ [e]))).map UInt32.toUInt16) e.code)
          { w with routing := w'.routing } w')) w := by
  have hcodes := trackModifier_codes hnodup hlength hw.codes e
  unfold filterKeys
  rw [wlp_bind, wlp_get, if_neg (not_not.mpr he), hw.parent]
  dsimp only
  rw [hw.divert]
  dsimp only
  rw [hkeylist]
  dsimp only
  unfold filterWith modifyRouting
  rw [wlp_bind, wlp_modify, wlp_bind, wlp_get]
  generalize hw₁ : ({ w with routing := { w.routing with
    keybModbits := trackModifier dv.modifers e w.routing.keybModbits } } : World F) = w₁
  have hbits : w₁.routing.keybModbits = trackModifier dv.modifers e w.routing.keybModbits := by
    rw [← hw₁]
  rw [hbits]
  have hfiltering : Filtering d dv (es ++ [e]) w₁ := by
    rw [← hw₁]
    exact ⟨hw.parent, hw.divert, hcodes, hw.idle⟩
  have hiff := find_taken_iff keylist hcodes e.code
  cases hfind : keylist.find? fun kp => kp.keycode = e.code.toUInt32 ∧
      kp.modBits = trackModifier dv.modifers e w.routing.keybModbits with
  | none =>
    rw [hfind] at hiff
    dsimp only
    rw [wlp_pure]
    exact ⟨hfiltering, hiff, nofun⟩
  | some kp =>
    rw [hfind] at hiff
    have hkp := List.find?_some hfind
    obtain ⟨hkeycode, hmask⟩ := of_decide_eq_true hkp
    dsimp only
    apply wlp_ite
    · intro _
      rw [wlp_bind]
      intro _ w' hrun
      rw [wlp_pure]
      have hframe := keepsIdle_sendKeypair kp w₁ hfiltering.idle _ w' hrun
      have hrouting : w'.routing = w₁.routing := hframe.2.1.routing
      refine ⟨⟨?_, ?_, ?_, hframe.1⟩, ⟨fun _ => hiff.mp rfl, fun _ => rfl⟩, ?_⟩
      · rw [hrouting]
        exact hfiltering.parent
      · rw [hframe.2.1.divertInfo]
        exact hfiltering.divert
      · rw [hrouting]
        exact hfiltering.codes
      · intro _ _ hpasses
        have hsame : { w with routing := w'.routing } = w₁ := by
          rw [hrouting, ← hw₁]
        rw [hsame, ← modifierCodes_held hcodes, ← hmask]
        have hpasses₁ : PassesKeys d w₁ := by
          rw [← hw₁]
          exact hpasses
        have hcode : kp.keycode.toUInt16 = e.code := by
          rw [hkeycode]
          simp
        have hgot := sendKeypair_got hpasses₁ hfiltering.idle _ w' hrun
        rwa [hcode] at hgot
    · intro hup
      rw [wlp_pure]
      exact ⟨hfiltering, ⟨fun _ => hiff.mp rfl, fun _ => rfl⟩, fun _ hdown => absurd hdown hup⟩

end

end InputServer
