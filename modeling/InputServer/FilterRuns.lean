import InputServer.ShortcutFilter
import InputServer.Library.Trace
import InputServer.Reachable

namespace InputServer
open Program
set_option autoImplicit true

/-- A key given to `filter_keys`, and what that returns. -/
def FilterStep {F : Type} (l : InputEvent × Bool) (w w' : World F) : Prop :=
  l.1.type = EV_KEY ∧ filterKeys l.1 w = .ok (l.2, w')

/-- The keys of a run. -/
def keysOf (ls : List (InputEvent × Bool)) : List InputEvent :=
  ls.map Prod.fst

/-- The filter takes a key exactly where an entry is for it and the modifiers held by then. -/
def TakesKey (keylist : List KeyPair) (table : List UInt32) (before : List (InputEvent × Bool))
    (l : InputEvent × Bool) : Prop :=
  l.2 = true ↔ KeyTaken keylist table (held table (keysOf before ++ [l.1])) l.1.code

section
variable {F : Type} {d : DomPtr} {dv : DivertInfo} {keylist : List KeyPair}

theorem filtering_of_run {w₀ w : World F} (hrun : Run FilterStep w₀ ls w)
    (h₀ : Filtering d dv [] w₀) (hkeylist : dv.keylist = some keylist)
    (hnodup : dv.modifers.Nodup) (hlength : dv.modifers.length ≤ MAX_MODS) :
    Filtering d dv (keysOf ls) w ∧ Throughout (TakesKey keylist dv.modifers) ls := by
  let I (ls : List (InputEvent × Bool)) (w : World F) : Prop :=
    Filtering d dv (keysOf ls) w ∧ Throughout (TakesKey keylist dv.modifers) ls
  have hI : I ls w := by
    apply Run.invariant hrun
    · exact ⟨h₀, .nil⟩
    · rintro ls l w w' ⟨hw, hls⟩ ⟨hkey, hstep⟩
      obtain ⟨hw', htaken, _⟩ := filterKeys_filters hw hkeylist hnodup hlength hkey l.2 w' hstep
      have hkeys : keysOf (ls ++ [l]) = keysOf ls ++ [l.1] := List.map_append
      refine ⟨?_, hls.snoc htaken⟩
      rw [hkeys]
      exact hw'
  exact hI

theorem keypairEvents_key (h : e ∈ keypairEvents mods key) : e.type = EV_KEY := by
  simp only [keypairEvents, List.mem_append, List.mem_map, List.mem_cons, List.not_mem_nil,
    or_false] at h
  obtain (⟨_, _, rfl⟩ | rfl | rfl) | ⟨_, _, rfl⟩ := h <;> rfl

theorem keypairEvents_two (mods : List UInt16) (key : UInt16) :
    ∃ e₁ e₂ es, keypairEvents mods key = e₁ :: e₂ :: es := by
  cases mods with
  | nil => exact ⟨_, _, _, rfl⟩
  | cons code mods =>
    cases mods with
    | nil => exact ⟨_, _, _, rfl⟩
    | cons code' mods => exact ⟨_, _, _, rfl⟩

/-- After the keyboard was set to a domain with the filter, `filter_keys` takes a key exactly where
one of the shortcuts fires, and a press that it takes makes the domain get the shortcut's keys
exactly where `input_send` passes keys on. -/
theorem shortcuts_sent_iff {w w₀ w₁ w₂ : World F} (hdv : (w.domains d).divertInfo = some dv)
    (hkey : dv.keyDomain ≠ none) (hfilters : dv.Filters calls filter) (hfits : Fits calls filter)
    (hidle : w.multitouch.draining = false) (hset : setKbdDomain d w = .ok ((), w₀))
    (hrun : Run FilterStep w₀ ls w₁) (hstep : FilterStep (e, b) w₁ w₂) :
    (b = true ↔ Fires filter (held dv.modifers (keysOf ls ++ [e])) e.code) ∧
      (b = true → e.value ≠ 0 →
        (Got d (keypairEvents
            ((dv.modifers.filter (isHeld (keysOf ls ++ [e]))).map UInt32.toUInt16) e.code)
          { w₁ with routing := w₂.routing } w₂ ↔ PassesKeys d w₁)) := by
  have h₀ := setKbdDomain_filtering hdv hkey hidle () w₀ hset
  have h₁ := (filtering_of_run hrun h₀ hfilters.keylist hfilters.nodup hfilters.length_le).1
  obtain ⟨_, htaken, hgot⟩ := filterKeys_filters h₁ hfilters.keylist hfilters.nodup
    hfilters.length_le hstep.1 b w₂ hstep.2
  rw [hfilters.taken_iff hfits fun k hk => hk.1] at htaken
  refine ⟨htaken, fun hb hdown => ⟨?_, hgot hb hdown⟩⟩
  intro hreaches
  have hidle₁ : ({ w₁ with routing := w₂.routing } : World F).multitouch.draining = false := h₁.idle
  obtain ⟨e₁, e₂, es, hevents⟩ := keypairEvents_two
    ((dv.modifers.filter (isHeld (keysOf ls ++ [e]))).map UInt32.toUInt16) e.code
  rw [hevents] at hreaches
  apply got_passes hidle₁ _ hreaches
  intro e' he'
  rw [← hevents] at he'
  exact keypairEvents_key he'

end

/-- Modifiers of the table that keys can hold. -/
structure Holdable (table : List UInt32) (S : Set UInt32) : Prop where
  stored : ∀ k ∈ S, k ∈ table
  key : ∀ k ∈ S, k.toUInt16.toUInt32 = k

theorem held_holdable (table : List UInt32) (es : List InputEvent) :
    Holdable table (held table es) := by
  constructor
  · intro k hk
    exact hk.1
  · rintro k ⟨_, hheld⟩
    obtain ⟨e, hlast, _⟩ := (Option.any_eq_true _ _).mp hheld
    have he := List.mem_of_getLast? hlast
    have hcode : e.code.toUInt32 = k := by simpa using (List.mem_filter.mp he).2
    rw [← hcode]
    simp

/-- The filter takes the release of a key with no modifiers held without taking its press with all
that may be held. -/
def Balanced (keylist : List KeyPair) (table : List UInt32) : Prop :=
  ∀ (code : UInt16) (S S' : Set UInt32), Holdable table S → Holdable table S' →
    (code.toUInt32 ∈ table → code.toUInt32 ∈ S) → code.toUInt32 ∉ S' →
      KeyTaken keylist table S' code → KeyTaken keylist table S code

/-- Where the press of a key was let through, the next release of it is. -/
def Paired (ls : List (InputEvent × Bool)) : Prop :=
  ∀ before down between up after, ls = before ++ (down, false) :: between ++ up :: after →
    down.value = 1 → up.1.code = down.code → up.1.value = 0 →
      (∀ l ∈ between, ¬(l.1.code = down.code ∧ l.1.value = 0)) → up.2 = false

theorem keysOf_append (ls ls' : List (InputEvent × Bool)) :
    keysOf (ls ++ ls') = keysOf ls ++ keysOf ls' :=
  List.map_append

theorem held_down {table : List UInt32} (hdown : e.value = 1) (es : List InputEvent)
    (hmem : e.code.toUInt32 ∈ table) : e.code.toUInt32 ∈ held table (es ++ [e]) := by
  refine ⟨hmem, ?_⟩
  rw [isHeld_snoc, if_pos rfl, hdown]
  decide

theorem held_up {table : List UInt32} (hup : e.value = 0) (es : List InputEvent) :
    e.code.toUInt32 ∉ held table (es ++ [e]) := by
  rintro ⟨_, hheld⟩
  rw [isHeld_snoc, if_pos rfl, hup] at hheld
  cases hheld

theorem paired_of_balanced {keylist : List KeyPair} {table : List UInt32}
    (hls : Throughout (TakesKey keylist table) ls) (h : Balanced keylist table) : Paired ls := by
  intro before down between up after heq hdown hcode hup _
  have hlater : ls = before ++ (down, false) :: (between ++ up :: after) := by
    rw [heq, List.append_assoc, List.cons_append]
  have hpress := hls before (down, false) (between ++ up :: after) hlater
  have hrelease := hls (before ++ (down, false) :: between) up after heq
  by_contra htaken
  have htaken := hrelease.mp (Bool.not_eq_false _ ▸ htaken)
  rw [hcode] at htaken
  have hnone : up.1.code.toUInt32 ∉ held table
      (keysOf (before ++ (down, false) :: between) ++ [up.1]) := held_up hup _
  rw [hcode] at hnone
  have hall := h down.code _ _ (held_holdable table (keysOf before ++ [down])) (held_holdable table _)
    (held_down hdown _) hnone htaken
  exact absurd (hpress.mpr hall) Bool.false_ne_true

section
variable {F : Type} {d : DomPtr}

/-- The domain is not the plugin's, and no call of `input_send` is under way. -/
structure Unattended (d : DomPtr) (w : World F) : Prop where
  plug : w.plug.plugin d = false
  idle : w.multitouch.draining = false

theorem dom0InputEvent_total (source : Source) (e : InputEvent) :
    Total (Unattended (F := F) d) (dom0InputEvent d source e) := by
  apply total_get
  intro w hw
  cases (w.domains d).client with
  | none => exact total_pure _ w hw
  | some guest => exact total_modify (fun _ hw => ⟨hw.plug, hw.idle⟩) w hw

theorem selectDevslot_total (slot : Int32) :
    Total (Unattended (F := F) d) (selectDevslot d slot) := by
  apply total_get
  intro w hw
  apply wp_ite
  · intro _
    have hset : Total (Unattended (F := F) d) (modifyDomain d fun x => { x with lastDevslot := slot }) :=
      total_modify fun _ hw => ⟨hw.plug, hw.idle⟩
    apply total_bind hset _ w hw
    intro _
    apply total_get
    intro w' hw'
    exact dom0InputEvent_total _ _ w' hw'
  · intro _
    exact total_pure _ w hw

theorem inputSend_total (slot : Int32) (e : InputEvent) :
    Total (Unattended (F := F) d) (inputSend (some d) slot e) := by
  apply total_get
  intro w hw
  apply wp_ite
  · intro hplug
    rw [hw.plug] at hplug
    cases hplug
  intro _
  apply wp_ite
  · intro _
    obtain ⟨out, m, hdrain, hm, _⟩ := drain_ends (e := e) hw.idle
    refine wp_mono (sendToVkbd_forwards d hdrain) ?_
    intro _ w' hw'
    refine ⟨?_, ?_⟩
    · rw [hw'.plug]
      exact hw.plug
    · rw [hw'.multitouch]
      exact hm
  · intro _
    apply total_bind (selectDevslot_total slot) _ w hw
    intro _
    apply total_bind (dom0InputEvent_total _ _)
    intro _
    exact total_pure _

theorem sendCodes_total (codes : List UInt16) (e : InputEvent) :
    Total (Unattended (F := F) d) (sendCodes d codes e) := by
  induction codes generalizing e with
  | nil => exact total_pure e
  | cons code codes ih =>
    apply total_bind (inputSend_total _ _)
    intro e'
    exact ih e'

theorem sendKeypair_total (kp : KeyPair) (dv : DivertInfo) :
    Total (Unattended (F := F) d) (sendKeypair kp dv d) := by
  apply total_bind (sendCodes_total _ _)
  intro e
  apply total_bind (inputSend_total _ _)
  intro e
  apply total_bind (inputSend_total _ _)
  intro e
  apply total_bind (sendCodes_total _ _)
  intro e
  exact total_pure _

theorem filterKeys_returns {w : World F} (hparent : w.routing.keybParent = some d)
    (hw : Unattended d w) (e : InputEvent) :
    wp (filterKeys e) (fun _ => Unattended d) w := by
  unfold filterKeys
  rw [wp_bind, wp_get]
  apply wp_ite
  · intro _
    exact (wp_pure _ _ w).mpr hw
  intro _
  rw [hparent]
  dsimp only
  cases (w.domains d).divertInfo with
  | none => exact (wp_pure _ _ w).mpr hw
  | some dv =>
    dsimp only
    cases dv.keylist with
    | none => exact (wp_pure _ _ w).mpr hw
    | some keylist =>
      dsimp only
      unfold filterWith modifyRouting
      rw [wp_bind, wp_modify, wp_bind, wp_get]
      split
      · exact (wp_pure _ _ _).mpr ⟨hw.plug, hw.idle⟩
      · apply wp_ite
        · intro _
          rw [wp_bind]
          refine wp_mono (sendKeypair_total _ dv _ ⟨hw.plug, hw.idle⟩) ?_
          intro _ w' hw'
          exact (wp_pure _ _ w').mpr hw'
        · intro _
          exact (wp_pure _ _ _).mpr ⟨hw.plug, hw.idle⟩

/-- Any keys may come. -/
theorem filterRun_exists {dv : DivertInfo} {keylist : List KeyPair} {w₀ : World F}
    (h₀ : Filtering d dv [] w₀) (hkeylist : dv.keylist = some keylist)
    (hnodup : dv.modifers.Nodup) (hlength : dv.modifers.length ≤ MAX_MODS)
    (hw₀ : Unattended d w₀) (es : List InputEvent) (hkeys : ∀ e ∈ es, e.type = EV_KEY) :
    ∃ ls w, Run FilterStep w₀ ls w ∧ keysOf ls = es ∧ Unattended d w := by
  induction es using List.reverseRecOn with
  | nil => exact ⟨[], w₀, .nil, rfl, hw₀⟩
  | append_singleton es e ih =>
    obtain ⟨ls, w, hrun, hls, hw⟩ := ih fun e he => hkeys e (List.mem_append_left _ he)
    have hparent := (filtering_of_run hrun h₀ hkeylist hnodup hlength).1.parent
    obtain ⟨b, w', hstep, hw'⟩ := filterKeys_returns hparent hw e
    refine ⟨ls ++ [(e, b)], w', hrun.snoc ⟨hkeys e List.mem_concat_self, hstep⟩, ?_, hw'⟩
    rw [keysOf_append, hls]
    rfl

/-- The keys made to be held, or not. -/
def setHeld (ks : List UInt32) (value : Int32) : List InputEvent :=
  ks.map fun k => keyEvent value k.toUInt16

theorem isHeld_setHeld {ks : List UInt32} (hks : ∀ k ∈ ks, k.toUInt16.toUInt32 = k)
    (es : List InputEvent) (value : Int32) (k : UInt32) :
    isHeld (es ++ setHeld ks value) k = if k ∈ ks then decide (value ≠ 0) else isHeld es k := by
  induction ks using List.reverseRecOn with
  | nil => simp [setHeld]
  | append_singleton ks x ih =>
    have hx : x.toUInt16.toUInt32 = x := hks x List.mem_concat_self
    have hsnoc : es ++ setHeld (ks ++ [x]) value =
        (es ++ setHeld ks value) ++ [keyEvent value x.toUInt16] := by
      simp [setHeld]
    rw [hsnoc, isHeld_snoc, ih fun k hk => hks k (List.mem_append_left _ hk)]
    change (if x.toUInt16.toUInt32 = k then decide (value ≠ 0) else _) = _
    rw [hx]
    by_cases hk : x = k
    · subst hk
      simp
    · simp [hk, Ne.symm hk]

end

section
variable {F : Type} {d : DomPtr} {dv : DivertInfo} {keylist : List KeyPair}

open Classical in
/-- A press under the modifiers of `S` and the release under those of `S'`. -/
noncomputable def pressRelease (table : List UInt32) (S S' : Set UInt32) (code : UInt16) :
    List InputEvent × List InputEvent :=
  let others := table.filter fun k => k ∈ S ∧ k ≠ code.toUInt32
  (setHeld others 1, setHeld others 0 ++ setHeld (table.filter fun k => k ∈ S') 1)

open Classical in
theorem held_press {table : List UInt32} (hS : Holdable table S)
    (hcode : code.toUInt32 ∈ table → code.toUInt32 ∈ S) :
    held table ((pressRelease table S S' code).1 ++ [keyEvent 1 code]) = S := by
  have hothers : ∀ k ∈ table.filter (fun k => k ∈ S ∧ k ≠ code.toUInt32),
      k.toUInt16.toUInt32 = k := by
    intro k hk
    exact hS.key k (of_decide_eq_true (List.mem_filter.mp hk).2).1
  have hfirst : (pressRelease table S S' code).1 =
      [] ++ setHeld (table.filter fun k => k ∈ S ∧ k ≠ code.toUInt32) 1 := rfl
  ext k
  unfold held
  rw [Set.mem_ofPred_eq, isHeld_snoc, hfirst, isHeld_setHeld hothers]
  change k ∈ table ∧ (if code.toUInt32 = k then _ else _) = true ↔ _
  by_cases hk : code.toUInt32 = k
  · subst hk
    rw [if_pos rfl]
    exact ⟨fun h => hcode h.1, fun h => ⟨hS.stored _ h, rfl⟩⟩
  · rw [if_neg hk]
    constructor
    · rintro ⟨hmem, hheld⟩
      by_contra hkS
      rw [if_neg (by simp [hkS])] at hheld
      cases hheld
    · intro hkS
      have hmem := hS.stored k hkS
      rw [if_pos (by simp [hmem, hkS, Ne.symm hk])]
      exact ⟨hmem, by decide⟩

open Classical in
theorem held_release {table : List UInt32} (hS : Holdable table S) (hS' : Holdable table S')
    (hcode : code.toUInt32 ∈ table → code.toUInt32 ∈ S) (hcode' : code.toUInt32 ∉ S') :
    held table (((pressRelease table S S' code).1 ++ [keyEvent 1 code]) ++
      (pressRelease table S S' code).2 ++ [keyEvent 0 code]) = S' := by
  have hpress : held table ((pressRelease table S S' code).1 ++ [keyEvent 1 code]) = S :=
    held_press hS hcode
  generalize (pressRelease table S S' code).1 ++ [keyEvent 1 code] = pressed at hpress
  have hothers : ∀ k ∈ table.filter (fun k => k ∈ S ∧ k ≠ code.toUInt32),
      k.toUInt16.toUInt32 = k := by
    intro k hk
    exact hS.key k (of_decide_eq_true (List.mem_filter.mp hk).2).1
  have hnew : ∀ k ∈ table.filter (fun k => k ∈ S'), k.toUInt16.toUInt32 = k := by
    intro k hk
    exact hS'.key k (of_decide_eq_true (List.mem_filter.mp hk).2)
  ext k
  unfold held pressRelease
  dsimp only
  rw [Set.mem_ofPred_eq, isHeld_snoc, ← List.append_assoc, isHeld_setHeld hnew,
    isHeld_setHeld hothers]
  change k ∈ table ∧ (if code.toUInt32 = k then _ else _) = true ↔ _
  by_cases hk : code.toUInt32 = k
  · subst hk
    rw [if_pos rfl]
    exact ⟨fun h => absurd rfl (of_decide_eq_true h.2), fun h => absurd h hcode'⟩
  · rw [if_neg hk]
    constructor
    · rintro ⟨hmem, hheld⟩
      by_contra hkS'
      rw [if_neg (by simp [hkS'])] at hheld
      by_cases hkS : k ∈ S
      · rw [if_pos (by simp [hmem, hkS, Ne.symm hk])] at hheld
        cases hheld
      · rw [if_neg (by simp [hkS])] at hheld
        have hin : k ∈ held table pressed := ⟨hmem, hheld⟩
        rw [hpress] at hin
        exact hkS hin
    · intro hkS'
      have hmem := hS'.stored k hkS'
      rw [if_pos (by simp [hmem, hkS'])]
      exact ⟨hmem, by decide⟩

theorem setHeld_key (h : e ∈ setHeld ks value) : e.type = EV_KEY ∧ e.value = value := by
  obtain ⟨k, _, rfl⟩ := List.mem_map.mp h
  exact ⟨rfl, rfl⟩

open Classical in
/-- Behind the press of a key, the modifiers change without its release. -/
theorem pressRelease_between {table : List UInt32} (hS : Holdable table S)
    (h : e ∈ (pressRelease table S S' code).2) : ¬(e.code = code ∧ e.value = 0) := by
  rintro ⟨rfl, hup⟩
  obtain h | h := List.mem_append.mp h
  · obtain ⟨k, hk, hcode⟩ := List.mem_map.mp h
    obtain ⟨hkS, hne⟩ := of_decide_eq_true (List.mem_filter.mp hk).2
    apply hne
    rw [← hcode]
    exact (hS.key k hkS).symm
  · rw [(setHeld_key h).2] at hup
    cases hup

theorem balanced_of_paired {w₀ : World F} (h₀ : Filtering d dv [] w₀)
    (hkeylist : dv.keylist = some keylist) (hnodup : dv.modifers.Nodup)
    (hlength : dv.modifers.length ≤ MAX_MODS) (hw₀ : Unattended d w₀)
    (h : ∀ ls w, Run FilterStep w₀ ls w → Paired ls) : Balanced keylist dv.modifers := by
  intro code S S' hS hS' hcode hcode' htaken
  let before := (pressRelease dv.modifers S S' code).1
  let between := (pressRelease dv.modifers S S' code).2
  have hkeys : ∀ e ∈ before ++ keyEvent 1 code :: (between ++ [keyEvent 0 code]),
      e.type = EV_KEY := by
    intro e he
    rw [List.mem_append, List.mem_cons, List.mem_append, List.mem_singleton] at he
    obtain he | rfl | he | rfl := he
    · exact (setHeld_key he).1
    · rfl
    · obtain he | he := List.mem_append.mp he
      · exact (setHeld_key he).1
      · exact (setHeld_key he).1
    · rfl
  obtain ⟨ls, w, hrun, hls, _⟩ := filterRun_exists h₀ hkeylist hnodup hlength hw₀ _ hkeys
  obtain ⟨lbefore, rest, rfl, hbefore, hrest⟩ := List.map_eq_append_iff.mp hls
  obtain ⟨⟨e, b⟩, rest, rfl, hdown, hrest⟩ := List.map_eq_cons_iff.mp hrest
  obtain ⟨lbetween, rest, rfl, hbetween, hrest⟩ := List.map_eq_append_iff.mp hrest
  obtain ⟨up, rest, rfl, hup, hrest⟩ := List.map_eq_cons_iff.mp hrest
  have hend : rest = [] := List.map_eq_nil_iff.mp hrest
  subst hend
  have hdown : e = keyEvent 1 code := hdown
  subst hdown
  have htrace := (filtering_of_run hrun h₀ hkeylist hnodup hlength).2
  have hpress := htrace lbefore (keyEvent 1 code, b) (lbetween ++ [up]) rfl
  have hpressed : held dv.modifers (keysOf lbefore ++ [keyEvent 1 code]) = S := by
    unfold keysOf
    rw [hbefore]
    exact held_press hS hcode
  unfold TakesKey at hpress
  rw [hpressed] at hpress
  cases b with
  | true => exact hpress.mp rfl
  | false =>
    have hsplit : lbefore ++ (keyEvent 1 code, false) :: (lbetween ++ [up]) =
        lbefore ++ (keyEvent 1 code, false) :: lbetween ++ up :: [] := by
      rw [List.append_assoc, List.cons_append]
    have hrelease := htrace (lbefore ++ (keyEvent 1 code, false) :: lbetween) up [] hsplit
    have hreleased : held dv.modifers
        (keysOf (lbefore ++ (keyEvent 1 code, false) :: lbetween) ++ [up.1]) = S' := by
      have hkeysOf : keysOf (lbefore ++ (keyEvent 1 code, false) :: lbetween) =
          (before ++ [keyEvent 1 code]) ++ between := by
        unfold keysOf
        rw [List.map_append, List.map_cons, hbefore, hbetween, List.append_cons]
      rw [hkeysOf, hup]
      exact held_release hS hS' hcode hcode'
    unfold TakesKey at hrelease
    rw [hreleased, hup] at hrelease
    have hpass : up.2 = false := by
      apply h _ w hrun lbefore (keyEvent 1 code) lbetween up [] hsplit rfl
      · rw [hup]
        rfl
      · rw [hup]
        rfl
      · intro l hl
        have hmem : l.1 ∈ between := by
          rw [← hbetween]
          exact List.mem_map_of_mem hl
        exact pressRelease_between hS hmem
    rw [hrelease.mpr htaken] at hpass
    cases hpass

end

section
variable {F : Type} {d : DomPtr} {dv : DivertInfo} {keylist : List KeyPair}

theorem setKbdDomain_unattended {w : World F} (hw : Unattended d w) :
    wlp (setKbdDomain d) (fun _ => Unattended d) w := by
  unfold setKbdDomain modifyRouting
  rw [wlp_bind, wlp_get]
  cases w.diverted d DivertInfo.keyDomain with
  | none => exact (wlp_modify _ _ w).mpr ⟨hw.plug, hw.idle⟩
  | some key => exact (wlp_modify _ _ w).mpr ⟨hw.plug, hw.idle⟩

/-- A balanced filter pairs the releases of every run, and where the domain is not the plugin's no
other filter does. -/
theorem releases_paired_iff {w w₀ : World F} (hdv : (w.domains d).divertInfo = some dv)
    (hkey : dv.keyDomain ≠ none) (hfilters : dv.Filters calls filter)
    (hkeylist : dv.keylist = some keylist) (hidle : w.multitouch.draining = false)
    (hset : setKbdDomain d w = .ok ((), w₀)) :
    (Balanced keylist dv.modifers → ∀ ls w₁, Run FilterStep w₀ ls w₁ → Paired ls) ∧
      (w.plug.plugin d = false → (∀ ls w₁, Run FilterStep w₀ ls w₁ → Paired ls) →
        Balanced keylist dv.modifers) := by
  have h₀ := setKbdDomain_filtering hdv hkey hidle () w₀ hset
  constructor
  · intro hbalanced ls w₁ hrun
    have htrace := (filtering_of_run hrun h₀ hkeylist hfilters.nodup hfilters.length_le).2
    exact paired_of_balanced htrace hbalanced
  · intro hplug
    have hw₀ := setKbdDomain_unattended ⟨hplug, hidle⟩ () w₀ hset
    exact balanced_of_paired h₀ hkeylist hfilters.nodup hfilters.length_le hw₀

end

/-- Ctrl and Escape are one shortcut. -/
def ctrlEscape : List UInt32 :=
  [KEY_LEFTCTRL.toUInt32, KEY_ESC.toUInt32]

def ctrlEscapeDivert : DivertInfo :=
  { freshDivert with
    keyDomain := some secondEntry
    keylist := some (parseFilter ctrlEscape 0 (tableAfter [])).1
    modifers := (parseFilter ctrlEscape 0 (tableAfter [])).2 }

/-- The first domain diverts its keyboard, with the filter. -/
def divertingWorld (pv : Bool) : World ℚ :=
  { startWorld (fun _ => told "") [] with
    domains := fun d => { Domain.fresh 1 (some 1) false 1 with
      isPvDomain := pv
      divertInfo := if d = firstEntry then some ctrlEscapeDivert else none } }

/-- One key through the filter, where that answers as is said. -/
def checkKey (w : World ℚ) (l : InputEvent × Bool) : Except Fault (World ℚ) :=
  (filterKeys l.1 w).bind fun r => if r.1 = l.2 then .ok r.2 else .error .segv

theorem checkKey_step {w w' : World ℚ} (hkey : l.1.type = EV_KEY) (h : checkKey w l = .ok w') :
    FilterStep l w w' := by
  refine ⟨hkey, ?_⟩
  unfold checkKey at h
  cases hfilter : filterKeys l.1 w with
  | error e =>
    rw [hfilter] at h
    cases h
  | ok r =>
    rw [hfilter] at h
    change (if r.1 = l.2 then _ else _) = _ at h
    split_ifs at h with heq
    cases h
    rw [← heq]

theorem run_of_checked {w : World ℚ} (hkeys : ∀ l ∈ ls, l.1.type = EV_KEY)
    {P : World ℚ → Bool} (h : (ls.foldlM checkKey w).toOption.any P = true) :
    ∃ w', Run FilterStep w ls w' ∧ P w' = true := by
  cases hrun : ls.foldlM checkKey w with
  | error e =>
    rw [hrun] at h
    cases h
  | ok w' =>
    rw [hrun] at h
    refine ⟨w', (Run.of_foldlM hkeys hrun).mono ?_, h⟩
    intro l w w' hstep
    exact checkKey_step hstep.1 hstep.2

def ctrlDown : InputEvent × Bool :=
  (keyEvent 1 KEY_LEFTCTRL, false)

/-- The keyboard set to that domain. -/
def divertedWorld (pv : Bool) : World ℚ :=
  { divertingWorld pv with
    routing := { (divertingWorld pv).routing with
      keybParent := some firstEntry, keybModbits := 0, keybDest := some secondEntry
      keybWaitsForClick := true } }

theorem divertedWorld_set (pv : Bool) :
    setKbdDomain firstEntry (divertingWorld pv) = .ok ((), divertedWorld pv) := rfl

theorem ctrlEscapeDivert_filters : ctrlEscapeDivert.Filters [] ctrlEscape :=
  ⟨rfl, rfl⟩

theorem shortcuts_sent_ctrlEscape : ∃ w₁ w₂ : World ℚ,
    Run FilterStep (divertedWorld false) [ctrlDown] w₁ ∧
      FilterStep (keyEvent 1 KEY_ESC, true) w₁ w₂ ∧
      (true = true ↔ Fires ctrlEscape
        (held ctrlEscapeDivert.modifers (keysOf [ctrlDown] ++ [keyEvent 1 KEY_ESC])) KEY_ESC) ∧
      (true = true → (keyEvent 1 KEY_ESC).value ≠ 0 →
        (Got firstEntry (keypairEvents ((ctrlEscapeDivert.modifers.filter
            (isHeld (keysOf [ctrlDown] ++ [keyEvent 1 KEY_ESC]))).map UInt32.toUInt16) KEY_ESC)
          { w₁ with routing := w₂.routing } w₂ ↔ PassesKeys firstEntry w₁)) := by
  have hkeys : ∀ l ∈ [ctrlDown], l.1.type = EV_KEY := by decide
  obtain ⟨w₁, hrun, hlast⟩ := run_of_checked hkeys
    (P := fun w => (checkKey w (keyEvent 1 KEY_ESC, true)).toOption.isSome)
    (w := divertedWorld false) (by decide +kernel)
  cases hescape : checkKey w₁ (keyEvent 1 KEY_ESC, true) with
  | error e =>
    rw [hescape] at hlast
    cases hlast
  | ok w₂ =>
    have hstep : FilterStep (keyEvent 1 KEY_ESC, true) w₁ w₂ := checkKey_step rfl hescape
    have hfits : Fits [] ctrlEscape := by
      unfold Fits
      decide +kernel
    refine ⟨w₁, w₂, hrun, hstep, ?_⟩
    exact shortcuts_sent_iff (w := divertingWorld false) rfl nofun ctrlEscapeDivert_filters hfits rfl
      (divertedWorld_set false) hrun hstep

/-- A touchscreen has selected its second contact. -/
def World.touched (w : World ℚ) : World ℚ :=
  { w with multitouch := { w.multitouch with slot := 1 } }

/-- A touchscreen has selected its second contact when the shortcut is pressed for a PV domain:
the filter takes it, and the domain gets none of its keys. -/
theorem shortcut_swallowed : ∃ w w₀ w₁ w₂ : World ℚ,
    inputSendAll [⟨firstEntry, 7, { type := EV_ABS, code := ABS_MT_SLOT, value := 1 }⟩]
        (divertingWorld true) = .ok ((), w) ∧
      setKbdDomain firstEntry w = .ok ((), w₀) ∧ Run FilterStep w₀ [ctrlDown] w₁ ∧
      FilterStep (keyEvent 1 KEY_ESC, true) w₁ w₂ ∧
      ¬Got firstEntry (keypairEvents [KEY_LEFTCTRL] KEY_ESC) { w₁ with routing := w₂.routing } w₂ := by
  have hkeys : ∀ l ∈ [ctrlDown], l.1.type = EV_KEY := by decide
  obtain ⟨w₁, hrun, hlast⟩ := run_of_checked hkeys
    (P := fun w => (w.plug.plugin firstEntry = false ∧ (w.domains firstEntry).isPvDomain = true ∧
      w.multitouch.slot = 1 ∧ w.multitouch.draining = false) ∧
        (checkKey w (keyEvent 1 KEY_ESC, true)).toOption.isSome)
    (w := (divertedWorld true).touched) (by decide +kernel)
  obtain ⟨⟨hplug, hpv, hslot, hidle⟩, hlast⟩ := of_decide_eq_true hlast
  cases hescape : checkKey w₁ (keyEvent 1 KEY_ESC, true) with
  | error e =>
    rw [hescape] at hlast
    cases hlast
  | ok w₂ =>
    refine ⟨(divertingWorld true).touched, (divertedWorld true).touched, w₁, w₂, rfl, rfl, hrun,
      checkKey_step rfl hescape, ?_⟩
    intro hgot
    have hidle₁ : ({ w₁ with routing := w₂.routing } : World ℚ).multitouch.draining = false := hidle
    obtain h | h | h := got_passes hidle₁ (by decide) hgot
    · rw [hplug] at h
      cases h
    · rw [hpv] at h
      cases h
    · rw [hslot] at h
      cases h

/-- Escape pressed, then Ctrl: the release of Escape is taken. -/
def escapeKept : List (InputEvent × Bool) :=
  [(keyEvent 1 KEY_ESC, false), ctrlDown, (keyEvent 0 KEY_ESC, true)]

theorem key_release_taken : ∃ w₁, Run FilterStep (divertedWorld false) escapeKept w₁ ∧
    ¬Paired escapeKept := by
  have hkeys : ∀ l ∈ escapeKept, l.1.type = EV_KEY := by decide
  obtain ⟨w₁, hrun, _⟩ := run_of_checked hkeys (P := fun _ => true) (w := divertedWorld false)
    (by decide +kernel)
  refine ⟨w₁, hrun, ?_⟩
  intro hpaired
  have hrelease := hpaired [] (keyEvent 1 KEY_ESC) [ctrlDown] (keyEvent 0 KEY_ESC, true) [] rfl rfl
    rfl rfl (by decide)
  cases hrelease

theorem releases_paired_ctrlEscape :
    (Balanced (parseFilter ctrlEscape 0 (tableAfter [])).1 ctrlEscapeDivert.modifers →
        ∀ ls w₁, Run FilterStep (divertedWorld false) ls w₁ → Paired ls) ∧
      ((divertingWorld false).plug.plugin firstEntry = false →
        (∀ ls w₁, Run FilterStep (divertedWorld false) ls w₁ → Paired ls) →
          Balanced (parseFilter ctrlEscape 0 (tableAfter [])).1 ctrlEscapeDivert.modifers) :=
  releases_paired_iff (w := divertingWorld false) rfl nofun ctrlEscapeDivert_filters rfl rfl
    (divertedWorld_set false)

end InputServer
