import InputServer.DroppedPackets
import InputServer.SwipeGestures
import InputServer.TouchSlots

namespace InputServer
set_option autoImplicit true

/-- More than its first contact has been seen of a gesture. -/
def Cursor.Tracked (cursor : Cursor) : Prop :=
  cursor.subAct > 1 ∨ cursor.act > 0

instance (cursor : Cursor) : Decidable cursor.Tracked :=
  inferInstanceAs (Decidable (_ ∨ _))

def Recogniser.Tracking (r : Recogniser) : Prop :=
  ∃ g, (r.cursor g).Tracked

/-- A gesture that is not looked for has not been begun. -/
def Recogniser.Idle (r : Recogniser) : Prop :=
  ∀ g, g ∉ gestureList r → ¬(r.cursor g).Tracked

section
variable {r r' : Recogniser} {g : Gesture}

theorem count_zero (cursor : Cursor) (tracking : Nat) :
    cursor.count tracking = 0 ↔ tracking = 0 ∧ ¬cursor.Tracked := by
  unfold Cursor.count Cursor.Tracked
  split
  · rename_i htracked
    exact iff_of_false (Nat.succ_ne_zero tracking) fun h => h.2 htracked
  · rename_i hidle
    exact (and_iff_left hidle).symm

theorem setCursor_counted (r : Recogniser) (g : Gesture) (cursor : Cursor) (tracking : Nat) :
    cursor.count tracking = ((r.setCursor g cursor).cursor g).count tracking := by
  unfold Recogniser.setCursor
  dsimp only
  rw [Function.update_self]

/-- A gesture that is not recognised is counted where it is tracked. -/
theorem gestureMatch_counted
    (h : gestureMatch beyond slot x y push g r tracking = some (r', n, false)) :
    n = (r'.cursor g).count tracking := by
  obtain ⟨saList, -, h⟩ := Option.bind_eq_some_iff.1 h
  obtain ⟨actions, -, h⟩ := Option.bind_eq_some_iff.1 h
  dsimp only at h
  generalize (if actionMatch saList (actionAt beyond actions (r.cursor g).subAct) x y push then
    ({ r.cursor g with subAct := (r.cursor g).subAct + 1 } : Cursor) else ⟨0, 0⟩) = cursor at h
  split at h
  · obtain ⟨next, -, h⟩ := Option.bind_eq_some_iff.1 h
    split at h
    · cases h
    · cases h
      exact setCursor_counted ..
  · cases h
    exact setCursor_counted ..

theorem gestureMatchMove_counted
    (h : gestureMatchMove beyond slot x y g r tracking = some (r', n, false)) :
    n = (r'.cursor g).count tracking := by
  obtain ⟨saList, -, h⟩ := Option.bind_eq_some_iff.1 h
  obtain ⟨actions, -, h⟩ := Option.bind_eq_some_iff.1 h
  dsimp only at h
  split at h
  · rename_i hzero
    cases h
    rw [hzero]
    rfl
  · split at h
    · cases h
      rfl
    · split at h
      · cases h
        rfl
      · split at h
        · cases h
          exact setCursor_counted r g ⟨0, 0⟩ tracking
        · cases h
          rfl

/-- What the loop over the gestures returns: nothing where one is recognised, and else how many of
them are tracked. -/
inductive LoopTracks (glist : List Gesture) (r : Recogniser) (tracking : Nat) (r' : Recogniser)
    (n : Nat) : Prop where
  | recognised (clean : r'.cursor = fun _ => ⟨0, 0⟩) (none : n = 0)
  | followed (runstate : r'.runstate = r.runstate)
      (others : ∀ g, g ∉ glist → r'.cursor g = r.cursor g)
      (counted : n = 0 ↔ tracking = 0 ∧ ∀ g ∈ glist, ¬(r'.cursor g).Tracked)

theorem matchGestures_tracks
    {matcher : Gesture → Recogniser → Nat → Option (Recogniser × Nat × Bool)}
    (hmatcher : ∀ g r tracking r' n, matcher g r tracking = some (r', n, false) →
      OwnCursor g r r' false ∧ n = (r'.cursor g).count tracking)
    {glist : List Gesture} (hnodup : glist.Nodup)
    (h : matchGestures matcher glist r tracking = some (r', found, n)) :
    LoopTracks glist r tracking r' n := by
  induction glist generalizing r tracking with
  | nil =>
    cases h
    refine .followed rfl (fun _ _ => rfl) ?_
    exact (and_iff_left fun g hg => absurd hg List.not_mem_nil).symm
  | cons g glist ih =>
    obtain ⟨hnot, hnodup⟩ := List.nodup_cons.1 hnodup
    obtain ⟨⟨r₁, n₁, recognised⟩, hone, h⟩ := Option.bind_eq_some_iff.1 h
    cases recognised with
    | true =>
      cases h
      exact .recognised rfl rfl
    | false =>
      obtain ⟨hown, hcounted₁⟩ := hmatcher g r tracking r₁ n₁ hone
      cases ih hnodup h with
      | recognised clean none => exact .recognised clean none
      | followed hrunstate hothers hcounted =>
        refine .followed (hrunstate.trans (hown.runstate rfl)) ?_ ?_
        · intro g' hg'
          obtain ⟨hother, hg'⟩ := not_or.1 (mt List.mem_cons.2 hg')
          exact (hothers g' hg').trans (hown.others g' hother)
        · have hkept : r'.cursor g = r₁.cursor g := hothers g hnot
          rw [hcounted, hcounted₁, count_zero, List.forall_mem_cons, hkept, and_assoc]

theorem startGestures_idle (h : r.Idle) : (startGestures r).Idle := by
  unfold startGestures
  split
  · intro g _ htracked
    exact absurd htracked (by decide : ¬(⟨0, 0⟩ : Cursor).Tracked)
  · exact h

/-- What is returned is whether a gesture is tracked. -/
theorem gestureHandler_tracks (hidle : r.Idle)
    (h : gestureHandler beyond slot x y push r = some (r', found, n)) :
    r'.Idle ∧ (n ≠ 0 ↔ r'.Tracking) := by
  have hnever : ¬(⟨0, 0⟩ : Cursor).Tracked := by decide
  have hloop : LoopTracks (gestureList (startGestures r)) (startGestures r) 0 r' n := by
    have hnodup : (gestureList (startGestures r)).Nodup := by
      unfold gestureList
      split <;> decide
    unfold gestureHandler at h
    dsimp only at h
    split at h
    · exact matchGestures_tracks (fun g r t r' n hmatch =>
        ⟨(gestureMatchMove_own hmatch).1, gestureMatchMove_counted hmatch⟩) hnodup h
    · exact matchGestures_tracks (fun g r t r' n hmatch =>
        ⟨gestureMatch_own hmatch, gestureMatch_counted hmatch⟩) hnodup h
  cases hloop with
  | recognised clean none =>
    refine ⟨fun g _ => ?_, iff_of_false (not_not.2 none) ?_⟩
    · rw [clean]
      exact hnever
    · rintro ⟨g, htracked⟩
      rw [clean] at htracked
      exact hnever htracked
  | followed runstate others counted =>
    have hlist : gestureList r' = gestureList (startGestures r) := by
      unfold gestureList
      rw [runstate]
    have hidle' : r'.Idle := by
      intro g hg
      rw [hlist] at hg
      rw [others g hg]
      exact startGestures_idle hidle g hg
    refine ⟨hidle', ?_⟩
    rw [ne_eq, counted, eq_self_iff_true, true_and, not_forall]
    unfold Recogniser.Tracking
    constructor
    · rintro ⟨g, htracked⟩
      exact ⟨g, by_contra fun hnot => htracked fun _ => hnot⟩
    · rintro ⟨g, htracked⟩
      have hg : g ∈ gestureList (startGestures r) := by
        rw [← hlist]
        exact by_contra fun hout => hidle' g hout htracked
      exact ⟨g, fun hnot => hnot hg htracked⟩

end

/-- Between two events, `goSilent` is whether a gesture is tracked. -/
structure TracksGestures (t : TabletTouches) : Prop where
  able : t.Able
  idle : t.recogniser.Idle
  tracking : t.goSilent ≠ 0 ↔ t.recogniser.Tracking

section
variable {t t' : TabletTouches} {ev : InputEvent}

theorem flush_tracks (h : TracksGestures t) (hflush : t.flush beyond = some (t', recognised)) :
    t'.recogniser.Idle ∧ (t'.goSilent ≠ 0 ↔ t'.recogniser.Tracking) ∧
      t'.silence = t.silence := by
  unfold TabletTouches.flush at hflush
  split at hflush
  · dsimp only at hflush
    split at hflush
    · obtain ⟨⟨r', found, n⟩, hhandler, hflush⟩ := Option.bind_eq_some_iff.1 hflush
      cases hflush
      obtain ⟨hidle, htracking⟩ := gestureHandler_tracks h.idle hhandler
      exact ⟨hidle, htracking, rfl⟩
    · cases hflush
      exact ⟨h.idle, h.tracking, rfl⟩
  · cases hflush
    exact ⟨h.idle, h.tracking, rfl⟩

theorem settle_tracks (hidle : t.recogniser.Idle)
    (htracking : t.goSilent ≠ 0 ↔ t.recogniser.Tracking) (hsilence : t.silence = silence) :
    (t.settle ev).recogniser.Idle ∧
      ((t.settle ev).goSilent ≠ 0 ↔ (t.settle ev).recogniser.Tracking) ∧
      (t.settle ev).silence = if ev.isReport then (t.settle ev).goSilent else silence := by
  have hselect : (if newSlot ev ≠ -1 then { t with slot := newSlot ev } else t) =
      { t with slot := if newSlot ev ≠ -1 then newSlot ev else t.slot } := by
    split <;> rfl
  unfold TabletTouches.settle
  rw [hselect]
  dsimp only
  split
  · exact ⟨hidle, htracking, rfl⟩
  · exact ⟨hidle, htracking, hsilence⟩

/-- Silence begins and ends at a report. -/
theorem handle_tracks {pass : Bool} (h : TracksGestures t)
    (hhandle : handleTabletGestures beyond t ev = some (t', recognised, pass)) :
    TracksGestures t' ∧ t'.silence = if ev.isReport then t'.goSilent else t.silence := by
  obtain ⟨_, _, _, hsome, hable, -⟩ := handle_keeps beyond ev h.able
  cases hhandle.symm.trans hsome
  suffices hrest : t'.recogniser.Idle ∧ (t'.goSilent ≠ 0 ↔ t'.recogniser.Tracking) ∧
      t'.silence = if ev.isReport then t'.goSilent else t.silence from
    ⟨⟨hable, hrest.1, hrest.2.1⟩, hrest.2.2⟩
  unfold handleTabletGestures at hhandle
  split at hhandle
  · rename_i hdropped
    cases hhandle
    rw [isDropped_report hdropped]
    exact ⟨h.idle, h.tracking, rfl⟩
  · dsimp only at hhandle
    have hrecorded : TracksGestures (t.recorded ev) ∧ (t.recorded ev).silence = t.silence := by
      have hrecord : (t.record ev).goSilent = t.goSilent ∧ (t.record ev).silence = t.silence := by
        unfold TabletTouches.record
        dsimp only
        repeat' split
        all_goals exact ⟨rfl, rfl⟩
      unfold TabletTouches.recorded
      split
      · refine ⟨⟨?_, ?_, ?_⟩, hrecord.2⟩
        · unfold TabletTouches.Able
          rw [(record_recogniser t ev).1]
          exact h.able
        · rw [(record_recogniser t ev).1]
          exact h.idle
        · rw [(record_recogniser t ev).1, hrecord.1]
          exact h.tracking
      · exact ⟨h, rfl⟩
    split at hhandle
    · obtain ⟨⟨t₁, recognised₁⟩, hflush, hrest⟩ := Option.bind_eq_some_iff.1 hhandle
      obtain ⟨hidle, htracking, hsilence⟩ := flush_tracks hrecorded.1 hflush
      cases hrest
      exact settle_tracks hidle htracking (hsilence.trans hrecorded.2)
    · cases hhandle
      exact settle_tracks hrecorded.1.idle hrecorded.1.tracking hrecorded.2

end

section
variable {F : Type} [Double F] {w w' : Tablet F} {i : TabletInput}

/-- A report that is not taken for the click of a finger. -/
def ReportHandled (w : Tablet F) (i : TabletInput) : Prop :=
  i.ev.isReport = true ∧ (w.tscale i.slot).btnleft ≠ .newlypressed

instance (w : Tablet F) (i : TabletInput) : Decidable (ReportHandled w i) :=
  inferInstanceAs (Decidable (_ ∧ _))

/-- What an event makes of the gestures. -/
structure TouchesStep (w : Tablet F) (i : TabletInput) (w' : Tablet F) : Prop where
  tracks : TracksGestures w'.touches
  silence : w'.touches.silence =
    if ReportHandled w i then w'.touches.goSilent else w.touches.silence

omit [Double F] in
theorem touchesStep_same (h : TracksGestures w.touches) (hsame : w'.touches = w.touches)
    (hnot : ¬ReportHandled w i) : TouchesStep w i w' := by
  refine ⟨hsame ▸ h, ?_⟩
  rw [if_neg hnot, hsame]

omit [Double F] in
theorem forward_tracks {u : Tablet F} (htouches : u.touches = w.touches)
    (h : TracksGestures w.touches) (ev newEv : InputEvent)
    (hreport : newEv.isReport = true ↔ ReportHandled w i) :
    ∃ w' acts, u.forward beyond slot ev newEv = some (w', acts) ∧ TouchesStep w i w' := by
  obtain ⟨t', recognised, pass, hhandle, -⟩ := handle_keeps beyond newEv h.able
  obtain ⟨htracks, hsilence⟩ := handle_tracks h hhandle
  rw [← htouches] at hhandle
  unfold Tablet.forward
  dsimp only
  rw [hhandle]
  refine ⟨_, _, rfl, htracks, ?_⟩
  simp only [← hreport]
  exact hsilence

/-- An event is always handled. -/
theorem tabletInput_tracks (h : TracksGestures w.touches) (i : TabletInput) :
    ∃ w' acts, tabletInput w i = some (w', acts) ∧ TouchesStep w i w' := by
  unfold tabletInput handleUsbTabletEvent
  by_cases hreport : i.ev.isReport = true
  · have htype := (isReport_iff.1 hreport).1
    rw [htype, if_neg fun h => absurd h.1 (by decide), syn_translate w i.slot htype]
    dsimp only
    by_cases hclick : (w.tscale i.slot).btnleft = .newlypressed
    · rw [if_pos ⟨hreport, hclick⟩]
      exact ⟨_, _, rfl, touchesStep_same h rfl fun hhandled => hhandled.2 hclick⟩
    · rw [if_neg fun h => hclick h.2, isReport_dropped hreport, if_neg Bool.false_ne_true,
        if_pos hreport]
      have hhandled : i.ev.isReport = true ↔ ReportHandled w i :=
        (and_iff_left hclick).symm
      split
      · exact forward_tracks (by rfl) h i.ev i.ev hhandled
      · exact forward_tracks (by rfl) h i.ev i.ev hhandled
  · have hnot : ¬ReportHandled w i := fun hhandled => hreport hhandled.1
    obtain ⟨newEv, htranslate, hsame⟩ := translate_held w i.slot i.ev
    have hreport' : ¬newEv.isReport = true := by
      rw [isReport_iff, hsame, ← isReport_iff]
      exact hreport
    have hhandled : newEv.isReport = true ↔ ReportHandled w i := iff_of_false hreport' hnot
    split
    · exact ⟨_, _, rfl, touchesStep_same h rfl hnot⟩
    · rw [htranslate]
      dsimp only
      rw [if_neg fun h => hreport' h.1]
      split
      · exact forward_tracks (by rfl) h i.ev newEv hhandled
      · split
        · exact ⟨_, _, rfl, touchesStep_same h rfl hnot⟩
        · exact forward_tracks (by rfl) h i.ev newEv hhandled

/-- An event that begins or ends a contact. -/
def TabletInput.TellsContact (i : TabletInput) : Prop :=
  i.ev.type = EV_ABS ∧ i.ev.code = ABS_MT_TRACKING_ID

theorem scaleEvent_contact (t : TabletScalingParams F) {ev : InputEvent}
    (hcode : ev.code = ABS_MT_TRACKING_ID) : scaleEvent t ev = ev := by
  unfold scaleEvent
  rw [hcode]
  rfl

omit [Double F] in
theorem handle_contact (beyond : Nat → SmallactionSlot) (t : TabletTouches) {ev : InputEvent}
    (habs : ev.type = EV_ABS) (hcode : ev.code = ABS_MT_TRACKING_ID) :
    ∃ t', handleTabletGestures beyond t ev = some (t', none, decide (t.silence = 0)) := by
  have hdropped : ¬ev.isDropped = true := by
    rw [isDropped_iff, habs]
    exact fun h => absurd h.1 (by decide)
  have hreport : ¬ev.isReport = true := by
    rw [isReport_iff, habs]
    exact fun h => absurd h.1 (by decide)
  have hslot : newSlot ev = -1 := by
    refine newSlot_other fun h => ?_
    rw [InputEvent.SelectsSlot, hcode] at h
    exact absurd h.2 (by decide)
  have hrecord : (t.recorded ev).silence = t.silence := by
    unfold TabletTouches.recorded TabletTouches.record
    dsimp only
    repeat' split
    all_goals rfl
  unfold handleTabletGestures
  rw [if_neg hdropped]
  dsimp only
  have hnothing : ¬(newSlot ev ≠ -1 ∨ ev.isReport = true) :=
    not_or.2 ⟨not_not.2 hslot, hreport⟩
  rw [if_neg hnothing]
  change ∃ t', some ((t.recorded ev).settle ev, none,
    decide (((t.recorded ev).settle ev).silence = 0)) = _
  have hsettle : ((t.recorded ev).settle ev).silence = t.silence := by
    unfold TabletTouches.settle
    rw [hslot, if_neg (not_not.2 rfl), if_neg hreport]
    exact hrecord
  rw [hsettle]
  exact ⟨_, rfl⟩

/-- The event of a contact is forwarded unless the gestures silence the tablets, its packet is
dropped, or a pen is in range and the tablet tells one touch only. -/
theorem contact_step (hcontact : i.TellsContact) (h : tabletInput w i = some (w', acts)) :
    .inject i.slot i.ev ∈ acts ↔ w.touches.silence = 0 ∧ w.ignoreEvents i.slot = false ∧
      ¬(w.penInrange = true ∧ (w.tscale i.slot).subtype = SUBTYPE_MONOTOUCH) := by
  obtain ⟨habs, hcode⟩ := hcontact
  unfold tabletInput handleUsbTabletEvent at h
  by_cases hpen : w.penInrange = true ∧ (w.tscale i.slot).subtype = SUBTYPE_MONOTOUCH
  · rw [if_pos ⟨habs, hpen⟩] at h
    cases h
    exact iff_of_false List.not_mem_nil fun hall => hall.2.2 hpen
  · have htranslate : w.translate i.slot i.ev = (w, i.ev) := by
      unfold Tablet.translate
      rw [if_pos habs, scaleEvent_contact _ hcode]
    have hreport : ¬i.ev.isReport = true := by
      rw [isReport_iff, habs]
      exact fun h => absurd h.1 (by decide)
    have hdropped : ¬i.ev.isDropped = true := by
      rw [isDropped_iff, habs]
      exact fun h => absurd h.1 (by decide)
    rw [if_neg fun hall => hpen hall.2, htranslate] at h
    dsimp only at h
    rw [if_neg fun hall => hreport hall.1, if_neg hdropped, if_neg hreport] at h
    by_cases hignore : w.ignoreEvents i.slot = true
    · rw [if_pos hignore] at h
      cases h
      refine iff_of_false List.not_mem_nil fun hall => ?_
      rw [hignore] at hall
      exact Bool.noConfusion hall.2.1
    · rw [if_neg hignore] at h
      obtain ⟨t', hhandle⟩ := handle_contact i.beyond w.touches habs hcode
      unfold Tablet.forward at h
      dsimp only at h
      rw [hhandle, if_neg fun hkey => absurd (habs.symm.trans hkey.1) (by decide)] at h
      cases h
      rw [Option.toList_none, List.map_nil, List.nil_append, List.nil_append,
        and_iff_left ⟨eq_false_of_ne_true hignore, hpen⟩]
      by_cases hsilence : w.touches.silence = 0
      · rw [decide_eq_true hsilence, if_pos rfl]
        exact iff_of_true List.mem_cons_self hsilence
      · rw [decide_eq_false hsilence, if_neg Bool.false_ne_true]
        exact iff_of_false List.not_mem_nil hsilence

/-- Where a stream leads to. -/
def tabletAfter (w : Tablet F) (is : List TabletInput) : Option (Tablet F) :=
  (tabletInputs w is).map (·.1)

theorem tabletAfter_snoc (w : Tablet F) (is : List TabletInput) (i : TabletInput) :
    tabletAfter w (is ++ [i]) =
      (tabletAfter w is).bind fun w' => (tabletInput w' i).map (·.1) := by
  induction is generalizing w with
  | nil =>
    change ((tabletInput w i).bind fun r => some (r.1, r.2 ++ [])).map (·.1) =
      (tabletInput w i).map (·.1)
    cases tabletInput w i <;> rfl
  | cons j is ih =>
    cases hone : tabletInput w j with
    | none =>
      unfold tabletAfter
      rw [List.cons_append, tabletInputs, tabletInputs, hone]
      rfl
    | some r =>
      have hcons (later : List TabletInput) :
          tabletAfter w (j :: later) = tabletAfter r.1 later := by
        unfold tabletAfter
        rw [tabletInputs_cons (show tabletInput w j = some (r.1, r.2) from hone), Option.map_map]
        rfl
      rw [List.cons_append, hcons, hcons, ih]

/-- The event is forwarded to the VM as it is. -/
def PassesOn (w : Tablet F) (past : List TabletInput) (i : TabletInput) : Prop :=
  ∃ w₁ w₂ acts, tabletAfter w past = some w₁ ∧ tabletInput w₁ i = some (w₂, acts) ∧
    .inject i.slot i.ev ∈ acts

/-- The last report of a stream that the gestures have seen. -/
structure LastReport (w : Tablet F) (past earlier : List TabletInput) (report : TabletInput)
    (since : List TabletInput) : Prop where
  split : past = earlier ++ report :: since
  handled : ∃ w₁, tabletAfter w earlier = some w₁ ∧ ReportHandled w₁ report
  last : ∀ before i after w₁, since = before ++ i :: after →
    tabletAfter w (earlier ++ report :: before) = some w₁ → ¬ReportHandled w₁ i

/-- A gesture was being tracked at the last report. -/
def TrackedAtReport (w : Tablet F) (past : List TabletInput) : Prop :=
  ∃ earlier report since w₁, LastReport w past earlier report since ∧
    tabletAfter w (earlier ++ [report]) = some w₁ ∧ w₁.touches.recogniser.Tracking

theorem lastReport_handled (hafter : tabletAfter w past = some w')
    (hhandled : ReportHandled w' i) :
    LastReport w (past ++ [i]) earlier report since ↔
      earlier = past ∧ report = i ∧ since = [] := by
  constructor
  · rintro ⟨hsplit, -, hlast⟩
    obtain rfl | ⟨before, i', rfl⟩ := List.eq_nil_or_concat since
    · obtain ⟨hpast, hi⟩ := List.append_inj' hsplit rfl
      exact ⟨hpast.symm, (List.cons.inj hi).1.symm, rfl⟩
    · rw [List.concat_eq_append, ← List.cons_append, ← List.append_assoc] at hsplit
      obtain ⟨hpast, hi⟩ := List.append_inj' hsplit rfl
      rw [hpast] at hafter
      have hnot := hlast before i' [] w' (List.concat_eq_append ..) hafter
      rw [← (List.cons.inj hi).1] at hnot
      exact absurd hhandled hnot
  · rintro ⟨rfl, rfl, rfl⟩
    refine ⟨rfl, ⟨w', hafter, hhandled⟩, ?_⟩
    intro before i after _ hnil
    exact absurd hnil (by simp)

theorem lastReport_other (hafter : tabletAfter w past = some w')
    (hother : ¬ReportHandled w' i) :
    LastReport w (past ++ [i]) earlier report since ↔
      ∃ before, since = before ++ [i] ∧ LastReport w past earlier report before := by
  constructor
  · rintro ⟨hsplit, ⟨w₁, hearlier, hhandled⟩, hlast⟩
    obtain rfl | ⟨before, i', rfl⟩ := List.eq_nil_or_concat since
    · obtain ⟨hpast, hi⟩ := List.append_inj' hsplit rfl
      rw [hpast, hearlier] at hafter
      cases hafter
      rw [(List.cons.inj hi).1] at hother
      exact absurd hhandled hother
    · rw [List.concat_eq_append] at hsplit hlast ⊢
      rw [← List.cons_append, ← List.append_assoc] at hsplit
      obtain ⟨hpast, hi⟩ := List.append_inj' hsplit rfl
      rw [(List.cons.inj hi).1]
      refine ⟨before, rfl, hpast, ⟨w₁, hearlier, hhandled⟩, ?_⟩
      intro before' j after w₂ hbefore
      refine hlast before' j (after ++ [i']) w₂ ?_
      rw [hbefore, List.append_assoc, List.cons_append]
  · rintro ⟨before, rfl, hsplit, hhandled, hlast⟩
    refine ⟨by rw [hsplit, List.append_assoc, List.cons_append], hhandled, ?_⟩
    intro before' j after w₁ hsince hreach
    obtain rfl | ⟨after, j', rfl⟩ := List.eq_nil_or_concat after
    · obtain ⟨hbefore, hj⟩ := List.append_inj' hsince rfl
      rw [← hbefore, ← hsplit, hafter] at hreach
      cases hreach
      rw [← (List.cons.inj hj).1]
      exact hother
    · rw [List.concat_eq_append, ← List.cons_append, ← List.append_assoc] at hsince
      obtain ⟨hbefore, -⟩ := List.append_inj' hsince rfl
      exact hlast before' j after w₁ hbefore hreach

theorem trackedAtReport_handled (hafter : tabletAfter w past = some w')
    (hstep : tabletAfter w (past ++ [i]) = some w₂) (hhandled : ReportHandled w' i) :
    TrackedAtReport w (past ++ [i]) ↔ w₂.touches.recogniser.Tracking := by
  constructor
  · rintro ⟨earlier, report, since, w₁, hlast, hreach, htracking⟩
    obtain ⟨rfl, rfl, rfl⟩ := (lastReport_handled hafter hhandled).1 hlast
    cases hreach.symm.trans hstep
    exact htracking
  · intro htracking
    exact ⟨past, i, [], w₂, (lastReport_handled hafter hhandled).2 ⟨rfl, rfl, rfl⟩, hstep,
      htracking⟩

theorem trackedAtReport_other (hafter : tabletAfter w past = some w')
    (hother : ¬ReportHandled w' i) :
    TrackedAtReport w (past ++ [i]) ↔ TrackedAtReport w past := by
  constructor
  · rintro ⟨earlier, report, since, w₁, hlast, hreach⟩
    obtain ⟨before, -, hbefore⟩ := (lastReport_other hafter hother).1 hlast
    exact ⟨earlier, report, before, w₁, hbefore, hreach⟩
  · rintro ⟨earlier, report, before, w₁, hlast, hreach⟩
    have hlonger := (lastReport_other hafter hother).2 ⟨before, rfl, hlast⟩
    exact ⟨earlier, report, before ++ [i], w₁, hlonger, hreach⟩

/-- The tablets as they are configured, before any event. -/
def startTablet (tscale : Nat → TabletScalingParams F) : Tablet F where
  tscale := tscale
  ignoreEvents := fun _ => false
  penInrange := false
  touches := startTouches

/-- After any stream the tablets are silenced exactly where a gesture was being tracked at the last
report. -/
theorem tablet_run (tscale : Nat → TabletScalingParams F) (past : List TabletInput) :
    ∃ w', tabletAfter (startTablet tscale) past = some w' ∧ TracksGestures w'.touches ∧
      (w'.touches.silence ≠ 0 ↔ TrackedAtReport (startTablet tscale) past) := by
  induction past using List.reverseRecOn with
  | nil =>
    have hall (g : Gesture) : g ∈ gestures := by
      cases g <;> decide
    refine ⟨_, rfl, ⟨.inl rfl, fun g hg => absurd (hall g) hg, ?_⟩, ?_⟩
    · refine iff_of_false (not_not.2 rfl) ?_
      rintro ⟨g, htracked⟩
      exact absurd htracked (by decide : ¬(⟨0, 0⟩ : Cursor).Tracked)
    · refine iff_of_false (not_not.2 rfl) ?_
      rintro ⟨earlier, report, since, -, hlast, -⟩
      exact absurd hlast.split (by simp)
  | append_singleton past i ih =>
    obtain ⟨w, hafter, htracks, hsilence⟩ := ih
    obtain ⟨w', acts, hstep, htracks', hsilence'⟩ := tabletInput_tracks htracks i
    have hafter' : tabletAfter (startTablet tscale) (past ++ [i]) = some w' := by
      rw [tabletAfter_snoc, hafter, Option.bind_some, hstep]
      rfl
    refine ⟨w', hafter', htracks', ?_⟩
    by_cases hhandled : ReportHandled w i
    · rw [hsilence', if_pos hhandled, htracks'.tracking,
        trackedAtReport_handled hafter hafter' hhandled]
    · rw [hsilence', if_neg hhandled, hsilence, trackedAtReport_other hafter hhandled]

/-- The slot that a device has selected. -/
def selectedSlot (device : Nat) (past : List TabletInput) : Int :=
  (decoded ((past.filter fun i => i.slot = device).map TabletInput.ev)).slot

/-- A contact of a stream: it is begun and ended in one slot of one device, and nothing in between
tells of a contact there. -/
structure ContactLasts (past : List TabletInput) (start : TabletInput)
    (during : List TabletInput) (stop : TabletInput) : Prop where
  begun : start.TellsContact ∧ 0 ≤ start.ev.value.toInt
  ended : stop.TellsContact ∧ stop.ev.value.toInt = -1
  device : stop.slot = start.slot
  slot : selectedSlot start.slot (past ++ start :: during) = selectedSlot start.slot past
  alone : ∀ before i after, during = before ++ i :: after → i.TellsContact →
    i.slot = start.slot →
      selectedSlot start.slot (past ++ start :: before) ≠ selectedSlot start.slot past

/-- A contact while which no other is begun or ended. -/
theorem contactLasts_quiet (hbegun : start.TellsContact ∧ 0 ≤ start.ev.value.toInt)
    (hended : stop.TellsContact ∧ stop.ev.value.toInt = -1) (hdevice : stop.slot = start.slot)
    (hslot : selectedSlot start.slot (past ++ start :: during) = selectedSlot start.slot past)
    (hquiet : ∀ i ∈ during, i.ev.code ≠ ABS_MT_TRACKING_ID) :
    ContactLasts past start during stop := by
  refine ⟨hbegun, hended, hdevice, hslot, ?_⟩
  intro before i after hduring hcontact
  have hmem : i ∈ during := by
    rw [hduring]
    exact List.mem_append_right _ List.mem_cons_self
  exact absurd hcontact.2 (hquiet i hmem)

/-- Every contact whose start was forwarded has its end forwarded too. -/
def ContactsPaired (w : Tablet F) (is : List TabletInput) : Prop :=
  ∀ past start during stop later, is = past ++ start :: during ++ stop :: later →
    ContactLasts past start during stop → PassesOn w past start →
      PassesOn w (past ++ start :: during) stop

/-- What an event of a contact is withheld for: a gesture was being tracked at the last report, the
packet is being dropped, or a pen is in range of a tablet of one touch. -/
def Withheld (w : Tablet F) (past : List TabletInput) (i : TabletInput) : Prop :=
  TrackedAtReport w past ∨ ∃ w₁, tabletAfter w past = some w₁ ∧
    (w₁.ignoreEvents i.slot = true ∨
      w₁.penInrange = true ∧ (w₁.tscale i.slot).subtype = SUBTYPE_MONOTOUCH)

theorem contact_passes_iff (tscale : Nat → TabletScalingParams F) (past : List TabletInput)
    (hcontact : i.TellsContact) :
    PassesOn (startTablet tscale) past i ↔ ¬Withheld (startTablet tscale) past i := by
  obtain ⟨w, hafter, htracks, hsilence⟩ := tablet_run tscale past
  obtain ⟨w', acts, hstep, -⟩ := tabletInput_tracks htracks i
  have hpasses : PassesOn (startTablet tscale) past i ↔ .inject i.slot i.ev ∈ acts := by
    constructor
    · rintro ⟨_, _, _, hafter', hstep', hmem⟩
      cases hafter'.symm.trans hafter
      cases hstep'.symm.trans hstep
      exact hmem
    · exact fun hmem => ⟨w, w', acts, hafter, hstep, hmem⟩
  have hwithheld : Withheld (startTablet tscale) past i ↔ w.touches.silence ≠ 0 ∨
      (w.ignoreEvents i.slot = true ∨
        w.penInrange = true ∧ (w.tscale i.slot).subtype = SUBTYPE_MONOTOUCH) := by
    unfold Withheld
    rw [hsilence, hafter]
    refine or_congr_right ?_
    simp only [Option.some.injEq, exists_eq_left']
  rw [hpasses, hwithheld, contact_step hcontact hstep, not_or, not_or, not_ne_iff,
    Bool.not_eq_true]

/-- A contact whose start was forwarded has its end forwarded too, unless the end is withheld. -/
theorem contact_ended_iff (tscale : Nat → TabletScalingParams F) (is : List TabletInput) :
    ∀ past start during stop later, is = past ++ start :: during ++ stop :: later →
      ContactLasts past start during stop → PassesOn (startTablet tscale) past start →
        (PassesOn (startTablet tscale) (past ++ start :: during) stop ↔
          ¬Withheld (startTablet tscale) (past ++ start :: during) stop) := by
  intro past start during stop later _ hlasts _
  exact contact_passes_iff tscale (past ++ start :: during) hlasts.ended.1

end

def selectInput (slot : Int32) : TabletInput := onTablet ⟨EV_ABS, ABS_MT_SLOT, slot⟩

def contactInput (id : Int32) : TabletInput := onTablet ⟨EV_ABS, ABS_MT_TRACKING_ID, id⟩

/-- Tablets whose coordinates need no scaling. -/
def restingTablets : Tablet ℚ := startTablet restingTablet.tscale

theorem contact_ended_tap :
    PassesOn restingTablets [selectInput 0, contactInput 7, reportInput] (contactInput (-1)) ↔
      ¬Withheld restingTablets [selectInput 0, contactInput 7, reportInput]
        (contactInput (-1)) := by
  refine contact_ended_iff restingTablet.tscale
    [selectInput 0, contactInput 7, reportInput, contactInput (-1)] [selectInput 0]
    (contactInput 7) [reportInput] (contactInput (-1)) [] rfl ?_ ?_
  · exact contactLasts_quiet ⟨⟨rfl, rfl⟩, by decide⟩ ⟨⟨rfl, rfl⟩, by decide⟩ rfl (by decide)
      (by decide)
  · exact ⟨_, _, _, rfl, rfl, by decide⟩

/-- Two fingers are put down at the right edge. -/
def fingersAtEdge : List TabletInput :=
  [selectInput 0, contactInput 1, onTablet ⟨EV_ABS, ABS_MT_POSITION_X, 30000⟩,
    onTablet ⟨EV_ABS, ABS_MT_POSITION_Y, 16000⟩, selectInput 1, contactInput 2,
    onTablet ⟨EV_ABS, ABS_MT_POSITION_X, 30000⟩, onTablet ⟨EV_ABS, ABS_MT_POSITION_Y, 16000⟩,
    reportInput]

def dropDuringTap : List TabletInput :=
  [selectInput 0, contactInput 1, dropInput]

def penDuringTap : List TabletInput :=
  [selectInput 0, contactInput 1, onTablet (keyOf BTN_TOOL_PEN 1)]

/-- The second of two fingers that begin a swipe is not lifted, nor is one whose packet is dropped
or that a pen comes near to. -/
theorem contacts_unpaired :
    ¬ContactsPaired restingTablets (fingersAtEdge ++ [contactInput (-1)]) ∧
      ¬ContactsPaired restingTablets (dropDuringTap ++ [contactInput (-1)]) ∧
      ¬ContactsPaired restingTablets (penDuringTap ++ [contactInput (-1)]) := by
  have hpasses (past : List TabletInput) (i : TabletInput) (passes : Bool)
      (hrun : ((tabletAfter restingTablets past).bind fun w =>
        (tabletInput w i).map fun r => decide (.inject i.slot i.ev ∈ r.2)) = some passes) :
      PassesOn restingTablets past i ↔ passes = true := by
    obtain ⟨w₁, hafter, hrun⟩ := Option.bind_eq_some_iff.1 hrun
    obtain ⟨⟨w₂, acts⟩, hstep, hpasses⟩ := Option.map_eq_some_iff.1 hrun
    rw [← hpasses, decide_eq_true_iff]
    constructor
    · rintro ⟨_, _, _, hafter', hstep', hmem⟩
      cases hafter'.symm.trans hafter
      cases hstep'.symm.trans hstep
      exact hmem
    · exact fun hmem => ⟨w₁, w₂, acts, hafter, hstep, hmem⟩
  have hunpaired (past : List TabletInput) (id : Int32) (during : List TabletInput)
      (hid : 0 ≤ id.toInt)
      (hslot : selectedSlot 0 (past ++ contactInput id :: during) = selectedSlot 0 past)
      (hquiet : ∀ i ∈ during, i.ev.code ≠ ABS_MT_TRACKING_ID)
      (hstart : PassesOn restingTablets past (contactInput id) ↔ true = true)
      (hstop : PassesOn restingTablets (past ++ contactInput id :: during) (contactInput (-1)) ↔
        false = true) :
      ¬ContactsPaired restingTablets
        (past ++ contactInput id :: during ++ [contactInput (-1)]) := by
    intro h
    have hlasts : ContactLasts past (contactInput id) during (contactInput (-1)) :=
      contactLasts_quiet ⟨⟨rfl, rfl⟩, hid⟩ ⟨⟨rfl, rfl⟩, by decide⟩ rfl hslot hquiet
    exact Bool.false_ne_true (hstop.1 (h past _ during _ [] rfl hlasts (hstart.2 rfl)))
  refine ⟨?_, ?_, ?_⟩
  · exact hunpaired (fingersAtEdge.take 5) 2 (fingersAtEdge.drop 6) (by decide) (by decide)
      (by decide) (hpasses _ _ _ (by decide +kernel)) (hpasses _ _ _ (by decide +kernel))
  · exact hunpaired [selectInput 0] 1 [dropInput] (by decide) (by decide)
      (by decide) (hpasses _ _ _ (by decide)) (hpasses _ _ _ (by decide))
  · exact hunpaired [selectInput 0] 1 [onTablet (keyOf BTN_TOOL_PEN 1)] (by decide) (by decide)
      (by decide) (hpasses _ _ _ (by decide)) (hpasses _ _ _ (by decide))

end InputServer
