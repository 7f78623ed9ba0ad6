import InputServer.ClickHold

namespace InputServer
open Program
set_option autoImplicit true

/-- A pointer event of a run, and whom it was delivered to. -/
structure Pointing (F : Type) where
  event : InputEvent
  slot : Int32
  type : HidType
  deliveries : List (Delivery F)

theorem firstWord_lt : 0 < 3 := by
  decide

/-- The word of the mask that has the mouse's buttons. -/
abbrev firstWord : Fin 3 :=
  ⟨0, firstWord_lt⟩

/-- What is held since the first press: the buttons, each on its device; the device whose packet
releases the last one, until its SYN_REPORT; and whether a device released a button that another
one holds too. -/
structure Grip where
  held : List (Int32 × UInt16)
  closing : Option Int32
  shared : Bool

namespace Grip

def free : Grip := ⟨[], none, false⟩

def Engaged (g : Grip) : Prop :=
  g.held ≠ [] ∨ g.closing ≠ none

def step {F : Type} (g : Grip) (x : Pointing F) : Grip :=
  if x.event.type = EV_KEY ∧ isButton x.event then
    if x.event.value ≠ 0 then
      { g with held := (x.slot, x.event.code) :: g.held, closing := none }
    else
      let held := g.held.filter fun b => b ≠ (x.slot, x.event.code)
      { held := held
        closing := if held = [] ∧ g.held ≠ [] then some x.slot else g.closing
        shared := g.shared || held.any fun b => b.2 = x.event.code }
  else if x.event.type = EV_SYN ∧ x.event.code = SYN_REPORT ∧ g.closing = some x.slot then free
  else g

def after {F : Type} (xs : List (Pointing F)) : Grip :=
  xs.foldl step free

theorem after_snoc {F : Type} (xs : List (Pointing F)) (x : Pointing F) :
    after (xs ++ [x]) = (after xs).step x := by
  unfold after
  rw [List.foldl_append, List.foldl_cons, List.foldl_nil]

/-- The mask shows the buttons that are held, while no device releases another's. -/
def Masks {F : Type} (g : Grip) (r : Routing F) : Prop :=
  g.shared = false →
    (∀ b ∈ g.held, (BTN_MISC ≤ b.2 ∧ b.2 < BTN_JOYSTICK) ∧
      (r.buttons firstWord).toNat.testBit (b.2.toNat - BTN_MISC.toNat) = true) ∧
    (g.held ≠ [] → r.mouseButton.toNat.testBit 0 = true)

end Grip

theorem ne_zero_of_testBit {a : UInt32} {i : Nat} (h : a.toNat.testBit i = true) : a ≠ 0 := by
  rintro rfl
  simp at h

theorem Grip.Masks.down {F : Type} {g : Grip} {r : Routing F} (h : g.Masks r)
    (hown : g.shared = false) (hheld : g.held ≠ []) : r.mouseButton ≠ 0 :=
  ne_zero_of_testBit ((h hown).2 hheld)

section
variable {F : Type}

theorem buttonBit_lt (h : BTN_MISC ≤ code ∧ code < BTN_JOYSTICK) :
    code.toNat - BTN_MISC.toNat < 32 := by
  have hlow := UInt16.le_iff_toNat_le.mp h.1
  have hhigh := UInt16.lt_iff_toNat_lt.mp h.2
  have hmisc : BTN_MISC.toNat = 256 := rfl
  have hjoystick : BTN_JOYSTICK.toNat = 288 := rfl
  omega

theorem buttonBit_inj (h : BTN_MISC ≤ code ∧ code < BTN_JOYSTICK)
    (h' : BTN_MISC ≤ code' ∧ code' < BTN_JOYSTICK)
    (heq : code.toNat - BTN_MISC.toNat = code'.toNat - BTN_MISC.toNat) : code = code' := by
  have hlow := UInt16.le_iff_toNat_le.mp h.1
  have hlow' := UInt16.le_iff_toNat_le.mp h'.1
  apply UInt16.toNat_inj.mp
  omega

/-- The buttons all have their bits in the first word. -/
theorem trackButton_first (h : isButton e = true) (r : Routing F) :
    (trackButton e r).buttons firstWord =
        (if e.value ≠ 0 then r.buttons firstWord ||| 1 <<< UInt32.ofNat (e.code.toNat - BTN_MISC.toNat)
        else r.buttons firstWord &&& ~~~(1 <<< UInt32.ofNat (e.code.toNat - BTN_MISC.toNat))) ∧
      (trackButton e r).mouseButton =
        (if e.value ≠ 0 then
          if (trackButton e r).buttons firstWord ≠ 0 then r.mouseButton ||| 1 <<< UInt32.ofNat 0
          else r.mouseButton
        else if (trackButton e r).buttons firstWord = 0 then r.mouseButton &&& ~~~(1 <<< UInt32.ofNat 0)
        else r.mouseButton) := by
  have hlt := buttonBit_lt (of_decide_eq_true h)
  have hword : (e.code.toNat - BTN_MISC.toNat) / 32 = 0 := Nat.div_eq_of_lt hlt
  have hbit : (e.code.toNat - BTN_MISC.toNat) % 32 = e.code.toNat - BTN_MISC.toNat :=
    Nat.mod_eq_of_lt hlt
  unfold trackButton
  simp [hword, hbit]

theorem trackButton_press (h : isButton e = true) (hdown : e.value ≠ 0) (r : Routing F) :
    (∀ i, ((trackButton e r).buttons firstWord).toNat.testBit i =
        ((r.buttons firstWord).toNat.testBit i || decide (e.code.toNat - BTN_MISC.toNat = i))) ∧
      (trackButton e r).mouseButton.toNat.testBit 0 = true := by
  have hlt := buttonBit_lt (of_decide_eq_true h)
  obtain ⟨hbuttons, hmask⟩ := trackButton_first h r
  rw [if_pos hdown] at hbuttons hmask
  have hbits (i : Nat) : ((trackButton e r).buttons firstWord).toNat.testBit i =
      ((r.buttons firstWord).toNat.testBit i || decide (e.code.toNat - BTN_MISC.toNat = i)) := by
    rw [hbuttons, Bitmask.testBit_or, Bitmask.testBit_one_shift hlt]
  have hset : ((trackButton e r).buttons firstWord).toNat.testBit (e.code.toNat - BTN_MISC.toNat) =
      true := by
    rw [hbits, decide_eq_true rfl, Bool.or_true]
  refine ⟨hbits, ?_⟩
  rw [hmask, if_pos (ne_zero_of_testBit hset), Bitmask.testBit_or,
    Bitmask.testBit_one_shift (by decide), decide_eq_true rfl, Bool.or_true]

theorem trackButton_release (h : isButton e = true) (hup : e.value = 0) (r : Routing F) :
    (∀ i, ((trackButton e r).buttons firstWord).toNat.testBit i =
        ((r.buttons firstWord).toNat.testBit i && !decide (e.code.toNat - BTN_MISC.toNat = i))) ∧
      ((trackButton e r).buttons firstWord ≠ 0 → (trackButton e r).mouseButton = r.mouseButton) := by
  have hlt := buttonBit_lt (of_decide_eq_true h)
  obtain ⟨hbuttons, hmask⟩ := trackButton_first h r
  rw [if_neg (not_not.mpr hup)] at hbuttons hmask
  refine ⟨?_, ?_⟩
  · intro i
    rw [hbuttons, Bitmask.testBit_andNot, Bitmask.testBit_one_shift hlt]
  · intro hleft
    rw [hmask, if_neg hleft]

/-- Tracking an event keeps the mask. -/
theorem Grip.Masks.step {g : Grip} {r : Routing F} (h : g.Masks r) (x : Pointing F) :
    (g.step x).Masks (trackHeld x.event r) := by
  unfold Grip.step trackHeld
  by_cases hbutton : x.event.type = EV_KEY ∧ isButton x.event = true
  · rw [if_pos hbutton, if_pos hbutton]
    have hcode := of_decide_eq_true hbutton.2
    by_cases hdown : x.event.value ≠ 0
    · rw [if_pos hdown]
      obtain ⟨hbits, hmask⟩ := trackButton_press hbutton.2 hdown r
      intro hown
      refine ⟨?_, fun _ => hmask⟩
      intro b hb
      rw [hbits]
      obtain rfl | hb := List.mem_cons.mp hb
      · exact ⟨hcode, by simp⟩
      · obtain ⟨hb, hset⟩ := (h hown).1 b hb
        exact ⟨hb, by rw [hset, Bool.true_or]⟩
    · rw [if_neg hdown]
      obtain ⟨hbits, hmask⟩ := trackButton_release hbutton.2 (not_not.mp hdown) r
      intro hown
      obtain ⟨hshared, hnone⟩ := Bool.or_eq_false_iff.mp hown
      have hkept : ∀ b ∈ g.held.filter (fun b => b ≠ (x.slot, x.event.code)),
          (BTN_MISC ≤ b.2 ∧ b.2 < BTN_JOYSTICK) ∧ ((trackButton x.event r).buttons firstWord).toNat.testBit
            (b.2.toNat - BTN_MISC.toNat) = true := by
        intro b hb
        obtain ⟨hrange, hset⟩ := (h hshared).1 b (List.mem_of_mem_filter hb)
        have hne : b.2 ≠ x.event.code := by
          intro heq
          have hany := List.any_eq_false.mp hnone b hb
          simp [heq] at hany
        have hbit : x.event.code.toNat - BTN_MISC.toNat ≠ b.2.toNat - BTN_MISC.toNat :=
          fun heq => hne (buttonBit_inj hcode hrange heq).symm
        refine ⟨hrange, ?_⟩
        rw [hbits, hset, decide_eq_false hbit]
        rfl
      refine ⟨hkept, ?_⟩
      intro hheld
      obtain ⟨b, hb⟩ := List.exists_mem_of_ne_nil _ hheld
      have hleft := ne_zero_of_testBit (hkept b hb).2
      rw [hmask hleft]
      exact (h hshared).2 (List.ne_nil_of_mem (List.mem_of_mem_filter hb))
  · rw [if_neg hbutton, if_neg hbutton]
    split
    · intro _
      exact ⟨fun b hb => absurd hb (List.not_mem_nil), fun hheld => absurd rfl hheld⟩
    · exact h

end

section
variable {F : Type} [Double F] {p m : DomPtr}

def Pointing.Presses (x : Pointing F) : Prop :=
  x.event.type = EV_KEY ∧ isButton x.event = true ∧ x.event.value ≠ 0

/-- A pointer event under the divert, with the buttons that are held. -/
def Pointing.Step (p m : DomPtr) (x : Pointing F) (s s' : World F × Grip) : Prop :=
  HoldsClicks p m s.1 ∧ HoldsClicks p m s'.1 ∧ s.1.Points x.event x.slot ∧ s'.2 = s.2.step x ∧
    ∃ depth e', Delivering.inputInject depth x.event x.slot x.type (s.1, []) =
      .ok (e', s'.1, x.deliveries)

/-- Nothing takes an event from the side that holds it. -/
structure Pointing.Kept (p m : DomPtr) (x : Pointing F) (s : World F × Grip) : Prop where
  calm : ∀ dv, (s.1.domains p).divertInfo = some dv → Calm s.1 dv x.event x.type
  own : s.2.Engaged → isButton x.event = true → x.event.value = 0 → ∀ mb mbs,
    takePressed x.event.code x.slot s.1.routing.mousePressed = some (mb, mbs) →
      mb.domain = s.1.routing.lastD
  framed : s.2.Engaged → s.2.held = [] ∨ s.2.shared = true →
    (s.1.tracked x.event x.type).routing.LetsGo x.event →
      ∀ dv, (s.1.domains p).divertInfo = some dv →
        s.1.routing.lastD = some ((s.1.tracked x.event x.type).framed p m dv)

/-- What the statics know of the buttons that are held, and of the side that they are held at. -/
structure Grip.Tracked (p m : DomPtr) (g : Grip) (r : Routing F) : Prop where
  masks : g.Masks r
  holding : g.shared = false → g.held ≠ [] → r.buttonHolding ≠ 0
  side : g.Engaged → ∃ d, (d = p ∨ d = m) ∧ r.lastD = some d

omit [Double F] in
theorem Grip.tracked_of_idle {g : Grip} (h : ¬g.Engaged) (r : Routing F) : g.Tracked p m r := by
  have hheld : g.held = [] := not_not.mp fun hheld => h (.inl hheld)
  refine ⟨?_, fun _ hne => absurd hheld hne, fun hengaged => absurd hengaged h⟩
  intro _
  rw [hheld]
  exact ⟨fun b hb => absurd hb List.not_mem_nil, fun hne => absurd rfl hne⟩

omit [Double F] in
/-- While a button is held that no other device released, the hold is not given up. -/
theorem Grip.Tracked.lasts {g : Grip} {r : Routing F} (h : g.Tracked p m r) (e : InputEvent)
    (hown : g.shared = false) (hheld : g.held ≠ []) : ¬(trackHeld e r).LetsGo e := by
  rintro ⟨hup, hover⟩
  obtain ⟨buttons, mouseButton, hr⟩ := trackHeld_eq e r
  have hsame : (trackHeld e r).buttonHolding = r.buttonHolding := by
    rw [hr]
  by_cases hbutton : e.type = EV_KEY ∧ isButton e = true
  · have hreport : ¬e.Report := by
      rintro ⟨htype, _⟩
      rw [hbutton.1] at htype
      exact absurd htype (by decide)
    have hlast : r.buttonHolding = 0 := by
      rw [← hsame]
      exact hover.resolve_right fun h => hreport h.1
    exact h.holding hown hheld hlast
  · rw [trackHeld, if_neg hbutton] at hup
    exact h.masks.down hown hheld hup

/-- An event of a hold goes to the side that holds it, and the first press to one of them. -/
theorem Pointing.Step.goes {x : Pointing F} {s s' : World F × Grip} (h : Pointing.Step p m x s s')
    (hkept : x.Kept p m s) (htracked : s.2.Tracked p m s.1.routing)
    (hpart : s.2.Engaged ∨ x.Presses) :
    ∃ d, (d = p ∨ d = m) ∧ GoesTo d x.deliveries ∧ s'.1.routing.lastD = some d ∧
      (s.2.Engaged → s.1.routing.lastD = some d) ∧ s'.2.Tracked p m s'.1.routing := by
  obtain ⟨hw, hw', hpoints, hgrip, depth, e', hrun⟩ := h
  obtain ⟨dv, hdv, hmode⟩ := hw.divert
  obtain ⟨u, y, hv⟩ := tracked_eq s.1 x.event x.type
  obtain ⟨buttons, mouseButton, hr⟩ := trackHeld_eq x.event s.1.routing
  have hletsGo : (s.1.tracked x.event x.type).routing.LetsGo x.event ↔
      (trackHeld x.event s.1.routing).LetsGo x.event := by
    rw [hv]
    rfl
  have hlast : (s.1.tracked x.event x.type).routing.lastD = s.1.routing.lastD := by
    rw [hv, hr]
  have hside : s.2.Engaged →
      s.1.routing.lastD = some ((s.1.tracked x.event x.type).side p m dv x.event) := by
    intro hengaged
    obtain ⟨d, hd, hheld⟩ := htracked.side hengaged
    by_cases hgo : (s.1.tracked x.event x.type).routing.LetsGo x.event
    · rw [side_free hmode hgo]
      refine hkept.framed hengaged ?_ hgo dv hdv
      by_contra hnot
      rw [not_or, Bool.not_eq_true] at hnot
      exact htracked.lasts x.event hnot.2 hnot.1 (hletsGo.mp hgo)
    · rw [side_held hmode hgo (hlast.trans hheld) hd]
      exact hheld
  have hown : x.event.type = EV_KEY → isButton x.event = true → x.event.value = 0 → ∀ mb mbs,
      takePressed x.event.code x.slot s.1.routing.mousePressed = some (mb, mbs) →
        mb.domain = some ((s.1.tracked x.event x.type).side p m dv x.event) := by
    intro hkey hbutton hup mb mbs hfound
    obtain hengaged | hpress := hpart
    · rw [← hside hengaged]
      exact hkept.own hengaged hbutton hup mb mbs hfound
    · exact absurd hup hpress.2.2
  cases depth with
  | zero => cases hrun
  | succ depth =>
    have hends := inputInjectWith_goes (inputInject_keepsNumlock depth) hw hdv hpoints
      (hkept.calm dv hdv) hown
    unfold ends at hends
    change Delivering.inputInjectWith (InputServer.inputInject depth) _ _ _ _ = _ at hrun
    rw [hrun] at hends
    obtain ⟨hgoes, hcaught⟩ := hends hw'.unsplit
    refine ⟨_, side_mem p m dv x.event _, hgoes, hcaught.lastD, hside, ?_⟩
    have hmasks : s'.2.Masks s'.1.routing := by
      have hstep := htracked.masks.step x
      rw [hgrip]
      unfold Grip.Masks at hstep ⊢
      rw [hcaught.mouseButton, hcaught.buttons]
      exact hstep
    refine ⟨hmasks, ?_, fun _ => ⟨_, side_mem p m dv x.event _, hcaught.lastD⟩⟩
    intro hshared hheld hzero
    rw [hcaught.holding, holdButton_letsGo hmode] at hzero
    have hdown := hmasks.down hshared hheld
    rw [hcaught.mouseButton] at hdown
    exact hdown hzero.1

/-- The events of a run from the first press on, until the SYN_REPORT that closes the packet with
the last release, or as far as the run gets. -/
structure HeldStretch (before stretch : List (Pointing F)) : Prop where
  free : ¬(Grip.after before).Engaged
  press : ∃ x xs, stretch = x :: xs ∧ x.Presses
  engaged : ∀ xs y ys, stretch = xs ++ y :: ys → xs ≠ [] → (Grip.after (before ++ xs)).Engaged

omit [Double F] in
theorem HeldStretch.init {before stretch : List (Pointing F)} {x : Pointing F}
    (h : HeldStretch before (stretch ++ [x])) (hne : stretch ≠ []) :
    HeldStretch before stretch := by
  refine ⟨h.free, ?_, ?_⟩
  · obtain ⟨y, ys, hcons, hpress⟩ := h.press
    obtain ⟨z, zs, rfl⟩ := List.exists_cons_of_ne_nil hne
    rw [List.cons_append] at hcons
    rw [← (List.cons.inj hcons).1] at hpress
    exact ⟨z, zs, rfl, hpress⟩
  · intro xs y ys hsplit
    apply h.engaged xs y (ys ++ [x])
    rw [hsplit, List.append_assoc, List.cons_append]

/-- What a run keeps: the stretch that it ends in goes to one side. -/
structure HeldSoFar (p m : DomPtr) (acts : List (Pointing F)) (s : World F × Grip) : Prop where
  grip : s.2 = Grip.after acts
  tracked : s.2.Tracked p m s.1.routing
  last : ∀ before stretch, acts = before ++ stretch → HeldStretch before stretch →
    ∃ d, (d = p ∨ d = m) ∧ (∀ x ∈ stretch, GoesTo d x.deliveries) ∧
      (s.2.Engaged → s.1.routing.lastD = some d)

omit [Double F] in
/-- Without a press, or a button that is held, nothing is held. -/
theorem Grip.step_idle {g : Grip} {x : Pointing F} (h : ¬g.Engaged) (hpress : ¬x.Presses) :
    ¬(g.step x).Engaged := by
  have hheld : g.held = [] := not_not.mp fun hheld => h (.inl hheld)
  have hclosing : g.closing = none := not_not.mp fun hclosing => h (.inr hclosing)
  unfold Grip.step
  by_cases hbutton : x.event.type = EV_KEY ∧ isButton x.event = true
  · have hup : ¬x.event.value ≠ 0 := fun hdown => hpress ⟨hbutton.1, hbutton.2, hdown⟩
    rw [if_pos hbutton, if_neg hup]
    unfold Grip.Engaged
    simp [hheld, hclosing]
  · have hopen : ¬(x.event.type = EV_SYN ∧ x.event.code = SYN_REPORT ∧
        g.closing = some x.slot) := by
      rw [hclosing]
      exact fun h => nomatch h.2.2
    rw [if_neg hbutton, if_neg hopen]
    exact h

omit [Double F] in
/-- The last event of a stretch is the first press, or comes while something is held. -/
theorem HeldStretch.last_cases {acts before stretch : List (Pointing F)} {x : Pointing F}
    (h : HeldStretch before stretch) (hsplit : acts ++ [x] = before ++ stretch) :
    (stretch = [x] ∧ x.Presses) ∨ ∃ xs, stretch = xs ++ [x] ∧ acts = before ++ xs ∧
      HeldStretch before xs ∧ (Grip.after acts).Engaged := by
  obtain rfl | ⟨xs, y, rfl⟩ := List.eq_nil_or_concat' stretch
  · obtain ⟨_, _, hcons, _⟩ := h.press
    cases hcons
  rw [← List.append_assoc] at hsplit
  obtain ⟨rfl, hy⟩ := List.append_inj' hsplit rfl
  cases hy
  by_cases hnil : xs = []
  · subst hnil
    obtain ⟨z, zs, hcons, hpress⟩ := h.press
    rw [← (List.cons.inj hcons).1] at hpress
    exact .inl ⟨rfl, hpress⟩
  · exact .inr ⟨xs, rfl, rfl, h.init hnil, h.engaged xs x [] rfl hnil⟩

theorem HeldSoFar.step {acts : List (Pointing F)} {x : Pointing F} {s s' : World F × Grip}
    (h : HeldSoFar p m acts s) (hstep : x.Step p m s s') (hkept : x.Kept p m s) :
    HeldSoFar p m (acts ++ [x]) s' := by
  have hgrip : s'.2 = Grip.after (acts ++ [x]) := by
    rw [hstep.2.2.2.1, h.grip, Grip.after_snoc]
  by_cases hpart : s.2.Engaged ∨ x.Presses
  · obtain ⟨d, hd, hgoes, hlast', hlast, htracked⟩ := hstep.goes hkept h.tracked hpart
    refine ⟨hgrip, htracked, ?_⟩
    intro before stretch hsplit hstretch
    refine ⟨d, hd, ?_, fun _ => hlast'⟩
    obtain ⟨rfl, _⟩ | ⟨xs, rfl, hbefore, hxs, hengaged⟩ := hstretch.last_cases hsplit
    · intro y hy
      rw [List.mem_singleton.mp hy]
      exact hgoes
    · rw [← h.grip] at hengaged
      obtain ⟨d', _, hall, hheld⟩ := h.last before xs hbefore hxs
      have hsame : d' = d := Option.some.inj ((hheld hengaged).symm.trans (hlast hengaged))
      rw [hsame] at hall
      intro y hy
      obtain hy | hy := List.mem_append.mp hy
      · exact hall y hy
      · rw [List.mem_singleton.mp hy]
        exact hgoes
  · rw [not_or] at hpart
    have hidle : ¬s'.2.Engaged := by
      rw [hstep.2.2.2.1]
      exact Grip.step_idle hpart.1 hpart.2
    refine ⟨hgrip, Grip.tracked_of_idle hidle _, ?_⟩
    intro before stretch hsplit hstretch
    obtain ⟨_, hpress⟩ | ⟨_, _, _, _, hengaged⟩ := hstretch.last_cases hsplit
    · exact absurd hpress hpart.2
    · rw [← h.grip] at hengaged
      exact absurd hengaged hpart.1

omit [Double F] in
theorem held_nil (p m : DomPtr) (w : World F) : HeldSoFar p m [] (w, Grip.free) := by
  have hidle : ¬Grip.free.Engaged := fun h => h.elim (fun h => h rfl) fun h => h rfl
  refine ⟨rfl, Grip.tracked_of_idle hidle _, ?_⟩
  intro before stretch hsplit hstretch
  obtain ⟨_, _, rfl, _⟩ := hstretch.press
  obtain ⟨_, hcons⟩ := List.append_eq_nil_iff.mp hsplit.symm
  cases hcons

/-- Every stretch of a run goes to one side. -/
def HeldThroughout (p m : DomPtr) (acts : List (Pointing F)) : Prop :=
  ∀ before stretch behind, acts = before ++ stretch ++ behind → HeldStretch before stretch →
    ∃ d, (d = p ∨ d = m) ∧ ∀ x ∈ stretch, GoesTo d x.deliveries

omit [Double F] in
theorem HeldThroughout.snoc {acts : List (Pointing F)} {x : Pointing F} {s : World F × Grip}
    (h : HeldThroughout p m acts) (hlast : HeldSoFar p m (acts ++ [x]) s) :
    HeldThroughout p m (acts ++ [x]) := by
  intro before stretch behind hsplit hstretch
  obtain rfl | ⟨ys, y, rfl⟩ := List.eq_nil_or_concat' behind
  · rw [List.append_nil] at hsplit
    obtain ⟨d, hd, hall, _⟩ := hlast.last before stretch hsplit hstretch
    exact ⟨d, hd, hall⟩
  · rw [← List.append_assoc] at hsplit
    exact h before stretch ys (List.append_inj' hsplit rfl).1 hstretch

/-- What is clicked stays on one side of the divert, up to the SYN_REPORT behind the last release,
in every run in which nothing takes an event from the side that holds it. -/
theorem click_hold_kept {w : World F} {acts : List (Pointing F)} {s : World F × Grip}
    (hrun : Run (fun x s s' => Pointing.Step p m x s s' ∧ x.Kept p m s) (w, Grip.free) acts s) :
    HeldThroughout p m acts := by
  have hstart : HeldSoFar p m [] (w, Grip.free) ∧ HeldThroughout p m ([] : List (Pointing F)) := by
    refine ⟨held_nil p m w, ?_⟩
    intro before stretch behind hsplit hstretch
    obtain ⟨_, _, rfl, _⟩ := hstretch.press
    simp at hsplit
  have hall : HeldSoFar p m acts s ∧ HeldThroughout p m acts := by
    refine hrun.invariant (I := fun acts s => HeldSoFar p m acts s ∧ HeldThroughout p m acts)
      hstart ?_
    rintro acts x s s' ⟨hlast, hbefore⟩ ⟨hstep, hkept⟩
    have hlast' := hlast.step hstep hkept
    exact ⟨hlast', hbefore.snoc hlast'⟩
  exact hall.2

end

/-- Two domains, of which the second diverts the mouse to the first, and holds what is clicked. -/
def clickedFocus : List Activity :=
  [.op (.rpcConnect 5 false), .op (.rpcConnect 6 false), .op (.switchFocus 6),
    .op (.focusMode 6 2),
    .op (.divertMouseFocus 6 "/local/domain/5/vm/uuid" 0 0 100 100 0 0 1000 1000)]

@[irreducible] def clickedWorld : World ℚ :=
  Activity.reached 5 clickedFocus (startWorld (fun _ => namedAnswers) [])

theorem clickedWorld_run :
    Run Activity.Step (startWorld (fun _ => namedAnswers) []) clickedFocus clickedWorld := by
  unfold clickedWorld
  apply run_reached
  · intro a ha w
    simp only [clickedFocus, List.mem_cons, List.not_mem_nil, or_false] at ha
    obtain rfl | rfl | rfl | rfl | rfl := ha <;> trivial
  · decide +kernel

/-- An event of a mouse put in, with what comes of it. -/
def pointed (w : World ℚ) (e : InputEvent) : Except (Fault × List (Delivery ℚ))
    (InputEvent × World ℚ × List (Delivery ℚ)) :=
  Delivering.inputInject 4 e 0 .mouse (w, [])

def behindPointing (w : World ℚ) (e : InputEvent) : World ℚ :=
  match pointed w e with
  | .ok r => r.2.1
  | .error _ => w

def deliveredPointing (w : World ℚ) (e : InputEvent) : List (Delivery ℚ) :=
  match pointed w e with
  | .ok r => r.2.2
  | .error _ => []

def pointing (w : World ℚ) (e : InputEvent) : Pointing ℚ :=
  ⟨e, 0, .mouse, deliveredPointing w e⟩

/-- The events of a mouse put in one after the other. -/
def pointings : World ℚ → List InputEvent → List (Pointing ℚ)
  | _, [] => []
  | w, e :: es => pointing w e :: pointings (behindPointing w e) es

def behindPointings : World ℚ × Grip → List InputEvent → World ℚ × Grip
  | s, [] => s
  | s, e :: es => behindPointings (behindPointing s.1 e, s.2.step (pointing s.1 e)) es

def inForce (p m : DomPtr) (w : World ℚ) : Bool :=
  w.routing.mouseParent = some p ∧ w.routing.mouseDest = some m ∧ ¬w.routing.Seamless ∧
    (w.domains p).divertInfo.any fun dv => dv.focusmode &&& CLICKHOLDFOCUS ≠ 0

theorem inForce_holds {p m : DomPtr} {w : World ℚ} (h : inForce p m w = true) :
    HoldsClicks p m w := by
  obtain ⟨hparent, hdest, hunsplit, hdivert⟩ := of_decide_eq_true h
  obtain ⟨dv, hdv, hmode⟩ := (Option.any_eq_true _ _).mp hdivert
  exact ⟨hparent, hdest, hunsplit, dv, hdv, of_decide_eq_true hmode⟩

/-- The event is from no keyboard, and comes through with the divert still in force. -/
def stays (p m : DomPtr) (w : World ℚ) (e : InputEvent) : Bool :=
  inForce p m w ∧ inForce p m (behindPointing w e) ∧ w.types 0 ≠ some .keyboard ∧
    (pointed w e).isOk

theorem stays_steps {p m : DomPtr} {s : World ℚ × Grip} {e : InputEvent}
    (h : stays p m s.1 e = true) :
    Pointing.Step p m (pointing s.1 e) s (behindPointing s.1 e, s.2.step (pointing s.1 e)) := by
  obtain ⟨hforce, hforce', htypes, hok⟩ := of_decide_eq_true h
  refine ⟨inForce_holds hforce, inForce_holds hforce', .inl ⟨?_, htypes⟩, rfl, 4, ?_⟩
  · exact Int32.le_refl 0
  · unfold pointing behindPointing deliveredPointing
    unfold pointed at hok ⊢
    cases hrun : Delivering.inputInject 4 e 0 .mouse (s.1, []) with
    | error f =>
      rw [hrun] at hok
      cases hok
    | ok r =>
      obtain ⟨e', w', ds⟩ := r
      exact ⟨e', rfl⟩

instance (e : InputEvent) : Decidable e.Report :=
  inferInstanceAs (Decidable (_ ∧ _))

instance {F : Type} (r : Routing F) (e : InputEvent) : Decidable (r.LetsGo e) :=
  inferInstanceAs (Decidable (_ ∧ _))

/-- No domain would be switched to, no touch is under way, a release is of a button that was pressed
where the last event went, and the frame is of the same mind where it decides. -/
def stayedOnSide (p m : DomPtr) (w : World ℚ) (e : InputEvent) : Bool :=
  (∀ d, (w.domains d).isPvm = false) ∧
    (w.multitouch.slot = 0 ∧ w.multitouch.draining = false) ∧
    ((takePressed e.code 0 w.routing.mousePressed).all fun r => r.1.domain = w.routing.lastD) ∧
    (w.domains p).divertInfo.all fun dv => (w.tracked e .mouse).routing.LetsGo e →
      w.routing.lastD = some ((w.tracked e .mouse).framed p m dv)

theorem stayedOnSide_kept {p m : DomPtr} {s : World ℚ × Grip} {e : InputEvent}
    (h : stayedOnSide p m s.1 e = true) : (pointing s.1 e).Kept p m s := by
  obtain ⟨hpvm, hplain, hown, hframed⟩ := of_decide_eq_true h
  refine ⟨?_, ?_, ?_⟩
  · intro dv _
    exact ⟨.inr fun d _ _ => hpvm d, fun _ _ => .inl hplain, fun _ _ => .inl hplain⟩
  · intro _ _ _ mb mbs hfound
    have hall := (Option.all_eq_true _ _).mp hown _ hfound
    exact of_decide_eq_true hall
  · intro _ _ hgo dv hdv
    have hall := (Option.all_eq_true _ _).mp hframed dv hdv
    exact of_decide_eq_true hall hgo

/-- Every event of a list comes through. -/
def allPointings (P : World ℚ → InputEvent → Bool) : World ℚ → List InputEvent → Bool
  | _, [] => true
  | w, e :: es => P w e && allPointings P (behindPointing w e) es

theorem run_pointings {P : World ℚ → InputEvent → Bool}
    {step : Pointing ℚ → World ℚ × Grip → World ℚ × Grip → Prop}
    (hP : ∀ s e, P s.1 e = true →
      step (pointing s.1 e) s (behindPointing s.1 e, s.2.step (pointing s.1 e)))
    {es : List InputEvent} {s : World ℚ × Grip} (h : allPointings P s.1 es = true) :
    Run step s (pointings s.1 es) (behindPointings s es) := by
  induction es generalizing s with
  | nil => exact .nil
  | cons e es ih =>
    obtain ⟨hfirst, hrest⟩ := Bool.and_eq_true_iff.mp h
    exact Run.cons (hP s e hfirst) (ih hrest)

def leftButton (value : Int32) : InputEvent :=
  { type := EV_KEY, code := BTN_LEFT, value := value }

def moveX (value : Int32) : InputEvent :=
  { type := EV_REL, code := REL_X, value := value }

/-- Pressed inside the frame, moved out of it and back, and released. -/
def draggedBack : List InputEvent :=
  [leftButton 1, synReport, moveX 500, synReport, moveX (-500), synReport, leftButton 0, synReport]

/-- Pressed inside the frame, moved out of it, and released. -/
def draggedOut : List InputEvent :=
  [leftButton 1, synReport, moveX 500, synReport, leftButton 0, synReport]

theorem click_hold_kept_back :
    HeldThroughout secondEntry firstEntry (pointings clickedWorld draggedBack) := by
  have hall : allPointings (fun w e => stays secondEntry firstEntry w e &&
      stayedOnSide secondEntry firstEntry w e) clickedWorld draggedBack = true := by
    decide +kernel
  apply click_hold_kept (s := behindPointings (clickedWorld, .free) draggedBack)
  apply run_pointings (s := (clickedWorld, .free)) _ hall
  intro s e h
  obtain ⟨hstays, hside⟩ := Bool.and_eq_true_iff.mp h
  exact ⟨stays_steps hstays, stayedOnSide_kept hside⟩

theorem GoesTo.dest_mem {F : Type} {d : DomPtr} {ds : List (Delivery F)} (h : GoesTo d ds) :
    some d ∈ ds.map Delivery.dest := by
  obtain ⟨a, ha, hcall⟩ := h.sent
  rw [← h.alone a ha hcall]
  exact List.mem_map_of_mem ha

/-- The button is held from the first event on, until the last one. -/
theorem draggedOut_held : HeldStretch [] (pointings clickedWorld draggedOut) := by
  have hengaged (n : Nat) (hpos : 0 < n) (hlt : n < 6) :
      (Grip.after ((pointings clickedWorld draggedOut).take n)).Engaged := by
    interval_cases n
    · exact .inl (List.cons_ne_nil (0, BTN_LEFT) [])
    · exact .inl (List.cons_ne_nil (0, BTN_LEFT) [])
    · exact .inl (List.cons_ne_nil (0, BTN_LEFT) [])
    · exact .inl (List.cons_ne_nil (0, BTN_LEFT) [])
    · exact .inr (Option.some_ne_none 0)
  refine ⟨fun h => h.elim (fun h => h rfl) fun h => h rfl, ?_, ?_⟩
  · exact ⟨_, _, rfl, rfl, rfl, by decide⟩
  · intro xs y ys hsplit hne
    have hlength := congrArg List.length hsplit
    rw [List.length_append, List.length_cons] at hlength
    have hsix : (pointings clickedWorld draggedOut).length = 6 := rfl
    have htake : xs = (pointings clickedWorld draggedOut).take xs.length := by
      rw [hsplit, List.take_left']
      rfl
    rw [List.nil_append, htake]
    apply hengaged
    · exact List.length_pos_iff.mpr hne
    · omega

/-- The SYN_REPORT behind the release goes to the parent, where the pointer is by then. -/
theorem report_escapes :
    ¬∀ (w₀ w : World ℚ) (acts : List Activity) (p m : DomPtr) (xs : List (Pointing ℚ))
      (s : World ℚ × Grip), w₀.Initial → Run Activity.Step w₀ acts w →
      Run (Pointing.Step p m) (w, Grip.free) xs s → HeldThroughout p m xs := by
  intro h
  have hall : allPointings (stays secondEntry firstEntry) clickedWorld draggedOut = true := by
    decide +kernel
  have hrun : Run (Pointing.Step secondEntry firstEntry) (clickedWorld, Grip.free)
      (pointings clickedWorld draggedOut) (behindPointings (clickedWorld, .free) draggedOut) :=
    run_pointings (fun _ _ => stays_steps) hall
  have hheld := h _ _ _ _ _ _ _ (startWorld_initial _ _) clickedWorld_run hrun
  obtain ⟨d, _, hgoes⟩ := hheld [] _ [] (List.append_nil _).symm draggedOut_held
  have hdests : (pointings clickedWorld draggedOut).map
      (fun x => x.deliveries.map Delivery.dest) =
        List.replicate 5 [some firstEntry] ++ [[some secondEntry]] := by
    decide +kernel
  have hmem : ∀ ds ∈ List.replicate 5 [some firstEntry] ++ [[some secondEntry]],
      some d ∈ ds := by
    rw [← hdests]
    intro ds hds
    obtain ⟨x, hx, rfl⟩ := List.mem_map.mp hds
    exact (hgoes x hx).dest_mem
  have hchild := List.mem_singleton.mp (hmem [some firstEntry] (by decide))
  have hparent := List.mem_singleton.mp (hmem [some secondEntry] (by decide))
  rw [hchild] at hparent
  exact absurd hparent (by decide)

end InputServer
