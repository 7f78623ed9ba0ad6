import InputServer.Commands
import InputServer.RoutedInject

namespace InputServer
open Program
set_option autoImplicit true

variable {F : Type}

/-- No two initialised entries share a domid or a slot. -/
structure Unique (w : World F) : Prop where
  domid : ∀ a b, w.Known a → w.Known b → 0 ≤ (w.domains a).domid →
    (w.domains a).domid = (w.domains b).domid → a = b
  slot : ∀ a b, w.Known a → w.Known b → 0 ≤ (w.domains a).slot →
    (w.domains a).slot = (w.domains b).slot → a = b

/-- The focus is on an initialised entry, the one it was switched to last; so is the display. -/
structure FocusLive (w : World F) : Prop where
  focused : Focused w
  known : w.Valid w.switcher.current
  surface : w.Valid w.switcher.surfaceCurrent

/-- A state that is not before another: more is logged, and more was asked. -/
structure World.Later (w w' : World F) : Prop where
  log : ∃ new, w'.log = w.log ++ new
  asked : w.asked ≤ w'.asked

/-- When the invariants that need a condition hold; what is known of a state was known before. -/
structure Regime (F : Type) where
  sound : World F → Prop
  focused : World F → Prop
  sound_before : ∀ w w', w.Later w' → sound w' → sound w
  focused_before : ∀ w w', w.Later w' → focused w' → focused w

/-- The invariant of the daemon between two operations, and while domains come and go. -/
structure Living (L : Regime F) (w : World F) : Prop where
  tracked : Tracked w
  captured : Captured w.plug
  unique : Unique w
  pvm : ∀ d, (w.domains d).isPvm = true → w.Known d
  named : ∀ d guest, (w.domains d).client = some guest →
    (w.domains d).domid = guest ∨ (w.domains d).domid = -1
  idle : w.switcher.switching = false
  sound : L.sound w → Sound w
  focus : L.focused w → FocusLive w

/-- What was logged from one state to a later one. -/
def World.since (w w' : World F) : List Happening :=
  w'.log.drop w.log.length

/-- An entry was removed. -/
def Removed (x : Domain F) : Prop :=
  x.initialised = false ∧ x.client = none

/-- Nobody's keyboard is remembered in an entry, which is not in focus either. -/
structure Unremembering (w : World F) (d : DomPtr) : Prop where
  unfocused : w.switcher.current ≠ some d
  prevPtr : (w.domains d).prevKeybDomainPtr = none

/-- Which entries are set up, which are removed, and whether some are taken from dead domains. -/
structure Turnover where
  mine : DomPtr → Prop
  lost : DomPtr → Prop
  reclaims : Prop

/-- What the coming and going of domains leaves as it is. -/
structure Evolved (T : Turnover) (w w' : World F) : Prop where
  plug : SameDest w.plug w'.plug
  answers : w'.answers = w.answers
  asked : w.asked ≤ w'.asked
  log : ∃ new, w'.log = w.log ++ new ∧ ∀ h ∈ new, Happening.Internal h
  coherent : SlotCoherent w.log → SlotCoherent w'.log
  client : ∀ d, (w'.domains d).client = (w.domains d).client ∨ (w'.domains d).client = none
  kept : ∀ d, T.mine d → w.Known d → w'.Known d
  named : ∀ d, T.mine d → (w.domains d).domid ≠ -1 ∨ (w.domains d).client = none →
    (w'.domains d).domid = (w.domains d).domid
  domains : ∀ d, ¬T.mine d → (w'.domains d).identity = (w.domains d).identity ∨
    (Removed (w'.domains d) ∧ (T.lost d ∨ (T.reclaims ∧ .reclaimed d ∈ w.since w')))
  remembers : ∀ d, T.mine d → ¬w'.Known d → Unremembering w d → Unremembering w' d

theorem Removed.of_identity {x y : Domain F} (h : Removed x) (heq : y.identity = x.identity) :
    Removed y :=
  ⟨(congrArg Identity.initialised heq).trans h.1, (congrArg Identity.client heq).trans h.2⟩

theorem Evolved.refl (T : Turnover) (w : World F) : Evolved T w w where
  plug := ⟨rfl, rfl⟩
  answers := rfl
  asked := Nat.le_refl _
  log := ⟨[], (List.append_nil _).symm, nofun⟩
  coherent h := h
  client _ := .inl rfl
  kept _ _ h := h
  named _ _ _ := rfl
  domains _ _ := .inl rfl
  remembers _ _ _ h := h

theorem since_eq {w w' : World F} (h : w'.log = w.log ++ new) : w.since w' = new := by
  rw [World.since, h, List.drop_left]

theorem Evolved.trans {T : Turnover} {w w' w'' : World F} (h : Evolved T w w')
    (h' : Evolved T w' w'') : Evolved T w w'' := by
  obtain ⟨new, hlog, hnew⟩ := h.log
  obtain ⟨new', hlog', hnew'⟩ := h'.log
  have hall : w''.log = w.log ++ (new ++ new') := by
    rw [hlog', hlog, List.append_assoc]
  constructor
  · exact IsTrans.trans _ _ _ h.plug h'.plug
  · exact h'.answers.trans h.answers
  · exact Nat.le_trans h.asked h'.asked
  · refine ⟨new ++ new', hall, ?_⟩
    intro happening hmem
    cases List.mem_append.mp hmem with
    | inl hmem => exact hnew happening hmem
    | inr hmem => exact hnew' happening hmem
  · exact fun hc => h'.coherent (h.coherent hc)
  · intro d
    cases h'.client d with
    | inr hnone => exact .inr hnone
    | inl hsame =>
      rw [hsame]
      exact h.client d
  · exact fun d hd hknown => h'.kept d hd (h.kept d hd hknown)
  · intro d hd hold
    have hfirst := h.named d hd hold
    refine (h'.named d hd ?_).trans hfirst
    rw [hfirst]
    refine hold.imp_right ?_
    intro hnone
    exact (h.client d).elim (fun hsame => hsame.trans hnone) id
  · intro d hd
    have hfirst := h.domains d hd
    have hsecond := h'.domains d hd
    rw [since_eq hlog] at hfirst
    rw [since_eq hlog'] at hsecond
    rw [since_eq hall, List.mem_append]
    cases hsecond with
    | inr hremoved =>
      obtain ⟨hremoved, hwhy⟩ := hremoved
      exact .inr ⟨hremoved, hwhy.imp_right (And.imp_right .inr)⟩
    | inl hsame =>
      cases hfirst with
      | inl hfirst => exact .inl (hsame.trans hfirst)
      | inr hremoved =>
        obtain ⟨hremoved, hwhy⟩ := hremoved
        exact .inr ⟨hremoved.of_identity hsame, hwhy.imp_right (And.imp_right .inl)⟩
  · intro d hd hfree hun
    exact h'.remembers d hd hfree (h.remembers d hd (fun hknown => hfree (h'.kept d hd hknown)) hun)

instance (T : Turnover) : IsPreorder (World F) (Evolved T) where
  refl := Evolved.refl T
  trans _ _ _ := Evolved.trans

/-- An entry that nobody sets up stays free where it is free. -/
theorem Evolved.unknown {T : Turnover} {w w' : World F} (h : Evolved T w w') (hm : ¬T.mine d)
    (hd : ¬w.Known d) : ¬w'.Known d := by
  intro hknown
  cases h.domains d hm with
  | inl hsame => exact hd ((congrArg Identity.initialised hsame).symm.trans hknown)
  | inr hremoved =>
    rw [World.Known, hremoved.1.1] at hknown
    cases hknown

/-- Nothing comes and nothing goes. -/
def Turnover.none : Turnover where
  mine _ := False
  lost _ := False
  reclaims := False

theorem Evolved.identity {w w' : World F} (h : Evolved .none w w') (d : DomPtr) :
    (w'.domains d).identity = (w.domains d).identity := by
  cases h.domains d id with
  | inl hsame => exact hsame
  | inr hremoved =>
    obtain ⟨_, hlost | hreclaimed⟩ := hremoved
    · exact hlost.elim
    · exact hreclaimed.1.elim

/-- An entry that is there now, and that nobody sets up, was there. -/
theorem Evolved.before {T : Turnover} {w w' : World F} (h : Evolved T w w') (hm : ¬T.mine d)
    (hd : w'.Known d) : (w'.domains d).identity = (w.domains d).identity := by
  cases h.domains d hm with
  | inl hsame => exact hsame
  | inr hremoved =>
    rw [World.Known, hremoved.1.1] at hd
    cases hd

/-- An entry that was lost was taken from a dead domain. -/
theorem Evolved.reclaimed {T : Turnover} {w w' : World F} {dead : DomPtr}
    (h : Evolved { T with lost := fun d => T.lost d ∨ d = dead } w w') (hreclaims : T.reclaims)
    (hdead : .reclaimed dead ∈ w.since w') : Evolved T w w' :=
  { h with
    domains := by
      intro d hd
      cases h.domains d hd with
      | inl hsame => exact .inl hsame
      | inr hremoved =>
        obtain ⟨hremoved, (hlost | heq) | hreclaimed⟩ := hremoved
        · exact .inr ⟨hremoved, .inl hlost⟩
        · rw [← heq] at hdead
          exact .inr ⟨hremoved, .inr ⟨hreclaims, hdead⟩⟩
        · exact .inr ⟨hremoved, .inr hreclaimed⟩ }

/-- The steps of the coming and going of domains. -/
abbrev Evolves (L : Regime F) (T : Turnover) (m : WorldM F α) (w : World F) : Prop :=
  Moves (Living L) (Evolved T) m w

/-- The scope of an operation that starts from a state. -/
def World.scope (w : World F) : Scope where
  target := w.Known
  nested := False
  still := False
  sound := Sound w

section
variable {L : Regime F} {w w' : World F}

theorem Living.inScope (h : Living L w) : InScope w.scope w where
  tracked := h.tracked
  sound := id
  switching := False.elim
  still := False.elim
  captured := h.captured
  targets := {
    uivm := fun _ hd => known_of_domainWithSlot hd
    asleep := fun d hp _ => h.pvm d hp
    edge := fun _ _ _ _ hd => known_of_domainWithSlot hd
    back := fun _ _ _ _ hd => known_of_domainWithSlot hd
    beside := fun _ _ _ hd => known_of_domainWithSlot hd }

theorem known_congr (h : ∀ d, (w'.domains d).identity = (w.domains d).identity) :
    w'.Known d ↔ w.Known d := by
  have hinit : (w'.domains d).initialised = (w.domains d).initialised :=
    congrArg Identity.initialised (h d)
  rw [World.Known, World.Known, hinit]

theorem Unique.of_identity (h : Unique w)
    (hsame : ∀ d, (w'.domains d).identity = (w.domains d).identity) : Unique w' := by
  have hknown (d : DomPtr) : w'.Known d ↔ w.Known d := known_congr hsame
  have hdomid (d : DomPtr) : (w'.domains d).domid = (w.domains d).domid :=
    congrArg Identity.domid (hsame d)
  have hslot (d : DomPtr) : (w'.domains d).slot = (w.domains d).slot :=
    congrArg Identity.slot (hsame d)
  constructor
  · intro a b ha hb
    rw [hdomid, hdomid]
    exact h.domid a b ((hknown a).mp ha) ((hknown b).mp hb)
  · intro a b ha hb
    rw [hslot, hslot]
    exact h.slot a b ((hknown a).mp ha) ((hknown b).mp hb)

/-- What goes on standing where every identity does. -/
theorem FocusLive.of_identity (h : FocusLive w)
    (hid : ∀ d, (w'.domains d).identity = (w.domains d).identity)
    (hswitcher : w'.switcher = w.switcher) (hlog : w'.log = w.log) : FocusLive w' := by
  have hvalid (p : Option DomPtr) (hp : w.Valid p) : w'.Valid p :=
    fun c hc => (known_congr hid).mpr (hp c hc)
  constructor
  · rw [Focused, hswitcher, hlog]
    intro c hc
    have hdomid : (w'.domains c).domid = (w.domains c).domid := congrArg Identity.domid (hid c)
    rw [hdomid]
    exact h.focused c hc
  · rw [hswitcher]
    exact hvalid _ h.known
  · rw [hswitcher]
    exact hvalid _ h.surface

theorem Routed.later (h : Routed C w w') : w.Later w' := by
  obtain ⟨new, hlog, _⟩ := h.log
  exact ⟨⟨new, hlog⟩, h.asked⟩

theorem World.later_of_eq (hlog : w'.log = w.log) (hasked : w'.asked = w.asked) : w.Later w' :=
  ⟨⟨[], hlog.trans (List.append_nil _).symm⟩, le_of_eq hasked.symm⟩

theorem World.Later.trans {w w' w'' : World F} (h : w.Later w') (h' : w'.Later w'') :
    w.Later w'' := by
  obtain ⟨new, hlog⟩ := h.log
  obtain ⟨new', hlog'⟩ := h'.log
  refine ⟨⟨new ++ new', ?_⟩, Nat.le_trans h.asked h'.asked⟩
  rw [hlog', hlog, List.append_assoc]

theorem Evolved.later (h : Evolved T w w') : w.Later w' := by
  obtain ⟨new, hlog, _⟩ := h.log
  exact ⟨⟨new, hlog⟩, h.asked⟩

theorem FocusMoves.valid (h : FocusMoves w.scope p p') (hr : Routed w.scope w w')
    (hp : w.Valid p) : w'.Valid p' := by
  cases h with
  | inl hsame =>
    rw [hsame]
    exact hr.valid hp
  | inr hmoved =>
    obtain ⟨_, d, hd, heq⟩ := hmoved
    rw [heq]
    exact .some ((hr.known d).mpr hd)

theorem FocusLive.routed (h : FocusLive w) (hr : Routed w.scope w w') : FocusLive w' where
  focused := hr.focused h.focused
  known := hr.current.valid hr h.known
  surface := hr.surface.valid hr h.surface

theorem Living.routed (h : Living L w) (hscope : InScope w.scope w')
    (hr : Routed w.scope w w') : Living L w' where
  tracked := hscope.tracked
  captured := hscope.captured
  unique := h.unique.of_identity hr.domains
  pvm d hd := (hr.known d).mpr (h.pvm d ((hr.isPvm d).symm.trans hd))
  named d guest hd := by
    rw [hr.client] at hd
    rw [hr.domid]
    exact h.named d guest hd
  idle := hr.switching.trans h.idle
  sound hs := hscope.sound (h.sound (L.sound_before w w' hr.later hs))
  focus hf := (h.focus (L.focused_before w w' hr.later hf)).routed hr

theorem Routed.unremembering (h : Routed C w w') (ht : ¬C.target d) (hun : Unremembering w d) :
    Unremembering w' d where
  unfocused := h.current.ne ht hun.unfocused
  prevPtr := h.remembers d ht hun.unfocused hun.prevPtr

theorem Routed.evolved (h : Routed w.scope w w') (T : Turnover) : Evolved T w w' where
  plug := h.plug
  answers := h.answers
  asked := h.asked
  log := h.log
  coherent := h.coherent
  client d := .inl (h.client d)
  kept d _ := (h.known d).mpr
  named d _ _ := h.domid d
  domains d _ := .inl (h.domains d)
  remembers d _ hfree := h.unremembering fun hknown => hfree ((h.known d).mpr hknown)

/-- A step of input routing is one of the coming and going of domains. -/
theorem evolves_of_yields {P : α → World F → Prop} {m : WorldM F α}
    (h : Yields (InScope w.scope) (Routed w.scope) P m w) (T : Turnover) :
    Yields (Living L) (Evolved T) P m w := by
  intro hw
  refine wlp_mono (h hw.inScope) ?_
  intro a w' h'
  exact ⟨hw.routed h'.1 h'.2.1, h'.2.1.evolved T, h'.2.2⟩

end

end InputServer
