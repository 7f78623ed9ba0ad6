import InputServer.World
import InputServer.Library.Run

namespace InputServer.Watches
open Program
set_option autoImplicit true

/-- The xenstore library on watches of type `W`. `xenstore_dom_watch` adds a watch of a path, if it
does not fail; without a callback it removes the watches of the path. -/
structure Xenstore (W : Type) where
  watch : W → String → DomPtr → W
  unwatch : W → String → W
  registered : W → String → DomPtr → Prop
  watch_only : ∀ w p d q e, registered (watch w p d) q e → registered w q e ∨ q = p ∧ e = d
  unwatch_path : ∀ w p e, ¬registered (unwatch w p) p e
  unwatch_only : ∀ w p q e, registered (unwatch w p) q e → registered w q e

/-- What the daemon holds about watches; `written` are the counts of adapters that it was told by
the guest since the entry was set up. -/
structure State (W : Type) where
  initialised : DomPtr → Bool
  domid : DomPtr → Int
  numActiveAdapters : DomPtr → Int
  watches : W
  written : DomPtr → List Int

abbrev M (W : Type) := Program Fault (State W)

def domPath (domid : Int) (node : String) : String :=
  "/local/domain/" ++ toString domid ++ "/" ++ node

def DOMAIN_ACTIVE_ADAPTER_NODE : String := "display/activeAdapter"

def adapterNode (i : Nat) : String :=
  DOMAIN_ACTIVE_ADAPTER_NODE ++ "/" ++ toString i

/-- The nodes that are watched whatever the guest writes. -/
def nodes : List String :=
  [DOMAIN_ACTIVE_ADAPTER_NODE, "power-state", "switcher/command", "attr/desktopDimensions"]

def INT_MAX : Int := 2 ^ 31 - 1

/-- `strtol(buff, &endptr, 10)`, with none where `endptr` is `buff`. -/
def readLong (buff : String) : Option Int :=
  let cs := match buff.toList.dropWhile Char.isWhitespace with
    | '-' :: cs => cs
    | '+' :: cs => cs
    | cs => cs
  if cs.head?.any Char.isDigit then some (max (-2 ^ 63) (min (2 ^ 63 - 1) (strtol buff 10)))
  else none

section
variable {W : Type} (X : Xenstore W)

def domWatch (d : DomPtr) (node : String) : M W Unit :=
  modify fun s => { s with watches := X.watch s.watches (domPath (s.domid d) node) d }

def domUnwatch (d : DomPtr) (node : String) : M W Unit :=
  modify fun s => { s with watches := X.unwatch s.watches (domPath (s.domid d) node) }

/-- `for (i = 0; i < n; ++i)`. -/
def forEach (f : Nat → M W Unit) : Nat → M W Unit
  | 0 => pure ()
  | n + 1 => do
    forEach f n
    f n

/-- The entry is told a count: `num_active_adapters` is an `int`. -/
def State.count (s : State W) (d : DomPtr) (val : Int) : State W :=
  { s with
    numActiveAdapters := Function.update s.numActiveAdapters d (Int32.ofInt val).toInt
    written := Function.update s.written d (val :: s.written d) }

/-- `domain_active_adapter_watch` with what it reads; the loop's `int` never gets to a larger
count. -/
def domainActiveAdapterWatch (d : DomPtr) (buff : Option String) : M W Unit :=
  match buff.bind readLong with
  | none => pure ()
  | some val => do
    modify fun s => s.count d val
    if INT_MAX < val then throw .hang
    else forEach (fun i => domWatch X d (adapterNode i)) val.toNat

def releaseXsWatches (d : DomPtr) : M W Unit := do
  domUnwatch X d DOMAIN_ACTIVE_ADAPTER_NODE
  let s ← get
  forEach (fun i => domUnwatch X d (adapterNode i)) (s.numActiveAdapters d).toNat
  domUnwatch X d "power-state"
  domUnwatch X d "switcher/command"
  domUnwatch X d "attr/desktopDimensions"

def setInitialised (d : DomPtr) (initialised : Bool) : M W Unit :=
  modify fun s => { s with initialised := Function.update s.initialised d initialised }

def domainGone (d : DomPtr) : M W Unit := do
  releaseXsWatches X d
  setInitialised d false

/-- `domain_release`; to detach a vkbd releases the domain before. -/
def domainRelease (d : DomPtr) (vkbd : Bool) : M W Unit := do
  if vkbd then domainGone X d else pure ()
  domainGone X d

/-- A table entry zeroed and given a domid. -/
def clear (d : DomPtr) (domid : Int) (initialised : Bool) : M W Unit :=
  modify fun s => { s with
    initialised := Function.update s.initialised d initialised
    domid := Function.update s.domid d domid
    numActiveAdapters := Function.update s.numActiveAdapters d 0
    written := Function.update s.written d [] }

/-- Where `switcher_domid` ends: there is a domain with the domid, or with the slot, or the domain
is started. -/
inductive Created where
  | known
  | slotTaken
  | started

/-- `domain_create`. -/
def domainCreate (d : DomPtr) (domid : Int) : Created → M W Unit
  | .known => clear d (-1) true
  | .slotTaken => clear d domid true
  | .started => do
    clear d domid true
    domWatch X d "switcher/command"
    domWatch X d "attr/desktopDimensions"
    domWatch X d "power-state"
    domWatch X d DOMAIN_ACTIVE_ADAPTER_NODE

/-- `domain_new` and `domain_setup`, which may not get a slot. -/
def attachVkbd (d : DomPtr) (domid : Int) (assigned : Bool) : M W Unit := do
  clear d domid false
  if assigned then do
    domWatch X d "switcher/command"
    domWatch X d "attr/desktopDimensions"
    domWatch X d "power-state"
    setInitialised d true
  else domainRelease X d false

inductive Op where
  | create (d : DomPtr) (domid : Int) (outcome : Created)
  | attach (d : DomPtr) (domid : Int) (assigned : Bool)
  | activeAdapter (d : DomPtr) (buff : Option String)
  | gone (d : DomPtr)
  | release (d : DomPtr) (vkbd : Bool)

def Op.run : Op → M W Unit
  | .create d domid outcome => domainCreate X d domid outcome
  | .attach d domid assigned => attachVkbd X d domid assigned
  | .activeAdapter d buff => domainActiveAdapterWatch X d buff
  | .gone d => domainGone X d
  | .release d vkbd => domainRelease X d vkbd

/-- An entry is set up only while it is empty, and a watch only calls back while it is there. -/
def Op.Valid (s : State W) : Op → Prop
  | .create d _ _ => s.initialised d = false
  | .attach d _ _ => s.initialised d = false
  | .activeAdapter d _ => X.registered s.watches (domPath (s.domid d) DOMAIN_ACTIVE_ADAPTER_NODE) d
  | .gone _ => True
  | .release _ _ => True

/-- The entry that a domain is removed from. -/
def Op.removes : Op → Option DomPtr
  | .gone d => some d
  | .release d _ => some d
  | _ => none

/-- No count was larger than the one the entry has kept. -/
def State.Covered (s : State W) (d : DomPtr) : Prop :=
  ∀ val ∈ s.written d, val ≤ s.numActiveAdapters d

def Op.Step (op : Op) (s s' : State W) : Prop :=
  op.Valid X s ∧ op.run X s = .ok ((), s')

/-- A step that removes a domain has the entry covered. -/
def Op.CoveredStep (op : Op) (s s' : State W) : Prop :=
  op.Step X s s' ∧ ∀ d, op.removes = some d → s.Covered d

/-- Every watch is of a domain that is there, and one that the entry's fields and counts explain. -/
def Explained (s : State W) : Prop :=
  ∀ path d, X.registered s.watches path d → s.initialised d = true ∧
    ((∃ node ∈ nodes, path = domPath (s.domid d) node) ∨
      ∃ val ∈ s.written d, ∃ i : Nat, i < val ∧ path = domPath (s.domid d) (adapterNode i))

end

section
variable {W : Type} {X : Xenstore W} {op : Op} {s s' : State W}

/-- What the entry's fields and counts explain. -/
def ExplainedAt (s : State W) (path : String) (d : DomPtr) : Prop :=
  s.initialised d = true ∧ ((∃ node ∈ nodes, path = domPath (s.domid d) node) ∨
    ∃ val ∈ s.written d, ∃ i : Nat, i < val ∧ path = domPath (s.domid d) (adapterNode i))

theorem Explained.none (h : Explained X s) (hgone : s.initialised d = false) (path : String) :
    ¬X.registered s.watches path d := by
  intro hwatch
  have hlive := (h path d hwatch).1
  rw [hgone] at hlive
  cases hlive

/-- A watch that the entry explains. -/
theorem Explained.watch (h : Explained X s) (hnode : ExplainedAt s (domPath (s.domid d) node) d) :
    wlp (domWatch X d node) (fun _ s' => Explained X s' ∧ s' = { s with watches := s'.watches }) s := by
  unfold domWatch
  rw [wlp_modify]
  refine ⟨?_, rfl⟩
  intro path e hwatch
  obtain hbefore | ⟨rfl, rfl⟩ := X.watch_only _ _ _ _ _ hwatch
  · exact h path e hbefore
  · exact hnode

theorem forEach_keeps {I : Nat → State W → Prop} {f : Nat → M W Unit}
    (hf : ∀ i < n, ∀ s, I i s → wlp (f i) (fun _ => I (i + 1)) s) (h : I 0 s) :
    wlp (forEach f n) (fun _ => I n) s := by
  induction n with
  | zero =>
    unfold forEach
    rw [wlp_pure]
    exact h
  | succ n ih =>
    unfold forEach
    rw [wlp_bind]
    refine wlp_mono (ih fun i hi => hf i (Nat.lt_succ_of_lt hi)) ?_
    intro _ s' hs'
    exact hf n (Nat.lt_succ_self n) s' hs'

theorem Explained.activeAdapter (h : Explained X s) (hlive : s.initialised d = true)
    (buff : Option String) :
    wlp (domainActiveAdapterWatch X d buff) (fun _ => Explained X) s := by
  unfold domainActiveAdapterWatch
  cases buff.bind readLong with
  | none => exact (wlp_pure _ _ s).mpr h
  | some val =>
    change wlp ((modify fun s => s.count d val) >>= fun _ => _) _ s
    rw [wlp_bind, wlp_modify]
    have hcount : Explained X (s.count d val) := by
      intro path e hwatch
      obtain ⟨hinit, hnode | ⟨v, hv, i, hi, hpath⟩⟩ := h path e hwatch
      · exact ⟨hinit, .inl hnode⟩
      · refine ⟨hinit, .inr ⟨v, ?_, i, hi, hpath⟩⟩
        change v ∈ Function.update s.written d (val :: s.written d) e
        by_cases he : e = d
        · subst he
          rw [Function.update_self]
          exact List.mem_cons_of_mem _ hv
        · rw [Function.update_of_ne he]
          exact hv
    apply wlp_ite
    · intro _
      exact wlp_throw _ _ _
    · intro _
      let I (_ : Nat) (s' : State W) : Prop :=
        Explained X s' ∧ s' = { s.count d val with watches := s'.watches }
      have hloop : wlp (forEach (fun i => domWatch X d (adapterNode i)) val.toNat)
          (fun _ => I val.toNat) (s.count d val) := by
        apply forEach_keeps _ (show I 0 (s.count d val) from ⟨hcount, rfl⟩)
        rintro i hi s' ⟨hs', hsame⟩
        have hi : (i : Int) < val := by omega
        have hwritten : val ∈ s'.written d := by
          rw [hsame]
          change val ∈ Function.update s.written d (val :: s.written d) d
          rw [Function.update_self]
          exact List.mem_cons_self
        have hinit : s'.initialised d = true := by
          rw [hsame]
          exact hlive
        refine wlp_mono (hs'.watch ⟨hinit, .inr ⟨val, hwritten, i, hi, rfl⟩⟩) ?_
        rintro _ s'' ⟨hs'', hsame'⟩
        refine ⟨hs'', ?_⟩
        rw [hsame', hsame]
      exact wlp_mono hloop fun _ _ hI => hI.1

/-- What `domUnwatch` leaves: the watches of one path are gone and nothing else is there. -/
theorem wlp_domUnwatch (d : DomPtr) (node : String) :
    wlp (domUnwatch X d node) (fun _ s' => s' = { s with watches := s'.watches } ∧
      (∀ path e, X.registered s'.watches path e → X.registered s.watches path e) ∧
      ∀ e, ¬X.registered s'.watches (domPath (s.domid d) node) e) s := by
  unfold domUnwatch
  rw [wlp_modify]
  refine ⟨rfl, ?_, ?_⟩
  · intro path e hwatch
    exact X.unwatch_only _ _ _ _ hwatch
  · intro e
    exact X.unwatch_path _ _ e

/-- The nodes of `gone` are unwatched. -/
structure Unwatched (X : Xenstore W) (d : DomPtr) (gone : String → Prop) (s s' : State W) : Prop where
  same : s' = { s with watches := s'.watches }
  only : ∀ path e, X.registered s'.watches path e → X.registered s.watches path e
  nodes : ∀ node, gone node → ∀ e, ¬X.registered s'.watches (domPath (s.domid d) node) e

theorem Unwatched.refl (s : State W) : Unwatched X d (fun _ => False) s s where
  same := rfl
  only := fun _ _ h => h
  nodes := fun _ h => h.elim

theorem Unwatched.imp {gone' : String → Prop} (h : Unwatched X d gone s s')
    (hgone : ∀ node, gone' node → gone node) : Unwatched X d gone' s s' where
  same := h.same
  only := h.only
  nodes := fun node hnode => h.nodes node (hgone node hnode)

theorem Unwatched.unwatch (h : Unwatched X d gone s s') (node : String) :
    wlp (domUnwatch X d node)
      (fun _ s'' => Unwatched X d (fun other => gone other ∨ other = node) s s'') s' := by
  refine wlp_mono (wlp_domUnwatch d node) ?_
  rintro _ s'' ⟨hsame, honly, hnode⟩
  have hdomid : s'.domid d = s.domid d := by
    rw [h.same]
  constructor
  · rw [hsame, h.same]
  · intro path e hwatch
    exact h.only path e (honly path e hwatch)
  · rintro other (hother | rfl) e hwatch
    · exact h.nodes other hother e (honly _ _ hwatch)
    · rw [← hdomid] at hwatch
      exact hnode e hwatch

/-- What `release_xs_watches` takes away. -/
def Gone (s : State W) (d : DomPtr) (node : String) : Prop :=
  node ∈ nodes ∨ ∃ i : Nat, i < s.numActiveAdapters d ∧ node = adapterNode i

theorem releaseXsWatches_unwatches (s : State W) (d : DomPtr) :
    wlp (releaseXsWatches X d) (fun _ s' => Unwatched X d (Gone s d) s s') s := by
  unfold releaseXsWatches
  rw [wlp_bind]
  refine wlp_mono ((Unwatched.refl s).unwatch DOMAIN_ACTIVE_ADAPTER_NODE) ?_
  intro _ s₁ h₁
  rw [wlp_bind, wlp_get, wlp_bind]
  have hcount : s₁.numActiveAdapters d = s.numActiveAdapters d := by
    rw [h₁.same]
  rw [hcount]
  let I (n : Nat) (s' : State W) : Prop :=
    Unwatched X d (fun node => node = DOMAIN_ACTIVE_ADAPTER_NODE ∨
      ∃ i < n, node = adapterNode i) s s'
  have hloop : wlp (forEach (fun i => domUnwatch X d (adapterNode i))
      (s.numActiveAdapters d).toNat) (fun _ => I (s.numActiveAdapters d).toNat) s₁ := by
    apply forEach_keeps
    · intro i _ s' hs'
      refine wlp_mono (Unwatched.unwatch hs' (adapterNode i)) ?_
      intro _ s'' hs''
      apply hs''.imp
      rintro node (hnode | ⟨j, hj, hnode⟩)
      · exact .inl (.inl hnode)
      · obtain hj | rfl := Nat.lt_succ_iff_lt_or_eq.mp hj
        · exact .inl (.inr ⟨j, hj, hnode⟩)
        · exact .inr hnode
    · apply h₁.imp
      rintro node (hnode | ⟨j, hj, _⟩)
      · exact .inr hnode
      · exact absurd hj (Nat.not_lt_zero j)
  refine wlp_mono hloop ?_
  intro _ s₂ h₂
  rw [wlp_bind]
  refine wlp_mono (Unwatched.unwatch h₂ "power-state") ?_
  intro _ s₃ h₃
  rw [wlp_bind]
  refine wlp_mono (h₃.unwatch "switcher/command") ?_
  intro _ s₄ h₄
  refine wlp_mono (h₄.unwatch "attr/desktopDimensions") ?_
  intro _ s₅ h₅
  apply h₅.imp
  rintro node (hnode | ⟨i, hi, hnode⟩)
  · simp only [nodes, List.mem_cons, List.not_mem_nil, or_false] at hnode
    tauto
  · have hi : i < (s.numActiveAdapters d).toNat := by omega
    exact .inl (.inl (.inl (.inr ⟨i, hi, hnode⟩)))

/-- What the entry explains is taken away where no larger count was written. -/
theorem Unwatched.none (h : Unwatched X d (Gone s d) s s') (hs : Explained X s)
    (hcovered : s.Covered d) (path : String) : ¬X.registered s'.watches path d := by
  intro hwatch
  obtain ⟨_, ⟨node, hnode, rfl⟩ | ⟨val, hval, i, hi, rfl⟩⟩ := hs path d (h.only path d hwatch)
  · exact h.nodes node (.inl hnode) d hwatch
  · have hkept := hcovered val hval
    exact h.nodes _ (.inr ⟨i, by omega, rfl⟩) d hwatch

/-- A domain removed: none of its watches is there. -/
structure Removed (X : Xenstore W) (d : DomPtr) (s s' : State W) : Prop where
  explained : Explained X s'
  none : ∀ path, ¬X.registered s'.watches path d
  numActiveAdapters : s'.numActiveAdapters = s.numActiveAdapters
  written : s'.written = s.written

theorem domainGone_removes (hs : Explained X s) (hcovered : s.Covered d) :
    wlp (domainGone X d) (fun _ s' => Removed X d s s') s := by
  unfold domainGone
  rw [wlp_bind]
  refine wlp_mono (releaseXsWatches_unwatches s d) ?_
  intro _ s₁ h₁
  unfold setInitialised
  rw [wlp_modify]
  have hnone := h₁.none hs hcovered
  constructor
  · intro path e hwatch
    have he : e ≠ d := by
      rintro rfl
      exact hnone path hwatch
    obtain ⟨hinit, hnode⟩ := hs path e (h₁.only path e hwatch)
    rw [h₁.same]
    refine ⟨?_, hnode⟩
    change Function.update s.initialised d false e = true
    rw [Function.update_of_ne he]
    exact hinit
  · exact hnone
  · rw [h₁.same]
  · rw [h₁.same]

theorem Removed.covered (h : Removed X d s s') (hcovered : s.Covered d) : s'.Covered d := by
  unfold State.Covered
  rw [h.written, h.numActiveAdapters]
  exact hcovered

theorem domainRelease_removes (hs : Explained X s) (hcovered : s.Covered d) (vkbd : Bool) :
    wlp (domainRelease X d vkbd) (fun _ s' => Removed X d s s') s := by
  cases vkbd with
  | false => exact domainGone_removes hs hcovered
  | true =>
    change wlp (domainGone X d >>= fun _ => domainGone X d) _ s
    rw [wlp_bind]
    refine wlp_mono (domainGone_removes hs hcovered) ?_
    intro _ s₁ h₁
    refine wlp_mono (domainGone_removes h₁.explained (h₁.covered hcovered)) ?_
    intro _ s₂ h₂
    constructor
    · exact h₂.explained
    · exact h₂.none
    · rw [h₂.numActiveAdapters, h₁.numActiveAdapters]
    · rw [h₂.written, h₁.written]

theorem Explained.clear (hs : Explained X s) (hnone : ∀ path, ¬X.registered s.watches path d)
    (domid : Int) (initialised : Bool) :
    wlp (clear d domid initialised) (fun _ s' => Explained X s' ∧
      (∀ path, ¬X.registered s'.watches path d) ∧ s'.initialised d = initialised ∧
      s'.domid d = domid ∧ s'.numActiveAdapters d = 0 ∧ s'.written d = [])
      s := by
  unfold InputServer.Watches.clear
  rw [wlp_modify]
  refine ⟨?_, hnone, ?_, ?_, ?_, ?_⟩
  · intro path e hwatch
    have he : e ≠ d := by
      rintro rfl
      exact hnone path hwatch
    simpa only [Function.update_of_ne he] using hs path e hwatch
  · exact Function.update_self _ _ _
  · exact Function.update_self _ _ _
  · exact Function.update_self _ _ _
  · exact Function.update_self _ _ _

theorem Explained.watchNode (hs : Explained X s) (hlive : s.initialised d = true) (hnode : node ∈ nodes) :
    wlp (domWatch X d node) (fun _ s' => Explained X s' ∧ s'.initialised d = true) s := by
  refine wlp_mono (hs.watch ⟨hlive, .inl ⟨node, hnode, rfl⟩⟩) ?_
  rintro _ s' ⟨hs', hsame⟩
  refine ⟨hs', ?_⟩
  rw [hsame]
  exact hlive

theorem Explained.create (hs : Explained X s) (hgone : s.initialised d = false) (domid : Int)
    (outcome : Created) : wlp (domainCreate X d domid outcome) (fun _ => Explained X) s := by
  have hnone := hs.none hgone
  cases outcome with
  | known => exact wlp_mono (hs.clear hnone (-1) true) fun _ _ h => h.1
  | slotTaken => exact wlp_mono (hs.clear hnone domid true) fun _ _ h => h.1
  | started =>
    unfold domainCreate
    rw [wlp_bind]
    refine wlp_mono (hs.clear hnone domid true) ?_
    rintro _ s₁ ⟨hs₁, _, hlive₁, _⟩
    rw [wlp_bind]
    refine wlp_mono (hs₁.watchNode hlive₁ (by simp [nodes])) ?_
    rintro _ s₂ ⟨hs₂, hlive₂⟩
    rw [wlp_bind]
    refine wlp_mono (hs₂.watchNode hlive₂ (by simp [nodes])) ?_
    rintro _ s₃ ⟨hs₃, hlive₃⟩
    rw [wlp_bind]
    refine wlp_mono (hs₃.watchNode hlive₃ (by simp [nodes])) ?_
    rintro _ s₄ ⟨hs₄, hlive₄⟩
    exact wlp_mono (hs₄.watchNode hlive₄ (by simp [nodes])) fun _ _ h => h.1

/-- The entry as `domain_setup` leaves it. -/
def State.alive (s : State W) (d : DomPtr) : State W :=
  { s with initialised := Function.update s.initialised d true }

theorem Explained.watchEarly (hs : Explained X (s.alive d)) (hnode : node ∈ nodes) :
    wlp (domWatch X d node) (fun _ s' => Explained X (s'.alive d)) s := by
  unfold domWatch
  rw [wlp_modify]
  have hlive : (s.alive d).initialised d = true := Function.update_self _ _ _
  exact (hs.watchNode hlive hnode () _ rfl).1

theorem Explained.attach (hs : Explained X s) (hgone : s.initialised d = false) (domid : Int)
    (assigned : Bool) : wlp (attachVkbd X d domid assigned) (fun _ => Explained X) s := by
  have hcleared := hs.clear (hs.none hgone) domid false
  cases assigned with
  | false =>
    change wlp (InputServer.Watches.clear d domid false >>= fun _ => domainRelease X d false) _ s
    rw [wlp_bind]
    refine wlp_mono hcleared ?_
    rintro _ s₁ ⟨hs₁, _, _, _, _, hwritten⟩
    have hcovered : s₁.Covered d := by
      intro val hval
      rw [hwritten] at hval
      cases hval
    exact wlp_mono (domainRelease_removes hs₁ hcovered false) fun _ _ h => h.explained
  | true =>
    change wlp (InputServer.Watches.clear d domid false >>= fun _ => _) _ s
    rw [wlp_bind]
    refine wlp_mono hcleared ?_
    rintro _ s₁ ⟨hs₁, hnone, _⟩
    have halive : Explained X (s₁.alive d) := by
      intro path e hwatch
      obtain ⟨hinit, hnode⟩ := hs₁ path e hwatch
      have he : e ≠ d := by
        rintro rfl
        exact hnone path hwatch
      refine ⟨?_, hnode⟩
      change Function.update s₁.initialised d true e = true
      rw [Function.update_of_ne he]
      exact hinit
    change wlp (domWatch X d "switcher/command" >>= fun _ => _) _ s₁
    rw [wlp_bind]
    refine wlp_mono (halive.watchEarly (by simp [nodes])) ?_
    intro _ s₂ h₂
    rw [wlp_bind]
    refine wlp_mono (h₂.watchEarly (by simp [nodes])) ?_
    intro _ s₃ h₃
    rw [wlp_bind]
    refine wlp_mono (h₃.watchEarly (by simp [nodes])) ?_
    intro _ s₄ h₄
    unfold setInitialised
    rw [wlp_modify]
    exact h₄

theorem Op.CoveredStep.explained (h : op.CoveredStep X s s') (hs : Explained X s) :
    Explained X s' := by
  obtain ⟨⟨hvalid, hrun⟩, hcovered⟩ := h
  cases op with
  | create d domid outcome => exact hs.create hvalid domid outcome () s' hrun
  | attach d domid assigned => exact hs.attach hvalid domid assigned () s' hrun
  | activeAdapter d buff => exact hs.activeAdapter (hs _ d hvalid).1 buff () s' hrun
  | gone d => exact (domainGone_removes hs (hcovered d rfl) () s' hrun).explained
  | release d vkbd => exact (domainRelease_removes hs (hcovered d rfl) vkbd () s' hrun).explained

theorem Op.CoveredStep.removed (h : op.CoveredStep X s s') (hs : Explained X s)
    (hop : op.removes = some d) : Removed X d s s' := by
  obtain ⟨⟨_, hrun⟩, hcovered⟩ := h
  have hd := hcovered d hop
  cases op with
  | create d' domid outcome => cases hop
  | attach d' domid assigned => cases hop
  | activeAdapter d' buff => cases hop
  | gone d' =>
    cases hop
    exact domainGone_removes hs hd () s' hrun
  | release d' vkbd =>
    cases hop
    exact domainRelease_removes hs hd vkbd () s' hrun

theorem explained_of_run (hempty : ∀ path e, ¬X.registered s₀.watches path e)
    (hrun : Run (Op.CoveredStep X) s₀ ops s) : Explained X s := by
  apply Run.invariant (I := fun _ => Explained X) hrun
  · intro path e hwatch
    exact absurd hwatch (hempty path e)
  · intro _ _ s s' hs hstep
    exact hstep.explained hs

theorem no_watch_outlives (X : Xenstore W) (hempty : ∀ path e, ¬X.registered s₀.watches path e)
    (hrun : Run (Op.CoveredStep X) s₀ ops s) (hstep : op.CoveredStep X s s')
    (hop : op.removes = some d) (path : String) : ¬X.registered s'.watches path d :=
  (hstep.removed (explained_of_run hempty hrun) hop).none path

end

/-- A xenstore library that keeps its watches in a list. -/
def listedWatches : Xenstore (List (String × DomPtr)) where
  watch w p d := (p, d) :: w
  unwatch w p := w.filter (fun x => x.1 ≠ p)
  registered w p d := (p, d) ∈ w
  watch_only := by
    intro w p d q e h
    cases h with
    | head => exact .inr ⟨rfl, rfl⟩
    | tail _ h => exact .inl h
  unwatch_path := by
    intro w p e h
    have hne := (List.mem_filter.mp h).2
    simp at hne
  unwatch_only := by
    intro w p q e h
    exact (List.mem_filter.mp h).1

def powerOn : State (List (String × DomPtr)) where
  initialised _ := false
  domid _ := -1
  numActiveAdapters _ := 0
  watches := []
  written _ := []

/-- The state that `op` leads to. -/
def State.after (s : State (List (String × DomPtr))) (op : Op) : State (List (String × DomPtr)) :=
  match op.run listedWatches s with
  | .ok r => r.2
  | .error _ => s

theorem Op.step_after {op : Op} (hvalid : op.Valid listedWatches s)
    (hruns : (op.run listedWatches s).toOption.isSome) :
    op.Step listedWatches s (s.after op) := by
  refine ⟨hvalid, ?_⟩
  unfold State.after
  cases hrun : op.run listedWatches s with
  | ok r => rfl
  | error e =>
    rw [hrun] at hruns
    cases hruns

def started : State (List (String × DomPtr)) :=
  powerOn.after (.create firstEntry 3 .started)

/-- Its guest writes a count of adapters. -/
def State.told (s : State (List (String × DomPtr))) (buff : String) :
    State (List (String × DomPtr)) :=
  s.after (.activeAdapter firstEntry (some buff))

theorem counted_run (h : first = "3" ∧ second = "1" ∨ first = "1" ∧ second = "3") :
    Run (Op.CoveredStep listedWatches) powerOn
      ([.create firstEntry 3 .started] ++ [.activeAdapter firstEntry (some first)] ++
        [.activeAdapter firstEntry (some second)])
      ((started.told first).told second) := by
  have hstarted : (Op.create firstEntry 3 .started).CoveredStep listedWatches powerOn started :=
    ⟨Op.step_after rfl rfl, nofun⟩
  have hfirst : (Op.activeAdapter firstEntry (some first)).CoveredStep listedWatches started
      (started.told first) := by
    refine ⟨Op.step_after ?_ ?_, nofun⟩
    · change _ ∈ _
      decide +kernel
    · obtain ⟨rfl, rfl⟩ | ⟨rfl, rfl⟩ := h <;> decide +kernel
  have hsecond : (Op.activeAdapter firstEntry (some second)).CoveredStep listedWatches
      (started.told first) ((started.told first).told second) := by
    refine ⟨Op.step_after ?_ ?_, nofun⟩
    · change _ ∈ _
      obtain ⟨rfl, rfl⟩ | ⟨rfl, rfl⟩ := h <;> decide +kernel
    · obtain ⟨rfl, rfl⟩ | ⟨rfl, rfl⟩ := h <;> decide +kernel
  exact .snoc (.snoc (.snoc .nil hstarted) hfirst) hsecond

/-- The guest takes its count from three to one, and two watches stay. -/
theorem adapter_watch_outlives : ∃ ops s s', Run (Op.Step listedWatches) powerOn ops s ∧
    (Op.gone firstEntry).Step listedWatches s s' ∧
    listedWatches.registered s'.watches "/local/domain/3/display/activeAdapter/2" firstEntry := by
  refine ⟨_, _, _, (counted_run (.inl ⟨rfl, rfl⟩)).mono fun _ _ _ h => h.1,
    Op.step_after trivial ?_, ?_⟩
  · decide +kernel
  · change _ ∈ _
    decide +kernel

theorem no_watch_outlives_growth :
    ¬listedWatches.registered (((started.told "1").told "3").after (.gone firstEntry)).watches
      "/local/domain/3/display/activeAdapter/2" firstEntry := by
  have hempty : ∀ path e, ¬listedWatches.registered powerOn.watches path e := by
    intro path e h
    cases h
  have hrun := counted_run (.inr ⟨rfl, rfl⟩)
  have hgone : (Op.gone firstEntry).CoveredStep listedWatches ((started.told "1").told "3")
      (((started.told "1").told "3").after (.gone firstEntry)) := by
    refine ⟨Op.step_after trivial ?_, ?_⟩
    · decide +kernel
    · rintro d ⟨⟩
      change ∀ _ ∈ _, _
      decide +kernel
  exact no_watch_outlives listedWatches hempty hrun hgone rfl _

end InputServer.Watches
