import InputServer.HidWrites

namespace InputServer
open Buffer
set_option autoImplicit true

/-- What an event on the way from the host is for the queue of bytes that arrived. -/
def RecvHappening.event : RecvHappening → Option (FifoEvent UInt8)
  | .received report => some (.push report)
  | .missed _ => none
  | .read _ bytes => some (.pop bytes)
  | .cleared => some .clear

/-- The bytes of a request that is read to its end, which the reader has not been told of. -/
def ReadStage.held : ReadStage → List UInt8
  | .removed _ bytes => bytes
  | _ => []

/-- The request that only the reader knows. -/
def ReadStage.inHand : ReadStage → List Nat
  | .removed req _ => [req]
  | _ => []

namespace HidgRecv

/-- The bytes of a list entry that were not read. -/
def rest (g : HidgRecv) (list : Nat) : List UInt8 :=
  ((g.lists list).map fun l => (g.requests l.req).report.drop l.pos.toNat).getD []

def unread (g : HidgRecv) : List UInt8 :=
  g.completedOutReq.flatMap g.rest

/-- The list has its entries, each not read beyond its end. -/
structure Linked (g : HidgRecv) : Prop where
  nodup : g.completedOutReq.Nodup
  entry : ∀ list ∈ g.completedOutReq, ∃ l, g.lists list = some l ∧
    l.pos.toNat ≤ (g.requests l.req).actual.toNat
  fresh : ∀ list ∈ g.completedOutReq, list < g.nextList

/-- The first entry of the list is `l`. -/
def First (g : HidgRecv) (list : Nat) (l : ReqList) : Prop :=
  g.completedOutReq.head? = some list ∧ g.lists list = some l

/-- What a reader relies on between its sections. -/
def StageOk (g : HidgRecv) : ReadStage → Prop
  | .idle => True
  | .picked list req count => ∃ l, g.First list l ∧ l.req = req ∧
      count ≤ (g.requests req).actual.toNat - l.pos.toNat
  | .copied list req bytes => ∃ l, g.First list l ∧ l.req = req ∧ bytes <+: g.rest list
  | .removed _ _ => True

/-- The invariant of the receive half, where no thread but `t` reads. -/
structure Kept (len : UInt16) (g : HidgRecv) (t : Nat) : Prop where
  alone : ∀ t', t' ≠ t → g.readers t' = .idle
  stage : g.StageOk (g.readers t)
  linked : g.Linked
  buffers : ∀ req, (g.requests req).buf.length = len.toNat
  actual : ∀ req ∈ g.listed, (g.requests req).actual.toNat ≤ len.toNat
  placed : (g.outQueue ++ g.listed ++ (g.readers t).inHand ++ g.leaked).Perm
    (List.range g.allocated)
  counted : ∀ ret bytes, .read ret bytes ∈ g.log → 0 ≤ ret → ret = bytes.length
  fifo : Fifo (g.log.filterMap RecvHappening.event) ((g.readers t).held ++ g.unread)

section
variable {len : UInt16} {g g' : HidgRecv} {t : Nat}

theorem events_snoc {h : RecvHappening} (g : HidgRecv) :
    (g.happens h).log.filterMap RecvHappening.event =
      g.log.filterMap RecvHappening.event ++ h.event.toList := by
  rw [happens, List.filterMap_append]
  congr 1

theorem mem_listed (hlist : list ∈ g.completedOutReq) (hl : g.lists list = some l) :
    l.req ∈ g.listed := by
  rw [listed, List.mem_filterMap]
  exact ⟨list, hlist, by rw [hl]; rfl⟩

theorem rest_of (hl : g.lists list = some l) :
    g.rest list = (g.requests l.req).report.drop l.pos.toNat := by
  rw [rest, hl]
  rfl

/-- What is in the list, where the entries and their requests stay. -/
theorem unread_congr (hcompleted : g'.completedOutReq = g.completedOutReq)
    (hrest : ∀ list ∈ g.completedOutReq, g'.rest list = g.rest list) : g'.unread = g.unread := by
  rw [unread, unread, hcompleted, List.flatMap_def, List.flatMap_def]
  congr 1
  exact List.map_congr_left hrest

theorem report_length (h : g.Kept len t) (hreq : req ∈ g.listed) :
    (g.requests req).report.length = (g.requests req).actual.toNat := by
  rw [UsbRequest.report, List.length_take, h.buffers, Nat.min_eq_left (h.actual req hreq)]

/-- Nobody else has a request that is queued. -/
theorem Kept.queued_only (h : g.Kept len t) (hreq : req ∈ g.outQueue) : req ∉ g.listed := by
  have hnodup : (g.outQueue ++ g.listed ++ (g.readers t).inHand ++ g.leaked).Nodup :=
    h.placed.nodup_iff.2 List.nodup_range
  rw [List.append_assoc, List.append_assoc, List.nodup_append] at hnodup
  intro hlisted
  exact hnodup.2.2 req hreq req (List.mem_append_left _ hlisted) rfl

/-- A thread that has nothing to go on with ends its call. -/
theorem Kept.ends (h : g.Kept len t) (hidle : g.readers t = .idle)
    (hret : 0 ≤ ret → ret = 0) : (g.returns t ret []).Kept len t := by
  have hfifo := h.fifo
  have hplaced := h.placed
  rw [hidle] at hfifo hplaced
  have hreader : (g.returns t ret []).readers t = .idle := Function.update_self ..
  obtain ⟨hnodup, hentry, hfresh⟩ := h.linked
  refine ⟨?_, ?_, ⟨hnodup, hentry, hfresh⟩, h.buffers, h.actual, ?_, ?_, ?_⟩
  · intro t' ht'
    exact (Function.update_of_ne ht' ..).trans (h.alone t' ht')
  · rw [hreader]
    trivial
  · rw [hreader]
    exact hplaced
  · intro ret' bytes hmem hpos
    rcases List.mem_append.1 hmem with hmem | hmem
    · exact h.counted ret' bytes hmem hpos
    · cases List.mem_singleton.1 hmem
      exact hret hpos
  · rw [hreader, returns, events_snoc]
    exact Fifo.pop hfifo

/-- A change of what the reader does, which leaves the rest. -/
theorem Kept.moves (h : g.Kept len t) {s : ReadStage} (hs : g.StageOk s)
    (hheld : s.held = (g.readers t).held) (hhand : s.inHand = (g.readers t).inHand) :
    (g.stage t s).Kept len t := by
  obtain ⟨hnodup, hentry, hfresh⟩ := h.linked
  have hreader : (g.stage t s).readers t = s := Function.update_self ..
  refine ⟨?_, ?_, ⟨hnodup, hentry, hfresh⟩, h.buffers, h.actual, ?_, h.counted, ?_⟩
  · intro t' ht'
    exact (Function.update_of_ne ht' ..).trans (h.alone t' ht')
  · rw [hreader]
    cases s with
    | idle => trivial
    | picked list req count => exact hs
    | copied list req bytes => exact hs
    | removed req bytes => trivial
  · rw [hreader, hhand]
    exact h.placed
  · rw [hreader, hheld]
    exact h.fifo

theorem Kept.pick (h : g.Kept len t) (hidle : g.readers t = .idle) (count : Nat)
    (accessOk : Bool) (wait : WaitEnd) :
    ∃ g', g.fHidgReadPick t count accessOk wait = .ok g' ∧ g'.Kept len t := by
  rw [fHidgReadPick]
  by_cases hcount : count = 0
  · rw [if_pos hcount]
    exact ⟨_, rfl, h.ends hidle fun _ => rfl⟩
  · rw [if_neg hcount]
    cases accessOk with
    | false => exact ⟨_, rfl, h.ends hidle fun hpos => absurd hpos (by decide)⟩
    | true =>
      simp only [Bool.not_true, Bool.false_eq_true, if_false]
      cases hlist : g.completedOutReq with
      | nil =>
        exact ⟨_, rfl, h.ends hidle fun hpos => absurd hpos (Int.not_le.2 wait.ret_neg)⟩
      | cons list later =>
        have hmem : list ∈ g.completedOutReq := by
          rw [hlist]
          exact List.mem_cons_self
        obtain ⟨l, hl, hpos⟩ := h.linked.entry list hmem
        simp only [hl]
        refine ⟨_, rfl, ?_⟩
        apply h.moves
        · refine ⟨l, ⟨by rw [hlist]; rfl, hl⟩, rfl, ?_⟩
          apply (Nat.min_le_right _ _).trans
          rw [UInt32.toNat_sub_of_le _ _ (UInt32.le_iff_toNat_le.2 hpos)]
        · rw [hidle]
          rfl
        · rw [hidle]
          rfl

theorem First.mem (h : g.First list l) : list ∈ g.completedOutReq :=
  List.mem_of_mem_head? h.1

/-- What a reader relies on, where the first entry stays as it is. -/
theorem StageOk.of_first {s : ReadStage} (h : g.StageOk s)
    (hfirst : ∀ list l, g.First list l → g'.First list l)
    (hrest : ∀ list l, g.First list l → g'.rest list = g.rest list)
    (hactual : ∀ list l, g.First list l →
      (g'.requests l.req).actual = (g.requests l.req).actual) : g'.StageOk s := by
  cases s with
  | idle => trivial
  | picked list req count =>
    obtain ⟨l, hl, rfl, hcount⟩ := h
    refine ⟨l, hfirst list l hl, rfl, ?_⟩
    rw [hactual list l hl]
    exact hcount
  | copied list req bytes =>
    obtain ⟨l, hl, hreq, hbytes⟩ := h
    refine ⟨l, hfirst list l hl, hreq, ?_⟩
    rw [hrest list l hl]
    exact hbytes
  | removed req bytes => trivial

theorem Kept.copy (h : g.Kept len t) (hstage : g.readers t = .picked list req count)
    (uncopied : Nat) :
    ∃ g', g.fHidgReadCopy t list req count uncopied = .ok g' ∧ g'.Kept len t := by
  have hok := h.stage
  rw [hstage] at hok
  obtain ⟨l, hfirst, rfl, hcount⟩ := hok
  obtain ⟨l', hl', hpos⟩ := h.linked.entry list hfirst.mem
  rw [hfirst.2] at hl'
  cases hl'
  have hactual := h.actual l.req (mem_listed hfirst.mem hfirst.2)
  have hin : l.pos.toNat + count ≤ (g.requests l.req).buf.length := by
    rw [h.buffers]
    omega
  rw [fHidgReadCopy]
  simp only [hfirst.2, if_pos hin]
  refine ⟨_, rfl, ?_⟩
  apply h.moves
  · refine ⟨l, hfirst, rfl, ?_⟩
    have hbytes : slice (g.requests l.req).buf l.pos.toNat (count - uncopied) =
        (g.rest list).take (count - uncopied) := by
      rw [rest_of hfirst.2, UsbRequest.report, List.drop_take, List.take_take, slice,
        Nat.min_eq_left (by omega)]
    rw [hbytes]
    exact List.take_prefix _ _
  · rw [hstage]
    rfl
  · rw [hstage]
    rfl

/-- The first entry and the others, which are not it. -/
theorem Kept.first (h : g.Kept len t) (hfirst : g.First list l) :
    ∃ later, g.completedOutReq = list :: later ∧ list ∉ later := by
  obtain ⟨later, hlater⟩ := List.head?_eq_some_iff.1 hfirst.1
  have hnodup := h.linked.nodup
  rw [hlater] at hnodup
  exact ⟨later, hlater, (List.nodup_cons.1 hnodup).1⟩

theorem rest_update (hne : list' ≠ list) (v : Option ReqList) :
    rest { g with lists := Function.update g.lists list v } list' = g.rest list' := by
  rw [rest, rest]
  dsimp only
  rw [Function.update_of_ne hne]

/-- A read that goes to the end of a request takes its entry from the list. -/
theorem Kept.finish (h : g.Kept len t) (hstage : g.readers t = .copied list l.req bytes)
    (hfirst : g.First list l) (hbytes : bytes = g.rest list) :
    Kept len ({ g with
      lists := Function.update g.lists list none
      completedOutReq := g.completedOutReq.erase list }.stage t (.removed l.req bytes)) t := by
  obtain ⟨later, hlater, hnot⟩ := h.first hfirst
  obtain ⟨hnodup, hentry, hfresh⟩ := h.linked
  rw [hlater] at hnodup hentry hfresh
  have hne : ∀ list' ∈ later, list' ≠ list := by
    intro list' hmem heq
    rw [heq] at hmem
    exact hnot hmem
  have hlists : ∀ list' ∈ later, Function.update g.lists list none list' = g.lists list' :=
    fun list' hmem => Function.update_of_ne (hne list' hmem) ..
  have hlisted : g.listed = l.req :: later.filterMap fun list' =>
      (Function.update g.lists list none list').map ReqList.req := by
    rw [listed, hlater, List.filterMap_cons, hfirst.2]
    exact congrArg _ (List.filterMap_congr fun list' hmem => by rw [hlists list' hmem])
  have hplaced := h.placed
  have hfifo := h.fifo
  rw [hstage, hlisted] at hplaced
  rw [hstage, unread, hlater, List.flatMap_cons, ← hbytes] at hfifo
  have herase : (list :: later).erase list = later := List.erase_cons_head ..
  rw [hlater, herase]
  let g₁ : HidgRecv := { g with
    lists := Function.update g.lists list none, completedOutReq := later }
  have hg₁ : g₁.listed = later.filterMap fun list' =>
      (Function.update g.lists list none list').map ReqList.req := rfl
  have hreader : (g₁.stage t (.removed l.req bytes)).readers t = .removed l.req bytes :=
    Function.update_self ..
  refine ⟨?_, ?_, ⟨(List.nodup_cons.1 hnodup).2, ?_, ?_⟩, h.buffers, ?_, ?_, h.counted, ?_⟩
  · intro t' ht'
    exact (Function.update_of_ne ht' ..).trans (h.alone t' ht')
  · rw [hreader]
    trivial
  · intro list' hmem
    obtain ⟨l', hl', hpos⟩ := hentry list' (List.mem_cons_of_mem _ hmem)
    exact ⟨l', (hlists list' hmem).trans hl', hpos⟩
  · exact fun list' hmem => hfresh list' (List.mem_cons_of_mem _ hmem)
  · intro req hreq
    apply h.actual req
    rw [hlisted]
    exact List.mem_cons_of_mem _ hreq
  · rw [hreader]
    change (g.outQueue ++ g₁.listed ++ [l.req] ++ g.leaked).Perm _
    rw [hg₁]
    refine List.Perm.trans ?_ hplaced
    rw [List.perm_iff_count]
    intro req
    simp only [ReadStage.inHand, List.count_append, List.count_cons, List.count_nil]
    omega
  · rw [hreader]
    change Fifo _ (bytes ++ g₁.unread)
    have hunread : g₁.unread = later.flatMap g.rest := by
      rw [unread, List.flatMap_def, List.flatMap_def]
      congr 1
      exact List.map_congr_left fun list' hmem => rest_update (hne list' hmem) none
    rw [hunread]
    exact hfifo

/-- A read that ends in the middle of a request moves on in it. -/
theorem Kept.moveOn (h : g.Kept len t) (hstage : g.readers t = .copied list l.req bytes)
    (hfirst : g.First list l) (hbytes : bytes <+: g.rest list) {pos : UInt32}
    (hpos : pos.toNat = l.pos.toNat + bytes.length) :
    Kept len
      ({ g with lists := Function.update g.lists list (some { l with pos := pos }) }.returns t
        bytes.length bytes) t := by
  obtain ⟨later, hlater, hnot⟩ := h.first hfirst
  obtain ⟨hnodup, hentry, hfresh⟩ := h.linked
  have hreq := mem_listed hfirst.mem hfirst.2
  have hle := hbytes.length_le
  rw [rest_of hfirst.2, List.length_drop, report_length h hreq] at hle
  obtain ⟨l', hl', hbefore⟩ := hentry list hfirst.mem
  rw [hfirst.2] at hl'
  cases hl'
  let g₁ : HidgRecv := { g with
    lists := Function.update g.lists list (some { l with pos := pos }) }
  have hreader : (g₁.returns t bytes.length bytes).readers t = .idle := Function.update_self ..
  have hself : g₁.lists list = some { l with pos := pos } := Function.update_self ..
  have hother : ∀ list', list' ≠ list → g₁.lists list' = g.lists list' :=
    fun list' hne => Function.update_of_ne hne ..
  have hlisted : g₁.listed = g.listed := by
    rw [listed, listed]
    apply List.filterMap_congr
    intro list' _
    by_cases heq : list' = list
    · rw [heq, hself, hfirst.2]
      rfl
    · rw [hother list' heq]
  have hfifo := h.fifo
  have hplaced := h.placed
  rw [hstage] at hfifo hplaced
  refine ⟨?_, ?_, ⟨hnodup, ?_, hfresh⟩, h.buffers, ?_, ?_, ?_, ?_⟩
  · intro t' ht'
    exact (Function.update_of_ne ht' ..).trans (h.alone t' ht')
  · rw [hreader]
    trivial
  · intro list' hmem
    by_cases heq : list' = list
    · rw [heq]
      refine ⟨_, hself, ?_⟩
      change pos.toNat ≤ (g.requests l.req).actual.toNat
      omega
    · obtain ⟨l', hl', hpos'⟩ := hentry list' hmem
      exact ⟨l', (hother list' heq).trans hl', hpos'⟩
  · intro req hmem
    apply h.actual req
    rw [← hlisted]
    exact hmem
  · rw [hreader]
    change (g.outQueue ++ g₁.listed ++ [] ++ g.leaked).Perm _
    rw [hlisted]
    exact hplaced
  · intro ret' bytes' hmem hret
    rcases List.mem_append.1 hmem with hmem | hmem
    · exact h.counted ret' bytes' hmem hret
    · cases List.mem_singleton.1 hmem
      rfl
  · rw [hreader, returns, events_snoc]
    apply Fifo.pop
    change Fifo _ (bytes ++ g₁.unread)
    obtain ⟨after, hafter⟩ := hbytes
    have hrest : g₁.rest list = after := by
      rw [rest_of hself]
      change (g.requests l.req).report.drop pos.toNat = after
      rw [hpos, ← List.drop_drop, ← rest_of hfirst.2, ← hafter, List.drop_left]
    have hunread : bytes ++ g₁.unread = g.unread := by
      rw [unread, unread]
      change bytes ++ g.completedOutReq.flatMap g₁.rest = _
      rw [hlater, List.flatMap_cons, List.flatMap_cons, hrest, ← List.append_assoc, hafter]
      congr 1
      rw [List.flatMap_def, List.flatMap_def]
      congr 1
      apply List.map_congr_left
      intro list' hmem
      apply rest_update
      intro heq
      rw [heq] at hmem
      exact hnot hmem
    rw [hunread]
    exact hfifo

theorem Kept.advance (h : g.Kept len t) (hstage : g.readers t = .copied list req bytes) :
    ∃ g', g.fHidgReadAdvance t list req bytes = .ok g' ∧ g'.Kept len t := by
  have hok := h.stage
  rw [hstage] at hok
  obtain ⟨l, hfirst, rfl, hbytes⟩ := hok
  have hreq := mem_listed hfirst.mem hfirst.2
  have hlength := report_length h hreq
  obtain ⟨l', hl', hbefore⟩ := h.linked.entry list hfirst.mem
  rw [hfirst.2] at hl'
  cases hl'
  have hle := hbytes.length_le
  rw [rest_of hfirst.2, List.length_drop, hlength] at hle
  have hactual := (g.requests l.req).actual.toNat_lt
  have hsmall : bytes.length < UInt32.size := (hle.trans (Nat.sub_le _ _)).trans_lt hactual
  have hpos : (l.pos + UInt32.ofNat bytes.length).toNat = l.pos.toNat + bytes.length := by
    rw [UInt32.toNat_add, UInt32.toNat_ofNat_of_lt' hsmall]
    exact Nat.mod_eq_of_lt (by omega)
  rw [fHidgReadAdvance]
  simp only [hfirst.2]
  by_cases hend : l.pos + UInt32.ofNat bytes.length = (g.requests l.req).actual
  · rw [if_pos hend]
    refine ⟨_, rfl, h.finish hstage hfirst ?_⟩
    apply hbytes.eq_of_length
    rw [rest_of hfirst.2, List.length_drop, hlength, ← hend, hpos]
    omega
  · rw [if_neg hend]
    exact ⟨_, rfl, h.moveOn hstage hfirst hbytes hpos⟩

theorem Kept.requeue (h : g.Kept len t) (hstage : g.readers t = .removed req bytes)
    (queued : Int) : (g.fHidgReadRequeue t req bytes queued).Kept len t := by
  obtain ⟨hnodup, hentry, hfresh⟩ := h.linked
  have hfifo := h.fifo
  have hplaced := h.placed
  rw [hstage] at hfifo hplaced
  have hreturned {outQueue leaked : List Nat} {ret : Int}
      (hsame : (outQueue ++ g.listed ++ leaked).Perm
        (g.outQueue ++ g.listed ++ [req] ++ g.leaked))
      (hret : 0 ≤ ret → ret = bytes.length) :
      Kept len ({ g with outQueue := outQueue, leaked := leaked }.returns t ret bytes) t := by
    let g₁ : HidgRecv := { g with outQueue := outQueue, leaked := leaked }
    have hreader : (g₁.returns t ret bytes).readers t = .idle := Function.update_self ..
    refine ⟨?_, ?_, ⟨hnodup, hentry, hfresh⟩, h.buffers, h.actual, ?_, ?_, ?_⟩
    · intro t' ht'
      exact (Function.update_of_ne ht' ..).trans (h.alone t' ht')
    · rw [hreader]
      trivial
    · rw [hreader]
      change (outQueue ++ g.listed ++ [] ++ leaked).Perm _
      rw [List.append_nil]
      exact hsame.trans hplaced
    · intro ret' bytes' hmem hpos
      rcases List.mem_append.1 hmem with hmem | hmem
      · exact h.counted ret' bytes' hmem hpos
      · cases List.mem_singleton.1 hmem
        exact hret hpos
    · rw [hreader, returns, events_snoc]
      exact Fifo.pop hfifo
  rw [fHidgReadRequeue]
  by_cases hfails : queued < 0
  · rw [if_pos hfails]
    apply hreturned
    · rw [List.perm_iff_count]
      intro req'
      simp only [List.count_append]
      omega
    · exact fun hpos => absurd hpos (Int.not_le.2 hfails)
  · rw [if_neg hfails]
    apply hreturned
    · rw [List.perm_iff_count]
      intro req'
      simp only [List.count_append]
      omega
    · exact fun _ => rfl

/-- The controller fills a request that it has, which is no other one's. -/
theorem Kept.fill (h : g.Kept len t) (hreq : req ∈ g.outQueue) {data : List UInt8}
    (hdata : data.length ≤ len.toNat) :
    Kept len { g with
      requests := Function.update g.requests req
        ⟨blit (g.requests req).buf 0 data, UInt32.ofNat data.length⟩ } t := by
  obtain ⟨hnodup, hentry, hfresh⟩ := h.linked
  let g₁ : HidgRecv := { g with
    requests := Function.update g.requests req
      ⟨blit (g.requests req).buf 0 data, UInt32.ofNat data.length⟩ }
  have hother : ∀ req' ∈ g.listed, g₁.requests req' = g.requests req' := by
    intro req' hmem
    apply Function.update_of_ne
    intro heq
    rw [heq] at hmem
    exact h.queued_only hreq hmem
  have hsame : ∀ list l, list ∈ g.completedOutReq → g.lists list = some l →
      g₁.requests l.req = g.requests l.req :=
    fun list l hmem hl => hother l.req (mem_listed hmem hl)
  have hrest : ∀ list ∈ g.completedOutReq, g₁.rest list = g.rest list := by
    intro list hmem
    obtain ⟨l, hl, -⟩ := hentry list hmem
    rw [rest_of hl, rest_of (g := g₁) hl, hsame list l hmem hl]
  have hunread : g₁.unread = g.unread := unread_congr rfl hrest
  refine ⟨h.alone, ?_, ⟨hnodup, ?_, hfresh⟩, ?_, ?_, h.placed, h.counted, ?_⟩
  · apply h.stage.of_first
    · exact fun list l hfirst => hfirst
    · exact fun list l hfirst => hrest list hfirst.mem
    · exact fun list l hfirst => congrArg _ (hsame list l hfirst.mem hfirst.2)
  · intro list hmem
    obtain ⟨l, hl, hpos⟩ := hentry list hmem
    refine ⟨l, hl, ?_⟩
    rw [← hsame list l hmem hl] at hpos
    exact hpos
  · intro req'
    change (g₁.requests req').buf.length = _
    by_cases heq : req' = req
    · have hself : g₁.requests req = ⟨blit (g.requests req).buf 0 data, UInt32.ofNat data.length⟩ :=
        Function.update_self ..
      rw [heq, hself]
      dsimp only
      rw [blit_length (by rw [h.buffers]; omega), h.buffers]
    · have hkept : g₁.requests req' = g.requests req' := Function.update_of_ne heq ..
      rw [hkept, h.buffers]
  · intro req' hmem
    have hactual := h.actual req' hmem
    rw [← hother req' hmem] at hactual
    exact hactual
  · change Fifo _ ((g.readers t).held ++ g₁.unread)
    rw [hunread]
    exact h.fifo

/-- There is no list entry for a request that came back. -/
theorem Kept.missed (h : g.Kept len t) (hreq : req ∈ g.outQueue) :
    Kept len ({ g with
      outQueue := g.outQueue.erase req
      leaked := g.leaked ++ [req] }.happens (.missed (g.requests req).report)) t := by
  obtain ⟨hnodup, hentry, hfresh⟩ := h.linked
  refine ⟨h.alone, ?_, ⟨hnodup, hentry, hfresh⟩, h.buffers, h.actual, ?_, ?_, ?_⟩
  · exact h.stage.of_first (fun _ _ hfirst => hfirst) (fun _ _ _ => rfl) fun _ _ _ => rfl
  · refine List.Perm.trans ?_ h.placed
    rw [List.perm_iff_count]
    intro req'
    have hmoved := (List.perm_cons_erase hreq).count_eq req'
    change (g.outQueue.erase req ++ g.listed ++ (g.readers t).inHand ++
      (g.leaked ++ [req])).count req' = _
    simp only [List.count_append, List.count_cons, List.count_nil] at hmoved ⊢
    omega
  · intro ret bytes hmem hpos
    rcases List.mem_append.1 hmem with hmem | hmem
    · exact h.counted ret bytes hmem hpos
    · cases List.mem_singleton.1 hmem
  · rw [events_snoc]
    change Fifo (_ ++ []) ((g.readers t).held ++ g.unread)
    rw [List.append_nil]
    exact h.fifo

/-- A request that came back goes to the end of the list. -/
theorem Kept.received (h : g.Kept len t) (hreq : req ∈ g.outQueue)
    (hactual : (g.requests req).actual.toNat ≤ len.toNat) :
    Kept len ({ g with
      outQueue := g.outQueue.erase req
      lists := Function.update g.lists g.nextList (some ⟨req, 0⟩)
      completedOutReq := g.completedOutReq ++ [g.nextList]
      nextList := g.nextList + 1 }.happens (.received (g.requests req).report)) t := by
  obtain ⟨hnodup, hentry, hfresh⟩ := h.linked
  let g₁ : HidgRecv := { g with
    outQueue := g.outQueue.erase req
    lists := Function.update g.lists g.nextList (some ⟨req, 0⟩)
    completedOutReq := g.completedOutReq ++ [g.nextList]
    nextList := g.nextList + 1 }
  have hnew : g₁.lists g.nextList = some ⟨req, 0⟩ := Function.update_self ..
  have hold : ∀ list ∈ g.completedOutReq, g₁.lists list = g.lists list :=
    fun list hmem => Function.update_of_ne (Nat.ne_of_lt (hfresh list hmem)) ..
  have hrest : ∀ list ∈ g.completedOutReq, g₁.rest list = g.rest list :=
    fun list hmem => rest_update (Nat.ne_of_lt (hfresh list hmem)) _
  have hlisted : g₁.listed = g.listed ++ [req] := by
    rw [listed]
    change (g.completedOutReq ++ [g.nextList]).filterMap _ = _
    rw [List.filterMap_append]
    congr 1
    · exact List.filterMap_congr fun list hmem => by rw [hold list hmem]
    · rw [List.filterMap_cons_some (b := req) (by rw [hnew]; rfl), List.filterMap_nil]
  have hunread : g₁.unread = g.unread ++ (g.requests req).report := by
    rw [unread, unread]
    change (g.completedOutReq ++ [g.nextList]).flatMap g₁.rest = _
    rw [List.flatMap_append, List.flatMap_cons, List.flatMap_nil, List.append_nil, rest_of hnew]
    congr 1
    rw [List.flatMap_def, List.flatMap_def]
    congr 1
    exact List.map_congr_left hrest
  refine ⟨h.alone, ?_, ⟨?_, ?_, ?_⟩, h.buffers, ?_, ?_, ?_, ?_⟩
  · apply h.stage.of_first
    · intro list l hfirst
      refine ⟨?_, (hold list hfirst.mem).trans hfirst.2⟩
      obtain ⟨later, hlater⟩ := List.head?_eq_some_iff.1 hfirst.1
      change (g.completedOutReq ++ _).head? = _
      rw [hlater]
      rfl
    · exact fun list l hfirst => hrest list hfirst.mem
    · exact fun list l hfirst => rfl
  · change (g.completedOutReq ++ [g.nextList]).Nodup
    rw [← List.concat_eq_append]
    exact hnodup.concat fun hmem => Nat.lt_irrefl _ (hfresh _ hmem)
  · intro list hmem
    rcases List.mem_append.1 hmem with hmem | hmem
    · obtain ⟨l, hl, hpos⟩ := hentry list hmem
      exact ⟨l, (hold list hmem).trans hl, hpos⟩
    · rw [List.mem_singleton.1 hmem]
      exact ⟨_, hnew, Nat.zero_le _⟩
  · intro list hmem
    rcases List.mem_append.1 hmem with hmem | hmem
    · exact Nat.lt_succ_of_lt (hfresh list hmem)
    · rw [List.mem_singleton.1 hmem]
      exact Nat.lt_succ_self _
  · intro req' hmem
    change req' ∈ g₁.listed at hmem
    rw [hlisted] at hmem
    rcases List.mem_append.1 hmem with hmem | hmem
    · exact h.actual req' hmem
    · rw [List.mem_singleton.1 hmem]
      exact hactual
  · refine List.Perm.trans ?_ h.placed
    rw [List.perm_iff_count]
    intro req'
    have hmoved := (List.perm_cons_erase hreq).count_eq req'
    change (g.outQueue.erase req ++ g₁.listed ++ (g.readers t).inHand ++ g.leaked).count req' = _
    rw [hlisted]
    simp only [List.count_append, List.count_cons, List.count_nil] at hmoved ⊢
    omega
  · intro ret bytes hmem hpos
    rcases List.mem_append.1 hmem with hmem | hmem
    · exact h.counted ret bytes hmem hpos
    · cases List.mem_singleton.1 hmem
  · rw [events_snoc]
    change Fifo (_ ++ [.push (g.requests req).report]) ((g.readers t).held ++ g₁.unread)
    rw [hunread, ← List.append_assoc]
    exact h.fifo.push _

/-- A request comes back from the controller. -/
theorem Kept.outDone (h : g.Kept len t) (hreq : req ∈ g.outQueue) {data : List UInt8}
    (hdata : data.length ≤ len.toNat) (kzalloc : Bool) :
    (g.outDone req data kzalloc).Kept len t := by
  have hfilled := h.fill hreq hdata
  cases kzalloc with
  | false => exact hfilled.missed hreq
  | true =>
    apply hfilled.received hreq
    have hlen := len.toNat_lt
    have hsmall : data.length < UInt32.size := by
      change data.length < 4294967296
      omega
    change (Function.update g.requests req _ req).actual.toNat ≤ _
    rw [Function.update_self]
    change (UInt32.ofNat data.length).toNat ≤ _
    rw [UInt32.toNat_ofNat_of_lt' hsmall]
    exact hdata

/-- Every request that is queued comes back with nothing in it. -/
theorem Kept.disableOut (h : g.Kept len t) (kzalloc : Nat → Bool) :
    (g.disableOut kzalloc).Kept len t ∧ (g.disableOut kzalloc).outQueue = [] := by
  rw [HidgRecv.disableOut]
  generalize hqueue : g.outQueue = queue
  induction queue generalizing g with
  | nil => exact ⟨h, hqueue⟩
  | cons req queue ih =>
    have hmem : req ∈ g.outQueue := by
      rw [hqueue]
      exact List.mem_cons_self
    have hnone : ([] : List UInt8).length ≤ len.toNat := Nat.zero_le _
    have hdone := h.outDone hmem hnone (kzalloc req)
    apply ih hdone
    have herase : (g.outDone req [] (kzalloc req)).outQueue = g.outQueue.erase req := by
      rw [HidgRecv.outDone, hidgSetReportComplete]
      cases kzalloc req <;> rfl
    rw [herase, hqueue, List.erase_cons_head]

theorem disableOut_readers (g : HidgRecv) (kzalloc : Nat → Bool) :
    (g.disableOut kzalloc).readers = g.readers := by
  have hdone (g : HidgRecv) (req : Nat) (kzalloc : Bool) :
      (g.outDone req [] kzalloc).readers = g.readers := by
    rw [HidgRecv.outDone, hidgSetReportComplete]
    cases kzalloc <;> rfl
  rw [HidgRecv.disableOut]
  generalize g.outQueue = queue
  induction queue generalizing g with
  | nil => rfl
  | cons req queue ih => exact (ih _).trans (hdone g req _)

theorem Kept.clearList (h : g.Kept len t) (hidle : g.readers t = .idle) :
    g.clearList.Kept len t := by
  have hplaced := h.placed
  have hfifo := h.fifo
  rw [hidle] at hplaced hfifo
  have hreader : g.clearList.readers t = .idle := hidle
  refine ⟨h.alone, ?_, ⟨List.nodup_nil, ?_, ?_⟩, h.buffers, ?_, ?_, ?_, ?_⟩
  · rw [hreader]
    trivial
  · exact fun list hmem => absurd hmem List.not_mem_nil
  · exact fun list hmem => absurd hmem List.not_mem_nil
  · exact fun req hmem => absurd hmem List.not_mem_nil
  · refine List.Perm.trans ?_ hplaced
    rw [hreader, List.perm_iff_count]
    intro req
    change (g.outQueue ++ [] ++ [] ++ (g.leaked ++ g.listed)).count req = _
    simp only [ReadStage.inHand, List.count_append, List.count_nil]
    omega
  · intro ret bytes hmem hpos
    rcases List.mem_append.1 hmem with hmem | hmem
    · exact h.counted ret bytes hmem hpos
    · cases List.mem_singleton.1 hmem
  · rw [hreader, HidgRecv.clearList, events_snoc]
    exact Fifo.clear hfifo

/-- A new request is made, for the controller or for nobody. -/
theorem Kept.allocate (h : g.Kept len t) {outQueue leaked : List Nat}
    (hnew : (outQueue ++ leaked).Perm (g.outQueue ++ g.leaked ++ [g.allocated])) :
    Kept len { g with
      allocated := g.allocated + 1, outQueue := outQueue, leaked := leaked } t := by
  obtain ⟨hnodup, hentry, hfresh⟩ := h.linked
  refine ⟨h.alone, ?_, ⟨hnodup, hentry, hfresh⟩, h.buffers, h.actual, ?_, h.counted, h.fifo⟩
  · exact h.stage.of_first (fun _ _ hfirst => hfirst) (fun _ _ _ => rfl) fun _ _ _ => rfl
  · have hplaced := h.placed
    rw [List.perm_iff_count] at hnew hplaced ⊢
    intro req
    have hreq := hnew req
    have hold := hplaced req
    change (outQueue ++ g.listed ++ (g.readers t).inHand ++ leaked).count req =
      (List.range (g.allocated + 1)).count req
    rw [List.range_succ]
    simp only [List.count_append] at hreq hold ⊢
    omega

theorem Kept.queueRequests (h : g.Kept len t) (round : Nat → Option Int) (kzalloc : Nat → Bool)
    (n i : Nat) : (HidgRecv.queueRequests round kzalloc n i g).1.Kept len t := by
  induction n generalizing i g with
  | zero => exact h
  | succ n ih =>
    rw [HidgRecv.queueRequests]
    cases round i with
    | none => exact (h.disableOut kzalloc).1
    | some status =>
      dsimp only
      by_cases hqueued : status = 0
      · rw [if_pos hqueued]
        apply ih
        apply h.allocate
        rw [List.perm_iff_count]
        intro req
        simp only [List.count_append]
        omega
      · rw [if_neg hqueued]
        apply h.allocate
        rw [List.append_assoc]

end

end HidgRecv

open HidgRecv

section
variable {g g' g₀ : Hidg} {es : List HidEvent} {len : UInt16} {t : Nat}

theorem setAltOut_recv (h : g.recv.Kept len t) (s : SetAlt) : (g.setAltOut s).recv.Kept len t := by
  have hoff {g : Hidg} (h : g.recv.Kept len t) (s : SetAlt) :
      Kept len (if (s.outConfigured && s.outEnabled) = true then
        { g with
          recv := (g.recv.queueRequests s.round s.kzalloc g.qlen 0).1
          outOwner :=
            if (g.recv.queueRequests s.round s.kzalloc g.qlen 0).2 = true then .hidg else .nobody }
        else g).recv t := by
    by_cases hon : (s.outConfigured && s.outEnabled) = true
    · rw [if_pos hon]
      exact h.queueRequests s.round s.kzalloc g.qlen 0
    · rw [if_neg hon]
      exact h
  rw [Hidg.setAltOut]
  by_cases howned : g.outOwner ≠ .nobody
  · rw [if_pos howned]
    exact hoff (g := { g with recv := g.recv.disableOut s.kzalloc }) (h.disableOut s.kzalloc).1 s
  · rw [if_neg howned]
    exact hoff h s

theorem hidgSetAlt_recv (hsend : g.send.Kept len) (h : g.recv.Kept len t) (s : SetAlt) :
    ∃ g', g.hidgSetAlt s = .ok g' ∧ g'.recv.Kept len t := by
  have hon (send : HidgSend) :
      ∃ g', (if (s.inConfigured && s.inEnabled) = true then
        (pure ({ g with send := { send with inEnabled := true, inOwner := .hidg } }.setAltOut s) :
          Except HidFault Hidg)
        else pure { g with send := send }) = .ok g' ∧ g'.recv.Kept len t := by
    by_cases hon : (s.inConfigured && s.inEnabled) = true
    · rw [if_pos hon]
      exact ⟨_, rfl, setAltOut_recv (g := { g with
        send := { send with inEnabled := true, inOwner := .hidg } }) h s⟩
    · rw [if_neg hon]
      exact ⟨_, rfl, h⟩
  rw [Hidg.hidgSetAlt]
  by_cases howned : g.send.inOwner ≠ .nobody
  · obtain ⟨send, hoff, -⟩ := hsend.disableIn
    rw [if_pos howned, hoff]
    exact hon send
  · rw [if_neg howned]
    exact hon g.send

/-- The only thread that reads, where there is one. -/
theorem HidgRecv.Kept.reader {g : HidgRecv} (h : g.Kept len t) (hbusy : g.readers t' ≠ .idle) :
    t' = t := by
  by_contra hne
  exact hbusy (h.alone t' hne)

/-- A thread that begins to read where no other one does. -/
theorem HidgRecv.Kept.takes {g : HidgRecv} (h : g.Kept len t)
    (hidle : ∀ t, g.readers t = .idle) (t' : Nat) : g.Kept len t' := by
  have hplaced := h.placed
  have hfifo := h.fifo
  rw [hidle t] at hplaced hfifo
  refine ⟨fun t _ => hidle t, ?_, h.linked, h.buffers, h.actual, ?_, h.counted, ?_⟩
  · rw [hidle t']
    trivial
  · rw [hidle t']
    exact hplaced
  · rw [hidle t']
    exact hfifo

/-- Where reads keep apart, an event does not fault, and keeps the receive half. -/
theorem HidEvent.recvKept {e : HidEvent} (hsend : g.send.Kept len) (h : g.recv.Kept len t)
    (hlength : g.reportLength = len) (hvalid : e.Valid g) (hapart : e.Apart g) :
    ∃ g', e.run g = .ok g' ∧ ∃ t', g'.recv.Kept len t' := by
  cases e with
  | read t' count accessOk wait =>
    obtain ⟨recv, hrun, hkept⟩ := (h.takes hapart t').pick hvalid count accessOk wait
    rw [HidEvent.run, hrun]
    exact ⟨_, rfl, t', hkept⟩
  | copy t' uncopied =>
    rw [HidEvent.run]
    cases hstage : g.recv.readers t' with
    | picked list req count =>
      cases h.reader (by rw [hstage]; exact ReadStage.noConfusion)
      obtain ⟨recv, hrun, hkept⟩ := h.copy hstage uncopied
      dsimp only
      rw [hrun]
      exact ⟨_, rfl, t, hkept⟩
    | _ => exact ⟨_, rfl, t, h⟩
  | advance t' =>
    rw [HidEvent.run]
    cases hstage : g.recv.readers t' with
    | copied list req bytes =>
      cases h.reader (by rw [hstage]; exact ReadStage.noConfusion)
      obtain ⟨recv, hrun, hkept⟩ := h.advance hstage
      dsimp only
      rw [hrun]
      exact ⟨_, rfl, t, hkept⟩
    | _ => exact ⟨_, rfl, t, h⟩
  | requeue t' queued =>
    rw [HidEvent.run]
    cases hstage : g.recv.readers t' with
    | removed req bytes =>
      cases h.reader (by rw [hstage]; exact ReadStage.noConfusion)
      exact ⟨_, rfl, t, h.requeue hstage queued⟩
    | _ => exact ⟨_, rfl, t, h⟩
  | write data accessOk wait uncopied queued => exact ⟨_, rfl, t, h⟩
  | outDone req data kzalloc =>
    have hdata := hvalid.2
    rw [hlength] at hdata
    exact ⟨_, rfl, t, h.outDone hvalid.1 hdata kzalloc⟩
  | inDone =>
    obtain ⟨send, hdone, -⟩ := hsend.inDone
    rw [HidEvent.run, hdone]
    exact ⟨_, rfl, t, h⟩
  | disable kzalloc =>
    obtain ⟨send, hoff, -⟩ := hsend.disableIn
    rw [HidEvent.run, Hidg.hidgDisable, hoff]
    refine ⟨_, rfl, t, (h.disableOut kzalloc).1.clearList ?_⟩
    rw [disableOut_readers]
    exact hapart t
  | setAlt s =>
    obtain ⟨g', hrun, hkept⟩ := hidgSetAlt_recv hsend h s
    exact ⟨g', hrun, t, hkept⟩

theorem Hidg.Bound.recvKept (h : g.Bound) : g.recv.Kept g.reportLength 0 where
  alone t _ := h.idle t
  stage := by
    rw [h.idle]
    trivial
  linked := by
    refine ⟨?_, ?_, ?_⟩
    · rw [h.unlisted]
      exact List.nodup_nil
    · rw [h.unlisted]
      exact fun list hmem => absurd hmem List.not_mem_nil
    · rw [h.unlisted]
      exact fun list hmem => absurd hmem List.not_mem_nil
  buffers := h.buffers
  actual := by
    rw [listed, h.unlisted]
    exact fun req hmem => absurd hmem List.not_mem_nil
  placed := by
    rw [h.idle, listed, h.unlisted, h.unqueued.1, h.unqueued.2.1, h.unqueued.2.2]
    exact List.Perm.nil
  counted ret bytes hmem := by
    rw [h.silent.1] at hmem
    cases hmem
  fifo := by
    rw [h.idle, unread, h.unlisted, h.silent.1]
    exact .nil

theorem recvKept_run (h₀ : g₀.Bound) (hrun : Run HidEvent.ApartStep g₀ es g) :
    g.send.Kept g₀.reportLength ∧ g.reportLength = g₀.reportLength ∧
      ∃ t, g.recv.Kept g₀.reportLength t := by
  apply hrun.invariant (I := fun _ g => g.send.Kept g₀.reportLength ∧
    g.reportLength = g₀.reportLength ∧ ∃ t, g.recv.Kept g₀.reportLength t)
    ⟨h₀.sendKept, rfl, 0, h₀.recvKept⟩
  intro _ e g g' hg hstep
  obtain ⟨hsend, hlength, t, hrecv⟩ := hg
  obtain ⟨hmove, hlength'⟩ := hstep.1.send
  rw [hlength] at hmove
  obtain ⟨g₁, hok, hkept⟩ := HidEvent.recvKept hsend hrecv hlength hstep.1.1 hstep.2
  rw [hstep.1.2] at hok
  cases hok
  exact ⟨hmove.kept hsend, hlength'.trans hlength, hkept⟩

/-- Where reads keep apart, the bytes that they copy are those of the reports that arrived, in order
and each once, however the calls, the controller and the composite device take turns; a count that
is returned is the number of bytes copied, and nothing that can happen next faults. -/
theorem hid_reads (h₀ : g₀.Bound) (hrun : Run HidEvent.ApartStep g₀ es g) :
    ((∀ t, g.recv.readers t = .idle) →
      Fifo (g.recv.log.filterMap RecvHappening.event) g.recv.unread) ∧
    (∀ ret bytes, .read ret bytes ∈ g.recv.log → 0 ≤ ret → ret = bytes.length) ∧
    ∀ e : HidEvent, e.Valid g → e.Apart g → ∃ g', e.run g = .ok g' := by
  obtain ⟨hsend, hlength, t, hrecv⟩ := recvKept_run h₀ hrun
  refine ⟨?_, hrecv.counted, ?_⟩
  · intro hidle
    have hfifo := hrecv.fifo
    rw [hidle t] at hfifo
    exact hfifo
  · intro e hvalid hapart
    obtain ⟨g', hok, -⟩ := HidEvent.recvKept hsend hrecv hlength hvalid hapart
    exact ⟨g', hok⟩

theorem hid_reads_session :
    ((∀ t, (HidEvent.reached hidSession boundHidg).recv.readers t = .idle) →
      Fifo ((HidEvent.reached hidSession boundHidg).recv.log.filterMap RecvHappening.event)
        (HidEvent.reached hidSession boundHidg).recv.unread) ∧
    (∀ ret bytes, .read ret bytes ∈ (HidEvent.reached hidSession boundHidg).recv.log → 0 ≤ ret →
      ret = bytes.length) ∧
    ∀ e : HidEvent, e.Valid (HidEvent.reached hidSession boundHidg) →
      e.Apart (HidEvent.reached hidSession boundHidg) →
        ∃ g', e.run (HidEvent.reached hidSession boundHidg) = .ok g' :=
  hid_reads boundHidg_bound hidSession_run

/-- Two reads that overlap: the second one goes on with an entry that the first one has freed. -/
example :
    let reads : List HidEvent := [.read 7 100 true .nonblock, .read 8 100 true .nonblock, .copy 7 0,
      .copy 8 0, .advance 7, .advance 8]
    (hidSession.take 2 ++ reads).foldlM (fun g e => e.run g) boundHidg = .error .useAfterFree := rfl

/-- Nothing fails that a request depends on, and the gadget is not disabled. -/
def HidEvent.Lossless : HidEvent → Prop
  | .requeue _ queued => 0 ≤ queued
  | .outDone _ _ kzalloc => kzalloc = true
  | .disable _ => False
  | .setAlt s => (∀ i, s.round i = some 0) ∧ ∀ req, s.kzalloc req = true
  | _ => True

theorem disableOut_leaked (g : HidgRecv) {kzalloc : Nat → Bool} (hall : ∀ req, kzalloc req = true) :
    (g.disableOut kzalloc).leaked = g.leaked := by
  rw [HidgRecv.disableOut]
  generalize g.outQueue = queue
  induction queue generalizing g with
  | nil => rfl
  | cons req queue ih =>
    have hdone : (g.outDone req [] (kzalloc req)).leaked = g.leaked := by
      rw [hall req]
      rfl
    exact (ih _).trans hdone

theorem queueRequests_leaked {round : Nat → Option Int} (hround : ∀ i, round i = some 0)
    (kzalloc : Nat → Bool) (n i : Nat) (g : HidgRecv) :
    (HidgRecv.queueRequests round kzalloc n i g).1.leaked = g.leaked := by
  induction n generalizing i g with
  | zero => rfl
  | succ n ih =>
    rw [HidgRecv.queueRequests, hround i]
    dsimp only
    rw [if_pos rfl]
    exact ih _ _

theorem setAltOut_leaked {s : SetAlt} (hround : ∀ i, s.round i = some 0)
    (hall : ∀ req, s.kzalloc req = true) (g : Hidg) :
    (g.setAltOut s).recv.leaked = g.recv.leaked := by
  rw [Hidg.setAltOut]
  dsimp only
  by_cases hon : (s.outConfigured && s.outEnabled) = true
  · rw [if_pos hon]
    apply (queueRequests_leaked hround _ _ _ _).trans
    by_cases howned : g.outOwner ≠ .nobody
    · rw [if_pos howned]
      exact disableOut_leaked g.recv hall
    · rw [if_neg howned]
  · rw [if_neg hon]
    by_cases howned : g.outOwner ≠ .nobody
    · rw [if_pos howned]
      exact disableOut_leaked g.recv hall
    · rw [if_neg howned]

theorem HidEvent.Step.leaked {e : HidEvent} (h : e.Step g g') (hlossless : e.Lossless) :
    g'.recv.leaked = g.recv.leaked := by
  obtain ⟨-, hrun⟩ := h
  cases e with
  | read t count accessOk wait =>
    rw [HidEvent.run, fHidgReadPick] at hrun
    by_cases hcount : count = 0
    · rw [if_pos hcount] at hrun
      cases hrun
      rfl
    · rw [if_neg hcount] at hrun
      cases accessOk with
      | false =>
        cases hrun
        rfl
      | true =>
        simp only [Bool.not_true, Bool.false_eq_true, if_false] at hrun
        cases hlist : g.recv.completedOutReq with
        | nil =>
          rw [hlist] at hrun
          cases hrun
          rfl
        | cons list later =>
          simp only [hlist] at hrun
          cases hl : g.recv.lists list with
          | none =>
            rw [hl] at hrun
            cases hrun
          | some l =>
            rw [hl] at hrun
            cases hrun
            rfl
  | copy t uncopied =>
    rw [HidEvent.run] at hrun
    cases hstage : g.recv.readers t with
    | picked list req count =>
      simp only [hstage, fHidgReadCopy] at hrun
      cases hl : g.recv.lists list with
      | none =>
        rw [hl] at hrun
        cases hrun
      | some l =>
        simp only [hl] at hrun
        by_cases hin : l.pos.toNat + count ≤ (g.recv.requests req).buf.length
        · rw [if_pos hin] at hrun
          cases hrun
          rfl
        · rw [if_neg hin] at hrun
          cases hrun
    | _ =>
      rw [hstage] at hrun
      cases hrun
      rfl
  | advance t =>
    rw [HidEvent.run] at hrun
    cases hstage : g.recv.readers t with
    | copied list req bytes =>
      simp only [hstage, fHidgReadAdvance] at hrun
      cases hl : g.recv.lists list with
      | none =>
        rw [hl] at hrun
        cases hrun
      | some l =>
        simp only [hl] at hrun
        by_cases hend : l.pos + UInt32.ofNat bytes.length = (g.recv.requests req).actual
        · rw [if_pos hend] at hrun
          cases hrun
          rfl
        · rw [if_neg hend] at hrun
          cases hrun
          rfl
    | _ =>
      rw [hstage] at hrun
      cases hrun
      rfl
  | requeue t queued =>
    rw [HidEvent.run] at hrun
    cases hstage : g.recv.readers t with
    | removed req bytes =>
      simp only [hstage, fHidgReadRequeue] at hrun
      rw [if_neg (Int.not_lt.2 hlossless)] at hrun
      cases hrun
      rfl
    | _ =>
      rw [hstage] at hrun
      cases hrun
      rfl
  | write data accessOk wait uncopied queued =>
    cases hrun
    rfl
  | outDone req data kzalloc =>
    rw [HidEvent.run, show kzalloc = true from hlossless] at hrun
    cases hrun
    rfl
  | inDone =>
    rw [HidEvent.run] at hrun
    cases hdone : g.send.inDone with
    | error e =>
      rw [hdone] at hrun
      cases hrun
    | ok send =>
      rw [hdone] at hrun
      cases hrun
      rfl
  | disable kzalloc => exact hlossless.elim
  | setAlt s =>
    rw [HidEvent.run, Hidg.hidgSetAlt] at hrun
    have hon {send : HidgSend}
        (h : (if (s.inConfigured && s.inEnabled) = true then
          (pure ({ g with send := { send with inEnabled := true, inOwner := .hidg } }.setAltOut s) :
            Except HidFault Hidg)
          else pure { g with send := send }) = .ok g') : g'.recv.leaked = g.recv.leaked := by
      by_cases hon : (s.inConfigured && s.inEnabled) = true
      · rw [if_pos hon] at h
        cases h
        exact setAltOut_leaked hlossless.1 hlossless.2 _
      · rw [if_neg hon] at h
        cases h
        rfl
    by_cases howned : g.send.inOwner ≠ .nobody
    · rw [if_pos howned] at hrun
      cases hoff : g.send.disableIn with
      | error e =>
        rw [hoff] at hrun
        cases hrun
      | ok send =>
        rw [hoff] at hrun
        exact hon hrun
    · rw [if_neg howned] at hrun
      exact hon hrun

/-- Where reads keep apart, every request that was made is in one place: with the controller, in the
list or lost, so that none is filled while it is read. None is lost unless memory or a queue fails
or the gadget is disabled; then a report can come as long as there is none to read. -/
theorem hid_requests (h₀ : g₀.Bound) (hrun : Run HidEvent.ApartStep g₀ es g)
    (hidle : ∀ t, g.recv.readers t = .idle) :
    (g.recv.outQueue ++ g.recv.listed ++ g.recv.leaked).Perm (List.range g.recv.allocated) ∧
      ((∀ e ∈ es, e.Lossless) → g.recv.leaked = [] ∧
        (0 < g.recv.allocated → g.recv.outQueue ≠ [] ∨ g.recv.completedOutReq ≠ [])) := by
  obtain ⟨-, -, t, hrecv⟩ := recvKept_run h₀ hrun
  have hplaced := hrecv.placed
  rw [hidle t] at hplaced
  change (g.recv.outQueue ++ g.recv.listed ++ [] ++ g.recv.leaked).Perm _ at hplaced
  rw [List.append_nil] at hplaced
  refine ⟨hplaced, fun hes => ?_⟩
  have hleaked : g.recv.leaked = [] := by
    have hkept := hrun.invariant
      (I := fun es g => (∀ e ∈ es, e.Lossless) → g.recv.leaked = [])
      (fun _ => h₀.unqueued.2.2) (fun es e g g' ih hstep hall => by
        rw [hstep.1.leaked (hall e List.mem_concat_self)]
        exact ih fun e' he' => hall e' (List.mem_append_left _ he'))
    exact hkept hes
  refine ⟨hleaked, fun hpos => ?_⟩
  by_contra hstuck
  rw [not_or, not_not, not_not] at hstuck
  have hnone : g.recv.outQueue ++ g.recv.listed ++ g.recv.leaked = [] := by
    rw [listed, hstuck.1, hstuck.2, hleaked]
    rfl
  rw [hnone] at hplaced
  have hlength := hplaced.length_eq
  rw [List.length_nil, List.length_range] at hlength
  omega

theorem hid_requests_session :
    ((HidEvent.reached hidSession boundHidg).recv.outQueue ++
      (HidEvent.reached hidSession boundHidg).recv.listed ++
      (HidEvent.reached hidSession boundHidg).recv.leaked).Perm
        (List.range (HidEvent.reached hidSession boundHidg).recv.allocated) ∧
      ((∀ e ∈ hidSession, e.Lossless) →
        (HidEvent.reached hidSession boundHidg).recv.leaked = [] ∧
          (0 < (HidEvent.reached hidSession boundHidg).recv.allocated →
            (HidEvent.reached hidSession boundHidg).recv.outQueue ≠ [] ∨
              (HidEvent.reached hidSession boundHidg).recv.completedOutReq ≠ [])) := by
  apply hid_requests boundHidg_bound hidSession_run
  intro t
  change Function.update (Function.update (Function.update (fun _ => ReadStage.idle) 7 _) 7 _) 7
    .idle t = .idle
  by_cases ht : t = 7
  · rw [ht, Function.update_self]
  · rw [Function.update_of_ne ht, Function.update_of_ne ht, Function.update_of_ne ht]

end

end InputServer
