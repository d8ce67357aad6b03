import MindPalace.ChampSim.PrefetcherVaAmpmLite
import MindPalace.Lib.DoWhile

/-! # The signature path prefetcher of `prefetcher/spp_dev`

The signature table, pattern table, prefetch filter and global register, and
`prefetcher_cache_operate`, whose lookahead is `DoWhile.run` with `MSHR_SIZE + 1` rounds of fuel:
a round that goes on queues an entry, so running out of fuel means writing past the queues. The
counters are natural numbers and the addresses keep their 64-bit arithmetic; a failed assertion is
a `none`.
-/

namespace MindPalace.ChampSim

namespace Spp

/-- `ST_SET`: the signature table has one set, so `get_hash(page) % ST_SET` is `0`. -/
def ST_SET : Nat := 1
def ST_WAY : Nat := 256
def ST_TAG_MASK : UInt64 := 0xFFFF
def SIG_SHIFT : Nat := 3
def SIG_MASK : Nat := 0xFFF
def SIG_DELTA_BIT : Nat := 7
def PT_SET : Nat := 512
def PT_WAY : Nat := 4
def C_SIG_MAX : Nat := 15
def REMAINDER_BIT : Nat := 6
def FILTER_SET : Nat := 1024
def FILL_THRESHOLD : Nat := 90
def PF_THRESHOLD : Nat := 25
def GLOBAL_COUNTER_MAX : Nat := 1023
def MAX_GHR_ENTRY : Nat := 8

/-- `get_hash`: Robert Jenkins' 32-bit mix, then Knuth's multiplicative method, on 64 bits. -/
def getHash (key : UInt64) : UInt64 :=
  let key := key + (key <<< 12)
  let key := key ^^^ (key >>> 22)
  let key := key + (key <<< 4)
  let key := key ^^^ (key >>> 9)
  let key := key + (key <<< 10)
  let key := key ^^^ (key >>> 2)
  let key := key + (key <<< 7)
  let key := key ^^^ (key >>> 12)
  (key >>> 3) * 2654435761

/-- The sign-magnitude form of a delta that goes into a signature: a negative delta sets bit
`SIG_DELTA_BIT - 1`. -/
def sigDelta (delta : Int) : Nat :=
  if delta < 0 then (-delta).toNat + 2 ^ (SIG_DELTA_BIT - 1) else delta.toNat

/-- `((sig << SIG_SHIFT) ^ sig_delta) & SIG_MASK`, the signature after one more delta, as the
signature table, the global register's bootstrap and the lookahead all compute it. -/
def nextSig (sig : Nat) (delta : Int) : Nat :=
  ((sig <<< SIG_SHIFT) ^^^ sigDelta delta) &&& SIG_MASK

/-! ### The global register -/

structure GhrEntry where
  valid : Bool := false
  sig : Nat := 0
  confidence : Nat := 0
  offset : Nat := 0
  delta : Int := 0

structure GlobalRegister where
  pfUseful : Nat := 0
  pfIssued : Nat := 0
  globalAccuracy : Nat := 0
  entries : Fin MAX_GHR_ENTRY → GhrEntry := fun _ => {}

namespace GlobalRegister

/-- `GLOBAL_REGISTER::check_entry`: the most confident entry at the page offset, or
`MAX_GHR_ENTRY` if none is above `0`. -/
def checkEntry (g : GlobalRegister) (pageOffset : Nat) : Nat :=
  ((List.finRange MAX_GHR_ENTRY).foldl (fun (acc : Nat × Nat) i =>
    if (g.entries i).offset = pageOffset ∧ acc.1 < (g.entries i).confidence then
      ((g.entries i).confidence, i.val)
    else acc) (0, MAX_GHR_ENTRY)).2

/-- The replacement scan of `update_entry`: the first entry of least confidence below `100`,
or `MAX_GHR_ENTRY` if every confidence is `100` or more. -/
def victimWay (g : GlobalRegister) : Nat :=
  ((List.finRange MAX_GHR_ENTRY).foldl (fun (acc : Nat × Nat) i =>
    if (g.entries i).confidence < acc.1 then ((g.entries i).confidence, i.val) else acc)
    (100, MAX_GHR_ENTRY)).2

/-- `GLOBAL_REGISTER::update_entry`: refresh the valid entry at the same offset, or replace
the victim; `none` is the assertion that no victim was found. -/
def updateEntry (g : GlobalRegister) (pfSig pfConfidence pfOffset : Nat) (pfDelta : Int) :
    Option GlobalRegister :=
  match (List.finRange MAX_GHR_ENTRY).find? (fun i =>
      (g.entries i).valid && (g.entries i).offset == pfOffset) with
  | some i =>
    some { g with entries := (Function.update g.entries i
      { g.entries i with sig := pfSig, confidence := pfConfidence, delta := pfDelta }) }
  | none =>
    if h : g.victimWay < MAX_GHR_ENTRY then
      some { g with entries := (Function.update g.entries ⟨g.victimWay, h⟩
        { valid := true, sig := pfSig, confidence := pfConfidence, offset := pfOffset,
          delta := pfDelta }) }
    else none

/-- The counting of an L2 prefetch: `pf_issued++`, and both counters halved once `pf_issued`
passes `GLOBAL_COUNTER_MAX`. -/
def countIssue (g : GlobalRegister) : GlobalRegister :=
  if GLOBAL_COUNTER_MAX < g.pfIssued + 1 then
    { g with pfIssued := (g.pfIssued + 1) / 2, pfUseful := g.pfUseful / 2 }
  else { g with pfIssued := g.pfIssued + 1 }

/-- `global_accuracy` as `prefetcher_cache_operate` computes it on entry. -/
def accuracy (g : GlobalRegister) : Nat :=
  if g.pfIssued ≠ 0 then 100 * g.pfUseful / g.pfIssued else 0

@[simp] theorem entries_countIssue (g : GlobalRegister) : g.countIssue.entries = g.entries := by
  unfold countIssue; split <;> rfl

@[simp] theorem globalAccuracy_countIssue (g : GlobalRegister) :
    g.countIssue.globalAccuracy = g.globalAccuracy := by
  unfold countIssue; split <;> rfl

theorem counters_updateEntry {g g' : GlobalRegister} {pfSig pfConfidence pfOffset : Nat}
    {pfDelta : Int} (h : g.updateEntry pfSig pfConfidence pfOffset pfDelta = some g') :
    g'.pfUseful = g.pfUseful ∧ g'.pfIssued = g.pfIssued ∧ g'.globalAccuracy = g.globalAccuracy := by
  unfold updateEntry at h
  split at h
  · cases h; exact ⟨rfl, rfl, rfl⟩
  · split at h
    · cases h; exact ⟨rfl, rfl, rfl⟩
    · cases h

end GlobalRegister

/-! ### The signature table -/

structure StEntry where
  valid : Bool := false
  tag : Nat := 0
  lastOffset : Nat := 0
  sig : Nat := 0
  lru : Nat

namespace SignatureTable

/-- The LRU update of `read_and_update_sig`: every way younger than the touched one ages by
one, with the sanity check that no age reaches `ST_WAY`, and the touched way becomes the
youngest. The touched way's age does not change inside the loop, so its rounds are
independent. -/
def updateLru (st : Fin ST_WAY → StEntry) (m : Fin ST_WAY) : Option (Fin ST_WAY → StEntry) :=
  if (List.finRange ST_WAY).any (fun w => decide ((st w).lru < (st m).lru) &&
      decide (ST_WAY ≤ (st w).lru + 1)) then none
  else
    let st := fun w => if (st w).lru < (st m).lru then { st w with lru := (st w).lru + 1 } else st w
    some (Function.update st m { st m with lru := 0 })

/-- The three cases of `read_and_update_sig` before the global register and the LRU update:
the way used, the table, `last_sig`, `curr_sig`, `delta`, and whether the page hit. -/
def lookup (st : Fin ST_WAY → StEntry) (partialPage pageOffset : Nat) :
    Option (Fin ST_WAY × (Fin ST_WAY → StEntry) × Nat × Nat × Int × Bool) :=
  match (List.finRange ST_WAY).find? (fun w => (st w).valid && (st w).tag == partialPage) with
  | some m =>
    -- Case 1, a hit: a new offset extends the signature, the same offset leaves it
    let delta : Int := (pageOffset : Int) - (st m).lastOffset
    if delta ≠ 0 then
      let sig := nextSig (st m).sig delta
      some (m, Function.update st m { st m with sig := sig, lastOffset := pageOffset },
        (st m).sig, sig, delta, true)
    else some (m, st, 0, 0, delta, true)
  | none =>
    match (List.finRange ST_WAY).find? (fun w => !(st w).valid) with
    | some m =>
      -- Case 2, an invalid way
      some (m, Function.update st m
        { st m with valid := true, tag := partialPage, sig := 0, lastOffset := pageOffset },
        0, 0, 0, false)
    | none =>
      -- Case 3, the least recently used way
      match (List.finRange ST_WAY).find? (fun w => (st w).lru == ST_WAY - 1) with
      | some m =>
        some (m, Function.update st m
          { st m with tag := partialPage, sig := 0, lastOffset := pageOffset }, 0, 0, 0, false)
      | none => none

/-- `SIGNATURE_TABLE::read_and_update_sig` on its one set, with `last_sig`, `curr_sig` and
`delta` coming in as the `0`s that `prefetcher_cache_operate` declares them with: a page that
missed takes its signature from the global register when that holds a prefetch into the same
offset. -/
def readAndUpdateSig (st : Fin ST_WAY → StEntry) (ghr : GlobalRegister) (page : UInt64)
    (pageOffset : Nat) : Option ((Fin ST_WAY → StEntry) × Nat × Nat × Int) := do
  let (m, st, lastSig, currSig, delta, hit) ← lookup st (page &&& ST_TAG_MASK).toNat pageOffset
  let (st, currSig) :=
    if !hit then
      if h : ghr.checkEntry pageOffset < MAX_GHR_ENTRY then
        let g := ghr.entries ⟨ghr.checkEntry pageOffset, h⟩
        let sig := nextSig g.sig g.delta
        (Function.update st m { st m with sig := sig }, sig)
      else (st, currSig)
    else (st, currSig)
  let st ← updateLru st m
  pure (st, lastSig, currSig, delta)

/-- The table the `SIGNATURE_TABLE` constructor builds: every way invalid, way `w` of age
`w`. -/
def init : Fin ST_WAY → StEntry := fun w => { lru := w.val }

end SignatureTable

/-! ### The pattern table -/

structure PtSet where
  delta : Fin PT_WAY → Int := fun _ => 0
  cDelta : Fin PT_WAY → Nat := fun _ => 0
  cSig : Nat := 0

namespace PatternTable

def setOf (sig : Nat) : Fin PT_SET :=
  ⟨(getHash sig.toUInt64).toNat % PT_SET, Nat.mod_lt _ (by decide)⟩

/-- Once `c_sig` passes `C_SIG_MAX`, every counter of the set is halved. -/
def halve (p : PtSet) : PtSet :=
  if C_SIG_MAX < p.cSig then { p with cDelta := fun w => p.cDelta w / 2, cSig := p.cSig / 2 }
  else p

/-- The replacement scan of `update_pattern`: the first way of least `c_delta` below
`C_SIG_MAX`, or `PT_WAY` if every counter is `C_SIG_MAX` or more. -/
def victimWay (p : PtSet) : Nat :=
  ((List.finRange PT_WAY).foldl (fun (acc : Nat × Nat) w =>
    if p.cDelta w < acc.2 then (w.val, p.cDelta w) else acc) (PT_WAY, C_SIG_MAX)).1

/-- `PATTERN_TABLE::update_pattern`: a delta the set holds counts once more, another one
replaces the least counted; `none` is the assertion that no victim was found. -/
def updatePattern (pt : Fin PT_SET → PtSet) (lastSig : Nat) (currDelta : Int) :
    Option (Fin PT_SET → PtSet) :=
  let set := setOf lastSig
  let p := pt set
  match (List.finRange PT_WAY).find? (fun w => p.delta w == currDelta) with
  | some w =>
    some (Function.update pt set
      (halve { p with cDelta := Function.update p.cDelta w (p.cDelta w + 1), cSig := p.cSig + 1 }))
  | none =>
    if h : victimWay p < PT_WAY then
      some (Function.update pt set (halve { p with
        delta := Function.update p.delta ⟨victimWay p, h⟩ currDelta,
        cDelta := Function.update p.cDelta ⟨victimWay p, h⟩ 0, cSig := p.cSig + 1 }))
    else none

end PatternTable

/-! ### The prefetch filter -/

structure FilterEntry where
  remainderTag : Nat := 0
  valid : Bool := false
  useful : Bool := false

inductive FilterRequest
  | sppL2cPrefetch
  | sppLlcPrefetch
  | l2cDemand
  | l2cEvict
  deriving DecidableEq

/-- The hash of an address's cache line, as `PREFETCH_FILTER::check` computes it. -/
def filterHash (addr : UInt64) : UInt64 :=
  getHash (addr >>> LOG2_BLOCK_SIZE.toUInt64)

def quotient (addr : UInt64) : Fin FILTER_SET :=
  ⟨((filterHash addr >>> REMAINDER_BIT.toUInt64) &&& 1023).toNat, by
    rw [UInt64.toNat_and]
    exact Nat.lt_of_le_of_lt Nat.and_le_right (by decide)⟩

def remainder (addr : UInt64) : Nat :=
  (filterHash addr % 64).toNat

def FilterEntry.holds (e : FilterEntry) (rem : Nat) : Bool :=
  (e.valid || e.useful) && e.remainderTag == rem

/-! ### The prefetcher -/

structure State where
  st : Fin ST_WAY → StEntry
  pt : Fin PT_SET → PtSet
  filter : Fin FILTER_SET → FilterEntry
  ghr : GlobalRegister

namespace State

def init : State where
  st := SignatureTable.init
  pt := fun _ => {}
  filter := fun _ => {}
  ghr := {}

/-- `PREFETCH_FILTER::check`: a prefetch already held is refused, an L2 prefetch takes the
slot, a demand marks the slot used and counts a useful prefetch, an eviction uncounts an
unused one and clears the slot. The answer is `false` exactly for a refused prefetch. -/
def check (s : State) (addr : UInt64) : FilterRequest → State × Bool
  | .sppL2cPrefetch =>
    if (s.filter (quotient addr)).holds (remainder addr) then (s, false)
    else ({ s with filter := (Function.update s.filter (quotient addr)
      { remainderTag := remainder addr, valid := true, useful := false }) }, true)
  | .sppLlcPrefetch =>
    -- the LLC prefetch does not take the slot, so a later L2 prefetch of the line is issued
    if (s.filter (quotient addr)).holds (remainder addr) then (s, false) else (s, true)
  | .l2cDemand =>
    let e := s.filter (quotient addr)
    if e.remainderTag == remainder addr && !e.useful then
      ({ s with
        filter := Function.update s.filter (quotient addr) { e with useful := true }
        ghr := (if e.valid then { s.ghr with pfUseful := s.ghr.pfUseful + 1 } else s.ghr) }, true)
    else (s, true)
  | .l2cEvict =>
    let e := s.filter (quotient addr)
    ({ s with
      filter := Function.update s.filter (quotient addr) ({} : FilterEntry)
      ghr := (if e.valid && !e.useful && s.ghr.pfUseful ≠ 0 then
        { s.ghr with pfUseful := s.ghr.pfUseful - 1 } else s.ghr) }, true)

@[simp] theorem st_check (s : State) (addr : UInt64) (r : FilterRequest) :
    (s.check addr r).1.st = s.st := by
  cases r <;> simp only [check] <;> (try split) <;> rfl

@[simp] theorem pt_check (s : State) (addr : UInt64) (r : FilterRequest) :
    (s.check addr r).1.pt = s.pt := by
  cases r <;> simp only [check] <;> (try split) <;> rfl

@[simp] theorem entries_check (s : State) (addr : UInt64) (r : FilterRequest) :
    (s.check addr r).1.ghr.entries = s.ghr.entries := by
  cases r <;> simp only [check] <;> (try split) <;> (try split) <;> rfl

@[simp] theorem globalAccuracy_check (s : State) (addr : UInt64) (r : FilterRequest) :
    (s.check addr r).1.ghr.globalAccuracy = s.ghr.globalAccuracy := by
  cases r <;> simp only [check] <;> (try split) <;> (try split) <;> rfl

@[simp] theorem pfIssued_check (s : State) (addr : UInt64) (r : FilterRequest) :
    (s.check addr r).1.ghr.pfIssued = s.ghr.pfIssued := by
  cases r <;> simp only [check] <;> (try split) <;> (try split) <;> rfl

end State

/-- The locals of `prefetcher_cache_operate` that the lookahead loop carries, with the
tables, which its prefetches update, and the calls of `prefetch_line` made so far. -/
structure Lookahead where
  s : State
  confidenceQ : Nat → Nat
  deltaQ : Nat → Int
  baseAddr : UInt64
  currSig : Nat
  lookaheadConf : Nat
  pfQHead : Nat
  pfQTail : Nat
  depth : Nat
  calls : List PrefetchCall

/-- The confidence of one way: `local_conf` at depth `0`, and deeper `global_accuracy`
times the way's share times the confidence of the path so far. -/
def pfConf (globalAccuracy depth lookaheadConf cDelta cSig : Nat) : Nat :=
  if depth ≠ 0 then globalAccuracy * cDelta / cSig * lookaheadConf / 100
  else 100 * cDelta / cSig

namespace Lookahead

/-- One way of `read_pattern`'s loop, with `lookahead_way` and `max_conf`: a confident way
is queued at `pf_q_tail`, and the most confident one so far is the way to follow. -/
def readWay (mshrSize : Nat) (p : PtSet) (acc : Lookahead × Nat × Nat) (w : Fin PT_WAY) :
    Option (Lookahead × Nat × Nat) :=
  let (l, lookaheadWay, maxConf) := acc
  let conf := pfConf l.s.ghr.globalAccuracy l.depth l.lookaheadConf (p.cDelta w) p.cSig
  if PF_THRESHOLD ≤ conf then
    if l.pfQTail < mshrSize then
      some ({ l with confidenceQ := Function.update l.confidenceQ l.pfQTail conf,
                     deltaQ := Function.update l.deltaQ l.pfQTail (p.delta w),
                     pfQTail := l.pfQTail + 1 },
        if maxConf < conf then (w.val, conf) else (lookaheadWay, maxConf))
    else none
  else some acc

/-- `PATTERN_TABLE::read_pattern`, with the `lookahead_way` it sets: the set of the current
signature queues its confident ways, and its best confidence becomes the path's, one level
deeper if it reaches `PF_THRESHOLD`; a set never trained writes `0` at `pf_q_tail`. -/
def readPattern (mshrSize : Nat) (l : Lookahead) : Option (Lookahead × Nat) :=
  let p := l.s.pt (PatternTable.setOf l.currSig)
  if p.cSig ≠ 0 then do
    let (l, lookaheadWay, maxConf) ← (List.finRange PT_WAY).foldlM (readWay mshrSize p)
      (l, PT_WAY, 0)
    pure ({ l with
      lookaheadConf := maxConf
      depth := if PF_THRESHOLD ≤ maxConf then l.depth + 1 else l.depth }, lookaheadWay)
  else if l.pfQTail < mshrSize then
    some ({ l with confidenceQ := Function.update l.confidenceQ l.pfQTail 0 }, PT_WAY)
  else none

def pfAddrOf (baseAddr : UInt64) (delta : Int) : UInt64 :=
  (baseAddr &&& ~~~(BLOCK_SIZE - 1).toUInt64) + UInt64.ofInt (delta * 2 ^ LOG2_BLOCK_SIZE)

def samePage (a b : UInt64) : Bool :=
  (a &&& ~~~(PAGE_SIZE - 1).toUInt64) == (b &&& ~~~(PAGE_SIZE - 1).toUInt64)

/-- One confident queue entry of the prefetch loop: in the demand's page it is checked
against the filter and, if the filter lets it, prefetched, into the L2 and counted when its
confidence reaches `FILL_THRESHOLD`; across a page it goes to the global register. -/
def issue (addr : UInt64) (l : Lookahead) (i : Nat) : Option Lookahead := do
  let conf := l.confidenceQ i
  let pfAddr := pfAddrOf l.baseAddr (l.deltaQ i)
  let l ← if samePage addr pfAddr then
      let fill := decide (FILL_THRESHOLD ≤ conf)
      let (s, ok) := l.s.check pfAddr (if fill then .sppL2cPrefetch else .sppLlcPrefetch)
      if ok then
        some { l with s := if fill then { s with ghr := s.ghr.countIssue } else s,
                      calls := l.calls ++ [⟨pfAddr, fill⟩] }
      else some { l with s := s }
    else do
      let ghr ← l.s.ghr.updateEntry l.currSig conf ((pfAddr >>> LOG2_BLOCK_SIZE.toUInt64) &&& 0x3F).toNat
        (l.deltaQ i)
      some { l with s := { l.s with ghr := ghr } }
  pure { l with pfQHead := l.pfQHead + 1 }

/-- One index of the `for` loop over `[pf_q_head, pf_q_tail)`, with `do_lookahead`. -/
def scanEntry (addr : UInt64) (acc : Lookahead × Bool) (i : Nat) : Option (Lookahead × Bool) :=
  if PF_THRESHOLD ≤ acc.1.confidenceQ i then do
    let l ← issue addr acc.1 i
    pure (l, true)
  else some acc

def advance (l : Lookahead) (lookaheadWay : Nat) : Lookahead :=
  if h : lookaheadWay < PT_WAY then
    let d := (l.s.pt (PatternTable.setOf l.currSig)).delta ⟨lookaheadWay, h⟩
    { l with baseAddr := l.baseAddr + UInt64.ofInt (d * 2 ^ LOG2_BLOCK_SIZE),
             currSig := nextSig l.currSig d }
  else l

/-- The locals as the loop starts: the queues zeroed with `confidence_q[0] = 100`, and the
path at the demand's address and signature with confidence `100` at depth `0`. -/
def start (s : State) (addr : UInt64) (currSig : Nat) : Lookahead where
  s := s
  confidenceQ := Function.update (fun _ => 0) 0 100
  deltaQ := fun _ => 0
  baseAddr := addr
  currSig := currSig
  lookaheadConf := 100
  pfQHead := 0
  pfQTail := 0
  depth := 0
  calls := []

/-- One round of the `do`-`while` loop, and `do_lookahead`. -/
def round (mshrSize : Nat) (addr : UInt64) (l : Lookahead) : Option (Lookahead × Bool) := do
  let (l, lookaheadWay) ← readPattern mshrSize l
  let (l, go) ← (List.range' l.pfQHead (l.pfQTail - l.pfQHead)).foldlM (scanEntry addr) (l, false)
  pure (advance l lookaheadWay, go)

end Lookahead

namespace State

/-- Stages 1 and 2 of `prefetcher_cache_operate`: the global accuracy is recomputed, the page's
signature read and updated, the demand checked against the filter, and the pattern table
trained with the delta that extended the last signature. With the signature the lookahead
starts from. -/
def train (s : State) (addr : UInt64) : Option (State × Nat) := do
  let page := addr >>> LOG2_PAGE_SIZE.toUInt64
  let pageOffset := ((addr >>> LOG2_BLOCK_SIZE.toUInt64) &&& (PAGE_SIZE / BLOCK_SIZE - 1).toUInt64).toNat
  let s := { s with ghr := { s.ghr with globalAccuracy := s.ghr.accuracy } }
  let (st, lastSig, currSig, delta) ← SignatureTable.readAndUpdateSig s.st s.ghr page pageOffset
  let s := (({ s with st := st } : State).check addr .l2cDemand).1
  let pt ← (if lastSig ≠ 0 then PatternTable.updatePattern s.pt lastSig delta else some s.pt)
  pure ({ s with pt := pt }, currSig)

/-- `CACHE::prefetcher_cache_operate` of `spp_dev`: training, then stage 3, the lookahead,
with the calls of `prefetch_line` it makes; `none` is a failed assertion or a write past the
queues of `mshrSize` entries. -/
def operate (mshrSize : Nat) (s : State) (addr : UInt64) : Option (State × List PrefetchCall) :=
  -- `confidence_q[0] = 100` needs a queue of one entry at least
  if mshrSize = 0 then none
  else do
    let (s, currSig) ← s.train addr
    let l ← DoWhile.run (Lookahead.round mshrSize addr) (mshrSize + 1) (Lookahead.start s addr currSig)
    pure (l.s, l.calls)

theorem operate_eq_some {mshrSize : Nat} {s s' : State} {addr : UInt64}
    {calls : List PrefetchCall} (h : s.operate mshrSize addr = some (s', calls)) :
    mshrSize ≠ 0 ∧ ∃ s₁ currSig l, s.train addr = some (s₁, currSig) ∧
      DoWhile.run (Lookahead.round mshrSize addr) (mshrSize + 1) (Lookahead.start s₁ addr currSig) =
        some l ∧ s' = l.s ∧ calls = l.calls := by
  unfold operate at h
  split at h
  · cases h
  · next hm =>
    simp only [Option.bind_eq_bind, Option.bind_eq_some_iff] at h
    obtain ⟨⟨s₁, currSig⟩, ht, l, hl, hr⟩ := h
    cases hr
    exact ⟨hm, s₁, currSig, l, ht, hl, rfl, rfl⟩

/-- `CACHE::prefetcher_cache_fill` of `spp_dev`: the evicted line leaves the filter. -/
def fill (s : State) (evictedAddr : UInt64) : State :=
  (s.check evictedAddr .l2cEvict).1

end State

inductive Op
  | operate (addr : UInt64)
  | fill (evictedAddr : UInt64)

def step (mshrSize : Nat) (s : State) : Op → Option (State × List PrefetchCall)
  | .operate addr => s.operate mshrSize addr
  | .fill evictedAddr => some (s.fill evictedAddr, [])

/-- A sequence of calls, with every `prefetch_line` call they make. -/
def run (mshrSize : Nat) : State → List Op → Option (State × List PrefetchCall)
  | s, [] => some (s, [])
  | s, op :: ops => do
    let (s', c) ← step mshrSize s op
    let (s'', c') ← run mshrSize s' ops
    pure (s'', c ++ c')

end Spp

end MindPalace.ChampSim
