import MindPalace.ChampSim.Cache
import MindPalace.ChampSim.LruUtil

/-! # The page table walker

`PageTableWalker` (`src/ptw.cc`) walks the page table of `vmem` from `CR3_addr` or from the last
hitting paging-structure cache, filling the PSCL of each level on the way. `handle_fill` tests
`PSCL2.level` for `PSCL3` too, so `PSCL5`, `PSCL4` and `PSCL2` hold the PTEs of their levels
while `PSCL3` takes those of level `1`.
-/

namespace MindPalace.ChampSim

/-- `ord_event_cycle<PACKET>`: an invalid right-hand side is above everything, and a valid
left-hand side is below a later `event_cycle`. -/
def ordEventCycle (lhs rhs : PACKET) : Bool :=
  !rhs.isValid || (lhs.isValid && decide (lhs.eventCycle < rhs.eventCycle))

/-- A `block_t` of a `PagingStructureCache`, with its default member initialisers; `address`
and `data` have none, and start at `0` here. -/
structure PsclBlock where
  valid : Bool := false
  address : Nat := 0
  data : Nat := 0
  lru : UInt32 := 0x7FFFFFFF
  deriving DecidableEq, Repr

instance : LruEntry PsclBlock where
  valid b := b.valid
  lru b := b.lru
  setLru b v := { b with lru := v }
  valid_setLru _ _ := rfl
  lru_setLru _ _ := rfl

/-- `eq_addr<block_t>(val, shamt)`: a valid block filled for the same prefix. -/
def PsclBlock.eqAddr (val shamt : Nat) (b : PsclBlock) : Bool :=
  b.valid && b.address >>> shamt == val >>> shamt

@[simp] theorem PsclBlock.valid_lruUpdater (val : UInt32) (b : PsclBlock) :
    (LruEntry.lruUpdater val b).valid = b.valid :=
  LruEntry.valid_lruUpdater val b

@[simp] theorem PsclBlock.address_lruUpdater (val : UInt32) (b : PsclBlock) :
    (LruEntry.lruUpdater val b).address = b.address := by
  unfold LruEntry.lruUpdater
  split <;> rfl

@[simp] theorem PsclBlock.data_lruUpdater (val : UInt32) (b : PsclBlock) :
    (LruEntry.lruUpdater val b).data = b.data := by
  unfold LruEntry.lruUpdater
  split <;> rfl

/-- A `PagingStructureCache`: its `level`, its geometry, and its blocks by set, the blocks
`block[set * NUM_WAY]` to `block[set * NUM_WAY + NUM_WAY - 1]`. -/
structure PagingStructureCache where
  level : Nat
  NUM_SET : Nat
  NUM_WAY : Nat
  sets : Nat → List PsclBlock

namespace PagingStructureCache

/-- The constructor: `NUM_SET * NUM_WAY` default blocks. -/
def new (level numSet numWay : Nat) : PagingStructureCache where
  level := level
  NUM_SET := numSet
  NUM_WAY := numWay
  sets _ := List.replicate numWay {}

def setIdx (pscl : PagingStructureCache) (vm : VirtualMemory) (vaddr : Nat) : Nat :=
  (vaddr >>> vm.shamt (pscl.level + 1)) &&& bitmask (lg2 pscl.NUM_SET)

/-- `fill_cache(next_level_paddr, vaddr)`: the block that `std::max_element` finds with
`lru_comparator` takes the address and keeps its `lru`, and `lru_updater` runs from it over the
set. On a cache without ways `getD` stands for the dereference of an empty range. -/
def fillCache (pscl : PagingStructureCache) (vm : VirtualMemory) (nextLevelPaddr vaddr : Nat) :
    PagingStructureCache :=
  let set := pscl.setIdx vm vaddr
  let ways := pscl.sets set
  let way := StdAlgorithm.maxElement LruEntry.lruComparator ways
  let val := (ways.getD way {}).lru
  let ways := ways.modify way fun b =>
    { valid := true, address := vaddr, data := nextLevelPaddr, lru := b.lru }
  { pscl with sets := Function.update pscl.sets set (ways.map (LruEntry.lruUpdater val)) }

/-- `check_hit(address)`: the offset of `address` at `level`, spliced into the page of the
first block of the set filled for the same prefix above `shamt(level + 1)`. -/
def checkHit (pscl : PagingStructureCache) (vm : VirtualMemory) (address : Nat) : Option Nat :=
  ((pscl.sets (pscl.setIdx vm address)).find? (PsclBlock.eqAddr address (vm.shamt (pscl.level + 1)))).map
    fun b => spliceBits b.data (vm.getOffset address pscl.level * PTE_BYTES) LOG2_PAGE_SIZE

def fillIf (pscl : PagingStructureCache) (vm : VirtualMemory) (test : Bool)
    (nextLevelPaddr vaddr : Nat) : PagingStructureCache :=
  if test then pscl.fillCache vm nextLevelPaddr vaddr else pscl

@[simp] theorem level_fillCache (pscl : PagingStructureCache) (vm : VirtualMemory)
    (nextLevelPaddr vaddr : Nat) : (pscl.fillCache vm nextLevelPaddr vaddr).level = pscl.level :=
  rfl

@[simp] theorem level_fillIf (pscl : PagingStructureCache) (vm : VirtualMemory) (test : Bool)
    (nextLevelPaddr vaddr : Nat) : (pscl.fillIf vm test nextLevelPaddr vaddr).level = pscl.level := by
  unfold fillIf
  split <;> rfl

/-! ### What the blocks hold -/

/-- Every valid block holds the PTE at `ptLevel` of the address it was filled for, as `vm`
maps it. -/
def HoldsPtes (vm : VirtualMemory) (cpu ptLevel : Nat) (pscl : PagingStructureCache) : Prop :=
  ∀ set, ∀ b ∈ pscl.sets set, b.valid = true → vm.mappedPte cpu b.address ptLevel = some b.data

theorem holdsPtes_new (vm : VirtualMemory) (cpu ptLevel level numSet numWay : Nat) :
    (new level numSet numWay).HoldsPtes vm cpu ptLevel := by
  intro set b hb hv
  rw [new, List.mem_replicate] at hb
  rw [hb.2] at hv
  cases hv

variable {vm vm' : VirtualMemory} {cpu ptLevel : Nat} {pscl : PagingStructureCache}

theorem HoldsPtes.of_extends (h : pscl.HoldsPtes vm cpu ptLevel) (hext : vm.Extends vm') :
    pscl.HoldsPtes vm' cpu ptLevel :=
  fun set b hb hv => hext.mappedPte (h set b hb hv)

theorem HoldsPtes.fillCache (h : pscl.HoldsPtes vm cpu ptLevel) (vm₀ : VirtualMemory)
    {nextLevelPaddr vaddr : Nat} (hpte : vm.mappedPte cpu vaddr ptLevel = some nextLevelPaddr) :
    (pscl.fillCache vm₀ nextLevelPaddr vaddr).HoldsPtes vm cpu ptLevel := by
  intro set b hb hv
  unfold PagingStructureCache.fillCache at hb
  dsimp only at hb
  by_cases hset : set = pscl.setIdx vm₀ vaddr
  · -- the filled set: `lru_updater` keeps what the modified blocks hold
    subst hset
    rw [Function.update_self] at hb
    obtain ⟨b₀, hb₀, rfl⟩ := List.mem_map.mp hb
    rw [PsclBlock.valid_lruUpdater] at hv
    rw [PsclBlock.address_lruUpdater, PsclBlock.data_lruUpdater]
    refine StdAlgorithm.forall_mem_modify (p := fun b : PsclBlock =>
      b.valid = true → vm.mappedPte cpu b.address ptLevel = some b.data) ?_ ?_ _ b₀ hb₀ hv
    · exact fun x hx => h _ x hx
    · exact fun _ _ _ => hpte
  · rw [Function.update_of_ne hset] at hb
    exact h set b hb hv

theorem HoldsPtes.fillIf (h : pscl.HoldsPtes vm cpu ptLevel) (vm₀ : VirtualMemory) (test : Bool)
    {nextLevelPaddr vaddr : Nat} (hpte : test = true → vm.mappedPte cpu vaddr ptLevel = some nextLevelPaddr) :
    (pscl.fillIf vm₀ test nextLevelPaddr vaddr).HoldsPtes vm cpu ptLevel := by
  unfold PagingStructureCache.fillIf
  split
  · next htest => exact h.fillCache vm₀ (hpte htest)
  · exact h

theorem checkHit_spec {address a : Nat} (h : pscl.HoldsPtes vm cpu ptLevel)
    (hhit : pscl.checkHit vm address = some a) :
    ∃ vaddr data, vaddr >>> vm.shamt (pscl.level + 1) = address >>> vm.shamt (pscl.level + 1) ∧
      vm.mappedPte cpu vaddr ptLevel = some data ∧
      a = spliceBits data (vm.getOffset address pscl.level * PTE_BYTES) LOG2_PAGE_SIZE := by
  obtain ⟨b, hfind, rfl⟩ := Option.map_eq_some_iff.mp hhit
  have hmatch := List.find?_some hfind
  simp only [PsclBlock.eqAddr, Bool.and_eq_true, beq_iff_eq] at hmatch
  exact ⟨b.address, b.data, hmatch.2, h _ b (List.mem_of_find?_eq_some hfind) hmatch.1, rfl⟩

theorem mappedPte_of_checkHit {address a : Nat} (h : pscl.HoldsPtes vm cpu pscl.level)
    (hps : vm.pageSize = PAGE_SIZE) (hhit : pscl.checkHit vm address = some a) :
    vm.mappedPte cpu address pscl.level = some a := by
  obtain ⟨vaddr, data, hsame, hdata, rfl⟩ := checkHit_spec h hhit
  -- the block's address and `address` share the key of their page-table page
  obtain ⟨ppage, hl, rfl⟩ := Option.map_eq_some_iff.mp hdata
  rw [hsame] at hl
  have hlog : lg2 vm.pageSize = LOG2_PAGE_SIZE := by rw [hps]; decide +kernel
  rw [VirtualMemory.mappedPte, hl, hlog, Option.map_some, spliceBits_spliceBits]

end PagingStructureCache

/-- The constants of a `PageTableWalker` that the modelled functions read, with the two
constants of `vmem` it reads. -/
structure PtwConfig where
  /-- The walker as a requester, `this`. -/
  self : Nat
  cpu : Nat
  MSHR_SIZE : Nat
  MAX_READ : Nat
  MAX_FILL : Nat
  /-- `vmem.pt_levels`. -/
  ptLevels : Nat
  /-- `vmem.minor_fault_penalty`. -/
  minorFaultPenalty : Nat

/-- The state of a `PageTableWalker`, with the cycle, the warmup flags, the global `vmem`,
the lower level and the returns made to requesters. -/
structure PageTableWalker where
  RQ : DelayQueue PACKET
  MSHR : List PACKET
  PSCL5 : PagingStructureCache
  PSCL4 : PagingStructureCache
  PSCL3 : PagingStructureCache
  PSCL2 : PagingStructureCache
  CR3_addr : Nat
  currentCycle : Nat
  warmupComplete : Nat → Bool
  vmem : VirtualMemory
  lower : LowerLevel
  returned : List (Nat × PACKET)

inductive Pscl
  | PSCL5
  | PSCL4
  | PSCL3
  | PSCL2
  deriving DecidableEq, Repr

namespace Pscl

def level : Pscl → Nat
  | PSCL5 => 4
  | PSCL4 => 3
  | PSCL3 => 2
  | PSCL2 => 1

/-- The `translation_level` at which `handle_fill` fills each cache: its own level, but `1`
for `PSCL3`, which is filled on the test of `PSCL2.level`. -/
def filledAt : Pscl → Nat
  | PSCL5 => 4
  | PSCL4 => 3
  | PSCL3 => 1
  | PSCL2 => 1

end Pscl

namespace PageTableWalker

variable (cfg : PtwConfig)

def pscl (w : PageTableWalker) : Pscl → PagingStructureCache
  | .PSCL5 => w.PSCL5
  | .PSCL4 => w.PSCL4
  | .PSCL3 => w.PSCL3
  | .PSCL2 => w.PSCL2

/-- The constructor, with the cache sizes `v2` to `v10` and the read queue's latency:
`CR3_addr` is the PTE that `get_pte_pa` gives address `0` at level `pt_levels`. -/
def new (vmem : VirtualMemory) (lower : LowerLevel) (v2 v3 v4 v5 v6 v7 v8 v9 v10 latency : Nat) :
    Option PageTableWalker :=
  (vmem.getPtePa cfg.cpu 0 cfg.ptLevels).map fun r =>
    { RQ := .new v10 latency
      MSHR := []
      PSCL5 := .new 4 v2 v3
      PSCL4 := .new 3 v4 v5
      PSCL3 := .new 2 v6 v7
      PSCL2 := .new 1 v8 v9
      CR3_addr := r.1.1
      currentCycle := 0
      warmupComplete := fun _ => false
      vmem := r.2
      lower := lower
      returned := [] }

def returnTo (w : PageTableWalker) (rets : List Nat) (packet : PACKET) : PageTableWalker :=
  { w with returned := w.returned ++ rets.map (·, packet) }

/-- `add_rq(packet)` from the STLB: `none` is a failed assertion, on a null address or on a
second request for a page already queued. -/
def addRq (w : PageTableWalker) (packet : PACKET) : Option (PageTableWalker × Int) :=
  if packet.address = 0 then none
  else match w.RQ.findIf (PACKET.eqAddr packet.address LOG2_PAGE_SIZE) with
  | some _ => none
  | none =>
    if w.RQ.full then some (w, -2)
    else (w.RQ.pushBack packet).map fun RQ => ({ w with RQ }, RQ.occupancy)

/-- `return_data(packet)`: the MSHR entries of the block are due now, and the MSHR is sorted
by `event_cycle`. -/
def returnData (w : PageTableWalker) (packet : PACKET) : PageTableWalker :=
  { w with
    MSHR := StdAlgorithm.listSort ordEventCycle (w.MSHR.map fun e =>
      if PACKET.eqAddr packet.address LOG2_BLOCK_SIZE e then { e with eventCycle := w.currentCycle }
      else e) }

/-- The start of a walk in `handle_read`: the PTE at the top level on the page of `CR3_addr`,
or the hit of the last cache in the order `PSCL5`, `PSCL4`, `PSCL3`, `PSCL2` that hits, one
level below that cache's own. -/
def walkStart (w : PageTableWalker) (vaddr : Nat) : Nat × Nat :=
  [w.PSCL5, w.PSCL4, w.PSCL3, w.PSCL2].foldl
    (fun start pscl => match pscl.checkHit w.vmem vaddr with
      | some checkAddr => (checkAddr, pscl.level - 1)
      | none => start)
    (spliceBits w.CR3_addr (w.vmem.getOffset vaddr (cfg.ptLevels - 1) * PTE_BYTES) LOG2_PAGE_SIZE,
      cfg.ptLevels - 1)

/-- The iterations of `handle_read`'s loop: start a walk for the front of the read queue and
send its first read, until the bandwidth, the ready packets or the MSHR run out, or the lower
level refuses the read. -/
def handleReadLoop : Nat → PageTableWalker → Option PageTableWalker
  | 0, w => some w
  | fuel + 1, w =>
    if !w.RQ.hasReady || w.MSHR.length == cfg.MSHR_SIZE then some w
    else
      let handlePkt := w.RQ.front
      let start := w.walkStart cfg handlePkt.address
      let packet := { handlePkt with
        fillLevel := w.lower.fillLevel
        address := start.1
        vAddress := handlePkt.address
        cpu := cfg.cpu
        type := TRANSLATION
        translationLevel := start.2
        toReturn := [cfg.self] }
      let added := w.lower.addRq packet
      if added.2 = -2 then some w
      else
        (w.RQ.popFront).bind fun RQ =>
          handleReadLoop fuel
            { w with
              lower := added.1
              RQ := RQ
              MSHR := w.MSHR ++ [{ packet with
                toReturn := handlePkt.toReturn
                type := handlePkt.type
                cycleEnqueued := w.currentCycle
                eventCycle := UINT64_MAX }] }

/-- `handle_read()`: its loop runs at most `MAX_READ` times. -/
def handleRead (w : PageTableWalker) : Option PageTableWalker :=
  handleReadLoop cfg cfg.MAX_READ w

/-- The fills of `handle_fill` at `translation_level` `level` with the PTE `addr`. Each cache
is filled on the test of its own level, but `PSCL3` on the test of `PSCL2.level`. -/
def fillPscls (w : PageTableWalker) (level addr vaddr : Nat) : PageTableWalker :=
  { w with
    PSCL5 := w.PSCL5.fillIf w.vmem (level == w.PSCL5.level) addr vaddr
    PSCL4 := w.PSCL4.fillIf w.vmem (level == w.PSCL4.level) addr vaddr
    PSCL3 := w.PSCL3.fillIf w.vmem (level == w.PSCL2.level) addr vaddr
    PSCL2 := w.PSCL2.fillIf w.vmem (level == w.PSCL2.level) addr vaddr }

/-- A minor fault after warmup: the front entry waits `minor_fault_penalty` cycles and the MSHR
is sorted by `event_cycle`. -/
def delayFault (w : PageTableWalker) (fillMshr : PACKET) (rest : List PACKET) : PageTableWalker :=
  { w with
    MSHR := StdAlgorithm.listSort ordEventCycle
      ({ fillMshr with eventCycle := w.currentCycle + cfg.minorFaultPenalty } :: rest) }

/-- The walk of the front entry `fillMshr` goes one level down with the PTE `addr`: fill the
caches, and send the read of `addr` to the lower level; once it takes it, the entry waits at
the back of the MSHR. -/
def walkNext (w : PageTableWalker) (fillMshr : PACKET) (rest : List PACKET) (addr : Nat) :
    PageTableWalker :=
  let w := w.fillPscls fillMshr.translationLevel addr fillMshr.vAddress
  let packet := { fillMshr with
    cpu := cfg.cpu
    type := TRANSLATION
    address := addr
    toReturn := [cfg.self]
    translationLevel := fillMshr.translationLevel - 1 }
  let added := w.lower.addRq packet
  let w := { w with lower := added.1 }
  if added.2 = -2 then w
  else
    { w with
      MSHR := rest ++ [{ fillMshr with
        eventCycle := UINT64_MAX
        address := addr
        translationLevel := fillMshr.translationLevel - 1 }] }

/-- One iteration of `handle_fill`'s loop on the due front entry `fillMshr` of the MSHR
`fillMshr :: rest`: at level `0` the translation is returned to the requesters, at any other
level the walk goes one level down. `none` is a `front()` of an empty free list. -/
def fillEntry (w : PageTableWalker) (fillMshr : PACKET) (rest : List PACKET) :
    Option PageTableWalker :=
  if fillMshr.translationLevel = 0 then
    (w.vmem.vaToPa cfg.cpu fillMshr.vAddress).map fun r =>
      let w := { w with vmem := r.2 }
      if w.warmupComplete cfg.cpu && r.1.2 then w.delayFault cfg fillMshr rest
      else
        let fillMshr := { fillMshr with data := r.1.1, address := fillMshr.vAddress }
        { w.returnTo fillMshr.toReturn fillMshr with MSHR := rest }
  else
    (w.vmem.getPtePa cfg.cpu fillMshr.vAddress fillMshr.translationLevel).map fun r =>
      let w := { w with vmem := r.2 }
      if w.warmupComplete cfg.cpu && r.1.2 then w.delayFault cfg fillMshr rest
      else w.walkNext cfg fillMshr rest r.1.1

/-- The iterations of `handle_fill`'s loop, while the front entry of the MSHR is due. -/
def handleFillLoop : Nat → PageTableWalker → Option PageTableWalker
  | 0, w => some w
  | fuel + 1, w =>
    match w.MSHR with
    | [] => some w
    | fillMshr :: rest =>
      if w.currentCycle < fillMshr.eventCycle then some w
      else (w.fillEntry cfg fillMshr rest).bind (handleFillLoop fuel)

/-- `handle_fill()`: its loop runs at most `MAX_FILL` times. -/
def handleFill (w : PageTableWalker) : Option PageTableWalker :=
  handleFillLoop cfg cfg.MAX_FILL w

def operate (w : PageTableWalker) : Option PageTableWalker :=
  (handleFill cfg w).bind fun w =>
    (handleRead cfg w).map fun w => { w with RQ := w.RQ.operate }

end PageTableWalker

/-- The calls a walker receives, and the environment's moves: the clock and a core finishing
its warmup. -/
inductive PtwOp
  | addRq (packet : PACKET)
  | returnData (packet : PACKET)
  | operate
  | tick
  | completeWarmup (cpu : Nat)

namespace PageTableWalker

variable (cfg : PtwConfig)

def step (w : PageTableWalker) : PtwOp → Option PageTableWalker
  | .addRq packet => (addRq w packet).map Prod.fst
  | .returnData packet => some (returnData w packet)
  | .operate => operate cfg w
  | .tick => some { w with currentCycle := w.currentCycle + 1 }
  | .completeWarmup cpu => some { w with warmupComplete := Function.update w.warmupComplete cpu true }

def run (w : PageTableWalker) (ops : List PtwOp) : Option PageTableWalker :=
  ops.foldlM (step cfg) w

/-! ### The caches agree with the page table -/

variable {cfg}

/-- What every reachable walker keeps: each cache has the level the constructor gave it, and
holds the PTEs of the level that `handle_fill` fills it at. -/
structure PtesHeld (cfg : PtwConfig) (w : PageTableWalker) : Prop where
  level : ∀ k, (w.pscl k).level = k.level
  holds : ∀ k, (w.pscl k).HoldsPtes w.vmem cfg.cpu k.filledAt

theorem PtesHeld.of_extends {w w' : PageTableWalker} (h : PtesHeld cfg w) (hp : w'.pscl = w.pscl)
    (hext : w.vmem.Extends w'.vmem) : PtesHeld cfg w' where
  level k := by
    rw [hp]
    exact h.level k
  holds k := by
    rw [hp]
    exact (h.holds k).of_extends hext

theorem PtesHeld.of_frame {w w' : PageTableWalker} (h : PtesHeld cfg w) (hp : w'.pscl = w.pscl)
    (hv : w'.vmem = w.vmem) : PtesHeld cfg w' :=
  h.of_extends hp (hv ▸ VirtualMemory.Extends.refl w.vmem)

theorem pscl_fillPscls {w : PageTableWalker} (hlevel : ∀ k, (w.pscl k).level = k.level)
    (level addr vaddr : Nat) (k : Pscl) :
    (w.fillPscls level addr vaddr).pscl k =
      (w.pscl k).fillIf w.vmem (level == k.filledAt) addr vaddr := by
  have h5 : w.PSCL5.level = 4 := hlevel .PSCL5
  have h4 : w.PSCL4.level = 3 := hlevel .PSCL4
  have h2 : w.PSCL2.level = 1 := hlevel .PSCL2
  cases k with
  | PSCL5 => exact congrArg (fun l => w.PSCL5.fillIf w.vmem (level == l) addr vaddr) h5
  | PSCL4 => exact congrArg (fun l => w.PSCL4.fillIf w.vmem (level == l) addr vaddr) h4
  | PSCL3 => exact congrArg (fun l => w.PSCL3.fillIf w.vmem (level == l) addr vaddr) h2
  | PSCL2 => exact congrArg (fun l => w.PSCL2.fillIf w.vmem (level == l) addr vaddr) h2

theorem PtesHeld.fillPscls {w : PageTableWalker} (h : PtesHeld cfg w) {level addr vaddr : Nat}
    (hpte : w.vmem.mappedPte cfg.cpu vaddr level = some addr) :
    PtesHeld cfg (w.fillPscls level addr vaddr) where
  level k := by
    rw [pscl_fillPscls h.level, PagingStructureCache.level_fillIf]
    exact h.level k
  holds k := by
    rw [pscl_fillPscls h.level]
    refine (h.holds k).fillIf w.vmem _ fun htest => ?_
    rw [← beq_iff_eq.mp htest]
    exact hpte

theorem pscl_walkNext (w : PageTableWalker) (fillMshr : PACKET) (rest : List PACKET) (addr : Nat) :
    (w.walkNext cfg fillMshr rest addr).pscl =
      (w.fillPscls fillMshr.translationLevel addr fillMshr.vAddress).pscl := by
  unfold walkNext
  dsimp only
  split <;> rfl

theorem vmem_walkNext (w : PageTableWalker) (fillMshr : PACKET) (rest : List PACKET) (addr : Nat) :
    (w.walkNext cfg fillMshr rest addr).vmem = w.vmem := by
  unfold walkNext
  dsimp only
  split <;> rfl

theorem PtesHeld.fillEntry {w w' : PageTableWalker} (h : PtesHeld cfg w) {fillMshr : PACKET}
    {rest : List PACKET} (hf : w.fillEntry cfg fillMshr rest = some w') :
    PtesHeld cfg w' ∧ w.vmem.Extends w'.vmem := by
  unfold PageTableWalker.fillEntry at hf
  split at hf
  · -- level `0`: `va_to_pa` maps a data page, and no cache is filled
    obtain ⟨⟨⟨addr, fault⟩, vm'⟩, hr, rfl⟩ := Option.map_eq_some_iff.mp hf
    have hext := VirtualMemory.extends_vaToPa hr
    have h' : PtesHeld cfg { w with vmem := vm' } := h.of_extends rfl hext
    dsimp only
    split
    · exact ⟨h'.of_frame rfl rfl, hext⟩
    · exact ⟨h'.of_frame rfl rfl, hext⟩
  · -- any other level: the PTE `get_pte_pa` gives is the one the caches of the level take
    obtain ⟨⟨⟨addr, fault⟩, vm'⟩, hr, rfl⟩ := Option.map_eq_some_iff.mp hf
    have hext := VirtualMemory.extends_getPtePa hr
    have hpte := VirtualMemory.mappedPte_getPtePa hr
    have h' : PtesHeld cfg { w with vmem := vm' } := h.of_extends rfl hext
    dsimp only
    split
    · exact ⟨h'.of_frame rfl rfl, hext⟩
    · refine ⟨(h'.fillPscls hpte).of_frame (pscl_walkNext _ _ _ _) (vmem_walkNext _ _ _ _), ?_⟩
      rw [vmem_walkNext]
      exact hext

theorem PtesHeld.handleFillLoop : ∀ (fuel : Nat) {w w' : PageTableWalker}, PtesHeld cfg w →
    handleFillLoop cfg fuel w = some w' → PtesHeld cfg w' ∧ w.vmem.Extends w'.vmem
  | 0, w, w', h, hl => by
    obtain rfl := Option.some.inj hl
    exact ⟨h, .refl _⟩
  | fuel + 1, w, w', h, hl => by
    rw [PageTableWalker.handleFillLoop] at hl
    split at hl
    · obtain rfl := Option.some.inj hl
      exact ⟨h, .refl _⟩
    · split at hl
      · obtain rfl := Option.some.inj hl
        exact ⟨h, .refl _⟩
      · obtain ⟨w₁, h₁, h₂⟩ := Option.bind_eq_some_iff.mp hl
        obtain ⟨hi₁, he₁⟩ := h.fillEntry h₁
        obtain ⟨hi₂, he₂⟩ := PtesHeld.handleFillLoop fuel hi₁ h₂
        exact ⟨hi₂, he₁.trans he₂⟩

theorem pscl_handleReadLoop : ∀ (fuel : Nat) {w w' : PageTableWalker},
    handleReadLoop cfg fuel w = some w' → w'.pscl = w.pscl ∧ w'.vmem = w.vmem
  | 0, w, w', hl => by
    obtain rfl := Option.some.inj hl
    exact ⟨rfl, rfl⟩
  | fuel + 1, w, w', hl => by
    rw [PageTableWalker.handleReadLoop] at hl
    split at hl
    · obtain rfl := Option.some.inj hl
      exact ⟨rfl, rfl⟩
    · dsimp only at hl
      split at hl
      · obtain rfl := Option.some.inj hl
        exact ⟨rfl, rfl⟩
      · obtain ⟨RQ, -, h₂⟩ := Option.bind_eq_some_iff.mp hl
        have hrest := pscl_handleReadLoop fuel h₂
        exact hrest

theorem pscl_addRq {w w' : PageTableWalker} {packet : PACKET} {r : Int}
    (h : w.addRq packet = some (w', r)) : w'.pscl = w.pscl ∧ w'.vmem = w.vmem := by
  unfold PageTableWalker.addRq at h
  split at h
  · cases h
  · split at h
    · cases h
    · split at h
      · obtain ⟨rfl, -⟩ := Prod.mk.inj (Option.some.inj h)
        exact ⟨rfl, rfl⟩
      · obtain ⟨RQ, -, hw⟩ := Option.map_eq_some_iff.mp h
        obtain ⟨rfl, -⟩ := Prod.mk.inj hw
        exact ⟨rfl, rfl⟩

theorem PtesHeld.step {w w' : PageTableWalker} (h : PtesHeld cfg w) {op : PtwOp}
    (hs : step cfg w op = some w') : PtesHeld cfg w' ∧ w.vmem.Extends w'.vmem := by
  cases op with
  | addRq packet =>
    obtain ⟨⟨w₁, r⟩, ha, rfl⟩ := Option.map_eq_some_iff.mp hs
    obtain ⟨hp, hv⟩ := pscl_addRq ha
    exact ⟨h.of_frame hp hv, hv ▸ .refl _⟩
  | returnData packet =>
    obtain rfl := Option.some.inj hs
    exact ⟨h.of_frame rfl rfl, .refl _⟩
  | operate =>
    obtain ⟨w₁, h₁, h₂⟩ := Option.bind_eq_some_iff.mp hs
    obtain ⟨w₂, h₃, rfl⟩ := Option.map_eq_some_iff.mp h₂
    obtain ⟨hi₁, he₁⟩ := h.handleFillLoop cfg.MAX_FILL h₁
    obtain ⟨hp, hv⟩ := pscl_handleReadLoop cfg.MAX_READ h₃
    exact ⟨hi₁.of_frame hp hv, hv ▸ he₁⟩
  | tick =>
    obtain rfl := Option.some.inj hs
    exact ⟨h.of_frame rfl rfl, .refl _⟩
  | completeWarmup cpu =>
    obtain rfl := Option.some.inj hs
    exact ⟨h.of_frame rfl rfl, .refl _⟩

theorem PtesHeld.run : ∀ (ops : List PtwOp) {w w' : PageTableWalker}, PtesHeld cfg w →
    run cfg w ops = some w' → PtesHeld cfg w' ∧ w.vmem.Extends w'.vmem
  | [], w, w', h, hr => by
    obtain rfl := Option.some.inj hr
    exact ⟨h, .refl _⟩
  | op :: ops, w, w', h, hr => by
    unfold PageTableWalker.run at hr
    rw [List.foldlM_cons] at hr
    cases hs : PageTableWalker.step cfg w op with
    | none =>
      rw [hs] at hr
      cases hr
    | some w₁ =>
      rw [hs] at hr
      obtain ⟨hi₁, he₁⟩ := h.step hs
      obtain ⟨hi₂, he₂⟩ := PtesHeld.run ops hi₁ hr
      exact ⟨hi₂, he₁.trans he₂⟩

theorem ptesHeld_new {vm : VirtualMemory} {lower : LowerLevel} {v2 v3 v4 v5 v6 v7 v8 v9 v10 latency : Nat}
    {w : PageTableWalker} (h : new cfg vm lower v2 v3 v4 v5 v6 v7 v8 v9 v10 latency = some w) :
    PtesHeld cfg w ∧ vm.Extends w.vmem := by
  obtain ⟨⟨⟨cr3, fault⟩, vm'⟩, hr, rfl⟩ := Option.map_eq_some_iff.mp h
  refine ⟨⟨fun k => ?_, fun k => ?_⟩, VirtualMemory.extends_getPtePa hr⟩
  · cases k <;> rfl
  · cases k <;> exact PagingStructureCache.holdsPtes_new _ _ _ _ _ _

theorem checkHit_getPtePa {vm : VirtualMemory} (hps : vm.pageSize = PAGE_SIZE) {lower : LowerLevel}
    {v2 v3 v4 v5 v6 v7 v8 v9 v10 latency : Nat} {w₀ w : PageTableWalker}
    (hnew : new cfg vm lower v2 v3 v4 v5 v6 v7 v8 v9 v10 latency = some w₀) {ops : List PtwOp}
    (hrun : run cfg w₀ ops = some w) {k : Pscl} (hk : k ≠ .PSCL3) {vaddr a : Nat}
    (hhit : (w.pscl k).checkHit w.vmem vaddr = some a) :
    w.vmem.getPtePa cfg.cpu vaddr k.level = some ((a, false), w.vmem) := by
  obtain ⟨hi₀, he₀⟩ := ptesHeld_new hnew
  obtain ⟨hi, he⟩ := PtesHeld.run ops hi₀ hrun
  have hfilled : k.filledAt = k.level := by
    cases k with
    | PSCL3 => exact absurd rfl hk
    | _ => rfl
  have hholds : (w.pscl k).HoldsPtes w.vmem cfg.cpu (w.pscl k).level := by
    rw [hi.level k, ← hfilled]
    exact hi.holds k
  have hps' : w.vmem.pageSize = PAGE_SIZE := by rw [he.pageSize_eq, he₀.pageSize_eq, hps]
  have hpte := PagingStructureCache.mappedPte_of_checkHit hholds hps' hhit
  rw [hi.level k] at hpte
  exact VirtualMemory.getPtePa_of_mappedPte hpte

theorem checkHit_PSCL3 {vm : VirtualMemory} (hps : vm.pageSize = PAGE_SIZE) {lower : LowerLevel}
    {v2 v3 v4 v5 v6 v7 v8 v9 v10 latency : Nat} {w₀ w : PageTableWalker}
    (hnew : new cfg vm lower v2 v3 v4 v5 v6 v7 v8 v9 v10 latency = some w₀) {ops : List PtwOp}
    (hrun : run cfg w₀ ops = some w) {vaddr a : Nat} (hhit : w.PSCL3.checkHit w.vmem vaddr = some a) :
    ∃ vaddr' ppage, vaddr' >>> w.vmem.shamt 3 = vaddr >>> w.vmem.shamt 3 ∧
      w.vmem.pageTable.lookup (cfg.cpu, vaddr' >>> w.vmem.shamt 2, 1) = some ppage ∧
      a = spliceBits ppage (w.vmem.getOffset vaddr 2 * PTE_BYTES) LOG2_PAGE_SIZE := by
  obtain ⟨hi₀, he₀⟩ := ptesHeld_new hnew
  obtain ⟨hi, he⟩ := PtesHeld.run ops hi₀ hrun
  have hlevel : w.PSCL3.level = 2 := hi.level .PSCL3
  have hholds : w.PSCL3.HoldsPtes w.vmem cfg.cpu 1 := hi.holds .PSCL3
  obtain ⟨vaddr', data, hsame, hdata, rfl⟩ := PagingStructureCache.checkHit_spec hholds hhit
  obtain ⟨ppage, hl, rfl⟩ := Option.map_eq_some_iff.mp hdata
  have hps' : w.vmem.pageSize = PAGE_SIZE := by rw [he.pageSize_eq, he₀.pageSize_eq, hps]
  have hlog : lg2 w.vmem.pageSize = LOG2_PAGE_SIZE := by rw [hps']; decide +kernel
  rw [hlevel] at hsame ⊢
  refine ⟨vaddr', ppage, hsame, hl, ?_⟩
  rw [hlog, spliceBits_spliceBits]

/-- In every reachable state, with PTE pages as large as data pages, a hit of `PSCL5`, `PSCL4`
or `PSCL2` is the PTE that `get_pte_pa` gives at the cache's level, and a hit of `PSCL3` is the
level-1 PTE of an address that shares the bits above `shamt(3)`. -/
theorem pscl_checkHit_reachable {vm : VirtualMemory} (hps : vm.pageSize = PAGE_SIZE)
    {lower : LowerLevel} {v2 v3 v4 v5 v6 v7 v8 v9 v10 latency : Nat} {w₀ w : PageTableWalker}
    (hnew : new cfg vm lower v2 v3 v4 v5 v6 v7 v8 v9 v10 latency = some w₀) {ops : List PtwOp}
    (hrun : run cfg w₀ ops = some w) :
    (∀ k ≠ Pscl.PSCL3, ∀ vaddr a, (w.pscl k).checkHit w.vmem vaddr = some a →
      w.vmem.getPtePa cfg.cpu vaddr k.level = some ((a, false), w.vmem)) ∧
    ∀ vaddr a, w.PSCL3.checkHit w.vmem vaddr = some a →
      ∃ vaddr' ppage, vaddr' >>> w.vmem.shamt 3 = vaddr >>> w.vmem.shamt 3 ∧
        w.vmem.pageTable.lookup (cfg.cpu, vaddr' >>> w.vmem.shamt 2, 1) = some ppage ∧
        a = spliceBits ppage (w.vmem.getOffset vaddr 2 * PTE_BYTES) LOG2_PAGE_SIZE :=
  ⟨fun _ hk _ _ hhit => checkHit_getPtePa hps hnew hrun hk hhit,
    fun _ _ hhit => checkHit_PSCL3 hps hnew hrun hhit⟩

end PageTableWalker

/-- The walker of core `0`, with the limits of `champsim_config.json`. -/
def ptwConfig : PtwConfig where
  self := 1
  cpu := 0
  MSHR_SIZE := 5
  MAX_READ := 2
  MAX_FILL := 2
  ptLevels := 5
  minorFaultPenalty := 200

def walkerL1d : LowerLevel where
  fillLevel := 1
  occupancy := fun _ => 0
  size := fun _ => 64

def stlbMiss (vaddr : Nat) : PACKET :=
  { address := vaddr, vAddress := vaddr, toReturn := [2] }

/-- The L1D returns the read of `addr`, and a cycle passes. -/
def ptwReturn (addr : Nat) : List PtwOp :=
  [.returnData { address := addr }, .operate, .tick]

/-- A walker with the configured cache sizes on a memory of eight frames with PTE pages of
one frame: the whole walk of `0x1000`, then the start of the walk of `0x40001000`, which
shares the bits of `0x1000` above bit `39` but not those above bit `30`. -/
def pscl3Walks : Option PageTableWalker := do
  let vm ← VirtualMemory.new id (VMEM_RESERVE_CAPACITY + 8 * PAGE_SIZE) PAGE_SIZE
  let w ← PageTableWalker.new ptwConfig vm walkerL1d 1 2 1 4 2 4 4 8 16 0
  PageTableWalker.run ptwConfig w
    ([.addRq (stlbMiss 0x1000), .operate, .tick, .operate, .tick] ++
      [0x100000, 0x101000, 0x102000, 0x103000, 0x104000].flatMap ptwReturn ++
      [.addRq (stlbMiss 0x40001000), .operate, .tick, .operate])

/-- The whole walk of `0x1000` from an empty walker. -/
def firstWalkOps : List PtwOp :=
  [.addRq (stlbMiss 0x1000), .operate, .tick, .operate, .tick] ++
    [0x100000, 0x101000, 0x102000, 0x103000, 0x104000].flatMap ptwReturn

/-- The walk fills the caches: `PSCL4` then hits on `0x1000`. -/
example : (do
    let vm ← VirtualMemory.new id (VMEM_RESERVE_CAPACITY + 8 * PAGE_SIZE) PAGE_SIZE
    let w ← PageTableWalker.new ptwConfig vm walkerL1d 1 2 1 4 2 4 4 8 16 0
    let w ← PageTableWalker.run ptwConfig w firstWalkOps
    pure (w.PSCL4.checkHit w.vmem 0x1000).isSome) = some true := by
  decide +kernel

theorem pscl_checkHit_firstWalk :
    ∃ vm w₀ w, VirtualMemory.new id (VMEM_RESERVE_CAPACITY + 8 * PAGE_SIZE) PAGE_SIZE = some vm ∧
      vm.pageSize = PAGE_SIZE ∧
      PageTableWalker.new ptwConfig vm walkerL1d 1 2 1 4 2 4 4 8 16 0 = some w₀ ∧
      PageTableWalker.run ptwConfig w₀ firstWalkOps = some w ∧
      (∀ k ≠ Pscl.PSCL3, ∀ vaddr a, (w.pscl k).checkHit w.vmem vaddr = some a →
        w.vmem.getPtePa ptwConfig.cpu vaddr k.level = some ((a, false), w.vmem)) ∧
      ∀ vaddr a, w.PSCL3.checkHit w.vmem vaddr = some a →
        ∃ vaddr' ppage, vaddr' >>> w.vmem.shamt 3 = vaddr >>> w.vmem.shamt 3 ∧
          w.vmem.pageTable.lookup (ptwConfig.cpu, vaddr' >>> w.vmem.shamt 2, 1) = some ppage ∧
          a = spliceBits ppage (w.vmem.getOffset vaddr 2 * PTE_BYTES) LOG2_PAGE_SIZE := by
  -- the memory, the walker and the run are evaluated one after the other
  have hs₁ : (VirtualMemory.new id (VMEM_RESERVE_CAPACITY + 8 * PAGE_SIZE) PAGE_SIZE).isSome := by
    decide +kernel
  have hps : ((VirtualMemory.new id (VMEM_RESERVE_CAPACITY + 8 * PAGE_SIZE) PAGE_SIZE).get
      hs₁).pageSize = PAGE_SIZE := by
    decide +revert +kernel
  have hs₂ : (PageTableWalker.new ptwConfig ((VirtualMemory.new id
      (VMEM_RESERVE_CAPACITY + 8 * PAGE_SIZE) PAGE_SIZE).get hs₁) walkerL1d 1 2 1 4 2 4 4 8 16 0).isSome := by
    decide +revert +kernel
  have hs₃ : (PageTableWalker.run ptwConfig (Option.get _ hs₂) firstWalkOps).isSome := by
    decide +revert +kernel
  exact ⟨_, _, _, Option.eq_some_of_isSome hs₁, hps, Option.eq_some_of_isSome hs₂,
    Option.eq_some_of_isSome hs₃, PageTableWalker.pscl_checkHit_reachable hps
      (Option.eq_some_of_isSome hs₂) (Option.eq_some_of_isSome hs₃)⟩

/-- After the walk of `0x1000`, `PSCL3` hits on `0x1000` with `0x104000`, the level-1 PTE the
walk read, and not with the level-2 PTE `0x103000` that `get_pte_pa` gives. The walk of
`0x40001000` starts from its `PSCL3` hit and reads `0x104008` at translation level `1`, where
the full walk reads the level-2 PTE `0x103008`. -/
theorem pscl3_holdsLevelOnePte :
    pscl3Walks.map (fun w =>
      (w.PSCL3.checkHit w.vmem 0x1000, (w.vmem.getPtePa 0 0x1000 2).map (·.1.1),
        w.lower.rq.getLast?.map (fun p => (p.address, p.translationLevel)),
        (w.vmem.getPtePa 0 0x40001000 2).map (·.1.1))) =
      some (some 0x104000, some 0x103000, some (0x104008, 1), some 0x103008) := by
  decide +kernel

end MindPalace.ChampSim
