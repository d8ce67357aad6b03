import MindPalace.ChampSim.DelayQueue
import MindPalace.ChampSim.Packet

/-! # The cache

`CACHE` (`src/cache.cc`): its queues, MSHR and blocks, with one step per call of the source.
The lower level records the requests it gets, returns to requesters go to `returned`, and the
victim choice is a parameter; `none` is a failed `assert` or an access the source leaves
undefined.
-/

namespace MindPalace.ChampSim

/-- The constants of a `CACHE` that the modelled functions read, and the replacement
policy's victim choice for a packet in a set. -/
structure CacheConfig where
  /-- The cache as a requester, `this`. -/
  self : Nat
  fillLevel : Nat
  NUM_SET : Nat
  NUM_WAY : Nat
  WQ_SIZE : Nat
  RQ_SIZE : Nat
  PQ_SIZE : Nat
  MSHR_SIZE : Nat
  HIT_LATENCY : Nat
  FILL_LATENCY : Nat
  OFFSET_BITS : Nat
  MAX_READ : Nat
  MAX_WRITE : Nat
  prefetchAsLoad : Bool
  matchOffsetBits : Bool
  prefActivateMask : Nat
  /-- `impl_replacement_find_victim` on the blocks of the set. -/
  findVictim : PACKET → List BLOCK → Nat

/-- The lower level as this cache sees it: its fill level, the occupancy and size of its
queues by `queue_type` (1 for RQ, 2 for WQ, 3 for PQ), and the packets sent to each. -/
structure LowerLevel where
  fillLevel : Nat
  occupancy : Nat → Nat
  size : Nat → Nat
  rq : List PACKET := []
  wq : List PACKET := []
  pq : List PACKET := []

namespace LowerLevel

/-- The lower level takes a packet into its queue of type `t` if that queue has room; the
result is its `add_*q` return value. -/
def accept (lower : LowerLevel) (t : Nat) : LowerLevel × Int :=
  if lower.occupancy t = lower.size t then (lower, -2)
  else ({ lower with occupancy := Function.update lower.occupancy t (lower.occupancy t + 1) },
    lower.occupancy t + 1)

def addRq (lower : LowerLevel) (p : PACKET) : LowerLevel × Int :=
  let (l, r) := lower.accept 1
  (if r = -2 then l else { l with rq := l.rq ++ [p] }, r)

def addWq (lower : LowerLevel) (p : PACKET) : LowerLevel × Int :=
  let (l, r) := lower.accept 2
  (if r = -2 then l else { l with wq := l.wq ++ [p] }, r)

def addPq (lower : LowerLevel) (p : PACKET) : LowerLevel × Int :=
  let (l, r) := lower.accept 3
  (if r = -2 then l else { l with pq := l.pq ++ [p] }, r)

end LowerLevel

/-- The state of a `CACHE`, with the cycle, the warmup flags, the lower level and the
returns made to requesters. -/
structure Cache where
  cpu : Nat
  block : List BLOCK
  readsAvailableThisCycle : Nat
  writesAvailableThisCycle : Nat
  everSeenData : Bool
  RQ : DelayQueue PACKET
  PQ : DelayQueue PACKET
  WQ : DelayQueue PACKET
  MSHR : List PACKET
  currentCycle : Nat
  warmupComplete : Nat → Bool
  lower : LowerLevel
  returned : List (Nat × PACKET)

instance : Inhabited PACKET := ⟨{}⟩

namespace Cache

variable (cfg : CacheConfig)

/-- The cache as constructed: invalid blocks, empty queues and MSHR, at cycle zero. -/
def new (lower : LowerLevel) : Cache where
  cpu := 0
  block := List.replicate (cfg.NUM_SET * cfg.NUM_WAY) {}
  readsAvailableThisCycle := 0
  writesAvailableThisCycle := 0
  everSeenData := false
  RQ := .new cfg.RQ_SIZE cfg.HIT_LATENCY
  PQ := .new cfg.PQ_SIZE cfg.HIT_LATENCY
  WQ := .new cfg.WQ_SIZE cfg.HIT_LATENCY
  MSHR := []
  currentCycle := 0
  warmupComplete := fun _ => false
  lower := lower
  returned := []

def shouldActivatePrefetcher (type : UInt8) : Bool :=
  (1 <<< type.toNat) &&& cfg.prefActivateMask != 0

def getSet (address : Nat) : Nat :=
  (address >>> cfg.OFFSET_BITS) &&& bitmask (lg2 cfg.NUM_SET)

def setBlocks (c : Cache) (set : Nat) : List BLOCK :=
  (c.block.drop (set * cfg.NUM_WAY)).take cfg.NUM_WAY

/-- `get_way(address, set)`: the first way of the set that holds the block, or `NUM_WAY`. -/
def getWay (c : Cache) (address set : Nat) : Nat :=
  (setBlocks cfg c set).findIdx (BLOCK.eqAddr address cfg.OFFSET_BITS)

/-- The first way without a valid block, `find_if_not(set_begin, set_end, is_valid)`,
or the victim the replacement policy picks. -/
def victimWay (c : Cache) (set : Nat) (pkt : PACKET) : Nat :=
  let way := (setBlocks cfg c set).findIdx (fun b => !b.valid)
  if way = cfg.NUM_WAY then cfg.findVictim pkt (setBlocks cfg c set) else way

/-- `invalidate_entry(inval_addr)`: clear the valid bit of the first way holding the block;
the result is that way, or `NUM_WAY`. -/
def invalidateEntry (c : Cache) (invalAddr : Nat) : Cache × Nat :=
  let set := getSet cfg invalAddr
  let way := getWay cfg c invalAddr set
  if way < cfg.NUM_WAY then
    ({ c with block := c.block.modify (set * cfg.NUM_WAY + way) fun b => { b with valid := false } },
      way)
  else (c, way)

def returnTo (c : Cache) (rets : List Nat) (packet : PACKET) : Cache :=
  { c with returned := c.returned ++ rets.map (·, packet) }

/-- `warmup_complete[cpu] ? q.push_back(packet) : q.push_back_ready(packet)`, with the
member `cpu`. -/
def pushQueue (c : Cache) (q : DelayQueue PACKET) (packet : PACKET) :
    Option (DelayQueue PACKET) :=
  if c.warmupComplete c.cpu then q.pushBack packet else q.pushBackReady packet

/-- The shift `add_*q` compare write-queue addresses with. -/
def wqShamt : Nat :=
  if cfg.matchOffsetBits then 0 else cfg.OFFSET_BITS

/-- `add_rq(packet)`: forward the data of a pending writeback, merge into a read of the same
block, or queue the packet. -/
def addRq (c : Cache) (packet : PACKET) : Option (Cache × Int) :=
  if packet.address = 0 then none
  else match c.WQ.findIf (PACKET.eqAddr packet.address (wqShamt cfg)) with
  | some foundWq =>
    let packet := { packet with data := foundWq.data }
    some (c.returnTo packet.toReturn packet, -1)
  | none =>
    let match? := PACKET.eqAddr packet.address cfg.OFFSET_BITS
    match c.RQ.findIf match? with
    | some _ => some ({ c with RQ := c.RQ.modifyFirst match? (·.mergeDeps packet) }, 0)
    | none =>
      if c.RQ.full then some (c, -2)
      else do
        let RQ ← c.pushQueue c.RQ packet
        pure ({ c with RQ }, RQ.occupancy)

/-- `add_wq(packet)`: a writeback of a block already in the write queue is dropped. -/
def addWq (c : Cache) (packet : PACKET) : Option (Cache × Int) :=
  match c.WQ.findIf (PACKET.eqAddr packet.address (wqShamt cfg)) with
  | some _ => some (c, 0)
  | none =>
    if c.WQ.full then some (c, -2)
    else do
      let WQ ← c.pushQueue c.WQ packet
      pure ({ c with WQ }, WQ.occupancy)

/-- `add_pq(packet)`: forward the data of a pending writeback, merge the requesters into a
prefetch of the same block, or queue the packet. -/
def addPq (c : Cache) (packet : PACKET) : Option (Cache × Int) :=
  if packet.address = 0 then none
  else match c.WQ.findIf (PACKET.eqAddr packet.address (wqShamt cfg)) with
  | some foundWq =>
    let packet := { packet with data := foundWq.data }
    some (c.returnTo packet.toReturn packet, -1)
  | none =>
    let match? := PACKET.eqAddr packet.address cfg.OFFSET_BITS
    match c.PQ.findIf match? with
    | some _ =>
      some ({ c with
        PQ := c.PQ.modifyFirst match? fun found =>
          { found with
            fillLevel := min found.fillLevel packet.fillLevel
            toReturn := packetDepMerge found.toReturn packet.toReturn } }, 0)
    | none =>
      if c.PQ.full then some (c, -2)
      else do
        let PQ ← c.pushQueue c.PQ packet
        pure ({ c with PQ }, PQ.occupancy)

/-- The `event_cycle` that `return_data` gives a returned miss. -/
def returnCycle (c : Cache) : Nat :=
  c.currentCycle + if c.warmupComplete c.cpu then cfg.FILL_LATENCY else 0

/-- `return_data(packet)`: record the data in the MSHR entry of the block and swap that entry
with the first one not yet returned. Without an entry the source fails its assertion, and
with every entry returned it swaps with `MSHR.end()`, which it leaves undefined. -/
def returnData (c : Cache) (packet : PACKET) : Option Cache :=
  match c.MSHR.findIdx? (PACKET.eqAddr packet.address cfg.OFFSET_BITS) with
  | none => none
  | some mshrEntry =>
    let firstUnreturned := c.MSHR.findIdx (·.eventCycle == UINT64_MAX)
    if firstUnreturned = c.MSHR.length then none
    else
      let MSHR := c.MSHR.modify mshrEntry fun e =>
        { e with data := packet.data, eventCycle := returnCycle cfg c }
      some { c with MSHR := StdAlgorithm.iterSwap MSHR mshrEntry firstUnreturned }

/-- The prefetcher hook of `readlike_hit` and `readlike_miss`: for the access types it
watches, and requests from above its own level, it sets the member `cpu`. -/
def notePrefetcher (c : Cache) (handlePkt : PACKET) : Cache :=
  if shouldActivatePrefetcher cfg handlePkt.type && decide (handlePkt.pfOriginLevel < cfg.fillLevel)
  then { c with cpu := handlePkt.cpu }
  else c

/-- `readlike_hit(set, way, handle_pkt)`: return the block's data to the requesters and
clear its prefetch bit. -/
def readlikeHit (c : Cache) (set way : Nat) (handlePkt : PACKET) : Cache :=
  let idx := set * cfg.NUM_WAY + way
  let hitBlock := c.block.getD idx {}
  let handlePkt := { handlePkt with data := hitBlock.data }
  let c := (notePrefetcher cfg c handlePkt).returnTo handlePkt.toReturn handlePkt
  if hitBlock.prefetch then
    { c with block := c.block.modify idx fun b => { b with prefetch := false } }
  else c

/-- A request merged into the MSHR entry of its block: the smaller fill level and the
merged requesters, and then, for a demand that finds a prefetch in flight, the demand packet
in place of the entry with the entry's `event_cycle`. -/
def mergeIntoMshr (handlePkt entry : PACKET) : PACKET :=
  let entry := { entry with fillLevel := min entry.fillLevel handlePkt.fillLevel }
  let entry := entry.mergeDeps handlePkt
  if entry.type = PREFETCH ∧ handlePkt.type ≠ PREFETCH then
    { handlePkt with eventCycle := entry.eventCycle }
  else entry

/-- `readlike_miss(handle_pkt)`: merge into the MSHR entry of the block, or allocate one
and send the request down; `false` when the MSHR or the lower queue is full. -/
def readlikeMiss (c : Cache) (handlePkt : PACKET) : Bool × Cache :=
  match c.MSHR.findIdx? (PACKET.eqAddr handlePkt.address cfg.OFFSET_BITS) with
  | some mshrEntry =>
    (true, notePrefetcher cfg { c with MSHR := c.MSHR.modify mshrEntry (mergeIntoMshr handlePkt) }
      handlePkt)
  | none =>
    if c.MSHR.length = cfg.MSHR_SIZE then (false, c)
    else
      let isRead := cfg.prefetchAsLoad || handlePkt.type != PREFETCH
      let queueType := if isRead then 1 else 3
      if c.lower.occupancy queueType = c.lower.size queueType then (false, c)
      else
        let allocate := decide (handlePkt.fillLevel ≤ cfg.fillLevel)
        let MSHR := if allocate then
            c.MSHR ++ [{ handlePkt with cycleEnqueued := c.currentCycle, eventCycle := UINT64_MAX }]
          else c.MSHR
        let handlePkt := { handlePkt with toReturn := if allocate then [cfg.self] else [] }
        let lower := if isRead then (c.lower.addRq handlePkt).1 else (c.lower.addPq handlePkt).1
        (true, notePrefetcher cfg { c with MSHR, lower } handlePkt)

/-- `filllike_miss(set, way, handle_pkt)`: write back the dirty victim and fill the way with
the packet's block; `false` when the lower write queue is full. `LLC_BYPASS` is defined, so
a bypass (`way == NUM_WAY`) fills nothing, and only a bypassing writeback fails the
assertion. The prefetcher hook sets the member `cpu` in every case. -/
def filllikeMiss (c : Cache) (set way : Nat) (handlePkt : PACKET) : Option (Bool × Cache) :=
  let bypass := decide (way = cfg.NUM_WAY)
  if handlePkt.type = WRITEBACK ∧ bypass then none
  else if bypass then some (true, { c with cpu := handlePkt.cpu })
  else
    let idx := set * cfg.NUM_WAY + way
    let fillBlock := c.block.getD idx {}
    let writeback : PACKET :=
      { fillLevel := c.lower.fillLevel, cpu := handlePkt.cpu, address := fillBlock.address,
        data := fillBlock.data, instrId := handlePkt.instrId, ip := 0, type := WRITEBACK }
    let (lower, result) := if fillBlock.dirty then c.lower.addWq writeback else (c.lower, 0)
    if result = -2 then some (false, c)
    else
      let filled : BLOCK :=
        { valid := true
          prefetch := handlePkt.type = PREFETCH ∧ handlePkt.pfOriginLevel = cfg.fillLevel
          dirty := handlePkt.type = WRITEBACK ∨ (handlePkt.type = RFO ∧ handlePkt.toReturn.isEmpty)
          address := handlePkt.address
          vAddress := handlePkt.vAddress
          data := handlePkt.data
          ip := handlePkt.ip
          cpu := handlePkt.cpu
          instrId := handlePkt.instrId }
      some (true, { c with lower, block := c.block.modify idx fun _ => filled, cpu := handlePkt.cpu })

/-- One iteration of `handle_fill`'s loop: fill the front MSHR entry once its data is due,
return the data to its requesters and erase it. `none` inside the result is a `return`. -/
def handleFillLoop : Nat → Cache → Option Cache
  | 0, c => some c
  | fuel + 1, c =>
    if c.writesAvailableThisCycle = 0 then some c
    else match c.MSHR with
    | [] => some c
    | fillMshr :: _ =>
      if c.currentCycle < fillMshr.eventCycle then some c
      else
        let set := getSet cfg fillMshr.address
        let way := victimWay cfg c set fillMshr
        match filllikeMiss cfg c set way fillMshr with
        | none => none
        | some (false, c) => some c
        | some (true, c) =>
          -- a bypass fills no way and returns nothing
          let c := if way = cfg.NUM_WAY then c
            else c.returnTo fillMshr.toReturn
              { fillMshr with data := (c.block.getD (set * cfg.NUM_WAY + way) {}).data }
          handleFillLoop fuel
            { c with MSHR := c.MSHR.tail, writesAvailableThisCycle := c.writesAvailableThisCycle - 1 }

/-- `handle_fill()`: its loop runs at most `writes_available_this_cycle` times. -/
def handleFill (c : Cache) : Option Cache :=
  handleFillLoop cfg c.writesAvailableThisCycle c

/-- The access `handle_writeback` makes for the packet at the front of the write queue: a hit
marks the block dirty, a store miss is handled like a read, and any other miss fills a way. -/
def writebackAccess (c : Cache) (handlePkt : PACKET) : Option (Bool × Cache) :=
  let set := getSet cfg handlePkt.address
  let way := getWay cfg c handlePkt.address set
  if way < cfg.NUM_WAY then
    some (true, { c with
      block := c.block.modify (set * cfg.NUM_WAY + way) fun b => { b with dirty := true } })
  else if handlePkt.type = RFO ∧ handlePkt.toReturn.isEmpty then
    some (readlikeMiss cfg c handlePkt)
  else filllikeMiss cfg c set (victimWay cfg c set handlePkt) handlePkt

/-- One iteration of `handle_writeback`'s loop on the front of the write queue. -/
def handleWritebackLoop : Nat → Cache → Option Cache
  | 0, c => some c
  | fuel + 1, c =>
    if c.writesAvailableThisCycle = 0 ∨ !c.WQ.hasReady then some c
    else
      match writebackAccess cfg c c.WQ.front with
      | none => none
      | some (false, c) => some c
      | some (true, c) => do
        let WQ ← c.WQ.popFront
        handleWritebackLoop fuel
          { c with WQ, writesAvailableThisCycle := c.writesAvailableThisCycle - 1 }

def handleWriteback (c : Cache) : Option Cache :=
  handleWritebackLoop cfg c.writesAvailableThisCycle c

/-- The access of `handle_read` and `handle_prefetch` to the block of the packet at the front
of their queue: `readlike_hit` on a hit, `readlike_miss` otherwise. -/
def readlikeAccess (c : Cache) (handlePkt : PACKET) : Bool × Cache :=
  let set := getSet cfg handlePkt.address
  let way := getWay cfg c handlePkt.address set
  if way < cfg.NUM_WAY then (true, readlikeHit cfg c set way handlePkt)
  else readlikeMiss cfg c handlePkt

/-- The queue of `handle_read` (`isRead`, the RQ) or of `handle_prefetch` (the PQ). -/
def readlikeQueue (isRead : Bool) (c : Cache) : DelayQueue PACKET :=
  if isRead then c.RQ else c.PQ

def setReadlikeQueue (isRead : Bool) (c : Cache) (q : DelayQueue PACKET) : Cache :=
  if isRead then { c with RQ := q } else { c with PQ := q }

/-- One iteration of the loop of `handle_read` or `handle_prefetch`; a miss that cannot be
handled stops the loop. -/
def handleReadlikeLoop (isRead : Bool) : Nat → Cache → Option Cache
  | 0, c => some c
  | fuel + 1, c =>
    let q := readlikeQueue isRead c
    if c.readsAvailableThisCycle = 0 ∨ !q.hasReady then some c
    else
      let handlePkt := q.front
      -- only handle_read notes whether the packet carries data
      let c := { c with
        everSeenData := c.everSeenData || isRead && handlePkt.vAddress != handlePkt.ip }
      match readlikeAccess cfg c handlePkt with
      | (false, c) => some c
      | (true, c) => do
        let q ← q.popFront
        let c := setReadlikeQueue isRead c q
        handleReadlikeLoop isRead fuel
          { c with readsAvailableThisCycle := c.readsAvailableThisCycle - 1 }

def handleRead (c : Cache) : Option Cache :=
  handleReadlikeLoop cfg true c.readsAvailableThisCycle c

def handlePrefetch (c : Cache) : Option Cache :=
  handleReadlikeLoop cfg false c.readsAvailableThisCycle c

/-- `operate()`: `operate_writes` then `operate_reads`, each with its bandwidth. The virtual
prefetch queue, whose translation needs the page table, is left out. -/
def operate (c : Cache) : Option Cache := do
  let c ← handleFill cfg { c with writesAvailableThisCycle := cfg.MAX_WRITE }
  let c ← handleWriteback cfg c
  let c := { c with WQ := c.WQ.operate }
  let c ← handleRead cfg { c with readsAvailableThisCycle := cfg.MAX_READ }
  let c ← handlePrefetch cfg c
  pure { c with RQ := c.RQ.operate, PQ := c.PQ.operate }

end Cache

/-- The calls a cache receives, and the environment's moves: the clock and a core finishing
its warmup. -/
inductive CacheOp
  | addRq (packet : PACKET)
  | addWq (packet : PACKET)
  | addPq (packet : PACKET)
  | returnData (packet : PACKET)
  | handleFill
  | handleWriteback
  | handleRead
  | handlePrefetch
  | operate
  | invalidateEntry (address : Nat)
  | tick
  | completeWarmup (cpu : Nat)

namespace Cache

variable (cfg : CacheConfig)

def step (c : Cache) : CacheOp → Option Cache
  | .addRq packet => (addRq cfg c packet).map Prod.fst
  | .addWq packet => (addWq cfg c packet).map Prod.fst
  | .addPq packet => (addPq cfg c packet).map Prod.fst
  | .returnData packet => returnData cfg c packet
  | .handleFill => handleFill cfg c
  | .handleWriteback => handleWriteback cfg c
  | .handleRead => handleRead cfg c
  | .handlePrefetch => handlePrefetch cfg c
  | .operate => operate cfg c
  | .invalidateEntry address => some (invalidateEntry cfg c address).1
  | .tick => some { c with currentCycle := c.currentCycle + 1 }
  | .completeWarmup cpu => some { c with warmupComplete := Function.update c.warmupComplete cpu true }

def run (c : Cache) (ops : List CacheOp) : Option Cache :=
  ops.foldlM (step cfg) c

theorem exists_eq_some_of_any {α : Type} {o : Option α} {p : α → Prop} [DecidablePred p]
    (h : o.any (fun a => decide (p a)) = true) : ∃ a, o = some a ∧ p a := by
  obtain ⟨a, ha, hp⟩ := (Option.any_eq_true _ _).mp h
  exact ⟨a, ha, of_decide_eq_true hp⟩

end Cache

/-- A cache of one set of two ways at level `fillLevel`, known to its requesters as `self`:
two-entry queues with a hit latency of one, four MSHR entries, a read and a write bandwidth
of two, a fill latency of three, and way 0 as the victim. The prefetcher watches loads and
prefetches, its default `pref_activate_mask`. -/
def smallCache (self fillLevel : Nat) : CacheConfig where
  self := self
  fillLevel := fillLevel
  NUM_SET := 1
  NUM_WAY := 2
  WQ_SIZE := 2
  RQ_SIZE := 2
  PQ_SIZE := 2
  MSHR_SIZE := 4
  HIT_LATENCY := 1
  FILL_LATENCY := 3
  OFFSET_BITS := 6
  MAX_READ := 2
  MAX_WRITE := 2
  prefetchAsLoad := false
  matchOffsetBits := false
  prefActivateMask := (1 <<< LOAD.toNat) ||| (1 <<< PREFETCH.toNat)
  findVictim := fun _ _ => 0

def roomyLower : LowerLevel where
  fillLevel := 16
  occupancy := fun _ => 0
  size := fun _ => 4

end MindPalace.ChampSim
