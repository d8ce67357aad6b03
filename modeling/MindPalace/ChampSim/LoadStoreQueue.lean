import MindPalace.ChampSim.BackendInvariant
import MindPalace.ChampSim.InitInstruction
import MindPalace.ChampSim.Cache

/-! # The load and store queues

The memory side of `O3_CPU` (`src/ooo_cpu.cc`): `LQ` and `SQ` entries, the store-to-load
dependences of `add_load_queue`, and `execute_store`, which forwards to every recorded dependent.
A load recorded twice for one store meets its own reset entry on the second listing, and the
assertion fails. The DTLB and the L1D are `LowerLevel`s; every `assert` is a `none`.
-/

namespace MindPalace.ChampSim

def DEADLOCK_CYCLE : Nat := 1000000

/-! ### Traces of `input_instr` records -/

structure InputInstr where
  ip : UInt64 := 0
  isBranch : UInt8 := 0
  branchTaken : UInt8 := 0
  destinationRegisters : Vector UInt8 NUM_INSTR_DESTINATIONS := Vector.replicate _ 0
  sourceRegisters : Vector UInt8 NUM_INSTR_SOURCES := Vector.replicate _ 0
  destinationMemory : Vector UInt64 NUM_INSTR_DESTINATIONS := Vector.replicate _ 0
  sourceMemory : Vector UInt64 NUM_INSTR_SOURCES := Vector.replicate _ 0
  deriving DecidableEq, Repr

/-- `ooo_model_instr(cpu, input_instr)`: the operand arrays are copied as they are. -/
def OooModelInstr.ofInputInstr (cpu : UInt8) (instr : InputInstr) : OooModelInstr :=
  { destinationRegisters := instr.destinationRegisters
    destinationMemory := instr.destinationMemory.map UInt64.toNat
    sourceRegisters := instr.sourceRegisters
    sourceMemory := instr.sourceMemory.map UInt64.toNat
    ip := instr.ip.toNat
    isBranch := instr.isBranch != 0
    branchTaken := instr.branchTaken != 0
    asid := (cpu, cpu) }

structure InputTracereader where
  lastInstr : OooModelInstr := {}
  initialized : Bool := false

namespace InputTracereader

/-- `get()`, where `record` is what `read_single_instr` reads next: the instruction held back
leaves with the new record's `ip` as its branch target, and the new one is held back. The
first call holds back the first record, and returns it as well. -/
def get (cpu : UInt8) (r : InputTracereader) (record : InputInstr) :
    OooModelInstr × InputTracereader :=
  let traceReadInstr := OooModelInstr.ofInputInstr cpu record
  let lastInstr := if r.initialized then r.lastInstr else traceReadInstr
  ({ lastInstr with branchTarget := traceReadInstr.ip },
    { lastInstr := traceReadInstr, initialized := true })

def gets (cpu : UInt8) : InputTracereader → List InputInstr → List OooModelInstr
  | _, [] => []
  | r, record :: records => (r.get cpu record).1 :: gets cpu (r.get cpu record).2 records

end InputTracereader

/-! ### The queues -/

/-- An `LSQ_ENTRY` with its default member initialisers, without `asid`, which only goes into
packets; `rob_index` is the `instr_id` of the ROB entry it points to. -/
structure LsqEntry where
  instrId : Nat := 0
  producerId : Nat := UINT64_MAX
  virtualAddress : Nat := 0
  physicalAddress : Nat := 0
  ip : Nat := 0
  eventCycle : Nat := 0
  robIndex : Nat := 0
  translated : UInt8 := 0
  fetched : UInt8 := 0
  deriving DecidableEq, Repr

/-- `is_valid<LSQ_ENTRY>`: an entry with a nonzero virtual address. -/
def LsqEntry.isValid (e : LsqEntry) : Bool :=
  e.virtualAddress != 0

/-- `instr_mem_will_produce(mem)`: an instruction with `mem` among its destination
addresses. -/
def instrMemWillProduce (mem : Nat) (test : OooModelInstr) : Bool :=
  test.destinationMemory.contains mem

/-- `sq_will_forward(id, addr)`: a store of the instruction `id` to `addr` that has executed. -/
def sqWillForward (matchId matchAddr : Nat) (sqTest : LsqEntry) : Bool :=
  sqTest.fetched == COMPLETED && sqTest.instrId == matchId && sqTest.virtualAddress == matchAddr

/-- `CacheBus::return_data`: every packet but a prefetch joins `PROCESSED`. -/
def CacheBus.returnData (processed : List PACKET) (packet : PACKET) : List PACKET :=
  if packet.type != PREFETCH then processed ++ [packet] else processed

/-- The constants of an `O3_CPU` that the load and store queues read, over those of the back
end; `dtlbMaxRead` and `l1dMaxRead` are the `MAX_READ` of the DTLB and of the L1D, and
`dtlbBus` and `l1dBus` stand for `DTLB_bus` and `L1D_bus` in a packet's `to_return`. -/
structure LsqConfig extends BackendConfig where
  LQ_SIZE : Nat
  SQ_SIZE : Nat
  LQ_WIDTH : Nat
  SQ_WIDTH : Nat
  cpu : Nat
  dtlbMaxRead : Nat
  l1dMaxRead : Nat
  dtlbBus : Nat
  l1dBus : Nat

namespace O3Backend

/-- `rob_index->num_mem_ops--` with the event cycle, and one more instruction in flight in
memory once none of its operations is left. -/
def memOpDone (c : O3Backend) (id : Nat) : O3Backend :=
  let c := c.updateEntry id fun r =>
    { r with numMemOps := r.numMemOps - 1, eventCycle := c.currentCycle }
  if (c.robEntry id).numMemOps = 0 then
    { c with inflightMemExecutions := c.inflightMemExecutions + 1 }
  else c

/-- The same under `assert(num_mem_ops >= 0)`, as `do_sq_forward_to_lq` and `execute_store`
do it. -/
def memOpChecked (c : O3Backend) (id : Nat) : Option O3Backend :=
  if ((c.memOpDone id).robEntry id).numMemOps < 0 then none else some (c.memOpDone id)

end O3Backend

/-- The members of `O3_CPU` that the load and store queues read and write, over the back end.
The queues of iterators hold slot numbers, front first; `dtlbProcessed` and `l1dProcessed`
are the `PROCESSED` queues of `DTLB_bus` and `L1D_bus`, and `frontEnd` holds the decoded
instructions on their way from `init_instruction` to the ROB. -/
structure O3Lsq where
  core : O3Backend
  LQ : List LsqEntry
  SQ : List LsqEntry
  STA : List Nat
  RTL0 : List Nat
  RTL1 : List Nat
  RTS0 : List Nat
  RTS1 : List Nat
  dtlb : LowerLevel
  l1d : LowerLevel
  dtlbProcessed : List PACKET
  l1dProcessed : List PACKET
  instrUniqueId : Nat
  frontEnd : List OooModelInstr

namespace O3Lsq

variable (cfg : LsqConfig)

/-- The core as constructed: empty queues, and `LQ_SIZE` and `SQ_SIZE` default entries. -/
def init (dtlb l1d : LowerLevel) : O3Lsq where
  core := O3Backend.init
  LQ := List.replicate cfg.LQ_SIZE {}
  SQ := List.replicate cfg.SQ_SIZE {}
  STA := []
  RTL0 := []
  RTL1 := []
  RTS0 := []
  RTS1 := []
  dtlb := dtlb
  l1d := l1d
  dtlbProcessed := []
  l1dProcessed := []
  instrUniqueId := 0
  frontEnd := []

/-- The entry behind an LQ iterator, the default one past the end. -/
def lqEntry (s : O3Lsq) (k : Nat) : LsqEntry :=
  s.LQ.getD k {}

def sqEntry (s : O3Lsq) (k : Nat) : LsqEntry :=
  s.SQ.getD k {}

def updateRob (s : O3Lsq) (id : Nat) (f : OooModelInstr → OooModelInstr) : O3Lsq :=
  { s with core := s.core.updateEntry id f }

/-! ### Scheduling -/

/-- `do_sq_forward_to_lq(sq_entry, lq_entry)` for the LQ slot `k`: the load's operation is done
and the entry is reset. The address and flags it writes first, from `sq_entry`, go with the
reset. -/
def doSqForwardToLq (s : O3Lsq) (k : Nat) : Option O3Lsq := do
  let c ← s.core.memOpChecked (s.lqEntry k).robIndex
  pure { s with core := c, LQ := s.LQ.set k {} }

/-- The operand `dataIndex` of the instruction `id` is in the LQ slot `k`. -/
def markLoad (s : O3Lsq) (id : Nat) (dataIndex : Fin NUM_INSTR_SOURCES) (k : Nat) : O3Lsq :=
  s.updateRob id fun r =>
    { r with lqIndex := r.lqIndex.set dataIndex k, sourceAdded := r.sourceAdded.set dataIndex true }

/-- The search of `add_load_queue` for the producer of `mem`: from the reverse iterator built
on `rob_it`, that is from the entry just older than it, to the oldest. -/
def findProducer (s : O3Lsq) (id mem : Nat) : Option Nat :=
  (s.core.olderThan id).find? fun p => instrMemWillProduce mem (s.core.robEntry p)

def addDependent (s : O3Lsq) (prior id : Nat) : O3Lsq :=
  s.updateRob prior fun p => { p with memoryInstrsDependOnMe := p.memoryInstrsDependOnMe ++ [id] }

/-- `add_load_queue(rob_it, data_index)`: the first free slot takes the operand. The youngest
older instruction that writes the address gets the load as a dependent and becomes the
entry's producer, and forwards at once if its store has executed; an operand without a
producer waits for its translation in `RTL0`. `none` is the assertion of a free slot. -/
def addLoadQueue (s : O3Lsq) (id : Nat) (dataIndex : Fin NUM_INSTR_SOURCES) : Option O3Lsq :=
  match s.LQ.findIdx? (fun e => !e.isValid) with
  | none => none
  | some k =>
    let r := s.core.robEntry id
    let s := s.markLoad id dataIndex k
    let entry := { s.lqEntry k with
      instrId := r.instrId
      virtualAddress := r.sourceMemory[dataIndex]
      ip := r.ip
      robIndex := id
      eventCycle := s.core.currentCycle + cfg.SCHEDULING_LATENCY }
    match s.findProducer id entry.virtualAddress with
    | some prior =>
      let s := s.addDependent prior id
      let producerId := (s.core.robEntry prior).instrId
      let s := { s with LQ := s.LQ.set k { entry with producerId, translated := INFLIGHT } }
      match s.SQ.find? (sqWillForward producerId entry.virtualAddress) with
      | some _ => s.doSqForwardToLq k
      | none => some s
    | none => some { s with LQ := s.LQ.set k entry, RTL0 := s.RTL0 ++ [k] }

/-- `add_store_queue(rob_it, data_index)`: the first free slot takes the operand, which
leaves `STA` and waits for its translation in `RTS0`. The caller has found a free slot;
`none` stands for the dereference of `SQ.end()` without one. -/
def addStoreQueue (s : O3Lsq) (id : Nat) (dataIndex : Fin NUM_INSTR_DESTINATIONS_SPARC) :
    Option O3Lsq :=
  match s.SQ.findIdx? (fun e => !e.isValid) with
  | none => none
  | some k =>
    let r := s.core.robEntry id
    let entry := { s.sqEntry k with
      instrId := r.instrId
      virtualAddress := r.destinationMemory[dataIndex]
      ip := r.ip
      robIndex := id
      eventCycle := s.core.currentCycle + cfg.SCHEDULING_LATENCY }
    let s := s.updateRob id fun r =>
      { r with
        sqIndex := r.sqIndex.set dataIndex k
        destinationAdded := r.destinationAdded.set dataIndex true }
    some { s with SQ := s.SQ.set k entry, STA := s.STA.tail, RTS0 := s.RTS0 ++ [k] }

/-- One iteration of the load loop of `do_memory_scheduling`, on the operand count, the count
of operands in the queue, and the state. -/
def scheduleLoad (id : Nat) (acc : Nat × Nat × O3Lsq) (i : Fin NUM_INSTR_SOURCES) :
    Option (Nat × Nat × O3Lsq) :=
  let (numMemOps, numAdded, s) := acc
  let r := s.core.robEntry id
  if r.sourceMemory[i] = 0 then some acc
  else if r.sourceAdded[i] then some (numMemOps + 1, numAdded + 1, s)
  else if !s.LQ.all LsqEntry.isValid then do
    let s ← s.addLoadQueue cfg id i
    pure (numMemOps + 1, numAdded + 1, s)
  else some (numMemOps + 1, numAdded, s)

/-- One iteration of the store loop: a store is added only in the order of `STA`. An empty
`STA`, whose `front()` the source reads, matches no instruction here. -/
def scheduleStore (id : Nat) (acc : Nat × Nat × O3Lsq) (i : Fin NUM_INSTR_DESTINATIONS_SPARC) :
    Option (Nat × Nat × O3Lsq) :=
  let (numMemOps, numAdded, s) := acc
  let r := s.core.robEntry id
  if r.destinationMemory[i] = 0 then some acc
  else if r.destinationAdded[i] then some (numMemOps + 1, numAdded + 1, s)
  else if !s.SQ.all LsqEntry.isValid then
    if s.STA.head? = some r.instrId then do
      let s ← s.addStoreQueue cfg id i
      pure (numMemOps + 1, numAdded + 1, s)
    else some (numMemOps + 1, numAdded, s)
  else some (numMemOps + 1, numAdded, s)

/-- `do_memory_scheduling(rob_it)`: once every operand is in a queue, the instruction is
scheduled, and in flight unless a forward has completed it. -/
def doMemoryScheduling (s : O3Lsq) (id : Nat) : Option O3Lsq := do
  let acc ← sourceSlots.foldlM (scheduleLoad cfg id) (0, 0, s)
  let (numMemOps, numAdded, s) ← destinationSlots.foldlM (scheduleStore cfg id) acc
  if numMemOps < numAdded then none
  else if numMemOps = numAdded then
    pure (s.updateRob id fun r =>
      { r with
        scheduled := COMPLETED
        executed := if r.executed = 0 then INFLIGHT else r.executed })
  else pure s

/-- The loop of `schedule_memory_instruction` over the ROB, with the search bandwidth that
every entry not yet executed uses up. -/
def scheduleMemoryLoop : List Nat → Nat → O3Lsq → Option O3Lsq
  | [], _, s => some s
  | id :: ids, searchBw, s =>
    if searchBw = 0 then some s
    else do
      let r := s.core.robEntry id
      let s ← if r.isMemory ∧ r.numRegDependent = 0 ∧ r.scheduled = INFLIGHT then
          s.doMemoryScheduling cfg id
        else pure s
      scheduleMemoryLoop ids (if (s.core.robEntry id).executed = 0 then searchBw - 1 else searchBw) s

def scheduleMemoryInstruction (s : O3Lsq) : Option O3Lsq :=
  scheduleMemoryLoop cfg s.core.ROB cfg.SCHEDULER_SIZE s

/-! ### Execution -/

/-- `do_translate_store(sq_it)`: an `RFO` for the store's virtual address to the DTLB, which
returns to `DTLB_bus`; the entry is in translation unless the DTLB is full (`-2`). -/
def doTranslateStore (s : O3Lsq) (k : Nat) : O3Lsq × Int :=
  let e := s.sqEntry k
  let (dtlb, rqIndex) := s.dtlb.addRq
    { fillLevel := s.dtlb.fillLevel, cpu := cfg.cpu, address := e.virtualAddress,
      vAddress := e.virtualAddress, instrId := e.instrId, ip := e.ip, type := RFO,
      toReturn := [cfg.dtlbBus], sqIndexDependOnMe := [k] }
  ({ s with
      dtlb
      SQ := if rqIndex ≠ -2 then s.SQ.modify k fun e => { e with translated := INFLIGHT }
        else s.SQ },
    rqIndex)

def doTranslateLoad (s : O3Lsq) (k : Nat) : O3Lsq × Int :=
  let e := s.lqEntry k
  let (dtlb, rqIndex) := s.dtlb.addRq
    { fillLevel := s.dtlb.fillLevel, cpu := cfg.cpu, address := e.virtualAddress,
      vAddress := e.virtualAddress, instrId := e.instrId, ip := e.ip, type := LOAD,
      toReturn := [cfg.dtlbBus], lqIndexDependOnMe := [k] }
  ({ s with
      dtlb
      LQ := if rqIndex ≠ -2 then s.LQ.modify k fun e => { e with translated := INFLIGHT }
        else s.LQ },
    rqIndex)

/-- `execute_load(lq_it)`: a `LOAD` of the physical address to the L1D, which returns to
`L1D_bus`; the entry is being fetched unless the L1D is full. -/
def executeLoad (s : O3Lsq) (k : Nat) : O3Lsq × Int :=
  let e := s.lqEntry k
  let (l1d, rqIndex) := s.l1d.addRq
    { fillLevel := s.l1d.fillLevel, cpu := cfg.cpu, address := e.physicalAddress,
      vAddress := e.virtualAddress, instrId := e.instrId, ip := e.ip, type := LOAD,
      toReturn := [cfg.l1dBus], lqIndexDependOnMe := [k] }
  ({ s with
      l1d
      LQ := if rqIndex ≠ -2 then s.LQ.modify k fun e => { e with fetched := INFLIGHT }
        else s.LQ },
    rqIndex)

/-- One iteration of the inner loop of `execute_store`: a source operand of the dependent in
the LQ at the store's address is forwarded, after `assert(producer_id == instr_id)`. -/
def forwardOperand (sq : LsqEntry) (dependent : Nat) (s : O3Lsq) (j : Fin NUM_INSTR_SOURCES) :
    Option O3Lsq :=
  let d := s.core.robEntry dependent
  if d.sourceMemory[j] ≠ 0 ∧ d.sourceAdded[j] = true then
    if d.sourceMemory[j] = sq.virtualAddress then
      if (s.lqEntry d.lqIndex[j]).producerId = sq.instrId then s.doSqForwardToLq d.lqIndex[j]
      else none
    else some s
  else some s

def forwardDependent (sq : LsqEntry) (s : O3Lsq) (dependent : Nat) : Option O3Lsq :=
  sourceSlots.foldlM (forwardOperand sq dependent) s

/-- `execute_store(sq_it)`: the store's operation is done, and the loads listed as its
dependents are forwarded. -/
def executeStore (s : O3Lsq) (k : Nat) : Option O3Lsq := do
  let s := { s with
    SQ := s.SQ.modify k fun e => { e with fetched := COMPLETED, eventCycle := s.core.currentCycle } }
  let sq := s.sqEntry k
  let c ← s.core.memOpChecked sq.robIndex
  (c.robEntry sq.robIndex).memoryInstrsDependOnMe.foldlM (forwardDependent sq) { s with core := c }

/-- The first loop of `operate_lsq`: translations from `RTS0` while the width lasts and the
DTLB takes them, with the width used so far. -/
def translateStores : Nat → Nat × O3Lsq → Nat × O3Lsq
  | 0, acc => acc
  | n + 1, (issued, s) =>
    match s.RTS0 with
    | [] => (issued, s)
    | k :: rest =>
      let (s, rqIndex) := s.doTranslateStore cfg k
      if rqIndex = -2 then (issued, s) else translateStores n (issued + 1, { s with RTS0 := rest })

/-- The second loop: the stores of `RTS1` execute in the width left. -/
def executeStores : Nat → Nat × O3Lsq → Option (Nat × O3Lsq)
  | 0, acc => some acc
  | n + 1, (issued, s) =>
    match s.RTS1 with
    | [] => some (issued, s)
    | k :: rest => do
      let s ← s.executeStore k
      executeStores n (issued + 1, { s with RTS1 := rest })

def translateLoads : Nat → Nat × O3Lsq → Nat × O3Lsq
  | 0, acc => acc
  | n + 1, (issued, s) =>
    match s.RTL0 with
    | [] => (issued, s)
    | k :: rest =>
      let (s, rqIndex) := s.doTranslateLoad cfg k
      if rqIndex = -2 then (issued, s) else translateLoads n (issued + 1, { s with RTL0 := rest })

def executeLoads : Nat → Nat × O3Lsq → Nat × O3Lsq
  | 0, acc => acc
  | n + 1, (issued, s) =>
    match s.RTL1 with
    | [] => (issued, s)
    | k :: rest =>
      let (s, rqIndex) := s.executeLoad cfg k
      if rqIndex = -2 then (issued, s) else executeLoads n (issued + 1, { s with RTL1 := rest })

def operateLsq (s : O3Lsq) : Option O3Lsq := do
  let (storeIssued, s) := translateStores cfg cfg.SQ_WIDTH (0, s)
  let (_, s) ← executeStores (cfg.SQ_WIDTH - storeIssued) (storeIssued, s)
  let (loadIssued, s) := translateLoads cfg cfg.LQ_WIDTH (0, s)
  pure (executeLoads cfg (cfg.LQ_WIDTH - loadIssued) (loadIssued, s)).2

/-! ### Returns and retirement -/

/-- The DTLB part of `handle_memory_return` for one packet: each merged SQ and LQ entry takes
its physical address and goes on to `RTS1` or `RTL1`. -/
def dtlbReturned (s : O3Lsq) (p : PACKET) : O3Lsq :=
  let translate (e : LsqEntry) : LsqEntry :=
    { e with
      physicalAddress := spliceBits p.data e.virtualAddress LOG2_PAGE_SIZE
      translated := COMPLETED
      eventCycle := s.core.currentCycle }
  let s := p.sqIndexDependOnMe.foldl
    (fun s k => { s with SQ := s.SQ.modify k translate, RTS1 := s.RTS1 ++ [k] }) s
  p.lqIndexDependOnMe.foldl
    (fun s k => { s with LQ := s.LQ.modify k translate, RTL1 := s.RTL1 ++ [k] }) s

/-- The L1D part for one packet: each merged LQ entry's load is done and the entry is reset.
Unlike the other two completions, nothing asserts that the count stays nonnegative. -/
def l1dReturned (s : O3Lsq) (p : PACKET) : O3Lsq :=
  p.lqIndexDependOnMe.foldl
    (fun s k => { s with core := s.core.memOpDone (s.lqEntry k).robIndex, LQ := s.LQ.set k {} }) s

/-- The DTLB loop: at most `MAX_READ` packets of `PROCESSED`. -/
def dtlbReturnLoop : Nat → O3Lsq → O3Lsq
  | 0, s => s
  | n + 1, s =>
    match s.dtlbProcessed with
    | [] => s
    | p :: rest => dtlbReturnLoop n { s.dtlbReturned p with dtlbProcessed := rest }

def l1dReturnLoop : Nat → O3Lsq → O3Lsq
  | 0, s => s
  | n + 1, s =>
    match s.l1dProcessed with
    | [] => s
    | p :: rest => l1dReturnLoop n { s.l1dReturned p with l1dProcessed := rest }

def handleMemoryReturn (s : O3Lsq) : O3Lsq :=
  l1dReturnLoop cfg.l1dMaxRead (dtlbReturnLoop cfg.dtlbMaxRead s)

/-- The stores of the instruction at the front of the ROB, as `retire_rob` gives them to the
L1D's write queue: each one taken is cleared from the instruction and frees its SQ entry, and
the first one refused returns from `retire_rob` (`false`). -/
def retireStores (id : Nat) : List (Fin NUM_INSTR_DESTINATIONS_SPARC) → O3Lsq → Bool × O3Lsq
  | [], s => (true, s)
  | i :: is, s =>
    let r := s.core.robEntry id
    if r.destinationMemory[i] = 0 then retireStores id is s
    else
      let e := s.sqEntry r.sqIndex[i]
      let (l1d, result) := s.l1d.addWq
        { fillLevel := s.l1d.fillLevel, cpu := cfg.cpu, address := e.physicalAddress,
          vAddress := e.virtualAddress, instrId := e.instrId, ip := e.ip, type := RFO }
      if result = -2 then (false, { s with l1d })
      else
        retireStores id is
          { s.updateRob id (fun r => { r with destinationMemory := r.destinationMemory.set i 0 })
            with l1d, SQ := s.SQ.set r.sqIndex[i] {} }

/-- The loop of `retire_rob`: completed instructions leave the front while the width lasts;
`false` is the return after a refused store. -/
def retireLoop : Nat → O3Lsq → Bool × O3Lsq
  | 0, s => (true, s)
  | n + 1, s =>
    match s.core.ROB with
    | [] => (true, s)
    | id :: rest =>
      if (s.core.robEntry id).executed ≠ COMPLETED then (true, s)
      else
        let (retired, s) := retireStores cfg id destinationSlots s
        if retired then retireLoop n { s with core := { s.core with ROB := rest } }
        else (false, s)

/-- `retire_rob()`, with the deadlock check at its end as a `none`. -/
def retireRob (s : O3Lsq) : Option O3Lsq :=
  let (checks, s) := retireLoop cfg cfg.RETIRE_WIDTH s
  match s.core.ROB with
  | id :: _ =>
    if checks ∧ (s.core.robEntry id).eventCycle + DEADLOCK_CYCLE ≤ s.core.currentCycle then none
    else some s
  | [] => some s

/-- What `init_instruction` does for the queues: the instruction gets its id and its `STA`
entries, and goes on decoded, with its registers cleared before the warmup is complete. The
branch predictor is left to the front end. -/
def initInstruction (s : O3Lsq) (archInstr : OooModelInstr) : Option O3Lsq := do
  let archInstr := { archInstr with instrId := s.instrUniqueId }
  let sta ← pushSta (cfg.ROB_SIZE * NUM_INSTR_DESTINATIONS_SPARC) s.instrUniqueId
    (storeOperands archInstr) s.STA
  let instr := { decodeInstr archInstr with eventCycle := s.core.currentCycle }
  let instr := if s.core.warmupComplete then instr else O3Cpu.clearRegisters instr
  pure { s with STA := sta, frontEnd := s.frontEnd ++ [instr], instrUniqueId := s.instrUniqueId + 1 }

/-- One iteration of `dispatch_instruction`: the oldest decoded instruction enters the ROB
unless it is full. -/
def dispatch (s : O3Lsq) : O3Lsq :=
  match s.frontEnd with
  | [] => s
  | instr :: rest =>
    if s.core.ROB.length < cfg.ROB_SIZE then
      { s with core := s.core.dispatch cfg.toBackendConfig instr, frontEnd := rest }
    else s

end O3Lsq

/-- The functions a core runs, in any order, the instructions its trace reader returns, and
the returns of the DTLB and the L1D. -/
inductive LsqOp
  | initInstruction (instr : OooModelInstr)
  | dispatch
  | scheduleInstruction
  | executeInstruction
  | scheduleMemoryInstruction
  | operateLsq
  | handleMemoryReturn
  | completeInflightInstruction
  | retireRob
  | dtlbReturn (packet : PACKET)
  | l1dReturn (packet : PACKET)
  | tick
  | completeWarmup

namespace O3Lsq

variable (cfg : LsqConfig)

def step (s : O3Lsq) : LsqOp → Option O3Lsq
  | .initInstruction instr => s.initInstruction cfg instr
  | .dispatch => some (s.dispatch cfg)
  | .scheduleInstruction =>
    (s.core.scheduleInstruction cfg.toBackendConfig).map fun c => { s with core := c }
  | .executeInstruction => some { s with core := s.core.executeInstruction cfg.toBackendConfig }
  | .scheduleMemoryInstruction => s.scheduleMemoryInstruction cfg
  | .operateLsq => s.operateLsq cfg
  | .handleMemoryReturn => some (s.handleMemoryReturn cfg)
  | .completeInflightInstruction =>
    (s.core.completeInflightInstruction cfg.toBackendConfig).map fun c => { s with core := c }
  | .retireRob => s.retireRob cfg
  | .dtlbReturn packet => some { s with dtlbProcessed := CacheBus.returnData s.dtlbProcessed packet }
  | .l1dReturn packet => some { s with l1dProcessed := CacheBus.returnData s.l1dProcessed packet }
  | .tick => some { s with core := { s.core with currentCycle := s.core.currentCycle + 1 } }
  | .completeWarmup => some { s with core := { s.core with warmupComplete := true } }

def run (s : O3Lsq) (ops : List LsqOp) : Option O3Lsq :=
  ops.foldlM (step cfg) s

end O3Lsq

/-! ### Completions -/

namespace O3Backend

/-- An instruction but for the two fields a completion changes, its count of memory operations
and its event cycle. -/
def sansMemOps (r : OooModelInstr) : OooModelInstr :=
  { r with numMemOps := 0, eventCycle := 0 }

@[simp] theorem robEntry_memOpDone (c : O3Backend) (id : Nat) :
    (c.memOpDone id).robEntry = Function.update c.robEntry id
      { c.robEntry id with numMemOps := (c.robEntry id).numMemOps - 1, eventCycle := c.currentCycle } := by
  unfold memOpDone
  dsimp only
  split <;> rfl

@[simp] theorem ROB_memOpDone (c : O3Backend) (id : Nat) : (c.memOpDone id).ROB = c.ROB := by
  unfold memOpDone
  dsimp only
  split <;> rfl

theorem sansMemOps_memOpDone (c : O3Backend) (id x : Nat) :
    sansMemOps ((c.memOpDone id).robEntry x) = sansMemOps (c.robEntry x) := by
  rw [robEntry_memOpDone, Function.update_apply]
  split
  · next h =>
    subst h
    rfl
  · rfl

theorem eq_memOpDone_of_memOpChecked {c c' : O3Backend} {id : Nat}
    (h : c.memOpChecked id = some c') : c' = c.memOpDone id := by
  unfold memOpChecked at h
  split at h
  · cases h
  · exact (Option.some.inj h).symm

end O3Backend

namespace O3Lsq

variable (cfg : LsqConfig)

/-! ### What a forward leaves -/

/-- What the forwarding loops of `execute_store` leave: every instruction but for its count and
its cycle, and every LQ slot unless it is reset. -/
structure Forwarded (s s' : O3Lsq) : Prop where
  rob : ∀ x, O3Backend.sansMemOps (s'.core.robEntry x) = O3Backend.sansMemOps (s.core.robEntry x)
  slot : ∀ m, s'.lqEntry m = s.lqEntry m ∨ s'.lqEntry m = {}

namespace Forwarded

variable {s₁ s₂ s₃ : O3Lsq}

theorem refl (s : O3Lsq) : Forwarded s s :=
  ⟨fun _ => rfl, fun _ => .inl rfl⟩

theorem trans (h₁ : Forwarded s₁ s₂) (h₂ : Forwarded s₂ s₃) : Forwarded s₁ s₃ where
  rob x := (h₂.rob x).trans (h₁.rob x)
  slot m := by
    rcases h₂.slot m with h | h
    · rw [h]
      exact h₁.slot m
    · exact .inr h

theorem reset (h : Forwarded s₁ s₂) {m : Nat} (hm : s₁.lqEntry m = {}) : s₂.lqEntry m = {} := by
  rcases h.slot m with h' | h'
  · rw [h', hm]
  · exact h'

theorem sourceMemory (h : Forwarded s₁ s₂) (x : Nat) :
    (s₂.core.robEntry x).sourceMemory = (s₁.core.robEntry x).sourceMemory :=
  (congrArg OooModelInstr.sourceMemory (h.rob x) :)

theorem sourceAdded (h : Forwarded s₁ s₂) (x : Nat) :
    (s₂.core.robEntry x).sourceAdded = (s₁.core.robEntry x).sourceAdded :=
  (congrArg OooModelInstr.sourceAdded (h.rob x) :)

theorem lqIndex (h : Forwarded s₁ s₂) (x : Nat) :
    (s₂.core.robEntry x).lqIndex = (s₁.core.robEntry x).lqIndex :=
  (congrArg OooModelInstr.lqIndex (h.rob x) :)

theorem memoryInstrsDependOnMe (h : Forwarded s₁ s₂) (x : Nat) :
    (s₂.core.robEntry x).memoryInstrsDependOnMe = (s₁.core.robEntry x).memoryInstrsDependOnMe :=
  (congrArg OooModelInstr.memoryInstrsDependOnMe (h.rob x) :)

end Forwarded

theorem forwarded_doSqForwardToLq {s s' : O3Lsq} {k : Nat} (h : s.doSqForwardToLq k = some s') :
    Forwarded s s' ∧ s'.lqEntry k = {} := by
  unfold doSqForwardToLq at h
  obtain ⟨c, hc, h⟩ := Option.bind_eq_some_iff.mp h
  cases h
  rw [O3Backend.eq_memOpDone_of_memOpChecked hc]
  refine ⟨⟨fun x => O3Backend.sansMemOps_memOpDone _ _ x, fun m => ?_⟩,
    StdAlgorithm.getD_set_self_default _ _ _⟩
  exact StdAlgorithm.getD_set_eq_or s.LQ k m {} {}

theorem forwarded_forwardOperand {sq : LsqEntry} {d : Nat} {s s' : O3Lsq}
    {j : Fin NUM_INSTR_SOURCES} (h : forwardOperand sq d s j = some s') : Forwarded s s' := by
  unfold forwardOperand at h
  dsimp only at h
  split_ifs at h
  · exact (forwarded_doSqForwardToLq h).1
  all_goals
    cases h
    exact Forwarded.refl s

theorem forwarded_forwardDependent {sq : LsqEntry} {s s' : O3Lsq} {d : Nat}
    (h : forwardDependent sq s d = some s') : Forwarded s s' :=
  StdAlgorithm.foldlM_rel Forwarded.refl Forwarded.trans (fun _ _ _ => forwarded_forwardOperand)
    sourceSlots h

theorem forwarded_foldlM_forwardDependent {sq : LsqEntry} {s s' : O3Lsq} {deps : List Nat}
    (h : deps.foldlM (forwardDependent sq) s = some s') : Forwarded s s' :=
  StdAlgorithm.foldlM_rel Forwarded.refl Forwarded.trans
    (fun _ _ _ => forwarded_forwardDependent) deps h

/-! ### A load listed twice -/

section ListedTwice

variable {sq : LsqEntry} {d : Nat} {j : Fin NUM_INSTR_SOURCES}

/-- The operand `j` of the dependent `d` is in the LQ at the address of the store `sq`: the
test of the inner loop of `execute_store`. -/
def OperandAt (sq : LsqEntry) (d : Nat) (j : Fin NUM_INSTR_SOURCES) (s : O3Lsq) : Prop :=
  sq.virtualAddress ≠ 0 ∧ (s.core.robEntry d).sourceMemory[j] = sq.virtualAddress ∧
    (s.core.robEntry d).sourceAdded[j] = true

theorem OperandAt.of_forwarded {s s' : O3Lsq} (h : OperandAt sq d j s) (hf : Forwarded s s') :
    OperandAt sq d j s' := by
  obtain ⟨hva, hm, ha⟩ := h
  exact ⟨hva, by rw [hf.sourceMemory]; exact hm, by rw [hf.sourceAdded]; exact ha⟩

theorem forwardOperand_of_operandAt {s : O3Lsq} (h : OperandAt sq d j s) :
    forwardOperand sq d s j =
      if (s.lqEntry (s.core.robEntry d).lqIndex[j]).producerId = sq.instrId then
        s.doSqForwardToLq (s.core.robEntry d).lqIndex[j]
      else none := by
  obtain ⟨hva, hm, ha⟩ := h
  unfold forwardOperand
  dsimp only
  rw [if_pos ⟨hm ▸ hva, ha⟩, if_pos hm]

theorem mem_sourceSlots (j : Fin NUM_INSTR_SOURCES) : j ∈ sourceSlots :=
  List.mem_finRange j

theorem forwardDependent_resets {s s' : O3Lsq} (hj : OperandAt sq d j s)
    (h : forwardDependent sq s d = some s') : s'.lqEntry (s.core.robEntry d).lqIndex[j] = {} := by
  obtain ⟨pre, post, hsplit⟩ := List.append_of_mem (mem_sourceSlots j)
  unfold forwardDependent at h
  rw [hsplit] at h
  obtain ⟨s₁, s₂, h₁, h₂, h₃⟩ := StdAlgorithm.foldlM_append_cons_eq_some h
  have hf₁ := StdAlgorithm.foldlM_rel Forwarded.refl Forwarded.trans
    (fun _ _ _ => forwarded_forwardOperand) pre h₁
  have hf₃ := StdAlgorithm.foldlM_rel Forwarded.refl Forwarded.trans
    (fun _ _ _ => forwarded_forwardOperand) post h₃
  rw [forwardOperand_of_operandAt (hj.of_forwarded hf₁)] at h₂
  -- the assertion holds, or the loop would have failed
  split_ifs at h₂
  rw [← hf₁.lqIndex]
  exact hf₃.reset (forwarded_doSqForwardToLq h₂).2

theorem forwardDependent_eq_none {s : O3Lsq} (hj : OperandAt sq d j s)
    (hreset : s.lqEntry (s.core.robEntry d).lqIndex[j] = {}) (hid : sq.instrId ≠ UINT64_MAX) :
    forwardDependent sq s d = none := by
  obtain ⟨pre, post, hsplit⟩ := List.append_of_mem (mem_sourceSlots j)
  unfold forwardDependent
  rw [hsplit]
  refine StdAlgorithm.foldlM_append_cons_eq_none fun s₁ h₁ => ?_
  have hf₁ := StdAlgorithm.foldlM_rel Forwarded.refl Forwarded.trans
    (fun _ _ _ => forwarded_forwardOperand) pre h₁
  have hslot : s₁.lqEntry (s₁.core.robEntry d).lqIndex[j] = {} := by
    rw [hf₁.lqIndex]
    exact hf₁.reset hreset
  rw [forwardOperand_of_operandAt (hj.of_forwarded hf₁), hslot, if_neg (Ne.symm hid)]

theorem foldlM_forwardDependent_eq_none {s : O3Lsq} {deps : List Nat} (hdup : [d, d].Sublist deps)
    (hj : OperandAt sq d j s) (hid : sq.instrId ≠ UINT64_MAX) :
    deps.foldlM (forwardDependent sq) s = none := by
  obtain ⟨r₁, r₂, rfl, hd₁, hd₂⟩ := List.cons_sublist_iff.mp hdup
  obtain ⟨a, b, rfl⟩ := List.append_of_mem hd₁
  obtain ⟨c, e, rfl⟩ := List.append_of_mem (List.singleton_sublist.mp hd₂)
  -- the loop runs over `a`, the first listing, `b ++ c`, and then fails at the second listing
  rw [show a ++ d :: b ++ (c ++ d :: e) = (a ++ d :: (b ++ c)) ++ d :: e by simp]
  refine StdAlgorithm.foldlM_append_cons_eq_none fun s₃ h₃ => ?_
  obtain ⟨s₁, s₂, h₁, h₂, h₃⟩ := StdAlgorithm.foldlM_append_cons_eq_some h₃
  have hf₁ := forwarded_foldlM_forwardDependent h₁
  have hf₃ := forwarded_foldlM_forwardDependent h₃
  have hf₂ := forwarded_forwardDependent h₂
  have hreset := forwardDependent_resets (hj.of_forwarded hf₁) h₂
  refine forwardDependent_eq_none (hj.of_forwarded ((hf₁.trans hf₂).trans hf₃)) ?_ hid
  rw [hf₃.lqIndex, hf₂.lqIndex]
  exact hf₃.reset hreset

end ListedTwice

/-- `execute_store` fails its assertion when the store lists a load twice among its
dependents and the load has an operand in the LQ at the store's address. -/
theorem executeStore_eq_none_of_dependent_twice {s : O3Lsq} {k d : Nat}
    {j : Fin NUM_INSTR_SOURCES}
    (hdup : [d, d].Sublist (s.core.robEntry (s.sqEntry k).robIndex).memoryInstrsDependOnMe)
    (hj : OperandAt (s.sqEntry k) d j s) (hid : (s.sqEntry k).instrId ≠ UINT64_MAX) :
    s.executeStore k = none := by
  -- the entry is in range, as its address is not the default one
  have hk : k < s.SQ.length := by
    by_contra hk
    have hdef : s.sqEntry k = {} := by
      unfold sqEntry
      rw [List.getD_eq_getElem?_getD, List.getElem?_eq_none (Nat.le_of_not_lt hk)]
      rfl
    exact hj.1 (by rw [hdef])
  unfold executeStore
  dsimp only
  generalize hsq : ({ s with SQ := s.SQ.modify k fun e =>
    { e with fetched := COMPLETED, eventCycle := s.core.currentCycle } } : O3Lsq).sqEntry k = sq
  have hsq' : sq = { s.sqEntry k with fetched := COMPLETED, eventCycle := s.core.currentCycle } := by
    rw [← hsq]
    exact StdAlgorithm.getD_modify_self hk _ _
  subst hsq'
  cases hc : s.core.memOpChecked (s.sqEntry k).robIndex with
  | none => rfl
  | some c =>
    have hfc : Forwarded s { s with core := c, SQ := s.SQ.modify k fun e =>
        { e with fetched := COMPLETED, eventCycle := s.core.currentCycle } } :=
      ⟨fun x => by rw [O3Backend.eq_memOpDone_of_memOpChecked hc]; exact O3Backend.sansMemOps_memOpDone _ _ x,
        fun _ => .inl rfl⟩
    change List.foldlM _ _ (c.robEntry (s.sqEntry k).robIndex).memoryInstrsDependOnMe = none
    refine foldlM_forwardDependent_eq_none (d := d) (j := j) ?_ ?_ hid
    · have hsame := hfc.memoryInstrsDependOnMe (s.sqEntry k).robIndex
      exact hsame ▸ hdup
    · exact hj.of_forwarded hfc

end O3Lsq

/-! ### A load of two addresses of one store -/

def lsqConfig : LsqConfig where
  ROB_SIZE := 352
  SCHEDULER_SIZE := 128
  EXEC_WIDTH := 4
  RETIRE_WIDTH := 5
  BRANCH_MISPREDICT_PENALTY := 1
  SCHEDULING_LATENCY := 0
  EXEC_LATENCY := 0
  LQ_SIZE := 128
  SQ_SIZE := 72
  LQ_WIDTH := 2
  SQ_WIDTH := 2
  cpu := 0
  dtlbMaxRead := 2
  l1dMaxRead := 2
  dtlbBus := 0
  l1dBus := 1

/-- The DTLB of the configuration, empty: read and write queues of sixteen, no prefetch
queue. -/
def configDtlb : LowerLevel where
  fillLevel := 1
  occupancy _ := 0
  size t := if t = 3 then 0 else 16

/-- The L1D of the configuration, empty: read and write queues of sixty-four, a prefetch
queue of eight. -/
def configL1d : LowerLevel where
  fillLevel := 1
  occupancy _ := 0
  size t := if t = 3 then 8 else 64

/-- A trace of an instruction without operands, a store to two addresses and a load of both,
and one more instruction; the reader returns its first record twice, so the store is
instruction `2` and the load instruction `3`. -/
def storeLoadTrace : List InputInstr :=
  [{ ip := 0x400000 },
   { ip := 0x400004, destinationMemory := #v[0x10000, 0x10040] },
   { ip := 0x400008, sourceMemory := #v[0x10000, 0x10040, 0, 0] },
   { ip := 0x40000c }]

/-- The DTLB's translation of the store's first address, returned to `DTLB_bus`. -/
def storeTranslation : PACKET :=
  { fillLevel := 1, address := 0x10000, vAddress := 0x10000, data := 0x20000, instrId := 2,
    ip := 0x400004, type := RFO, toReturn := [0], sqIndexDependOnMe := [0] }

/-- The reader's instructions fetched and dispatched, then the two stages of scheduling, the
store's translations sent, and the first one returned. -/
def storeLoadOps : List LsqOp :=
  (InputTracereader.gets 0 {} storeLoadTrace).map .initInstruction ++
    List.replicate 4 .dispatch ++
    [.scheduleInstruction, .scheduleMemoryInstruction, .operateLsq,
      .dtlbReturn storeTranslation, .handleMemoryReturn]

def storeLoadRun : Option O3Lsq :=
  (O3Lsq.init lsqConfig configDtlb configL1d).run lsqConfig storeLoadOps

/-- After the run the store in SQ slot `0` lists the load twice, and the load's first operand
is at the store's address, so its `execute_store` fails. -/
theorem executeStore_dependentTwice_storeLoad :
    ∃ s, storeLoadRun = some s ∧
      [3, 3].Sublist (s.core.robEntry (s.sqEntry 0).robIndex).memoryInstrsDependOnMe ∧
      O3Lsq.OperandAt (s.sqEntry 0) 3 ⟨0, by decide⟩ s ∧ (s.sqEntry 0).instrId ≠ UINT64_MAX ∧
      s.executeStore 0 = none := by
  have hs : storeLoadRun.isSome := by decide +kernel
  have hid : ((storeLoadRun.get hs).sqEntry 0).instrId ≠ UINT64_MAX := by
    decide +revert +kernel
  have hdup : [3, 3].Sublist ((storeLoadRun.get hs).core.robEntry
      ((storeLoadRun.get hs).sqEntry 0).robIndex).memoryInstrsDependOnMe := by
    decide +revert +kernel
  have hj : O3Lsq.OperandAt ((storeLoadRun.get hs).sqEntry 0) 3 ⟨0, by decide⟩ (storeLoadRun.get hs) := by
    unfold O3Lsq.OperandAt
    decide +revert +kernel
  exact ⟨_, Option.eq_some_of_isSome hs, hdup, hj, hid,
    O3Lsq.executeStore_eq_none_of_dependent_twice hdup hj hid⟩

theorem lsq_loadOfOneStore_fails :
    storeLoadRun.map (fun s => ((s.core.robEntry 2).memoryInstrsDependOnMe, s.RTS1)) =
        some ([3, 3], [0]) ∧
      storeLoadRun.bind (O3Lsq.operateLsq lsqConfig) = none := by
  refine ⟨by decide +kernel, Option.isNone_iff_eq_none.mp (by decide +kernel)⟩

end MindPalace.ChampSim
