import Mathlib
import MindPalace.ChampSim.DelayQueueInvariant
import MindPalace.ChampSim.Dib
import MindPalace.ChampSim.LoadStoreQueue

/-! # The front end of the core

The path of an instruction through `O3_CPU` (`src/ooo_cpu.cc`) from `init_instruction` through
`IFETCH_BUFFER`, the ITLB and L1I requests, `DECODE_BUFFER` and `DISPATCH_BUFFER` to the ROB.
Packets name their waiting instructions by slot numbers that may outlive them, which is why
`handle_memory_return` checks the page or the block before it writes. The ITLB and the L1I are
`LowerLevel`s; every `assert` and a thrown `champsim::deadlock` is a `none`.
-/

namespace MindPalace.ChampSim

namespace CircularBuffer

variable {α : Type}

def slotOf (b : CircularBuffer α) (pos : Nat) : Fin (b.sz + 1) :=
  b.inc pos 0

def modifyAt (b : CircularBuffer α) (pos : Nat) (f : α → α) : CircularBuffer α :=
  { b with entry := Function.update b.entry (b.slotOf pos) (f (b.entry (b.slotOf pos))) }

end CircularBuffer

/-- The constants of an `O3_CPU` that the front end reads. `itlbMaxRead` and `l1iMaxRead` are
the `MAX_READ` of the ITLB and of the L1I, and `itlbBus` and `l1iBus` stand for `ITLB_bus` and
`L1I_bus` in a packet's `to_return`. -/
structure FrontEndConfig where
  IFETCH_BUFFER_SIZE : Nat
  DECODE_BUFFER_SIZE : Nat
  DISPATCH_BUFFER_SIZE : Nat
  ROB_SIZE : Nat
  FETCH_WIDTH : Nat
  DECODE_WIDTH : Nat
  DISPATCH_WIDTH : Nat
  BRANCH_MISPREDICT_PENALTY : Nat
  DECODE_LATENCY : Nat
  DISPATCH_LATENCY : Nat
  cpu : Nat
  itlbMaxRead : Nat
  l1iMaxRead : Nat
  itlbBus : Nat
  l1iBus : Nat
  dib : DibConfig

/-- The members of `O3_CPU` from `IFETCH_BUFFER` to the ROB: those `init_instruction` reads and
writes, the two delay queues, the DIB, the ITLB and the L1I with the `PROCESSED` queues of
their buses, and `num_retired`. -/
structure O3FrontEnd (σ : Type) where
  cpu : O3Cpu σ
  DECODE_BUFFER : DelayQueue OooModelInstr
  DISPATCH_BUFFER : DelayQueue OooModelInstr
  fetchResumeCycle : Nat
  DIB : Dib
  itlb : LowerLevel
  l1i : LowerLevel
  itlbProcessed : List PACKET
  l1iProcessed : List PACKET
  numRetired : Nat

namespace O3FrontEnd

variable {σ : Type} (cfg : FrontEndConfig)

def new (p : σ) (itlb l1i : LowerLevel) : O3FrontEnd σ where
  cpu :=
    { instrsToReadThisCycle := 0
      instrUniqueId := 0
      sta := []
      rob := .empty cfg.ROB_SIZE
      ifetchBuffer := .empty cfg.IFETCH_BUFFER_SIZE
      fetchStall := false
      numBranch := 0
      branchMispredictions := 0
      totalRobOccupancyAtBranchMispredict := 0
      totalBranchTypes := Vector.replicate 8 0
      branchTypeMisses := Vector.replicate 8 0
      currentCycle := 0
      warmupComplete := false
      predictor := p }
  DECODE_BUFFER := DelayQueue.new cfg.DECODE_BUFFER_SIZE cfg.DECODE_LATENCY
  DISPATCH_BUFFER := DelayQueue.new cfg.DISPATCH_BUFFER_SIZE cfg.DISPATCH_LATENCY
  fetchResumeCycle := 0
  DIB := Dib.init cfg.dib
  itlb := itlb
  l1i := l1i
  itlbProcessed := []
  l1iProcessed := []
  numRetired := 0

def setIfetch (s : O3FrontEnd σ) (b : CircularBuffer OooModelInstr) : O3FrontEnd σ :=
  { s with cpu := { s.cpu with ifetchBuffer := b } }

/-! ### Requests to the ITLB and the L1I -/

/-- The search of `translate_fetch` and `fetch_instruction`: the offset `first` of the first
instruction that `waiting` holds of, and the offset `last` that ends the run behind it with
the same `key`. `key` is read even when `first` is `end()`, as `itlb_req_begin->ip` is. The
run goes out unless it reaches `end()` behind an older instruction. -/
def requestRun (b : CircularBuffer OooModelInstr) (waiting : OooModelInstr → Bool)
    (key : OooModelInstr → Nat) : Option (Nat × Nat) :=
  let l := b.contents
  let first := l.findIdx waiting
  let findKey := key (b.entry (b.slot first))
  let last := first + (l.drop first).findIdx fun x => findKey != key x
  if last ≠ l.length ∨ first = 0 then some (first, last) else none

/-- The iterators from `begin() + first` up to `begin() + last`. -/
def runIterators (b : CircularBuffer OooModelInstr) (first last : Nat) : List Nat :=
  (List.range' first (last - first)).map fun k => (b.slot k).val

def markRun (b : CircularBuffer OooModelInstr) (deps : List Nat)
    (f : OooModelInstr → OooModelInstr) : CircularBuffer OooModelInstr :=
  deps.foldl (fun b k => b.modifyAt k f) b

/-- `do_translate_fetch(begin, end)`: one ITLB request for the run, whose instructions are
translated `INFLIGHT` once the ITLB takes it. -/
def doTranslateFetch (s : O3FrontEnd σ) (first last : Nat) : O3FrontEnd σ :=
  let b := s.cpu.ifetchBuffer
  let it := b.entry (b.slot first)
  let deps := runIterators b first last
  let tracePacket : PACKET :=
    { fillLevel := s.itlb.fillLevel, cpu := cfg.cpu, address := it.ip, vAddress := it.ip,
      instrId := it.instrId, ip := it.ip, type := LOAD, toReturn := [cfg.itlbBus],
      instrDependOnMe := deps }
  let (itlb, rqIndex) := s.itlb.addRq tracePacket
  if rqIndex ≠ -2 then
    { s.setIfetch (markRun b deps fun x => { x with translated := INFLIGHT }) with itlb }
  else { s with itlb }

/-- `translate_fetch()`: the first instruction not yet sent for translation, with those of its
page behind it. -/
def translateFetch (s : O3FrontEnd σ) : O3FrontEnd σ :=
  if s.cpu.ifetchBuffer.isEmpty then s
  else
    match requestRun s.cpu.ifetchBuffer (fun x => x.translated == 0)
        (fun x => x.ip >>> LOG2_PAGE_SIZE) with
    | some (first, last) => s.doTranslateFetch cfg first last
    | none => s

/-- `do_fetch_instruction(begin, end)`: one L1I request for the run at the physical address of
its first instruction, whose instructions are fetched `INFLIGHT` once the L1I takes it. -/
def doFetchInstruction (s : O3FrontEnd σ) (first last : Nat) : O3FrontEnd σ :=
  let b := s.cpu.ifetchBuffer
  let it := b.entry (b.slot first)
  let deps := runIterators b first last
  let fetchPacket : PACKET :=
    { fillLevel := s.l1i.fillLevel, cpu := cfg.cpu, address := it.instructionPa,
      data := it.instructionPa, vAddress := it.ip, instrId := it.instrId, ip := it.ip,
      type := LOAD, toReturn := [cfg.l1iBus], instrDependOnMe := deps }
  let (l1i, rqIndex) := s.l1i.addRq fetchPacket
  if rqIndex ≠ -2 then
    { s.setIfetch (markRun b deps fun x => { x with fetched := INFLIGHT }) with l1i }
  else { s with l1i }

/-- `fetch_instruction()`: fetch resumes once a misprediction's penalty has passed, and the
first translated instruction not yet fetched goes to the L1I with those of its block behind
it. -/
def fetchInstruction (s : O3FrontEnd σ) : O3FrontEnd σ :=
  let s := if s.cpu.fetchStall ∧ s.fetchResumeCycle ≤ s.cpu.currentCycle ∧ s.fetchResumeCycle ≠ 0 then
      { s with cpu := { s.cpu with fetchStall := false }, fetchResumeCycle := 0 }
    else s
  if s.cpu.ifetchBuffer.isEmpty then s
  else
    match requestRun s.cpu.ifetchBuffer (fun x => x.translated == COMPLETED && x.fetched == 0)
        (fun x => x.instructionPa >>> LOG2_BLOCK_SIZE) with
    | some (first, last) => s.doFetchInstruction cfg first last
    | none => s

/-! ### Returns from the ITLB and the L1I -/

/-- The inner loop of `handle_memory_return` over the iterators of the packet `p` at the front
of a bus's `PROCESSED`: an instruction that `serves p` holds of takes `serve p` and uses one
unit of the bandwidth; every iterator reached leaves the packet. The result holds the
bandwidth left and the iterators not reached. -/
def serveLoop (serves : PACKET → OooModelInstr → Bool) (serve : PACKET → OooModelInstr → OooModelInstr)
    (p : PACKET) :
    CircularBuffer OooModelInstr → Nat → List Nat → CircularBuffer OooModelInstr × Nat × List Nat
  | b, bw, [] => (b, bw, [])
  | b, 0, k :: deps => (b, 0, k :: deps)
  | b, bw + 1, k :: deps =>
    if serves p (b.entry (b.slotOf k)) then serveLoop serves serve p (b.modifyAt k (serve p)) bw deps
    else serveLoop serves serve p b (bw + 1) deps

/-- The outer loop: at most `MAX_READ` packets of `PROCESSED` while the bandwidth lasts. A
packet leaves `PROCESSED` once none of its iterators is left. -/
def returnLoop (serves : PACKET → OooModelInstr → Bool) (serve : PACKET → OooModelInstr → OooModelInstr) :
    Nat → Nat → CircularBuffer OooModelInstr × List PACKET → CircularBuffer OooModelInstr × List PACKET
  | 0, _, r => r
  | _ + 1, 0, r => r
  | _ + 1, _ + 1, (b, []) => (b, [])
  | toRead + 1, bw + 1, (b, p :: rest) =>
    let (b, bw, deps) := serveLoop serves serve p b (bw + 1) p.instrDependOnMe
    returnLoop serves serve toRead bw
      (b, if deps = [] then rest else { p with instrDependOnMe := deps } :: rest)

def itlbServes (p : PACKET) (it : OooModelInstr) : Bool :=
  it.ip >>> LOG2_PAGE_SIZE == p.address >>> LOG2_PAGE_SIZE && it.translated != 0

def itlbServe (p : PACKET) (it : OooModelInstr) : OooModelInstr :=
  { it with translated := COMPLETED, instructionPa := spliceBits p.data it.ip LOG2_PAGE_SIZE }

def l1iServes (p : PACKET) (it : OooModelInstr) : Bool :=
  it.instructionPa >>> LOG2_BLOCK_SIZE == p.address >>> LOG2_BLOCK_SIZE && it.fetched != 0 &&
    it.translated == COMPLETED

def l1iServe (_ : PACKET) (it : OooModelInstr) : OooModelInstr :=
  { it with fetched := COMPLETED }

/-- The instruction part of `handle_memory_return()`: the ITLB's returns, then the L1I's, with
`FETCH_WIDTH` of bandwidth each. -/
def handleMemoryReturn (s : O3FrontEnd σ) : O3FrontEnd σ :=
  let (b, itlbProcessed) :=
    returnLoop itlbServes itlbServe cfg.itlbMaxRead cfg.FETCH_WIDTH (s.cpu.ifetchBuffer, s.itlbProcessed)
  let (b, l1iProcessed) := returnLoop l1iServes l1iServe cfg.l1iMaxRead cfg.FETCH_WIDTH (b, s.l1iProcessed)
  { s.setIfetch b with itlbProcessed, l1iProcessed }

/-! ### The DIB -/

/-- The loop `for (it = begin(); it != end; ++it) do_check_dib(*it)` from the position `it`,
with the number of slots as fuel. -/
def checkDibLoop (currentCycle stop : Nat) :
    Nat → Nat → CircularBuffer OooModelInstr × Dib → CircularBuffer OooModelInstr × Dib
  | 0, _, r => r
  | fuel + 1, it, (b, dib) =>
    if b.iterEq it stop then (b, dib)
    else
      let (instr, dib) := Dib.doCheckDib cfg.dib currentCycle dib (b.entry (b.slotOf it))
      checkDibLoop currentCycle stop fuel (b.inc it 1).val (b.modifyAt it fun _ => instr, dib)

/-- `check_dib()`: the loop ends at `std::min(end(), begin() + FETCH_WIDTH)`, of which
`std::min` takes the second when `operator<` puts it first. -/
def checkDib (s : O3FrontEnd σ) : O3FrontEnd σ :=
  let b := s.cpu.ifetchBuffer
  let limit := b.iterAdd b.head cfg.FETCH_WIDTH
  let stop := if b.iterLt limit b.tail then limit else b.tail.val
  let (b, dib) := checkDibLoop cfg s.cpu.currentCycle stop (b.sz + 1) b.head (b, s.DIB)
  { s.setIfetch b with DIB := dib }

/-! ### Decode and dispatch -/

/-- `throw champsim::deadlock{cpu}` once the front of a buffer has waited `DEADLOCK_CYCLE`. -/
def deadlockCheck (s : O3FrontEnd σ) (empty : Bool) (front : OooModelInstr) : Option (O3FrontEnd σ) :=
  if !empty && decide (front.eventCycle + DEADLOCK_CYCLE ≤ s.cpu.currentCycle) then none else some s

/-- The loop of `promote_to_decode`: a translated and fetched instruction at the front of
`IFETCH_BUFFER` moves to `DECODE_BUFFER`, ready at once before the warmup is complete or when
the DIB has decoded it. -/
def promoteLoop : Nat → O3FrontEnd σ → Option (O3FrontEnd σ)
  | 0, s => some s
  | n + 1, s =>
    let b := s.cpu.ifetchBuffer
    if !b.isEmpty && !s.DECODE_BUFFER.full && b.front.translated == COMPLETED &&
        b.front.fetched == COMPLETED then do
      let decode ← if !s.cpu.warmupComplete || b.front.decoded != 0 then
          s.DECODE_BUFFER.pushBackReady b.front
        else s.DECODE_BUFFER.pushBack b.front
      let ifetch ← b.popFront
      promoteLoop n { s.setIfetch ifetch with DECODE_BUFFER := decode }
    else some s

def promoteToDecode (s : O3FrontEnd σ) : Option (O3FrontEnd σ) := do
  let s ← promoteLoop cfg.FETCH_WIDTH s
  s.deadlockCheck s.cpu.ifetchBuffer.isEmpty s.cpu.ifetchBuffer.front

/-- The loop of `decode_instruction`: a ready instruction at the front of `DECODE_BUFFER` enters
the DIB and moves to `DISPATCH_BUFFER`, ready at once before the warmup is complete. A direct
jump or call finds its misprediction here, and fetch resumes after the penalty. -/
def decodeLoop : Nat → O3FrontEnd σ → Option (O3FrontEnd σ)
  | 0, s => some s
  | n + 1, s =>
    if s.DECODE_BUFFER.hasReady && !s.DISPATCH_BUFFER.full then do
      let dbEntry := s.DECODE_BUFFER.front
      let dib ← Dib.doDibUpdate cfg.dib s.DIB dbEntry
      let (dbEntry, fetchResumeCycle) :=
        if dbEntry.branchMispredicted &&
            (dbEntry.branchType == BRANCH_DIRECT_JUMP || dbEntry.branchType == BRANCH_DIRECT_CALL) then
          ({ dbEntry with branchMispredicted := false },
            s.cpu.currentCycle + cfg.BRANCH_MISPREDICT_PENALTY)
        else (dbEntry, s.fetchResumeCycle)
      let dispatch ← if s.cpu.warmupComplete then s.DISPATCH_BUFFER.pushBack dbEntry
        else s.DISPATCH_BUFFER.pushBackReady dbEntry
      let decode ← s.DECODE_BUFFER.popFront
      decodeLoop n
        { s with DIB := dib, fetchResumeCycle, DISPATCH_BUFFER := dispatch, DECODE_BUFFER := decode }
    else some s

def decodeInstruction (s : O3FrontEnd σ) : Option (O3FrontEnd σ) := do
  let s ← decodeLoop cfg cfg.DECODE_WIDTH s
  s.deadlockCheck s.DECODE_BUFFER.isEmpty s.DECODE_BUFFER.front

/-- The loop of `dispatch_instruction`: a ready instruction at the front of `DISPATCH_BUFFER`
enters the ROB while it has room. -/
def dispatchLoop : Nat → O3FrontEnd σ → Option (O3FrontEnd σ)
  | 0, s => some s
  | n + 1, s =>
    if s.DISPATCH_BUFFER.hasReady && !s.cpu.rob.full then do
      let rob ← s.cpu.rob.pushBack s.DISPATCH_BUFFER.front
      let dispatch ← s.DISPATCH_BUFFER.popFront
      dispatchLoop n { s with cpu := { s.cpu with rob }, DISPATCH_BUFFER := dispatch }
    else some s

def dispatchInstruction (s : O3FrontEnd σ) : Option (O3FrontEnd σ) :=
  if s.DISPATCH_BUFFER.isEmpty then some s
  else do
    let s ← dispatchLoop cfg.DISPATCH_WIDTH s
    s.deadlockCheck s.DISPATCH_BUFFER.isEmpty s.DISPATCH_BUFFER.front

end O3FrontEnd

/-- The front end's functions, in any order; the instructions the trace reader returns, which
`main` hands to `init_instruction` while fetch is not stalled and the cycle's budget lasts; the
returns of the ITLB and the L1I; and the back end retiring the instruction at the front of the
ROB. -/
inductive FrontEndOp
  | beginCycle
  | initInstruction (instr : OooModelInstr)
  | checkDib
  | translateFetch
  | fetchInstruction
  | promoteToDecode
  | decodeInstruction
  | dispatchInstruction
  | handleMemoryReturn
  | operateBuffers
  | itlbReturn (packet : PACKET)
  | l1iReturn (packet : PACKET)
  | retire
  | tick
  | completeWarmup

namespace O3FrontEnd

variable {σ : Type} (bp : BranchPredictor σ) (cfg : FrontEndConfig)

/-- One call. `beginCycle` is the first line of `operate()`, and `operateBuffers` its last two,
`DISPATCH_BUFFER.operate()` and `DECODE_BUFFER.operate()`. -/
def step (s : O3FrontEnd σ) : FrontEndOp → Option (O3FrontEnd σ)
  | .beginCycle =>
    some { s with cpu := { s.cpu with
      instrsToReadThisCycle :=
        min cfg.FETCH_WIDTH (s.cpu.ifetchBuffer.sz - s.cpu.ifetchBuffer.occupancy) } }
  | .initInstruction instr =>
    if !s.cpu.fetchStall && 0 < s.cpu.instrsToReadThisCycle then
      (s.cpu.initInstruction bp instr).map fun cpu => { s with cpu }
    else some s
  | .checkDib => some (s.checkDib cfg)
  | .translateFetch => some (s.translateFetch cfg)
  | .fetchInstruction => some (s.fetchInstruction cfg)
  | .promoteToDecode => s.promoteToDecode cfg
  | .decodeInstruction => s.decodeInstruction cfg
  | .dispatchInstruction => s.dispatchInstruction cfg
  | .handleMemoryReturn => some (s.handleMemoryReturn cfg)
  | .operateBuffers =>
    some { s with DISPATCH_BUFFER := s.DISPATCH_BUFFER.operate, DECODE_BUFFER := s.DECODE_BUFFER.operate }
  | .itlbReturn packet => some { s with itlbProcessed := CacheBus.returnData s.itlbProcessed packet }
  | .l1iReturn packet => some { s with l1iProcessed := CacheBus.returnData s.l1iProcessed packet }
  | .retire =>
    match s.cpu.rob.popFront with
    | some rob => some { s with cpu := { s.cpu with rob }, numRetired := s.numRetired + 1 }
    | none => some s
  | .tick => some { s with cpu := { s.cpu with currentCycle := s.cpu.currentCycle + 1 } }
  | .completeWarmup => some { s with cpu := { s.cpu with warmupComplete := true } }

def run (s : O3FrontEnd σ) (ops : List FrontEndOp) : Option (O3FrontEnd σ) :=
  ops.foldlM (step bp cfg) s

end O3FrontEnd

end MindPalace.ChampSim
