import MindPalace.ChampSim.Packet

/-! # The DRAM controller

`MEMORY_CONTROLLER` (`src/dram_controller.cc`) keeps per channel a read and a write queue of packet
slots, a request per bank and the request on the data bus; `operate()` moves requests along that
path. `add_rq` answers, merges or stores a read, and returns `0` with nothing done when no slot is
free, so the caller checks the occupancy first.
-/

namespace MindPalace.ChampSim

/-- The constants of `champsim_constants.h` and `dram_controller.h` that the controller reads,
the timings in DRAM cycles. -/
structure DramConfig where
  NUM_CPUS : Nat
  DRAM_CHANNELS : Nat
  DRAM_RANKS : Nat
  DRAM_BANKS : Nat
  DRAM_ROWS : Nat
  DRAM_COLUMNS : Nat
  DRAM_WQ_SIZE : Nat
  DRAM_RQ_SIZE : Nat
  tRP : Nat
  tRCD : Nat
  tCAS : Nat
  DRAM_DBUS_TURN_AROUND_TIME : Nat
  DRAM_DBUS_RETURN_TIME : Nat

namespace DramConfig

variable (cfg : DramConfig)

def DRAM_WRITE_HIGH_WM : Nat := (cfg.DRAM_WQ_SIZE * 7) >>> 3

def DRAM_WRITE_LOW_WM : Nat := (cfg.DRAM_WQ_SIZE * 6) >>> 3

def dramGetChannel (address : Nat) : Nat :=
  (address >>> LOG2_BLOCK_SIZE) &&& bitmask (lg2 cfg.DRAM_CHANNELS)

def dramGetBank (address : Nat) : Nat :=
  (address >>> (lg2 cfg.DRAM_CHANNELS + LOG2_BLOCK_SIZE)) &&& bitmask (lg2 cfg.DRAM_BANKS)

def dramGetRank (address : Nat) : Nat :=
  (address >>> (lg2 cfg.DRAM_BANKS + lg2 cfg.DRAM_COLUMNS + lg2 cfg.DRAM_CHANNELS + LOG2_BLOCK_SIZE)) &&&
    bitmask (lg2 cfg.DRAM_RANKS)

def dramGetRow (address : Nat) : Nat :=
  (address >>> (lg2 cfg.DRAM_RANKS + lg2 cfg.DRAM_BANKS + lg2 cfg.DRAM_COLUMNS +
    lg2 cfg.DRAM_CHANNELS + LOG2_BLOCK_SIZE)) &&& bitmask (lg2 cfg.DRAM_ROWS)

end DramConfig

inductive DramQueue
  | RQ
  | WQ
  deriving DecidableEq, Repr

/-- A `BANK_REQUEST`, with its default member initialisers; its iterator `pkt` is the queue
and the slot, and the default-constructed one is read as slot `0` of the read queue. -/
structure BankRequest where
  valid : Bool := false
  rowBufferHit : Bool := false
  openRow : Nat := 0xFFFFFFFF
  eventCycle : Nat := 0
  pkt : DramQueue × Nat := (.RQ, 0)
  deriving DecidableEq, Repr

/-- `min_event_cycle<BANK_REQUEST>`: an invalid right-hand side is above everything, and a
valid left-hand side is below a later `event_cycle`. -/
def BankRequest.minEventCycle (lhs rhs : BankRequest) : Bool :=
  !rhs.valid || (lhs.valid && decide (lhs.eventCycle < rhs.eventCycle))

/-- `next_schedule`: a scheduled right-hand side is above everything; among unscheduled
packets an invalid one is above every valid one, and valid ones go by `event_cycle`. -/
def PACKET.nextSchedule (lhs rhs : PACKET) : Bool :=
  rhs.scheduled || (!lhs.scheduled &&
    (!rhs.isValid || (lhs.isValid && decide (lhs.eventCycle < rhs.eventCycle))))

/-- A `DRAM_CHANNEL`, without its statistics; `active_request` is `none` for
`std::end(bank_request)`. -/
structure DramChannel where
  WQ : List PACKET
  RQ : List PACKET
  bankRequest : List BankRequest
  activeRequest : Option Nat := none
  dbusCycleAvailable : Nat := 0
  writeMode : Bool := false
  deriving DecidableEq, Repr

namespace DramChannel

/-- A channel as constructed: empty slots and idle banks. -/
def new (cfg : DramConfig) : DramChannel where
  WQ := List.replicate cfg.DRAM_WQ_SIZE {}
  RQ := List.replicate cfg.DRAM_RQ_SIZE {}
  bankRequest := List.replicate (cfg.DRAM_RANKS * cfg.DRAM_BANKS) {}

instance : Inhabited DramChannel := ⟨{ WQ := [], RQ := [], bankRequest := [] }⟩

def packet (ch : DramChannel) (ref : DramQueue × Nat) : PACKET :=
  match ref.1 with
  | .RQ => ch.RQ.getD ref.2 {}
  | .WQ => ch.WQ.getD ref.2 {}

def modifyPacket (ch : DramChannel) (ref : DramQueue × Nat) (f : PACKET → PACKET) : DramChannel :=
  match ref.1 with
  | .RQ => { ch with RQ := ch.RQ.modify ref.2 f }
  | .WQ => { ch with WQ := ch.WQ.modify ref.2 f }

/-- The bank request at a position, the default one past the end. -/
def request (ch : DramChannel) (i : Nat) : BankRequest :=
  ch.bankRequest.getD i {}

/-- "Finish request": the request on the data bus, once due, returns its packet to the
packet's requesters and frees the packet's slot and the bank. -/
def finishRequest (cycle : Nat) (ch : DramChannel) : DramChannel × List (Nat × PACKET) :=
  match ch.activeRequest with
  | none => (ch, [])
  | some a =>
    let req := ch.request a
    if req.eventCycle ≤ cycle then
      let pkt := ch.packet req.pkt
      let ch := { ch with
        bankRequest := ch.bankRequest.modify a fun r => { r with valid := false }
        activeRequest := none }
      (ch.modifyPacket req.pkt fun _ => {}, pkt.toReturn.map (·, pkt))
    else (ch, [])

def switchesMode (cfg : DramConfig) (ch : DramChannel) : Bool :=
  let wqOccu := ch.WQ.countP PACKET.isValid
  let rqOccu := ch.RQ.countP PACKET.isValid
  (!ch.writeMode && (decide (cfg.DRAM_WRITE_HIGH_WM ≤ wqOccu) || (rqOccu == 0 && decide (0 < wqOccu)))) ||
    (ch.writeMode && (wqOccu == 0 || (decide (0 < rqOccu) && decide (wqOccu < cfg.DRAM_WRITE_LOW_WM))))

/-- "Reset scheduled requests", for the bank request at position `i`: unless it is on the data
bus, a valid request gives its packet back to the queue, due now, and frees the bank; a row it
has not yet read is closed. -/
def resetRequest (cfg : DramConfig) (cycle : Nat) (ch : DramChannel) (i : Nat) : DramChannel :=
  let req := ch.request i
  if ch.activeRequest != some i && req.valid then
    let ch := { ch with
      bankRequest := ch.bankRequest.modify i fun r =>
        { r with
          openRow := if r.eventCycle < cycle + cfg.tCAS then 0xFFFFFFFF else r.openRow
          valid := false } }
    ch.modifyPacket req.pkt fun p => { p with scheduled := false, eventCycle := cycle }
  else ch

/-- "Change modes if the queues are unbalanced": reset the scheduled requests, charge the bus
turn-around after the request on the bus or from now, and invert the mode. -/
def switchMode (cfg : DramConfig) (cycle : Nat) (ch : DramChannel) : DramChannel :=
  if ch.switchesMode cfg then
    let ch := (List.range ch.bankRequest.length).foldl (resetRequest cfg cycle) ch
    { ch with
      dbusCycleAvailable := match ch.activeRequest with
        | some a => (ch.request a).eventCycle + cfg.DRAM_DBUS_TURN_AROUND_TIME
        | none => cycle + cfg.DRAM_DBUS_TURN_AROUND_TIME
      writeMode := !ch.writeMode }
  else ch

/-- "Look for requests to put on the bus": the valid request due first goes on a free bus;
on a busy bus only the congestion statistics change. -/
def putOnBus (cfg : DramConfig) (cycle : Nat) (ch : DramChannel) : DramChannel :=
  let next := StdAlgorithm.minElement BankRequest.minEventCycle ch.bankRequest
  let req := ch.request next
  if req.valid && decide (req.eventCycle ≤ cycle) && ch.activeRequest.isNone &&
      decide (ch.dbusCycleAvailable ≤ cycle) then
    { ch with
      activeRequest := some next
      bankRequest := ch.bankRequest.modify next fun r =>
        { r with eventCycle := cycle + cfg.DRAM_DBUS_RETURN_TIME } }
  else ch

/-- "Look for queued packets that have not been scheduled": the next due packet of the
current mode's queue takes its bank, if the bank is free, and waits there. -/
def schedulePacket (cfg : DramConfig) (cycle : Nat) (ch : DramChannel) : DramChannel :=
  let q : DramQueue := if ch.writeMode then .WQ else .RQ
  let slot := StdAlgorithm.minElement PACKET.nextSchedule (if ch.writeMode then ch.WQ else ch.RQ)
  let pkt := ch.packet (q, slot)
  if pkt.isValid && decide (pkt.eventCycle ≤ cycle) then
    let opRow := cfg.dramGetRow pkt.address
    let opIdx := cfg.dramGetRank pkt.address * cfg.DRAM_BANKS + cfg.dramGetBank pkt.address
    let bank := ch.request opIdx
    if !bank.valid then
      let rowBufferHit := bank.openRow == opRow
      let ch := { ch with
        bankRequest := ch.bankRequest.set opIdx
          { valid := true
            rowBufferHit := rowBufferHit
            openRow := opRow
            eventCycle := cycle + cfg.tCAS + (if rowBufferHit then 0 else cfg.tRP + cfg.tRCD)
            pkt := (q, slot) } }
      ch.modifyPacket (q, slot) fun p => { p with scheduled := true, eventCycle := UINT64_MAX }
    else ch
  else ch

def operate (cfg : DramConfig) (cycle : Nat) (ch : DramChannel) : DramChannel × List (Nat × PACKET) :=
  let finished := ch.finishRequest cycle
  (((finished.1.switchMode cfg cycle).putOnBus cfg cycle).schedulePacket cfg cycle, finished.2)

end DramChannel

/-- The state of a `MEMORY_CONTROLLER`, with the cycle, the global `all_warmup_complete` and
the returns made to requesters. -/
structure MemoryController where
  channels : List DramChannel
  currentCycle : Nat := 0
  allWarmupComplete : Nat := 0
  returned : List (Nat × PACKET) := []
  deriving DecidableEq, Repr

namespace MemoryController

variable (cfg : DramConfig)

def new : MemoryController where
  channels := List.replicate cfg.DRAM_CHANNELS (.new cfg)

/-- The channel at a position, the default one past the end. -/
def channel (mc : MemoryController) (c : Nat) : DramChannel :=
  mc.channels.getD c default

def returnTo (mc : MemoryController) (rets : List Nat) (packet : PACKET) : MemoryController :=
  { mc with returned := mc.returned ++ rets.map (·, packet) }

def rqOccupancy (ch : DramChannel) : Nat :=
  ch.RQ.countP PACKET.isValid

def wqOccupancy (ch : DramChannel) : Nat :=
  ch.WQ.countP PACKET.isValid

def addRq (mc : MemoryController) (packet : PACKET) : MemoryController × Int :=
  if mc.allWarmupComplete < cfg.NUM_CPUS then
    -- fast-forward
    (mc.returnTo packet.toReturn packet, -1)
  else
    let c := cfg.dramGetChannel packet.address
    let ch := mc.channel c
    match ch.WQ.find? (PACKET.eqAddr packet.address LOG2_BLOCK_SIZE) with
    | some wqEntry =>
      -- forwarding from the write queue
      let packet := { packet with data := wqEntry.data }
      (mc.returnTo packet.toReturn packet, -1)
    | none =>
      match ch.RQ.findIdx? (PACKET.eqAddr packet.address LOG2_BLOCK_SIZE) with
      | some i => ({ mc with channels := mc.channels.set c { ch with RQ := ch.RQ.modify i (·.mergeDeps packet) } }, i)
      | none =>
        match ch.RQ.findIdx? (fun p => !p.isValid) with
        | none => (mc, 0)
        | some i =>
          let ch := { ch with RQ := ch.RQ.set i { packet with eventCycle := mc.currentCycle } }
          ({ mc with channels := mc.channels.set c ch }, rqOccupancy ch)

/-- `add_wq(packet)`: a write of a block already queued is dropped. -/
def addWq (mc : MemoryController) (packet : PACKET) : MemoryController × Int :=
  if mc.allWarmupComplete < cfg.NUM_CPUS then (mc, -1)
  else
    let c := cfg.dramGetChannel packet.address
    let ch := mc.channel c
    match ch.WQ.find? (PACKET.eqAddr packet.address LOG2_BLOCK_SIZE) with
    | some _ => (mc, 0)
    | none =>
      match ch.WQ.findIdx? (fun p => !p.isValid) with
      | none => (mc, -2)
      | some i =>
        let ch := { ch with WQ := ch.WQ.set i { packet with eventCycle := mc.currentCycle } }
        ({ mc with channels := mc.channels.set c ch }, wqOccupancy ch)

def addPq (mc : MemoryController) (packet : PACKET) : MemoryController × Int :=
  addRq cfg mc packet

def operate (mc : MemoryController) : MemoryController :=
  let (channels, rets) := mc.channels.foldl
    (fun (acc : List DramChannel × List (Nat × PACKET)) ch =>
      let r := ch.operate cfg mc.currentCycle
      (acc.1 ++ [r.1], acc.2 ++ r.2))
    ([], [])
  { mc with channels, returned := mc.returned ++ rets }

end MemoryController

/-- The calls a controller receives, and the environment's moves: the clock and a core
finishing its warmup. -/
inductive DramOp
  | addRq (packet : PACKET)
  | addWq (packet : PACKET)
  | addPq (packet : PACKET)
  | operate
  | tick
  | completeWarmup

namespace MemoryController

variable (cfg : DramConfig)

def step (mc : MemoryController) : DramOp → MemoryController
  | .addRq packet => (addRq cfg mc packet).1
  | .addWq packet => (addWq cfg mc packet).1
  | .addPq packet => (addPq cfg mc packet).1
  | .operate => operate cfg mc
  | .tick => { mc with currentCycle := mc.currentCycle + 1 }
  | .completeWarmup => { mc with allWarmupComplete := mc.allWarmupComplete + 1 }

def run (mc : MemoryController) (ops : List DramOp) : MemoryController :=
  ops.foldl (step cfg) mc

end MemoryController

/-- The DRAM of `champsim_config.json` under one core: one channel of one rank of eight banks,
queues of 64 slots, and `12.5`, `12.5`, `12.5` and `7.5` ns at 3200 MT/s. -/
def dramConfig : DramConfig where
  NUM_CPUS := 1
  DRAM_CHANNELS := 1
  DRAM_RANKS := 1
  DRAM_BANKS := 8
  DRAM_ROWS := 65536
  DRAM_COLUMNS := 128
  DRAM_WQ_SIZE := 64
  DRAM_RQ_SIZE := 64
  tRP := 40
  tRCD := 40
  tCAS := 40
  DRAM_DBUS_TURN_AROUND_TIME := 24
  DRAM_DBUS_RETURN_TIME := 8

def blockRead (n : Nat) : PACKET :=
  { address := n <<< LOG2_BLOCK_SIZE, toReturn := [0] }

end MindPalace.ChampSim
