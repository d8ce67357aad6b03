import MindPalace.ChampSim.Instruction

/-! # The out-of-order back end

The ROB, `ready_to_execute` and the functions of `O3_CPU` (`src/ooo_cpu.cc`) that take an
instruction from dispatch to retirement. An iterator into the ROB is the `instr_id` it points to;
the load and store queues and the memory system are inputs, and every `assert` is a `none`.
-/

namespace MindPalace.ChampSim

structure BackendConfig where
  ROB_SIZE : Nat
  SCHEDULER_SIZE : Nat
  EXEC_WIDTH : Nat
  RETIRE_WIDTH : Nat
  BRANCH_MISPREDICT_PENALTY : Nat
  SCHEDULING_LATENCY : Nat
  EXEC_LATENCY : Nat

/-- The members of `O3_CPU` that the back end reads and writes; `warmupComplete` is
`warmup_complete[cpu]`. -/
structure O3Backend where
  ROB : List Nat
  robEntry : Nat → OooModelInstr
  readyToExecute : List Nat
  inflightRegExecutions : UInt32
  inflightMemExecutions : UInt32
  fetchResumeCycle : Nat
  currentCycle : Nat
  warmupComplete : Bool

namespace O3Backend

variable (cfg : BackendConfig)

def init : O3Backend where
  ROB := []
  robEntry := fun _ => {}
  readyToExecute := []
  inflightRegExecutions := 0
  inflightMemExecutions := 0
  fetchResumeCycle := 0
  currentCycle := 0
  warmupComplete := false

/-- An assignment `rob_it->... = ...` through an iterator. -/
def updateEntry (c : O3Backend) (id : Nat) (f : OooModelInstr → OooModelInstr) : O3Backend :=
  { c with robEntry := Function.update c.robEntry id (f (c.robEntry id)) }

/-- `instr_reg_will_produce(reg)`: an instruction not yet completed that writes `reg`. -/
def instrRegWillProduce (reg : UInt8) (test : OooModelInstr) : Bool :=
  test.executed != COMPLETED && test.destinationRegisters.contains reg

/-- The entries older than `id`, youngest first: the range from the reverse iterator built on
`rob_it` to `ROB.rend()`. -/
def olderThan (c : O3Backend) (id : Nat) : List Nat :=
  (c.ROB.takeWhile (· ≠ id)).reverse

/-- One source register of `do_scheduling`: the youngest older instruction that will write it
gets `rob_it` as a dependent, unless `rob_it` is already the last one it has. -/
def markRegDependence (c : O3Backend) (id : Nat) (srcReg : UInt8) : O3Backend :=
  if srcReg = 0 then c
  else match (olderThan c id).find? fun p => instrRegWillProduce srcReg (c.robEntry p) with
  | none => c
  | some prior =>
    if (c.robEntry prior).registersInstrsDependOnMe.getLast? = some id then c
    else
      let c := updateEntry c prior fun p =>
        { p with registersInstrsDependOnMe := p.registersInstrsDependOnMe ++ [id] }
      updateEntry c id fun r => { r with numRegDependent := r.numRegDependent + 1 }

/-- `do_scheduling(rob_it)`: record the register dependences, then mark a memory instruction
for the memory scheduler and any other as scheduled after `SCHEDULING_LATENCY`. -/
def doScheduling (c : O3Backend) (id : Nat) : O3Backend :=
  let c := (c.robEntry id).sourceRegisters.toList.foldl (markRegDependence · id ·) c
  updateEntry c id fun r =>
    if r.isMemory then { r with scheduled := INFLIGHT }
    else
      { r with
        scheduled := COMPLETED
        eventCycle := c.currentCycle + if c.warmupComplete then cfg.SCHEDULING_LATENCY else 0 }

/-- `scheduled == COMPLETED && num_reg_dependent == 0`, the test before a push to
`ready_to_execute`. -/
def isReady (c : O3Backend) (id : Nat) : Bool :=
  (c.robEntry id).scheduled == COMPLETED && (c.robEntry id).numRegDependent == 0

def pushReady (c : O3Backend) (id : Nat) : Option O3Backend :=
  if c.readyToExecute.length < c.ROB.length then
    some { c with readyToExecute := c.readyToExecute ++ [id] }
  else none

/-- One entry of the loop of `schedule_instruction`: an entry not yet scheduled is scheduled,
and queued if it is ready at once. -/
def scheduleEntry (c : O3Backend) (id : Nat) : Option O3Backend :=
  if (c.robEntry id).scheduled = 0 then
    let c := doScheduling cfg c id
    if isReady c id then pushReady c id else some c
  else some c

/-- The loop of `schedule_instruction` over the ROB, with the search bandwidth that every
entry not yet executed uses up. -/
def scheduleLoop : List Nat → Nat → O3Backend → Option O3Backend
  | [], _, c => some c
  | id :: ids, searchBw, c =>
    if searchBw = 0 then some c
    else do
      let c ← scheduleEntry cfg c id
      scheduleLoop ids (if (c.robEntry id).executed = 0 then searchBw - 1 else searchBw) c

def scheduleInstruction (c : O3Backend) : Option O3Backend :=
  scheduleLoop cfg c.ROB cfg.SCHEDULER_SIZE c

def doExecution (c : O3Backend) (id : Nat) : O3Backend :=
  let c := updateEntry c id fun r =>
    { r with
      executed := INFLIGHT
      eventCycle := c.currentCycle + if c.warmupComplete then cfg.EXEC_LATENCY else 0 }
  { c with inflightRegExecutions := c.inflightRegExecutions + 1 }

/-- The loop of `execute_instruction`: at most `EXEC_WIDTH` entries of `ready_to_execute`. -/
def executeLoop : Nat → O3Backend → O3Backend
  | 0, c => c
  | n + 1, c =>
    match c.readyToExecute with
    | [] => c
    | id :: rest => executeLoop n { doExecution cfg c id with readyToExecute := rest }

def executeInstruction (c : O3Backend) : O3Backend :=
  executeLoop cfg cfg.EXEC_WIDTH c

/-- `do_memory_scheduling(rob_it)`, where `allAdded` says whether every memory operand of the
instruction is in the load or store queue after the call. -/
def doMemoryScheduling (c : O3Backend) (allAdded : Bool) (id : Nat) : O3Backend :=
  if allAdded then
    updateEntry c id fun r =>
      { r with scheduled := COMPLETED, executed := if r.executed = 0 then INFLIGHT else r.executed }
  else c

/-- The loop of `schedule_memory_instruction`; `lsqRoom` is the load and store queues' answer
for each instruction. -/
def scheduleMemoryLoop (lsqRoom : Nat → Bool) : List Nat → Nat → O3Backend → O3Backend
  | [], _, c => c
  | id :: ids, searchBw, c =>
    if searchBw = 0 then c
    else
      let r := c.robEntry id
      let c := if r.isMemory ∧ r.numRegDependent = 0 ∧ r.scheduled = INFLIGHT then
          doMemoryScheduling c (lsqRoom id) id
        else c
      scheduleMemoryLoop lsqRoom ids
        (if (c.robEntry id).executed = 0 then searchBw - 1 else searchBw) c

def scheduleMemoryInstruction (lsqRoom : Nat → Bool) (c : O3Backend) : O3Backend :=
  scheduleMemoryLoop lsqRoom c.ROB cfg.SCHEDULER_SIZE c

/-- One dependent in `do_complete_execution`: one dependence fewer, and scheduled once there
is none left. -/
def releaseDependent (c : O3Backend) (dependent : Nat) : Option O3Backend :=
  let c := updateEntry c dependent fun d => { d with numRegDependent := d.numRegDependent - 1 }
  let d := c.robEntry dependent
  if d.numRegDependent < 0 then none
  else if d.numRegDependent = 0 then
    some (updateEntry c dependent fun d =>
      if d.isMemory then { d with scheduled := INFLIGHT } else { d with scheduled := COMPLETED })
  else some c

def doCompleteExecution (c : O3Backend) (id : Nat) : Option O3Backend := do
  let r := c.robEntry id
  let c := updateEntry c id fun r => { r with executed := COMPLETED }
  let c := if r.isMemory then { c with inflightMemExecutions := c.inflightMemExecutions - 1 }
    else { c with inflightRegExecutions := c.inflightRegExecutions - 1 }
  let c ← r.registersInstrsDependOnMe.foldlM releaseDependent c
  pure (if r.branchMispredicted then
      { c with fetchResumeCycle := c.currentCycle + cfg.BRANCH_MISPREDICT_PENALTY }
    else c)

/-- The dependents of a completed instruction that are now ready go to `ready_to_execute`. -/
def pushReadyDependents (c : O3Backend) (id : Nat) : Option O3Backend :=
  (c.robEntry id).registersInstrsDependOnMe.foldlM
    (fun c dependent => if isReady c dependent then pushReady c dependent else some c) c

/-- The loop of `complete_inflight_instruction` over the ROB, at most `EXEC_WIDTH`
completions. -/
def completeLoop : List Nat → Nat → O3Backend → Option O3Backend
  | [], _, c => some c
  | id :: ids, completeBw, c =>
    if completeBw = 0 then some c
    else
      let r := c.robEntry id
      if r.executed = INFLIGHT ∧ r.eventCycle ≤ c.currentCycle ∧ r.numMemOps = 0 then do
        let c ← doCompleteExecution cfg c id
        let c ← pushReadyDependents c id
        completeLoop ids (completeBw - 1) c
      else completeLoop ids completeBw c

def completeInflightInstruction (c : O3Backend) : Option O3Backend :=
  if 0 < c.inflightRegExecutions ∨ 0 < c.inflightMemExecutions then
    completeLoop cfg c.ROB cfg.EXEC_WIDTH c
  else some c

/-- A memory operation of the instruction `id` returning: the L1D's part of
`handle_memory_return`, `execute_store`, or a store forwarding to a load. It is `none` for an
instruction outside the ROB or with no operation outstanding. -/
def memoryReturn (c : O3Backend) (id : Nat) : Option O3Backend :=
  if id ∉ c.ROB then none
  else
    let c := updateEntry c id fun r =>
      { r with numMemOps := r.numMemOps - 1, eventCycle := c.currentCycle }
    if (c.robEntry id).numMemOps < 0 then none
    else if (c.robEntry id).numMemOps = 0 then
      some { c with inflightMemExecutions := c.inflightMemExecutions + 1 }
    else some c

/-- The loop of `retire_rob`: the front retires once it has completed and the L1D write queue
has taken its stores (`storeAccepted`). -/
def retireLoop (storeAccepted : Nat → Bool) : Nat → O3Backend → O3Backend
  | 0, c => c
  | n + 1, c =>
    match c.ROB with
    | [] => c
    | id :: rest =>
      let r := c.robEntry id
      if r.executed ≠ COMPLETED then c
      else if r.destinationMemory.toList.any (· ≠ 0) && !storeAccepted id then c
      else retireLoop storeAccepted n { c with ROB := rest }

def retireRob (storeAccepted : Nat → Bool) (c : O3Backend) : O3Backend :=
  retireLoop storeAccepted cfg.RETIRE_WIDTH c

/-- One iteration of `dispatch_instruction`: `ROB.push_back(DISPATCH_BUFFER.front())` unless
the ROB is full. -/
def dispatch (c : O3Backend) (instr : OooModelInstr) : O3Backend :=
  if c.ROB.length < cfg.ROB_SIZE then
    { c with
      ROB := c.ROB ++ [instr.instrId]
      robEntry := Function.update c.robEntry instr.instrId instr }
  else c

end O3Backend

inductive BackendOp
  | dispatch (instr : OooModelInstr)
  | scheduleInstruction
  | executeInstruction
  | scheduleMemoryInstruction (lsqRoom : Nat → Bool)
  | memoryReturn (id : Nat)
  | completeInflightInstruction
  | retireRob (storeAccepted : Nat → Bool)
  | tick
  | completeWarmup

namespace O3Backend

variable (cfg : BackendConfig)

def step (c : O3Backend) : BackendOp → Option O3Backend
  | .dispatch instr => some (dispatch cfg c instr)
  | .scheduleInstruction => scheduleInstruction cfg c
  | .executeInstruction => some (executeInstruction cfg c)
  | .scheduleMemoryInstruction lsqRoom => some (scheduleMemoryInstruction cfg lsqRoom c)
  | .memoryReturn id => memoryReturn c id
  | .completeInflightInstruction => completeInflightInstruction cfg c
  | .retireRob storeAccepted => some (retireRob cfg storeAccepted c)
  | .tick => some { c with currentCycle := c.currentCycle + 1 }
  | .completeWarmup => some { c with warmupComplete := true }

def run (c : O3Backend) (ops : List BackendOp) : Option O3Backend :=
  ops.foldlM (step cfg) c

@[simp] theorem run_nil (c : O3Backend) : run cfg c [] = some c := rfl

theorem run_cons (c : O3Backend) (op : BackendOp) (ops : List BackendOp) :
    run cfg c (op :: ops) = (step cfg c op).bind fun c => run cfg c ops := rfl

end O3Backend

end MindPalace.ChampSim
