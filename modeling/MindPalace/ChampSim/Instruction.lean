import Mathlib

/-! # Instructions

The records of `inc/qemutrace.h`, as the QEMU tracer writes them, and the core's
instruction record `ooo_model_instr` of `inc/instruction.h` with its two constructors from
a traced instruction, alone or with its first data access.
-/

namespace MindPalace.ChampSim

def REG_STACK_POINTER : UInt8 := 6
def REG_FLAGS : UInt8 := 25
def REG_INSTRUCTION_POINTER : UInt8 := 26

def NOT_BRANCH : UInt8 := 0
def BRANCH_DIRECT_JUMP : UInt8 := 1
def BRANCH_INDIRECT : UInt8 := 2
def BRANCH_CONDITIONAL : UInt8 := 3
def BRANCH_DIRECT_CALL : UInt8 := 4
def BRANCH_INDIRECT_CALL : UInt8 := 5
def BRANCH_RETURN : UInt8 := 6
def BRANCH_OTHER : UInt8 := 7

def INFLIGHT : UInt8 := 1
def COMPLETED : UInt8 := 2

def NUM_INSTR_DESTINATIONS_SPARC : Nat := 2
/-- `NUM_INSTR_DESTINATIONS`, the destinations `init_instruction` scans for these traces. -/
def NUM_INSTR_DESTINATIONS : Nat := 2
def NUM_INSTR_SOURCES : Nat := 4

theorem NUM_INSTR_DESTINATIONS_SPARC_pos : 0 < NUM_INSTR_DESTINATIONS_SPARC := by decide

theorem NUM_INSTR_SOURCES_pos : 0 < NUM_INSTR_SOURCES := by decide
/-- `MAX_INSTR_DESTINATIONS` of `main.cc`, `NUM_INSTR_DESTINATIONS` unless the trace is a
cloudsuite one. -/
def MAX_INSTR_DESTINATIONS : Nat := NUM_INSTR_DESTINATIONS

inductive QemuOpType
  | op | branch | jmpDirect | jmpIndirect | callDirect | callIndirect | ret | others
  deriving DecidableEq, Repr

def QemuOpType.ofNat? : Nat → Option QemuOpType
  | 0 => some .op
  | 1 => some .branch
  | 2 => some .jmpDirect
  | 3 => some .jmpIndirect
  | 4 => some .callDirect
  | 5 => some .callIndirect
  | 6 => some .ret
  | 7 => some .others
  | _ => none

def QemuOpType.toNat : QemuOpType → Nat
  | .op => 0
  | .branch => 1
  | .jmpDirect => 2
  | .jmpIndirect => 3
  | .callDirect => 4
  | .callIndirect => 5
  | .ret => 6
  | .others => 7

@[simp] theorem QemuOpType.ofNat?_toNat (t : QemuOpType) : QemuOpType.ofNat? t.toNat = some t := by
  cases t <;> rfl

/-- `QEMU_trace_insn`: the arguments of `guest_trace_mem_access_itlb`. -/
structure QemuTraceInsn where
  icount : UInt64
  vaddr : UInt64
  paddr : UInt64
  segStates : UInt64
  cr3 : UInt64
  brType : UInt64
  targetVaddr : UInt64
  deriving DecidableEq, Repr

/-- `QEMU_trace_data`: the arguments of `guest_trace_mem_access_tlb`. -/
structure QemuTraceData where
  icount : UInt64
  vaddr : UInt64
  paddr : UInt64
  loadStore : UInt64
  length : UInt64
  segStates : UInt64
  cr3 : UInt64
  deriving DecidableEq, Repr

structure QemuTraceNop where
  byte0 : UInt64
  byte1 : UInt64
  byte2 : UInt64
  deriving DecidableEq, Repr

/-- The fields of `ooo_model_instr` that the modelled functions read or write, with the
source's default member initialisers. Iterators into the ROB and the load and store queues
are slot numbers. -/
structure OooModelInstr where
  instrId : Nat := 0
  ip : Nat := 0
  eventCycle : Nat := 0
  isBranch : Bool := false
  isMemory : Bool := false
  branchTaken : Bool := false
  branchMispredicted : Bool := false
  sourceAdded : Vector Bool NUM_INSTR_SOURCES := Vector.replicate _ false
  destinationAdded : Vector Bool NUM_INSTR_DESTINATIONS_SPARC := Vector.replicate _ false
  isKernel : Bool := true
  asid : UInt8 × UInt8 := (255, 255)
  branchType : UInt8 := NOT_BRANCH
  branchTarget : Nat := 0
  translated : UInt8 := 0
  fetched : UInt8 := 0
  decoded : UInt8 := 0
  scheduled : UInt8 := 0
  executed : UInt8 := 0
  numRegOps : Int := 0
  numMemOps : Int := 0
  numRegDependent : Int := 0
  destinationRegisters : Vector UInt8 NUM_INSTR_DESTINATIONS_SPARC := Vector.replicate _ 0
  sourceRegisters : Vector UInt8 NUM_INSTR_SOURCES := Vector.replicate _ 0
  registersInstrsDependOnMe : List Nat := []
  memoryInstrsDependOnMe : List Nat := []
  instructionPa : Nat := 0
  destinationMemory : Vector Nat NUM_INSTR_DESTINATIONS_SPARC := Vector.replicate _ 0
  sourceMemory : Vector Nat NUM_INSTR_SOURCES := Vector.replicate _ 0
  lqIndex : Vector Nat NUM_INSTR_SOURCES := Vector.replicate _ 0
  sqIndex : Vector Nat NUM_INSTR_DESTINATIONS_SPARC := Vector.replicate _ 0
  deriving DecidableEq, Repr

instance : Inhabited OooModelInstr := ⟨{}⟩

namespace OooModelInstr

/-- `ooo_model_instr(cpu, QEMU_trace_insn)`: the branch kind is copied, truncated to the
`uint8_t` field, and decided later by the trace reader. -/
def ofInsn (instr : QemuTraceInsn) : OooModelInstr :=
  { ip := instr.vaddr.toNat
    isBranch := decide (0 < instr.brType)
    branchType := instr.brType.toUInt8
    branchTarget := instr.targetVaddr.toNat
    asid := ((instr.cr3 >>> 12 &&& 0xff).toUInt8, (instr.cr3 >>> 20 &&& 0xff).toUInt8)
    isKernel := decide (instr.segStates < 3) }

/-- `ooo_model_instr(cpu, QEMU_trace_insn, QEMU_trace_data)`: a store's address is the first
destination operand, a load's the first source operand. -/
def ofInsnData (instr : QemuTraceInsn) (data : QemuTraceData) : OooModelInstr :=
  let base := ofInsn instr
  if data.loadStore ≠ 0 then
    { base with destinationMemory :=
        base.destinationMemory.set 0 data.vaddr.toNat NUM_INSTR_DESTINATIONS_SPARC_pos }
  else
    { base with sourceMemory := base.sourceMemory.set 0 data.vaddr.toNat NUM_INSTR_SOURCES_pos }

end OooModelInstr

end MindPalace.ChampSim
