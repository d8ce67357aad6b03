import MindPalace.ChampSim.Instruction
import MindPalace.Qemu.Record

/-! # The QEMU trace reader

`qemu_tracereader` (`src/tracereader.cc`) reads a simple-backend trace record by record. Each
instruction ends at the header of the next, and `get` holds one back to see whether a branch was
taken, so on `N` instructions the reader returns `N - 2`.
-/

namespace MindPalace.ChampSim

open LittleEndian Qemu

/-- `EVENT_ID_INSN`, the id of `guest_trace_mem_access_itlb` in the traces read. -/
def EVENT_ID_INSN : UInt64 := 63
/-- `EVENT_ID_DATA`, the id of `guest_trace_mem_access_tlb`. -/
def EVENT_ID_DATA : UInt64 := 64
def EVENT_ID_NOP : UInt64 := 65

def EVENT_MAPPINGS_SIZE : Nat := 134081

/-- `QEMU_event_header`: the record type and the `TraceRecord` header. -/
structure QemuEventHeader where
  type : UInt64
  event : UInt64
  timestampNs : UInt64
  length : UInt32
  pid : UInt32
  deriving DecidableEq, Repr

def QemuEventHeader.ofBytes (bs : List UInt8) : QemuEventHeader :=
  let (type, bs) := readU64 bs
  let (event, bs) := readU64 bs
  let (timestampNs, bs) := readU64 bs
  let (length, bs) := readU32 bs
  { type, event, timestampNs, length, pid := (readU32 bs).1 }

def QemuTraceInsn.ofBytes (bs : List UInt8) : QemuTraceInsn :=
  let (icount, bs) := readU64 bs
  let (vaddr, bs) := readU64 bs
  let (paddr, bs) := readU64 bs
  let (segStates, bs) := readU64 bs
  let (cr3, bs) := readU64 bs
  let (brType, bs) := readU64 bs
  { icount, vaddr, paddr, segStates, cr3, brType, targetVaddr := (readU64 bs).1 }

def QemuTraceData.ofBytes (bs : List UInt8) : QemuTraceData :=
  let (icount, bs) := readU64 bs
  let (vaddr, bs) := readU64 bs
  let (paddr, bs) := readU64 bs
  let (loadStore, bs) := readU64 bs
  let (length, bs) := readU64 bs
  let (segStates, bs) := readU64 bs
  { icount, vaddr, paddr, loadStore, length, segStates, cr3 := (readU64 bs).1 }

def QemuTraceNop.ofBytes (bs : List UInt8) : QemuTraceNop :=
  let (byte0, bs) := readU64 bs
  let (byte1, bs) := readU64 bs
  { byte0, byte1, byte2 := (readU64 bs).1 }

inductive Stop
  /-- "Reached end of trace" and `exit(1)`. -/
  | endOfTrace
  /-- A failed `assert`. -/
  | assertFailed
  /-- An unchecked `fread` in `open` came up short, leaving its struct indeterminate. -/
  | undefined
  deriving DecidableEq, Repr

/-- `fread` of one struct of `size` bytes whose result is checked: a short read ends the trace. -/
def fread (size : Nat) (f : List UInt8) : Except Stop (List UInt8 × List UInt8) :=
  if size ≤ f.length then .ok (f.take size, f.drop size) else .error .endOfTrace

/-- `fread` of one struct whose result `open` does not check. -/
def freadUnchecked (size : Nat) (f : List UInt8) : Except Stop (List UInt8 × List UInt8) :=
  if size ≤ f.length then .ok (f.take size, f.drop size) else .error .undefined

/-- `tracereader::open` for a QEMU trace: the file after the header of the first instruction. -/
def openTrace (file : List UInt8) : Except Stop (List UInt8) := do
  let (_, f) ← freadUnchecked 24 file
  let (_, f) ← freadUnchecked EVENT_MAPPINGS_SIZE f
  let (header, f) ← freadUnchecked 32 f
  let (nop, f) ← freadUnchecked 24 f
  if ¬ ((QemuEventHeader.ofBytes header).event = EVENT_ID_NOP ∧
      (QemuTraceNop.ofBytes nop).byte0 = 0xbe) then
    throw .assertFailed
  let (header, f) ← freadUnchecked 32 f
  if (QemuEventHeader.ofBytes header).event ≠ EVENT_ID_INSN then throw .assertFailed
  pure f

/-- The `while (true)` loop of `read_single_instr_qemutrace`: skip data accesses and markers
up to and including the header of the next instruction. -/
def readUntilInsn (f : List UInt8) : Except Stop (List UInt8) :=
  if f.length < 32 then .error .endOfTrace
  else
    let event := (QemuEventHeader.ofBytes (f.take 32)).event
    let f₁ := f.drop 32
    if event = EVENT_ID_INSN then .ok f₁
    else if event = EVENT_ID_DATA then
      if f₁.length < 56 then .error .endOfTrace else readUntilInsn (f₁.drop 56)
    else if event = EVENT_ID_NOP then
      if f₁.length < 24 then .error .endOfTrace else readUntilInsn (f₁.drop 24)
    else .error .assertFailed
termination_by f.length
decreasing_by all_goals simp only [List.length_drop]; omega

/-- `qemu_tracereader::read_single_instr_qemutrace`: an instruction, with its first data
access if the next record is one, and the file after the next instruction's header. -/
def readSingleInstrQemutrace (f : List UInt8) : Except Stop (OooModelInstr × List UInt8) := do
  let (insn, f) ← fread 56 f
  let (header, f) ← fread 32 f
  let insn := QemuTraceInsn.ofBytes insn
  let event := (QemuEventHeader.ofBytes header).event
  if event = EVENT_ID_DATA then
    let (data, f) ← fread 56 f
    let f ← readUntilInsn f
    pure (OooModelInstr.ofInsnData insn (QemuTraceData.ofBytes data), f)
  else if event = EVENT_ID_NOP then
    let (_, f) ← fread 24 f
    let (header, f) ← fread 32 f
    if (QemuEventHeader.ofBytes header).event = EVENT_ID_INSN then
      pure (OooModelInstr.ofInsn insn, f)
    else throw .assertFailed
  else if event = EVENT_ID_INSN then pure (OooModelInstr.ofInsn insn, f)
  else throw .assertFailed

/-- The `switch` of `get()`: the branch kind QEMU traced becomes ChampSim's branch type and
the register pattern of that kind; taken-ness of a conditional or other branch is whether
the next instruction is at the branch target. -/
def translateBranch (last : OooModelInstr) (nextIp : Nat) : OooModelInstr :=
  let dst := last.destinationRegisters
  let src := last.sourceRegisters
  match QemuOpType.ofNat? last.branchType.toNat with
  | some .op =>
    { last with isBranch := false, branchTaken := false, branchType := NOT_BRANCH,
                branchTarget := 0 }
  | some .branch =>
    { last with isBranch := true, branchTaken := decide (last.branchTarget = nextIp),
                branchType := BRANCH_CONDITIONAL,
                destinationRegisters := dst.set 0 REG_INSTRUCTION_POINTER,
                sourceRegisters := (src.set 0 REG_INSTRUCTION_POINTER).set 1 REG_FLAGS }
  | some .jmpDirect =>
    { last with isBranch := true, branchTaken := true, branchType := BRANCH_DIRECT_JUMP,
                destinationRegisters := dst.set 0 REG_INSTRUCTION_POINTER }
  | some .jmpIndirect =>
    { last with isBranch := true, branchTaken := true, branchType := BRANCH_INDIRECT,
                destinationRegisters := dst.set 0 REG_INSTRUCTION_POINTER,
                sourceRegisters := src.set 0 50 }
  | some .callDirect =>
    { last with isBranch := true, branchTaken := true, branchType := BRANCH_DIRECT_CALL,
                destinationRegisters := (dst.set 0 REG_INSTRUCTION_POINTER).set 1 REG_STACK_POINTER,
                sourceRegisters := (src.set 0 REG_INSTRUCTION_POINTER).set 1 REG_STACK_POINTER }
  | some .callIndirect =>
    { last with isBranch := true, branchTaken := true, branchType := BRANCH_INDIRECT_CALL,
                destinationRegisters := (dst.set 0 REG_INSTRUCTION_POINTER).set 1 REG_STACK_POINTER,
                sourceRegisters :=
                  ((src.set 0 REG_INSTRUCTION_POINTER).set 1 REG_STACK_POINTER).set 2 50 }
  | some .ret =>
    { last with isBranch := true, branchTaken := true, branchType := BRANCH_RETURN,
                destinationRegisters := (dst.set 0 REG_INSTRUCTION_POINTER).set 1 REG_STACK_POINTER,
                sourceRegisters := src.set 0 REG_STACK_POINTER }
  | some .others =>
    { last with isBranch := true, branchTaken := decide (last.branchTarget = nextIp),
                branchType := BRANCH_OTHER,
                destinationRegisters := dst.set 0 REG_INSTRUCTION_POINTER }
  | none =>
    { last with isBranch := false, branchTaken := false, branchType := NOT_BRANCH,
                branchTarget := 0 }

/-- The state of a `qemu_tracereader`: the rest of the file, `last_instr`, `initialized`. -/
structure QemuTracereader where
  file : List UInt8
  lastInstr : OooModelInstr
  initialized : Bool

namespace QemuTracereader

def new (file : List UInt8) : Except Stop QemuTracereader := do
  let f ← openTrace file
  pure { file := f, lastInstr := {}, initialized := false }

/-- `get()`: the instruction held back, translated with the address of the one just read.
The first call reads two instructions. -/
def get (r : QemuTracereader) : Except Stop (OooModelInstr × QemuTracereader) := do
  let (instr, f) ← readSingleInstrQemutrace r.file
  let (last, instr, f) ← if r.initialized then pure (r.lastInstr, instr, f) else do
      let (next, f) ← readSingleInstrQemutrace f
      pure (instr, next, f)
  pure (translateBranch last instr.ip, { file := f, lastInstr := instr, initialized := true })

/-- What `n` successive `get()` calls return, and how they stop if they do. -/
def gets (r : QemuTracereader) : Nat → List OooModelInstr × Option Stop
  | 0 => ([], none)
  | n + 1 =>
    match r.get with
    | .error e => ([], some e)
    | .ok (i, r') => let (is, e) := gets r' n; (i :: is, e)

end QemuTracereader

end MindPalace.ChampSim

/-! ### The tracer's records as the reader sees them -/

namespace MindPalace.ChampSim

open LittleEndian Qemu


@[simp] theorem event_headerPart (ids : GuestEventIds) (pid : UInt32) (e : GuestEvent) :
    (QemuEventHeader.ofBytes (e.headerPart ids pid)).event = (e.id ids).toUInt64 := by
  simp [GuestEvent.headerPart, recordHeader, QemuEventHeader.ofBytes]

/-- The `QEMU_trace_insn` of the arguments of `guest_trace_mem_access_itlb`. -/
def insnOfArgs (a : ItlbArgs) : QemuTraceInsn :=
  { icount := a.icount, vaddr := a.vaddr, paddr := a.paddr, segStates := a.segStates.toUInt64,
    cr3 := a.cr3, brType := a.brType.toUInt64, targetVaddr := a.targetVaddr }

/-- The `QEMU_trace_data` of the arguments of `guest_trace_mem_access_tlb`. -/
def dataOfArgs (a : TlbArgs) : QemuTraceData :=
  { icount := a.icount, vaddr := a.vaddr, paddr := a.paddr, loadStore := a.loadStore.toUInt64,
    length := a.length.toUInt64, segStates := a.segStates.toUInt64, cr3 := a.cr3 }

@[simp] theorem ofBytes_argsPart_itlb (a : ItlbArgs) (t : UInt64) :
    QemuTraceInsn.ofBytes (GuestEvent.argsPart (.itlb a t)) = insnOfArgs a := by
  simp [GuestEvent.argsPart, GuestEvent.args, Arg.bytes, QemuTraceInsn.ofBytes, insnOfArgs]

@[simp] theorem ofBytes_argsPart_tlb (a : TlbArgs) (t : UInt64) :
    QemuTraceData.ofBytes (GuestEvent.argsPart (.tlb a t)) = dataOfArgs a := by
  simp [GuestEvent.argsPart, GuestEvent.args, Arg.bytes, QemuTraceData.ofBytes, dataOfArgs]

@[simp] theorem byte0_argsPart_nop (a : NopArgs) (t : UInt64) :
    (QemuTraceNop.ofBytes (GuestEvent.argsPart (.nop a t))).byte0 = a.nopByte0.toUInt64 := by
  simp [GuestEvent.argsPart, GuestEvent.args, Arg.bytes, QemuTraceNop.ofBytes]

end MindPalace.ChampSim

/-! ### The tracer's event streams -/

namespace MindPalace.ChampSim

open LittleEndian Qemu QemuTracereader

/-- One traced instruction: its INSN event, the DATA events of its memory accesses, then
any marker NOP events, each with the timestamp of its record. -/
structure Block where
  insn : ItlbArgs
  insnTime : UInt64
  data : List (TlbArgs × UInt64)
  nops : List (NopArgs × UInt64)

namespace Block

def insnEvent (b : Block) : GuestEvent := .itlb b.insn b.insnTime

def tailEvents (b : Block) : List GuestEvent :=
  b.data.map (fun d => .tlb d.1 d.2) ++ b.nops.map (fun n => .nop n.1 n.2)

def bytes (ids : GuestEventIds) (pid : UInt32) (b : Block) : List UInt8 :=
  (b.insnEvent :: b.tailEvents).flatMap (GuestEvent.bytes ids pid)

def rest (ids : GuestEventIds) (pid : UInt32) (b : Block) : List UInt8 :=
  b.insnEvent.argsPart ++ b.tailEvents.flatMap (GuestEvent.bytes ids pid)

def instr (b : Block) : OooModelInstr :=
  match b.data with
  | [] => .ofInsn (insnOfArgs b.insn)
  | d :: _ => .ofInsnData (insnOfArgs b.insn) (dataOfArgs d.1)

def ip (b : Block) : Nat := b.insn.vaddr.toNat

/-- Not an instruction followed by two or more markers and no data access. -/
def Readable (b : Block) : Prop := b.data = [] → b.nops.length ≤ 1

instance : DecidablePred Readable := fun b =>
  inferInstanceAs (Decidable (b.data = [] → b.nops.length ≤ 1))

theorem bytes_eq (ids : GuestEventIds) (pid : UInt32) (b : Block) :
    b.bytes ids pid = b.insnEvent.headerPart ids pid ++ b.rest ids pid := by
  simp [bytes, rest, GuestEvent.bytes_eq]

theorem ip_instr (b : Block) : b.instr.ip = b.ip := by
  unfold instr
  split
  · rfl
  · simp only [OooModelInstr.ofInsnData]
    split <;> rfl

theorem branchType_instr (b : Block) : b.instr.branchType = b.insn.brType := by
  have h : b.insn.brType.toUInt64.toUInt8 = b.insn.brType := by simp
  unfold instr
  split
  · exact h
  · simp only [OooModelInstr.ofInsnData]
    split <;> exact h

theorem branchTarget_instr (b : Block) : b.instr.branchTarget = b.insn.targetVaddr.toNat := by
  unfold instr
  split
  · rfl
  · simp only [OooModelInstr.ofInsnData]
    split <;> rfl

theorem destinationRegisters_instr (b : Block) :
    b.instr.destinationRegisters = Vector.replicate _ 0 := by
  unfold instr
  split
  · rfl
  · simp only [OooModelInstr.ofInsnData]
    split <;> rfl

theorem sourceRegisters_instr (b : Block) : b.instr.sourceRegisters = Vector.replicate _ 0 := by
  unfold instr
  split
  · rfl
  · simp only [OooModelInstr.ofInsnData]
    split <;> rfl

theorem destinationMemory_one_instr (b : Block) : b.instr.destinationMemory[1] = 0 := by
  unfold instr
  split
  · rfl
  · simp only [OooModelInstr.ofInsnData]
    split <;> simp [OooModelInstr.ofInsn]

end Block

def traceFile (ids : GuestEventIds) (pid : UInt32) (mapping : List UInt8) (begin : NopArgs)
    (beginTime : UInt64) (blocks : List Block) : List UInt8 :=
  logHeader ++ mapping ++ (GuestEvent.nop begin beginTime).bytes ids pid ++
    blocks.flatMap (Block.bytes ids pid)

/-- What successive `get()` calls return on a list of blocks: every block that has two
blocks after it, translated with the address of the block after it. -/
def returned : List Block → List OooModelInstr
  | b :: c :: d :: rest => translateBranch b.instr c.ip :: returned (c :: d :: rest)
  | _ => []

@[simp] theorem ip_translateBranch (last : OooModelInstr) (nextIp : Nat) :
    (translateBranch last nextIp).ip = last.ip := by
  unfold translateBranch
  split <;> rfl

@[simp] theorem sourceMemory_translateBranch (last : OooModelInstr) (nextIp : Nat) :
    (translateBranch last nextIp).sourceMemory = last.sourceMemory := by
  unfold translateBranch
  split <;> rfl

@[simp] theorem destinationMemory_translateBranch (last : OooModelInstr) (nextIp : Nat) :
    (translateBranch last nextIp).destinationMemory = last.destinationMemory := by
  unfold translateBranch
  split <;> rfl

theorem branchType_translateBranch_lt (last : OooModelInstr) (nextIp : Nat) :
    (translateBranch last nextIp).branchType.toNat < 8 := by
  unfold translateBranch
  split <;> dsimp only <;> decide

/-- The ids the tracer gave its events are the ones the reader looks for. -/
structure ReaderIds (ids : GuestEventIds) : Prop where
  insn : ids.itlb.toUInt64 = EVENT_ID_INSN
  data : ids.tlb.toUInt64 = EVENT_ID_DATA
  nop : ids.nop.toUInt64 = EVENT_ID_NOP

section Reading

variable {ids : GuestEventIds} {pid : UInt32}

theorem fread_append {n : Nat} {bs : List UInt8} (rest : List UInt8) (h : bs.length = n) :
    fread n (bs ++ rest) = .ok (bs, rest) := by
  subst h
  simp [fread]

theorem fread_nil {n : Nat} (h : 0 < n) : fread n [] = .error .endOfTrace := by
  simp [fread]
  omega

theorem freadUnchecked_append {n : Nat} {bs : List UInt8} (rest : List UInt8)
    (h : bs.length = n) : freadUnchecked n (bs ++ rest) = .ok (bs, rest) := by
  subst h
  simp [freadUnchecked]

theorem readUntilInsn_nil : readUntilInsn [] = .error .endOfTrace := by
  rw [readUntilInsn]
  simp

theorem readUntilInsn_itlb (hids : ReaderIds ids) (a : ItlbArgs) (t : UInt64)
    (rest : List UInt8) :
    readUntilInsn ((GuestEvent.itlb a t).headerPart ids pid ++ rest) = .ok rest := by
  rw [readUntilInsn]
  simp [GuestEvent.id, hids.insn]

theorem readUntilInsn_tlb (hids : ReaderIds ids) (a : TlbArgs) (t : UInt64)
    (rest : List UInt8) :
    readUntilInsn ((GuestEvent.tlb a t).bytes ids pid ++ rest) = readUntilInsn rest := by
  rw [readUntilInsn, GuestEvent.bytes_eq]
  simp only [List.append_assoc, List.length_append, GuestEvent.length_headerPart,
    GuestEvent.length_argsPart_tlb, take_append_of_length (GuestEvent.length_headerPart ..),
    drop_append_of_length (GuestEvent.length_headerPart ..),
    drop_append_of_length (GuestEvent.length_argsPart_tlb ..), event_headerPart,
    GuestEvent.id, hids.data]
  rw [if_neg (by omega), if_neg (by decide), if_pos trivial, if_neg (by omega)]

theorem readUntilInsn_nop (hids : ReaderIds ids) (a : NopArgs) (t : UInt64)
    (rest : List UInt8) :
    readUntilInsn ((GuestEvent.nop a t).bytes ids pid ++ rest) = readUntilInsn rest := by
  rw [readUntilInsn, GuestEvent.bytes_eq]
  simp only [List.append_assoc, List.length_append, GuestEvent.length_headerPart,
    GuestEvent.length_argsPart_nop, take_append_of_length (GuestEvent.length_headerPart ..),
    drop_append_of_length (GuestEvent.length_headerPart ..),
    drop_append_of_length (GuestEvent.length_argsPart_nop ..), event_headerPart,
    GuestEvent.id, hids.nop]
  rw [if_neg (by omega), if_neg (by decide), if_neg (by decide), if_pos trivial, if_neg (by omega)]

theorem readUntilInsn_tailEvents (hids : ReaderIds ids) (b : Block) (rest : List UInt8) :
    readUntilInsn (b.tailEvents.flatMap (GuestEvent.bytes ids pid) ++ rest) =
      readUntilInsn rest := by
  have hd : ∀ ds : List (TlbArgs × UInt64), ∀ rest,
      readUntilInsn ((ds.map fun d => GuestEvent.tlb d.1 d.2).flatMap
        (GuestEvent.bytes ids pid) ++ rest) = readUntilInsn rest := by
    intro ds
    induction ds with
    | nil => simp
    | cons d ds ih => intro rest; simp [readUntilInsn_tlb hids, ih]
  have hn : ∀ ns : List (NopArgs × UInt64), ∀ rest,
      readUntilInsn ((ns.map fun n => GuestEvent.nop n.1 n.2).flatMap
        (GuestEvent.bytes ids pid) ++ rest) = readUntilInsn rest := by
    intro ns
    induction ns with
    | nil => simp
    | cons n ns ih => intro rest; simp [readUntilInsn_nop hids, ih]
  simp only [Block.tailEvents, List.flatMap_append, List.append_assoc, hd, hn]

theorem readUntilInsn_block (hids : ReaderIds ids) (c : Block) (more : List UInt8) :
    readUntilInsn (c.bytes ids pid ++ more) = .ok (c.rest ids pid ++ more) := by
  rw [Block.bytes_eq, List.append_assoc]
  exact readUntilInsn_itlb hids _ _ _


theorem ok_bind {ε α β : Type} (a : α) (f : α → Except ε β) : (Except.ok a >>= f) = f a := rfl

theorem readSingle_data (hids : ReaderIds ids) (a : ItlbArgs) (t : UInt64) (d : TlbArgs)
    (dt : UInt64) (rest : List UInt8) :
    readSingleInstrQemutrace
        ((GuestEvent.itlb a t).argsPart ++ (GuestEvent.tlb d dt).bytes ids pid ++ rest) =
      (fun f => (OooModelInstr.ofInsnData (insnOfArgs a) (dataOfArgs d), f)) <$>
        readUntilInsn rest := by
  rw [GuestEvent.bytes_eq]
  simp only [readSingleInstrQemutrace, List.append_assoc, ok_bind,
    fread_append _ (GuestEvent.length_argsPart_itlb ..),
    fread_append _ (GuestEvent.length_headerPart ..),
    fread_append _ (GuestEvent.length_argsPart_tlb ..), event_headerPart, GuestEvent.id, hids.data,
    ofBytes_argsPart_itlb, ofBytes_argsPart_tlb, if_true]
  cases readUntilInsn rest <;> rfl

theorem readSingle_insn (hids : ReaderIds ids) (a : ItlbArgs) (t : UInt64) (a' : ItlbArgs)
    (t' : UInt64) (rest : List UInt8) :
    readSingleInstrQemutrace
        ((GuestEvent.itlb a t).argsPart ++ (GuestEvent.itlb a' t').headerPart ids pid ++ rest) =
      .ok (OooModelInstr.ofInsn (insnOfArgs a), rest) := by
  simp only [readSingleInstrQemutrace, List.append_assoc, ok_bind,
    fread_append _ (GuestEvent.length_argsPart_itlb ..),
    fread_append _ (GuestEvent.length_headerPart ..), event_headerPart, GuestEvent.id, hids.insn,
    ofBytes_argsPart_itlb]
  rw [if_neg (by decide), if_neg (by decide), if_pos trivial]
  rfl

theorem readSingle_nop_insn (hids : ReaderIds ids) (a : ItlbArgs) (t : UInt64) (n : NopArgs)
    (nt : UInt64) (a' : ItlbArgs) (t' : UInt64) (rest : List UInt8) :
    readSingleInstrQemutrace
        ((GuestEvent.itlb a t).argsPart ++ (GuestEvent.nop n nt).bytes ids pid ++
          (GuestEvent.itlb a' t').headerPart ids pid ++ rest) =
      .ok (OooModelInstr.ofInsn (insnOfArgs a), rest) := by
  rw [GuestEvent.bytes_eq]
  simp only [readSingleInstrQemutrace, List.append_assoc, ok_bind,
    fread_append _ (GuestEvent.length_argsPart_itlb ..),
    fread_append _ (GuestEvent.length_headerPart ..),
    fread_append _ (GuestEvent.length_argsPart_nop ..), event_headerPart, GuestEvent.id,
    hids.nop, hids.insn, ofBytes_argsPart_itlb]
  rw [if_neg (by decide), if_pos trivial, if_pos trivial]
  rfl

theorem readSingle_end (a : ItlbArgs) (t : UInt64) :
    readSingleInstrQemutrace (GuestEvent.itlb a t).argsPart = .error .endOfTrace := by
  have h := fread_append [] (GuestEvent.length_argsPart_itlb a t)
  rw [List.append_nil] at h
  simp only [readSingleInstrQemutrace, h, ok_bind, fread_nil (show 0 < 32 by decide)]
  rfl

theorem readSingle_nop_end (hids : ReaderIds ids) (a : ItlbArgs) (t : UInt64) (n : NopArgs)
    (nt : UInt64) :
    readSingleInstrQemutrace
        ((GuestEvent.itlb a t).argsPart ++ (GuestEvent.nop n nt).bytes ids pid) =
      .error .endOfTrace := by
  have h := fread_append [] (GuestEvent.length_argsPart_nop n nt)
  rw [List.append_nil] at h
  rw [GuestEvent.bytes_eq]
  simp only [readSingleInstrQemutrace, ok_bind,
    fread_append _ (GuestEvent.length_argsPart_itlb ..),
    fread_append _ (GuestEvent.length_headerPart ..), h, fread_nil (show 0 < 32 by decide),
    event_headerPart, GuestEvent.id, hids.nop]
  rw [if_neg (by decide), if_pos trivial]
  rfl

theorem readSingle_nop_nop (hids : ReaderIds ids) (a : ItlbArgs) (t : UInt64) (n : NopArgs)
    (nt : UInt64) (n' : NopArgs) (nt' : UInt64) (rest : List UInt8) :
    readSingleInstrQemutrace
        ((GuestEvent.itlb a t).argsPart ++ (GuestEvent.nop n nt).bytes ids pid ++
          (GuestEvent.nop n' nt').headerPart ids pid ++ rest) = .error .assertFailed := by
  rw [GuestEvent.bytes_eq]
  simp only [readSingleInstrQemutrace, List.append_assoc, ok_bind,
    fread_append _ (GuestEvent.length_argsPart_itlb ..),
    fread_append _ (GuestEvent.length_headerPart ..),
    fread_append _ (GuestEvent.length_argsPart_nop ..), event_headerPart, GuestEvent.id, hids.nop]
  rw [if_neg (by decide), if_pos trivial, if_neg (by decide)]
  rfl

def AtInsn (ids : GuestEventIds) (pid : UInt32) (next : List UInt8) : Prop :=
  next = [] ∨ ∃ c : Block, ∃ more, next = c.bytes ids pid ++ more

theorem readSingle_block (hids : ReaderIds ids) {b : Block} (hb : b.Readable)
    {next : List UInt8} (hnext : AtInsn ids pid next) :
    readSingleInstrQemutrace (b.rest ids pid ++ next) =
      (fun f => (b.instr, f)) <$> readUntilInsn next := by
  rcases b with ⟨insn, t, data, nops⟩
  cases data with
  | cons d ds =>
    -- the first data access is read with the instruction, the loop skips the others
    have hrest : (Block.mk insn t (d :: ds) nops).rest ids pid ++ next =
        (GuestEvent.itlb insn t).argsPart ++ (GuestEvent.tlb d.1 d.2).bytes ids pid ++
          ((Block.mk insn t ds nops).tailEvents.flatMap (GuestEvent.bytes ids pid) ++ next) := by
      simp [Block.rest, Block.tailEvents, Block.insnEvent]
    rw [hrest, readSingle_data hids, readUntilInsn_tailEvents hids]
    rfl
  | nil =>
    have hn : nops.length ≤ 1 := hb rfl
    match nops, hn with
    | [], _ =>
      rcases hnext with rfl | ⟨c, more, rfl⟩
      · simpa [Block.rest, Block.tailEvents, Block.insnEvent, readUntilInsn_nil] using
          readSingle_end insn t
      · rw [readUntilInsn_block hids, Block.bytes_eq]
        simpa [Block.rest, Block.tailEvents, Block.insnEvent, Block.instr] using
          readSingle_insn hids insn t c.insn c.insnTime (c.rest ids pid ++ more)
    | [n], _ =>
      rcases hnext with rfl | ⟨c, more, rfl⟩
      · simpa [Block.rest, Block.tailEvents, Block.insnEvent, readUntilInsn_nil] using
          readSingle_nop_end hids insn t n.1 n.2
      · rw [readUntilInsn_block hids, Block.bytes_eq]
        simpa [Block.rest, Block.tailEvents, Block.insnEvent, Block.instr] using
          readSingle_nop_insn hids insn t n.1 n.2 c.insn c.insnTime (c.rest ids pid ++ more)

end Reading

section Getting

variable {ids : GuestEventIds} {pid : UInt32}

theorem atInsn_nil (ids : GuestEventIds) (pid : UInt32) : AtInsn ids pid [] := .inl rfl

theorem atInsn_blocks (ids : GuestEventIds) (pid : UInt32) (c : Block) (rest : List Block) :
    AtInsn ids pid ((c :: rest).flatMap (Block.bytes ids pid)) :=
  .inr ⟨c, _, List.flatMap_cons⟩

theorem get_held (hids : ReaderIds ids) (last : OooModelInstr) {c : Block} (hc : c.Readable)
    {next : List UInt8} (hnext : AtInsn ids pid next) :
    QemuTracereader.get ⟨c.rest ids pid ++ next, last, true⟩ =
      (fun f => (translateBranch last c.ip, ⟨f, c.instr, true⟩)) <$> readUntilInsn next := by
  simp only [QemuTracereader.get, readSingle_block hids hc hnext, if_true]
  cases readUntilInsn next <;> simp [Block.ip_instr]

theorem gets_error {r : QemuTracereader} {e : Stop} (h : r.get = .error e) (n : Nat) :
    r.gets (n + 1) = ([], some e) := by
  simp only [gets, h]

theorem gets_ok {r r' : QemuTracereader} {i : OooModelInstr} (h : r.get = .ok (i, r')) (n : Nat) :
    r.gets (n + 1) = (i :: (r'.gets n).1, (r'.gets n).2) := by
  simp only [gets, h]

theorem gets_held (hids : ReaderIds ids) (b c : Block) (rest : List Block)
    (hr : ∀ x ∈ c :: rest, x.Readable) (n : Nat) (hn : rest.length < n) :
    gets ⟨c.rest ids pid ++ rest.flatMap (Block.bytes ids pid), b.instr, true⟩ n =
      (returned (b :: c :: rest), some .endOfTrace) := by
  obtain ⟨m, rfl⟩ : ∃ m, n = m + 1 := ⟨n - 1, by omega⟩
  -- induction on the blocks still to read; the reader moves one block on per call
  induction rest generalizing b c m with
  | nil =>
    have h := get_held hids b.instr (hr c (by simp)) (atInsn_nil ids pid)
    rw [readUntilInsn_nil] at h
    simpa [returned] using gets_error h m
  | cons d rest ih =>
    have h := get_held hids b.instr (hr c (by simp)) (atInsn_blocks ids pid d rest)
    rw [List.flatMap_cons, readUntilInsn_block hids] at h
    obtain ⟨m', rfl⟩ : ∃ m', m = m' + 1 := ⟨m - 1, by simp at hn; omega⟩
    have hih := ih c d (fun x hx => hr x (List.mem_cons_of_mem _ hx)) m' (by simp at hn ⊢; omega)
    rw [List.flatMap_cons, gets_ok h, hih, returned]

theorem get_opened (hids : ReaderIds ids) (last : OooModelInstr) {b c : Block} (hb : b.Readable)
    (hc : c.Readable) {next : List UInt8} (hnext : AtInsn ids pid next) :
    QemuTracereader.get ⟨b.rest ids pid ++ c.bytes ids pid ++ next, last, false⟩ =
      (fun f => (translateBranch b.instr c.ip, ⟨f, c.instr, true⟩)) <$> readUntilInsn next := by
  have h₁ : readSingleInstrQemutrace (b.rest ids pid ++ (c.bytes ids pid ++ next)) =
      .ok (b.instr, c.rest ids pid ++ next) := by
    rw [readSingle_block hids hb (.inr ⟨c, next, rfl⟩), readUntilInsn_block hids]
    rfl
  simp only [QemuTracereader.get, List.append_assoc, h₁, ok_bind, Bool.false_eq_true, if_false,
    readSingle_block hids hc hnext]
  cases readUntilInsn next <;> simp [Block.ip_instr]

theorem gets_opened (hids : ReaderIds ids) (last : OooModelInstr) (b : Block)
    (rest : List Block) (hr : ∀ x ∈ b :: rest, x.Readable) (n : Nat) (hn : rest.length < n) :
    gets ⟨b.rest ids pid ++ rest.flatMap (Block.bytes ids pid), last, false⟩ n =
      (returned (b :: rest), some .endOfTrace) := by
  obtain ⟨m, rfl⟩ : ∃ m, n = m + 1 := ⟨n - 1, by omega⟩
  -- the first call fails at the end of the file unless three blocks are there
  match rest, hn with
  | [], _ =>
    have h := readSingle_block hids (hr b (by simp)) (atInsn_nil ids pid)
    rw [readUntilInsn_nil] at h
    have hget : QemuTracereader.get ⟨b.rest ids pid ++ [], last, false⟩ = .error .endOfTrace := by
      simp only [QemuTracereader.get, h]; rfl
    simpa [returned] using gets_error hget m
  | [c], _ =>
    have h := get_opened hids last (hr b (by simp)) (hr c (by simp))
      (atInsn_nil ids pid)
    rw [readUntilInsn_nil] at h
    simpa [returned] using gets_error h m
  | c :: d :: rest, hn =>
    have h := get_opened hids last (hr b (by simp)) (hr c (by simp))
      (atInsn_blocks ids pid d rest)
    rw [List.flatMap_cons, readUntilInsn_block hids] at h
    have hheld := @gets_held ids pid hids c d rest (fun x hx => hr x (by simp_all)) m
      (by simp at hn; omega)
    rw [List.flatMap_cons, List.flatMap_cons, ← List.append_assoc, gets_ok h, hheld, returned]

theorem openTrace_traceFile (hids : ReaderIds ids) {mapping : List UInt8}
    (hmap : mapping.length = EVENT_MAPPINGS_SIZE) {begin : NopArgs} (hbegin : begin.nopByte0 = 0xbe)
    (beginTime : UInt64) (b : Block) (rest : List Block) :
    openTrace (traceFile ids pid mapping begin beginTime (b :: rest)) =
      .ok (b.rest ids pid ++ rest.flatMap (Block.bytes ids pid)) := by
  simp only [traceFile, List.flatMap_cons, Block.bytes_eq, GuestEvent.bytes_eq, List.append_assoc]
  simp only [openTrace, ok_bind, freadUnchecked_append _ length_logHeader,
    freadUnchecked_append _ hmap, freadUnchecked_append _ (GuestEvent.length_headerPart ..),
    freadUnchecked_append _ (GuestEvent.length_argsPart_nop ..), event_headerPart,
    byte0_argsPart_nop, hbegin, GuestEvent.id, hids.nop, Block.insnEvent, hids.insn]
  rfl

theorem new_traceFile (hids : ReaderIds ids) {mapping : List UInt8}
    (hmap : mapping.length = EVENT_MAPPINGS_SIZE) {begin : NopArgs} (hbegin : begin.nopByte0 = 0xbe)
    (beginTime : UInt64) (b : Block) (rest : List Block) :
    QemuTracereader.new (traceFile ids pid mapping begin beginTime (b :: rest)) =
      .ok ⟨b.rest ids pid ++ rest.flatMap (Block.bytes ids pid), {}, false⟩ := by
  simp only [QemuTracereader.new, openTrace_traceFile hids hmap hbegin, ok_bind]
  rfl

theorem gets_traceFile (hids : ReaderIds ids) {mapping : List UInt8}
    (hmap : mapping.length = EVENT_MAPPINGS_SIZE) {begin : NopArgs} (hbegin : begin.nopByte0 = 0xbe)
    (beginTime : UInt64) (blocks : List Block) (hne : blocks ≠ [])
    (hr : ∀ b ∈ blocks, b.Readable) :
    ∃ r, QemuTracereader.new (traceFile ids pid mapping begin beginTime blocks) = .ok r ∧
      r.gets blocks.length = (returned blocks, some .endOfTrace) := by
  obtain ⟨b, rest, rfl⟩ := List.exists_cons_of_ne_nil hne
  exact ⟨_, new_traceFile hids hmap hbegin beginTime b rest,
    gets_opened hids {} b rest hr _ (by simp)⟩

/-- A conditional branch with a store and a marker, an instruction with a marker, and a plain
instruction, traced with the ids of the trace-events file. -/
theorem gets_traceFile_three_blocks :
    ∃ r, QemuTracereader.new (traceFile ⟨63, 64, 65⟩ 1 (List.replicate EVENT_MAPPINGS_SIZE 0)
        ⟨0xbe, 0, 0⟩ 0
        [⟨⟨1, 0x401000, 0x1000, 0, 0x5000, 1, 0x401010⟩, 1, [(⟨1, 0x7000, 0x2000, 1, 8, 0, 0x5000⟩, 2)],
            [(⟨0xaa, 0, 0⟩, 3)]⟩,
          ⟨⟨2, 0x401010, 0x1010, 0, 0x5000, 0, 0⟩, 4, [], [(⟨0xab, 0, 0⟩, 5)]⟩,
          ⟨⟨3, 0x401014, 0x1014, 0, 0x5000, 0, 0⟩, 6, [], []⟩]) = .ok r ∧
      r.gets 3 =
        (returned
          [⟨⟨1, 0x401000, 0x1000, 0, 0x5000, 1, 0x401010⟩, 1,
              [(⟨1, 0x7000, 0x2000, 1, 8, 0, 0x5000⟩, 2)], [(⟨0xaa, 0, 0⟩, 3)]⟩,
            ⟨⟨2, 0x401010, 0x1010, 0, 0x5000, 0, 0⟩, 4, [], [(⟨0xab, 0, 0⟩, 5)]⟩,
            ⟨⟨3, 0x401014, 0x1014, 0, 0x5000, 0, 0⟩, 6, [], []⟩], some .endOfTrace) :=
  gets_traceFile ⟨by decide, by decide, by decide⟩ (by simp) rfl 0 _ (by simp) (by decide)

theorem get_twoMarkers (hids : ReaderIds ids) {b : Block} {n n' : NopArgs} {nt nt' : UInt64}
    (hd : b.data = []) (hn : b.nops = [(n, nt), (n', nt')]) (more : List UInt8) (last : OooModelInstr)
    (initialized : Bool) :
    QemuTracereader.get ⟨b.rest ids pid ++ more, last, initialized⟩ = .error .assertFailed := by
  have hfile : b.rest ids pid ++ more = (GuestEvent.itlb b.insn b.insnTime).argsPart ++
      (GuestEvent.nop n nt).bytes ids pid ++ (GuestEvent.nop n' nt').headerPart ids pid ++
        ((GuestEvent.nop n' nt').argsPart ++ more) := by
    simp [Block.rest, Block.tailEvents, Block.insnEvent, hd, hn, GuestEvent.bytes_eq]
  simp only [QemuTracereader.get, hfile, readSingle_nop_nop hids]
  rfl

/-- An instruction followed by two markers and no data access, then a plain instruction: the
first `get()` fails the assertion of the marker branch. -/
theorem gets_twoMarkers_assertFails :
    ∃ r, QemuTracereader.new (traceFile ⟨63, 64, 65⟩ 1 (List.replicate EVENT_MAPPINGS_SIZE 0)
        ⟨0xbe, 0, 0⟩ 0
        [⟨⟨1, 0x401000, 0x1000, 0, 0, 0, 0⟩, 1, [], [(⟨0xaa, 0, 0⟩, 2), (⟨0xab, 0, 0⟩, 3)]⟩,
          ⟨⟨2, 0x401004, 0x1004, 0, 0, 0, 0⟩, 4, [], []⟩]) = .ok r ∧
      r.gets 2 = ([], some .assertFailed) := by
  have hids : ReaderIds ⟨63, 64, 65⟩ := ⟨by decide, by decide, by decide⟩
  exact ⟨_, new_traceFile hids (by simp) rfl 0 _ _, gets_error (get_twoMarkers hids rfl rfl _ _ _) 1⟩

end Getting

end MindPalace.ChampSim
