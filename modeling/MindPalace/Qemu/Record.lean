import MindPalace.Lib.LittleEndian

/-! # Simple-trace records

The byte layout of QEMU's simple trace backend (`trace/simple.c`): the file header, the
`TraceRecord` header that `trace_record_start` writes, the argument writes of the functions
that `scripts/tracetool/backend/simple.py` generates, and the framing `writeout_thread`
gives each record in the file. The three guest events of MindPalace's `trace-events` are
listed with their arguments in declaration order.
-/

namespace MindPalace.Qemu

open LittleEndian

/-- `TRACE_RECORD_TYPE_EVENT`, the word `writeout_thread` writes before every record. -/
def TRACE_RECORD_TYPE_EVENT : UInt64 := 1

def HEADER_EVENT_ID : UInt64 := 0xffffffffffffffff
def HEADER_MAGIC : UInt64 := 0xf2b177cb0aa429b4
def HEADER_VERSION : UInt64 := 4

def TRACE_RECORD_VALID : UInt64 := 0x8000000000000000

/-- `sizeof(TraceRecord)`: event, timestamp, length and pid. -/
def TRACE_RECORD_SIZE : Nat := 24

def logHeader : List UInt8 :=
  u64 HEADER_EVENT_ID ++ u64 HEADER_MAGIC ++ u64 HEADER_VERSION

@[simp] theorem length_logHeader : logHeader.length = 24 := by
  simp [logHeader]

inductive Arg
  /-- `trace_record_write_u64`, for every argument that is not a string. -/
  | u64 (v : UInt64)
  /-- `trace_record_write_str`, the string already cut to `MAX_TRACE_STRLEN`. -/
  | str (s : List UInt8)
  deriving DecidableEq, Repr

def Arg.bytes : Arg → List UInt8
  | .u64 v => LittleEndian.u64 v
  | .str s => u32 s.length.toUInt32 ++ s

/-- The generated size expression: `8` for a word, `4 + len` for a string. -/
def Arg.size : Arg → Nat
  | .u64 _ => 8
  | .str s => 4 + s.length

def dataSize (args : List Arg) : Nat :=
  (args.map Arg.size).sum

@[simp] theorem Arg.length_bytes (a : Arg) : a.bytes.length = a.size := by
  cases a <;> simp [Arg.bytes, Arg.size]

@[simp] theorem dataSize_nil : dataSize [] = 0 := rfl

@[simp] theorem dataSize_cons (a : Arg) (args : List Arg) :
    dataSize (a :: args) = a.size + dataSize args := by
  simp [dataSize]

@[simp] theorem dataSize_append (xs ys : List Arg) :
    dataSize (xs ++ ys) = dataSize xs + dataSize ys := by
  simp [dataSize]

@[simp] theorem length_flatMap_bytes (args : List Arg) :
    (args.flatMap Arg.bytes).length = dataSize args := by
  induction args with
  | nil => rfl
  | cons a args ih => simp [ih]

/-- The `TraceRecord` header `trace_record_start` writes, without the valid bit. -/
def recordHeader (event : UInt32) (timestamp : UInt64) (recLen : UInt32) (pid : UInt32) :
    List UInt8 :=
  u64 event.toUInt64 ++ u64 timestamp ++ u32 recLen ++ u32 pid

/-- A record as its producer writes it: the header with `rec_len`, then the arguments. -/
def recordBytes (event : UInt32) (timestamp : UInt64) (pid : UInt32) (args : List Arg) :
    List UInt8 :=
  recordHeader event timestamp (TRACE_RECORD_SIZE + dataSize args).toUInt32 pid ++
    args.flatMap Arg.bytes

/-- `writeout_thread`'s output for one record: the record type, then the record. -/
def fileRecord (record : List UInt8) : List UInt8 :=
  u64 TRACE_RECORD_TYPE_EVENT ++ record

structure ItlbArgs where
  icount : UInt64
  vaddr : UInt64
  paddr : UInt64
  segStates : UInt8
  cr3 : UInt64
  brType : UInt8
  targetVaddr : UInt64
  deriving DecidableEq, Repr

structure TlbArgs where
  icount : UInt64
  vaddr : UInt64
  paddr : UInt64
  loadStore : UInt8
  length : UInt8
  segStates : UInt8
  cr3 : UInt64
  deriving DecidableEq, Repr

structure NopArgs where
  nopByte0 : UInt8
  nopByte1 : UInt8
  nopByte2 : UInt8
  deriving DecidableEq, Repr

inductive GuestEvent
  | itlb (a : ItlbArgs) (timestamp : UInt64)
  | tlb (a : TlbArgs) (timestamp : UInt64)
  | nop (a : NopArgs) (timestamp : UInt64)
  deriving DecidableEq, Repr

structure GuestEventIds where
  itlb : UInt32
  tlb : UInt32
  nop : UInt32
  deriving DecidableEq, Repr

namespace GuestEvent

/-- The argument writes of the generated `_simple_` function; `uint8_t` arguments are cast
to `uint64_t`. -/
def args : GuestEvent → List Arg
  | itlb a _ => [.u64 a.icount, .u64 a.vaddr, .u64 a.paddr, .u64 a.segStates.toUInt64,
      .u64 a.cr3, .u64 a.brType.toUInt64, .u64 a.targetVaddr]
  | tlb a _ => [.u64 a.icount, .u64 a.vaddr, .u64 a.paddr, .u64 a.loadStore.toUInt64,
      .u64 a.length.toUInt64, .u64 a.segStates.toUInt64, .u64 a.cr3]
  | nop a _ => [.u64 a.nopByte0.toUInt64, .u64 a.nopByte1.toUInt64, .u64 a.nopByte2.toUInt64]

def id (ids : GuestEventIds) : GuestEvent → UInt32
  | itlb .. => ids.itlb
  | tlb .. => ids.tlb
  | nop .. => ids.nop

def timestamp : GuestEvent → UInt64
  | itlb _ t | tlb _ t | nop _ t => t

/-- The event in the file, as `writeout_thread` writes its record. -/
def bytes (ids : GuestEventIds) (pid : UInt32) (e : GuestEvent) : List UInt8 :=
  fileRecord (recordBytes (e.id ids) e.timestamp pid e.args)

/-- The 32 bytes of an event in the file that the reader takes as a `QEMU_event_header`. -/
def headerPart (ids : GuestEventIds) (pid : UInt32) (e : GuestEvent) : List UInt8 :=
  u64 TRACE_RECORD_TYPE_EVENT ++
    recordHeader (e.id ids) e.timestamp (TRACE_RECORD_SIZE + dataSize e.args).toUInt32 pid

def argsPart (e : GuestEvent) : List UInt8 :=
  e.args.flatMap Arg.bytes

theorem bytes_eq (ids : GuestEventIds) (pid : UInt32) (e : GuestEvent) :
    e.bytes ids pid = e.headerPart ids pid ++ e.argsPart := by
  simp [bytes, fileRecord, recordBytes, headerPart, argsPart]

@[simp] theorem length_headerPart (ids : GuestEventIds) (pid : UInt32) (e : GuestEvent) :
    (e.headerPart ids pid).length = 32 := by
  simp [headerPart, recordHeader]

@[simp] theorem length_argsPart_itlb (a : ItlbArgs) (t : UInt64) :
    (argsPart (.itlb a t)).length = 56 := by
  simp [argsPart, args, Arg.bytes]

@[simp] theorem length_argsPart_tlb (a : TlbArgs) (t : UInt64) :
    (argsPart (.tlb a t)).length = 56 := by
  simp [argsPart, args, Arg.bytes]

@[simp] theorem length_argsPart_nop (a : NopArgs) (t : UInt64) :
    (argsPart (.nop a t)).length = 24 := by
  simp [argsPart, args, Arg.bytes]

end GuestEvent

end MindPalace.Qemu
