import MindPalace.Lib.Ring
import MindPalace.Qemu.Record

/-! # The simple trace backend

`trace/simple.c` shares one byte ring `trace_buf` between the producers, which reserve records by
a compare-and-swap on `trace_idx` and set a valid bit last, and `writeout_thread`, which copies
finished records to the file. Each function is one step, the steps interleave arbitrarily, and
the two indices are 32-bit counters that wrap.
-/

namespace MindPalace.Qemu

open LittleEndian

/-- `TRACE_BUF_LEN`, enlarged for MindPalace from `4096 * 64`. -/
def TRACE_BUF_LEN : Nat := 4096 * 1024

instance : NeZero TRACE_BUF_LEN := ⟨by decide⟩

abbrev TraceBuf := Fin TRACE_BUF_LEN → UInt8

def readFromBuffer (buf : TraceBuf) (idx size : Nat) : List UInt8 :=
  Ring.readFrom buf idx size

/-- `write_to_buffer(idx, dataptr, size)`: the ring after the write, and the position after
the last byte written. -/
def writeToBuffer (buf : TraceBuf) (idx : Nat) (data : List UInt8) : TraceBuf × Nat :=
  Ring.writeFrom buf idx data

/-- `clear_buffer_range(idx, len)`: the loop of `write_to_buffer` with zeroes. -/
def clearBufferRange (buf : TraceBuf) (idx len : Nat) : TraceBuf :=
  (Ring.writeFrom buf idx (List.replicate len 0)).1

structure TraceBufferRecord where
  tbufIdx : Nat
  recOff : Nat
  deriving DecidableEq, Repr

section ValidBit

/-! An event id is 32 bits wide, so the valid bit is never part of it: the writer sees the bit
exactly when `trace_record_finish` has set it, and clearing it gives the id back. -/

theorem toNat_toUInt64_lt (e : UInt32) : e.toUInt64.toNat < 2 ^ 63 := by
  have := e.toNat_lt
  simp only [UInt32.toNat_toUInt64]
  omega

theorem toNat_valid : TRACE_RECORD_VALID.toNat = 2 ^ 63 := rfl

theorem event_and_valid (e : UInt32) : e.toUInt64 &&& TRACE_RECORD_VALID = 0 := by
  apply UInt64.toNat_inj.mp
  rw [UInt64.toNat_and, toNat_valid, UInt64.toNat_zero]
  apply Nat.eq_of_testBit_eq
  intro i
  rw [Nat.testBit_and, Nat.testBit_two_pow, Nat.zero_testBit]
  by_cases hi : 63 = i
  · rw [← hi, Nat.testBit_lt_two_pow (toNat_toUInt64_lt e), Bool.false_and]
  · simp [hi]

theorem toNat_event_or_valid (e : UInt32) :
    (e.toUInt64 ||| TRACE_RECORD_VALID).toNat = e.toUInt64.toNat + 2 ^ 63 := by
  rw [UInt64.toNat_or, toNat_valid, Nat.or_two_pow_eq_add_of_lt (toNat_toUInt64_lt e)]

theorem event_or_valid_and_not_valid (e : UInt32) :
    (e.toUInt64 ||| TRACE_RECORD_VALID) &&& ~~~TRACE_RECORD_VALID = e.toUInt64 := by
  apply UInt64.toNat_inj.mp
  rw [UInt64.toNat_and, toNat_event_or_valid,
    show (~~~TRACE_RECORD_VALID).toNat = 2 ^ 63 - 1 from rfl, Nat.and_two_pow_sub_one_eq_mod,
    Nat.add_mod_right, Nat.mod_eq_of_lt (toNat_toUInt64_lt e)]


end ValidBit

/-- A producer thread: not tracing, or inside a generated tracing function with its record
and the argument writes still to come. -/
inductive Producer
  | idle
  | writing (rec : TraceBufferRecord) (pending : List Arg)
  deriving DecidableEq, Repr

/-- The state of the backend: the ring, the two indices, the local `idx` of
`writeout_thread`, what it has written to the file after the header and the event mappings,
and every producer thread. -/
structure TraceState (ι : Type) where
  traceBuf : TraceBuf
  traceIdx : UInt32
  writeoutIdx : UInt32
  writerIdx : Nat
  file : List UInt8
  producers : ι → Producer

/-- The steps of the threads: a producer calls `trace_record_start` for an event with its
arguments, writes its next argument, or calls `trace_record_finish`; the writer runs one
iteration of its `get_trace_record` loop. -/
inductive Action (ι : Type)
  | start (p : ι) (event : UInt32) (timestamp : UInt64) (args : List Arg)
  | write (p : ι)
  | finish (p : ι)
  | writeout

namespace TraceState

variable {ι : Type} [DecidableEq ι]

def init : TraceState ι where
  traceBuf := fun _ => 0
  traceIdx := 0
  writeoutIdx := 0
  writerIdx := 0
  file := []
  producers := fun _ => .idle

/-- `trace_record_start(rec, event, datasize)` with `trace_pid`: reserve `rec_len` bytes and
write the header, without the valid bit. `none` is a producer still waiting for room; the
source no longer drops the event. -/
def traceRecordStart (s : TraceState ι) (pid event : UInt32) (timestamp : UInt64)
    (datasize : Nat) : Option (TraceState ι × TraceBufferRecord) :=
  let recLen : UInt32 := (TRACE_RECORD_SIZE + datasize).toUInt32
  let oldIdx := s.traceIdx
  let newIdx := oldIdx + recLen
  if TRACE_BUF_LEN < (newIdx - s.writeoutIdx).toNat then none
  else
    let idx := oldIdx.toNat % TRACE_BUF_LEN
    let (buf, recOff) := writeToBuffer s.traceBuf idx (u64 event.toUInt64)
    let (buf, recOff) := writeToBuffer buf recOff (u64 timestamp)
    let (buf, recOff) := writeToBuffer buf recOff (u32 recLen)
    let (buf, _) := writeToBuffer buf recOff (u32 pid)
    some ({ s with traceBuf := buf, traceIdx := newIdx },
      ⟨idx, (idx + TRACE_RECORD_SIZE) % TRACE_BUF_LEN⟩)

def traceRecordWriteU64 (s : TraceState ι) (rec : TraceBufferRecord) (val : UInt64) :
    TraceState ι × TraceBufferRecord :=
  let (buf, recOff) := writeToBuffer s.traceBuf rec.recOff (u64 val)
  ({ s with traceBuf := buf }, { rec with recOff })

/-- `trace_record_write_str(rec, s, slen)`: the length, then `slen` bytes of the string. -/
def traceRecordWriteStr (s : TraceState ι) (rec : TraceBufferRecord) (str : List UInt8)
    (slen : UInt32) : TraceState ι × TraceBufferRecord :=
  let (buf, recOff) := writeToBuffer s.traceBuf rec.recOff (u32 slen)
  let (buf, recOff) := writeToBuffer buf recOff (str.take slen.toNat)
  ({ s with traceBuf := buf }, { rec with recOff })

def writeArg (s : TraceState ι) (rec : TraceBufferRecord) : Arg → TraceState ι × TraceBufferRecord
  | .u64 v => s.traceRecordWriteU64 rec v
  | .str str => s.traceRecordWriteStr rec str str.length.toUInt32

/-- `trace_record_finish(rec)`: set the valid bit of the header. The flush it may request
only wakes the writer. -/
def traceRecordFinish (s : TraceState ι) (rec : TraceBufferRecord) : TraceState ι :=
  let header := readFromBuffer s.traceBuf rec.tbufIdx TRACE_RECORD_SIZE
  let event := toU64 (header.take 8) ||| TRACE_RECORD_VALID
  let (buf, _) := writeToBuffer s.traceBuf rec.tbufIdx (u64 event ++ header.drop 8)
  { s with traceBuf := buf }

/-- `get_trace_record(idx, recordptr)`: the record at `idx` with its valid bit cleared and
the ring with its bytes zeroed, or `none` if its valid bit is not set. -/
def getTraceRecord (buf : TraceBuf) (idx : Nat) : Option (List UInt8 × TraceBuf) :=
  let eventFlag := toU64 (readFromBuffer buf idx 8)
  if eventFlag &&& TRACE_RECORD_VALID = 0 then none
  else
    let header := readFromBuffer buf idx TRACE_RECORD_SIZE
    let length := (toU32 ((header.drop 16).take 4)).toNat
    let record := readFromBuffer buf idx length
    let record := u64 (toU64 (record.take 8) &&& ~~~TRACE_RECORD_VALID) ++ record.drop 8
    some (record, clearBufferRange buf idx length)

/-- One iteration of the `get_trace_record` loop of `writeout_thread`, writing the file
uncompressed; `none` when the loop stops at a record whose valid bit is not set.
`dropped_events` is never incremented, so the dropped-events record is never written. -/
def writeout (s : TraceState ι) : Option (TraceState ι) := do
  let (record, buf) ← getTraceRecord s.traceBuf s.writerIdx
  let writeoutIdx := s.writeoutIdx + toU32 ((record.drop 16).take 4)
  pure { s with traceBuf := buf, file := s.file ++ fileRecord record, writeoutIdx,
                writerIdx := writeoutIdx.toNat % TRACE_BUF_LEN }

/-- One step of one thread; `none` when the step cannot be taken. -/
def step (pid : UInt32) (s : TraceState ι) : Action ι → Option (TraceState ι)
  | .start p event timestamp args =>
    match s.producers p with
    | .idle => do
      let (s, rec) ← s.traceRecordStart pid event timestamp (dataSize args)
      pure { s with producers := Function.update s.producers p (.writing rec args) }
    | .writing .. => none
  | .write p =>
    match s.producers p with
    | .writing rec (a :: pending) =>
      let (s, rec) := s.writeArg rec a
      some { s with producers := Function.update s.producers p (.writing rec pending) }
    | _ => none
  | .finish p =>
    match s.producers p with
    | .writing rec [] =>
      let s := s.traceRecordFinish rec
      some { s with producers := Function.update s.producers p .idle }
    | _ => none
  | .writeout => s.writeout

def run (pid : UInt32) (s : TraceState ι) (actions : List (Action ι)) : Option (TraceState ι) :=
  actions.foldlM (step pid) s

section Specs

/-! One lemma for each function: what a call that succeeds has done, with the header writes
of `trace_record_start` and the two writes of a string merged into one write each. -/

variable {s s' : TraceState ι}


omit [DecidableEq ι] in
theorem traceRecordStart_of_le {pid event : UInt32} {timestamp : UInt64} {datasize : Nat}
    (h : (s.traceIdx + (TRACE_RECORD_SIZE + datasize).toUInt32 - s.writeoutIdx).toNat ≤
      TRACE_BUF_LEN) :
    s.traceRecordStart pid event timestamp datasize = some ({ s with
        traceBuf := (writeToBuffer s.traceBuf (s.traceIdx.toNat % TRACE_BUF_LEN)
          (recordHeader event timestamp (TRACE_RECORD_SIZE + datasize).toUInt32 pid)).1,
        traceIdx := s.traceIdx + (TRACE_RECORD_SIZE + datasize).toUInt32 },
      ⟨s.traceIdx.toNat % TRACE_BUF_LEN,
        (s.traceIdx.toNat % TRACE_BUF_LEN + TRACE_RECORD_SIZE) % TRACE_BUF_LEN⟩) := by
  unfold traceRecordStart
  dsimp only
  rw [if_neg (by omega)]
  simp only [writeToBuffer, recordHeader, Ring.writeFrom_append]

omit [DecidableEq ι] in
theorem le_of_traceRecordStart_eq_some {pid event : UInt32} {timestamp : UInt64}
    {datasize : Nat} {r : TraceState ι × TraceBufferRecord}
    (h : s.traceRecordStart pid event timestamp datasize = some r) :
    (s.traceIdx + (TRACE_RECORD_SIZE + datasize).toUInt32 - s.writeoutIdx).toNat ≤
      TRACE_BUF_LEN := by
  unfold traceRecordStart at h
  dsimp only at h
  split at h
  · cases h
  · omega

omit [DecidableEq ι] in
theorem writeArg_eq (rec : TraceBufferRecord) {a : Arg} (ha : a.size < 2 ^ 32) :
    s.writeArg rec a =
      ({ s with traceBuf := (writeToBuffer s.traceBuf rec.recOff a.bytes).1 },
        { rec with recOff := (writeToBuffer s.traceBuf rec.recOff a.bytes).2 }) := by
  cases a with
  | u64 v => rfl
  | str str =>
    have hlen : str.length.toUInt32.toNat = str.length := by
      simp only [Arg.size] at ha
      rw [Nat.toUInt32, UInt32.toNat_ofNat_of_lt' (by rw [UInt32.size]; omega)]
    simp only [writeArg, traceRecordWriteStr, hlen, List.take_length, Arg.bytes, writeToBuffer,
      Ring.writeFrom_append]

omit [DecidableEq ι] in
theorem traceRecordFinish_eq (rec : TraceBufferRecord) :
    s.traceRecordFinish rec = { s with
      traceBuf := (writeToBuffer s.traceBuf rec.tbufIdx
        (u64 (toU64 ((readFromBuffer s.traceBuf rec.tbufIdx TRACE_RECORD_SIZE).take 8) |||
            TRACE_RECORD_VALID) ++
          (readFromBuffer s.traceBuf rec.tbufIdx TRACE_RECORD_SIZE).drop 8)).1 } := rfl

theorem getTraceRecord_eq_some {buf buf' : TraceBuf} {idx : Nat} {record : List UInt8}
    (h : getTraceRecord buf idx = some (record, buf')) :
    toU64 (readFromBuffer buf idx 8) &&& TRACE_RECORD_VALID ≠ 0 ∧
      ∃ length, length = (toU32 (((readFromBuffer buf idx TRACE_RECORD_SIZE).drop 16).take 4)).toNat ∧
        record = u64 (toU64 ((readFromBuffer buf idx length).take 8) &&& ~~~TRACE_RECORD_VALID) ++
          (readFromBuffer buf idx length).drop 8 ∧
        buf' = clearBufferRange buf idx length := by
  unfold getTraceRecord at h
  dsimp only at h
  split at h
  · cases h
  · simp only [Option.some.injEq, Prod.mk.injEq] at h
    exact ⟨‹_›, _, rfl, h.1.symm, h.2.symm⟩

omit [DecidableEq ι] in
theorem writeout_eq_some (h : s.writeout = some s') :
    ∃ record buf, getTraceRecord s.traceBuf s.writerIdx = some (record, buf) ∧
      s' = { s with
        traceBuf := buf
        file := s.file ++ fileRecord record
        writeoutIdx := s.writeoutIdx + toU32 ((record.drop 16).take 4)
        writerIdx := (s.writeoutIdx + toU32 ((record.drop 16).take 4)).toNat % TRACE_BUF_LEN } := by
  unfold writeout at h
  cases hg : getTraceRecord s.traceBuf s.writerIdx with
  | none => simp [hg] at h
  | some r =>
    obtain ⟨record, buf⟩ := r
    simp only [hg, Option.bind_eq_bind, Option.bind_some, Option.pure_def, Option.some.injEq] at h
    exact ⟨record, buf, rfl, h.symm⟩

variable {pid : UInt32} {p : ι}

theorem step_start_eq_some {event : UInt32} {timestamp : UInt64} {args : List Arg}
    (h : s.step pid (.start p event timestamp args) = some s') :
    s.producers p = .idle ∧ ∃ s₁ rec, s.traceRecordStart pid event timestamp (dataSize args) =
      some (s₁, rec) ∧ s' = { s₁ with producers := Function.update s₁.producers p (.writing rec args) } := by
  simp only [step] at h
  split at h
  · cases hs : s.traceRecordStart pid event timestamp (dataSize args) with
    | none => simp [hs] at h
    | some r =>
      obtain ⟨s₁, rec⟩ := r
      simp only [hs, Option.bind_eq_bind, Option.bind_some, Option.pure_def, Option.some.injEq] at h
      exact ⟨‹_›, s₁, rec, rfl, h.symm⟩
  · cases h

omit [DecidableEq ι] in
@[simp] theorem producers_writeArg (rec : TraceBufferRecord) (a : Arg) :
    (s.writeArg rec a).1.producers = s.producers := by
  cases a <;> rfl

theorem step_write_eq_some (h : s.step pid (.write p) = some s') :
    ∃ rec a pending, s.producers p = .writing rec (a :: pending) ∧
      s' = { (s.writeArg rec a).1 with
        producers := Function.update s.producers p (.writing (s.writeArg rec a).2 pending) } := by
  simp only [step] at h
  split at h
  · simp only [Option.some.injEq, producers_writeArg] at h
    exact ⟨_, _, _, ‹_›, h.symm⟩
  · cases h

theorem step_finish_eq_some (h : s.step pid (.finish p) = some s') :
    ∃ rec, s.producers p = .writing rec [] ∧
      s' = { s.traceRecordFinish rec with producers := Function.update s.producers p .idle } := by
  simp only [step] at h
  split at h
  · simp only [Option.some.injEq] at h
    exact ⟨_, ‹_›, h.symm⟩
  · cases h

end Specs

end TraceState

end MindPalace.Qemu
