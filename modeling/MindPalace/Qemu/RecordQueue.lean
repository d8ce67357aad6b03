import MindPalace.Qemu.SimpleTrace

/-! # Reserved records

What the simple backend is for, without the ring: producers reserve records in order and finish
them one at a time, and the writer takes finished records from the front. The file is always the
first records reserved, as their producers wrote them; the labels are those of `TraceState.step`.
-/

namespace MindPalace.Qemu

structure Slot (ι : Type) where
  owner : ι
  event : UInt32
  timestamp : UInt64
  args : List Arg
  written : Nat
  finished : Bool
  written_le : written ≤ args.length
  finished_full : finished = true → written = args.length

namespace Slot

variable {ι : Type}

def length (sl : Slot ι) : Nat :=
  TRACE_RECORD_SIZE + dataSize sl.args

def record (pid : UInt32) (sl : Slot ι) : List UInt8 :=
  recordBytes sl.event sl.timestamp pid sl.args

def fresh (p : ι) (event : UInt32) (timestamp : UInt64) (args : List Arg) : Slot ι where
  owner := p
  event := event
  timestamp := timestamp
  args := args
  written := 0
  finished := false
  written_le := Nat.zero_le _
  finished_full := nofun

@[simp] theorem length_fresh (p : ι) (event : UInt32) (timestamp : UInt64) (args : List Arg) :
    (fresh p event timestamp args).length = TRACE_RECORD_SIZE + dataSize args := rfl

@[simp] theorem record_fresh (pid : UInt32) (p : ι) (event : UInt32) (timestamp : UInt64)
    (args : List Arg) :
    (fresh p event timestamp args).record pid = recordBytes event timestamp pid args := rfl

section Updates

variable [DecidableEq ι]

def advance (p : ι) (sl : Slot ι) : Slot ι :=
  if h : sl.owner = p ∧ sl.written < sl.args.length then
    { sl with
      written := sl.written + 1
      written_le := h.2
      finished_full := fun hf => absurd (sl.finished_full hf) (Nat.ne_of_lt h.2) }
  else sl

def close (p : ι) (sl : Slot ι) : Slot ι :=
  if h : sl.owner = p ∧ sl.written = sl.args.length then
    { sl with finished := true, finished_full := fun _ => h.2 }
  else sl

/-! What `advance` and `close` keep: everything the file and the ring's layout depend on. -/

variable (p : ι) (sl : Slot ι)

@[simp] theorem owner_advance : (sl.advance p).owner = sl.owner := by
  unfold advance; split <;> rfl

@[simp] theorem args_advance : (sl.advance p).args = sl.args := by
  unfold advance; split <;> rfl

@[simp] theorem finished_advance : (sl.advance p).finished = sl.finished := by
  unfold advance; split <;> rfl

@[simp] theorem event_advance : (sl.advance p).event = sl.event := by
  unfold advance; split <;> rfl

@[simp] theorem timestamp_advance : (sl.advance p).timestamp = sl.timestamp := by
  unfold advance; split <;> rfl

@[simp] theorem event_close : (sl.close p).event = sl.event := by
  unfold close; split <;> rfl

@[simp] theorem timestamp_close : (sl.close p).timestamp = sl.timestamp := by
  unfold close; split <;> rfl

@[simp] theorem owner_close : (sl.close p).owner = sl.owner := by
  unfold close; split <;> rfl

@[simp] theorem args_close : (sl.close p).args = sl.args := by
  unfold close; split <;> rfl

@[simp] theorem written_close : (sl.close p).written = sl.written := by
  unfold close; split <;> rfl

theorem length_advance : (sl.advance p).length = sl.length := by
  simp [length]

theorem length_close : (sl.close p).length = sl.length := by
  simp [length]

theorem record_advance (pid : UInt32) : (sl.advance p).record pid = sl.record pid := by
  unfold advance; split <;> rfl

theorem record_close (pid : UInt32) : (sl.close p).record pid = sl.record pid := by
  unfold close; split <;> rfl

theorem advance_of_finished {p : ι} {sl : Slot ι} (h : sl.owner = p → sl.finished = true) :
    sl.advance p = sl := by
  unfold advance
  rw [dif_neg]
  rintro ⟨hown, hlt⟩
  exact absurd (sl.finished_full (h hown)) (Nat.ne_of_lt hlt)

theorem close_of_finished {p : ι} {sl : Slot ι} (h : sl.owner = p → sl.finished = true) :
    sl.close p = sl := by
  unfold close
  split
  · next hc =>
    obtain ⟨owner, event, timestamp, args, written, finished, _, _⟩ := sl
    obtain rfl : finished = true := h hc.1
    rfl
  · rfl

theorem advance_of_lt {p : ι} {sl : Slot ι} (hown : sl.owner = p)
    (hlt : sl.written < sl.args.length) :
    (sl.advance p).written = sl.written + 1 := by
  unfold advance
  rw [dif_pos ⟨hown, hlt⟩]

theorem close_of_full {p : ι} {sl : Slot ι} (hown : sl.owner = p)
    (hfull : sl.written = sl.args.length) :
    (sl.close p).finished = true := by
  unfold close
  rw [dif_pos ⟨hown, hfull⟩]

end Updates

end Slot

def used {ι : Type} (slots : List (Slot ι)) : Nat :=
  (slots.map Slot.length).sum

@[simp] theorem used_nil {ι : Type} : used ([] : List (Slot ι)) = 0 := rfl

@[simp] theorem used_cons {ι : Type} (sl : Slot ι) (slots : List (Slot ι)) :
    used (sl :: slots) = sl.length + used slots := by
  simp [used]

@[simp] theorem used_append {ι : Type} (xs ys : List (Slot ι)) :
    used (xs ++ ys) = used xs + used ys := by
  simp [used]

theorem used_map {ι : Type} {f : Slot ι → Slot ι} (hf : ∀ sl, (f sl).length = sl.length)
    (slots : List (Slot ι)) : used (slots.map f) = used slots := by
  induction slots with
  | nil => rfl
  | cons sl slots ih => simp [hf, ih]

theorem map_record_map {ι : Type} {pid : UInt32} {f : Slot ι → Slot ι} (hf : ∀ sl, (f sl).record pid = sl.record pid)
    (slots : List (Slot ι)) : (slots.map f).map (Slot.record pid) = slots.map (Slot.record pid) := by
  rw [List.map_map]
  exact List.map_congr_left fun sl _ => hf sl

structure RecordQueue (ι : Type) where
  written : List (List UInt8)
  slots : List (Slot ι)

/-- The records an action reserves: one for a start, none otherwise. -/
def Action.reserved {ι : Type} (pid : UInt32) : Action ι → List (List UInt8)
  | .start _ event timestamp args => [recordBytes event timestamp pid args]
  | _ => []

def reservedRecords {ι : Type} (pid : UInt32) (actions : List (Action ι)) : List (List UInt8) :=
  actions.flatMap (Action.reserved pid)

def Action.Fits {ι : Type} : Action ι → Prop
  | .start _ _ _ args => TRACE_RECORD_SIZE + dataSize args ≤ TRACE_BUF_LEN
  | _ => True

instance {ι : Type} : DecidablePred (Action.Fits (ι := ι))
  | .start _ _ _ args =>
    inferInstanceAs (Decidable (TRACE_RECORD_SIZE + dataSize args ≤ TRACE_BUF_LEN))
  | .write _ | .finish _ | .writeout => isTrue trivial

namespace RecordQueue

variable {ι : Type} [DecidableEq ι]

def empty : RecordQueue ι := ⟨[], []⟩

/-- One step: a start reserves a slot behind the others if its producer has no open record
and there is room; a write or a finish moves the producer's open record on; the writer takes
the front slot once it is finished. -/
def step (pid : UInt32) (q : RecordQueue ι) : Action ι → Option (RecordQueue ι)
  | .start p event timestamp args =>
    if (∃ sl ∈ q.slots, sl.owner = p ∧ sl.finished = false) ∨
        TRACE_BUF_LEN < used q.slots + (TRACE_RECORD_SIZE + dataSize args) then none
    else some { q with slots := q.slots ++ [Slot.fresh p event timestamp args] }
  | .write p =>
    if ∃ sl ∈ q.slots, sl.owner = p ∧ sl.written < sl.args.length then
      some { q with slots := q.slots.map (Slot.advance p) }
    else none
  | .finish p =>
    if ∃ sl ∈ q.slots, sl.owner = p ∧ sl.finished = false ∧ sl.written = sl.args.length then
      some { q with slots := q.slots.map (Slot.close p) }
    else none
  | .writeout =>
    match q.slots with
    | sl :: rest => if sl.finished then some ⟨q.written ++ [sl.record pid], rest⟩ else none
    | [] => none

def run (pid : UInt32) (q : RecordQueue ι) (actions : List (Action ι)) : Option (RecordQueue ι) :=
  actions.foldlM (step pid) q

def reserved (pid : UInt32) (q : RecordQueue ι) : List (List UInt8) :=
  q.written ++ q.slots.map (Slot.record pid)

variable {pid : UInt32} {q q' : RecordQueue ι}

theorem reserved_step {a : Action ι} (h : q.step pid a = some q') :
    q'.reserved pid = q.reserved pid ++ a.reserved pid := by
  cases a with
  | start p event timestamp args =>
    simp only [step] at h
    split at h
    · cases h
    · cases h
      simp [reserved, Action.reserved]
  | write p =>
    simp only [step] at h
    split at h
    · cases h
      simp [reserved, Action.reserved, map_record_map fun sl => Slot.record_advance p sl pid]
    · cases h
  | finish p =>
    simp only [step] at h
    split at h
    · cases h
      simp [reserved, Action.reserved, map_record_map fun sl => Slot.record_close p sl pid]
    · cases h
  | writeout =>
    simp only [step] at h
    split at h
    · next sl rest hslots =>
      split at h
      · cases h
        simp [reserved, Action.reserved, hslots]
      · cases h
    · cases h

theorem used_step {a : Action ι} (h : q.step pid a = some q') (hq : used q.slots ≤ TRACE_BUF_LEN) :
    used q'.slots ≤ TRACE_BUF_LEN := by
  cases a with
  | start p event timestamp args =>
    simp only [step] at h
    split at h
    · cases h
    · next hroom =>
      cases h
      simp only [used_append, used_cons, used_nil, Slot.length_fresh]
      omega
  | write p =>
    simp only [step] at h
    split at h
    · cases h
      rwa [used_map (Slot.length_advance p)]
    · cases h
  | finish p =>
    simp only [step] at h
    split at h
    · cases h
      rwa [used_map (Slot.length_close p)]
    · cases h
  | writeout =>
    simp only [step] at h
    split at h
    · next sl rest hslots =>
      split at h
      · cases h
        rw [hslots, used_cons] at hq
        show used rest ≤ TRACE_BUF_LEN
        omega
      · cases h
    · cases h

theorem reserved_run {actions : List (Action ι)} (hq : used q.slots ≤ TRACE_BUF_LEN)
    (h : q.run pid actions = some q') :
    q'.reserved pid = q.reserved pid ++ reservedRecords pid actions ∧
      used q'.slots ≤ TRACE_BUF_LEN := by
  induction actions generalizing q with
  | nil =>
    cases h
    simp [reservedRecords, hq]
  | cons a actions ih =>
    simp only [run, List.foldlM_cons, Option.bind_eq_bind] at h
    cases hstep : q.step pid a with
    | none => simp [hstep] at h
    | some q₁ =>
      rw [hstep, Option.bind_some] at h
      obtain ⟨hres, hused⟩ := ih (used_step hstep hq) h
      refine ⟨?_, hused⟩
      rw [hres, reserved_step hstep]
      simp [reservedRecords]

theorem written_prefix {actions : List (Action ι)} (h : (empty : RecordQueue ι).run pid actions = some q) :
    q.written = (reservedRecords pid actions).take q.written.length ∧
      used q.slots ≤ TRACE_BUF_LEN := by
  obtain ⟨hres, hused⟩ := reserved_run (by simp [empty]) h
  refine ⟨?_, hused⟩
  simp only [reserved, empty, List.map_nil, List.append_nil, List.nil_append] at hres
  rw [← hres, List.take_left]

end RecordQueue

end MindPalace.Qemu
