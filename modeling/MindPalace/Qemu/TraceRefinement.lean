import MindPalace.Qemu.RecordQueue

/-! # The ring refines the record queue

The ring from `writeout_idx` holds the images of the reserved slots in order, then zeroes. Every
step of the backend is matched by a step of `RecordQueue` keeping this relation, so the file is a
prefix of the reserved records and `trace_idx - writeout_idx` never exceeds `TRACE_BUF_LEN`, also
across the wrap of the 32-bit indices.
-/

namespace MindPalace.Qemu

open LittleEndian

section Indices

theorem TRACE_BUF_LEN_dvd : TRACE_BUF_LEN ∣ 2 ^ 32 := ⟨1024, by decide⟩

theorem toNat_toUInt32 {n : Nat} (h : n ≤ TRACE_BUF_LEN) : n.toUInt32.toNat = n := by
  rw [Nat.toUInt32, UInt32.toNat_ofNat_of_lt' (by rw [UInt32.size]; unfold TRACE_BUF_LEN at h; omega)]

theorem toNat_add_mod (w : UInt32) (n : Nat) :
    (w + n.toUInt32).toNat % TRACE_BUF_LEN = (w.toNat + n) % TRACE_BUF_LEN := by
  rw [UInt32.toNat_add, Nat.toUInt32, UInt32.toNat_ofNat', Nat.mod_mod_of_dvd _ TRACE_BUF_LEN_dvd,
    Nat.add_mod, Nat.mod_mod_of_dvd _ TRACE_BUF_LEN_dvd, ← Nat.add_mod]

theorem toUInt32_add (m n : Nat) : (m + n).toUInt32 = m.toUInt32 + n.toUInt32 := by
  simp [Nat.toUInt32, UInt32.ofNat_add]

theorem toNat_sub_of_le (w : UInt32) {u l : Nat} (hu : u ≤ TRACE_BUF_LEN)
    (hl : l ≤ TRACE_BUF_LEN) : (w + u.toUInt32 + l.toUInt32 - w).toNat = u + l := by
  rw [UInt32.add_assoc, ← toUInt32_add, UInt32.add_comm, UInt32.add_sub_cancel, Nat.toUInt32,
    UInt32.toNat_ofNat_of_lt' (by rw [UInt32.size]; unfold TRACE_BUF_LEN at hu hl; omega)]

end Indices

namespace Slot

variable {ι : Type}

def eventWord (sl : Slot ι) : UInt64 :=
  if sl.finished then sl.event.toUInt64 ||| TRACE_RECORD_VALID else sl.event.toUInt64

/-- The header after the event word: timestamp, `rec_len` and pid. -/
def headerTail (pid : UInt32) (sl : Slot ι) : List UInt8 :=
  u64 sl.timestamp ++ u32 sl.length.toUInt32 ++ u32 pid

def body (sl : Slot ι) : List UInt8 :=
  (sl.args.take sl.written).flatMap Arg.bytes ++
    List.replicate (dataSize (sl.args.drop sl.written)) 0

def image (pid : UInt32) (sl : Slot ι) : List UInt8 :=
  u64 sl.eventWord ++ sl.headerTail pid ++ sl.body

@[simp] theorem length_headerTail (pid : UInt32) (sl : Slot ι) :
    (sl.headerTail pid).length = 16 := by
  simp [headerTail]

theorem length_body (sl : Slot ι) : sl.body.length = dataSize sl.args := by
  rw [body, List.length_append, length_flatMap_bytes, List.length_replicate, ← dataSize_append,
    List.take_append_drop]

@[simp] theorem length_image (pid : UInt32) (sl : Slot ι) : (sl.image pid).length = sl.length := by
  simp only [image, List.length_append, length_u64, length_headerTail, length_body, length,
    TRACE_RECORD_SIZE]

theorem record_eq (pid : UInt32) (sl : Slot ι) :
    sl.record pid = u64 sl.event.toUInt64 ++ sl.headerTail pid ++ sl.args.flatMap Arg.bytes := by
  simp [record, recordBytes, recordHeader, headerTail, length]

theorem image_fresh (pid : UInt32) (p : ι) (event : UInt32) (timestamp : UInt64)
    (args : List Arg) :
    (fresh p event timestamp args).image pid =
      recordHeader event timestamp (TRACE_RECORD_SIZE + dataSize args).toUInt32 pid ++
        List.replicate (dataSize args) 0 := by
  simp [image, eventWord, headerTail, body, fresh, recordHeader, length]

theorem image_of_finished (pid : UInt32) {sl : Slot ι} (h : sl.finished = true) :
    sl.image pid =
      u64 (sl.event.toUInt64 ||| TRACE_RECORD_VALID) ++ sl.headerTail pid ++
        sl.args.flatMap Arg.bytes := by
  simp [image, eventWord, body, h, sl.finished_full h]

theorem image_of_unfinished (pid : UInt32) {sl : Slot ι} (h : sl.finished = false) :
    sl.image pid = u64 sl.event.toUInt64 ++ sl.headerTail pid ++ sl.body := by
  simp [image, eventWord, h]

theorem next_arg {sl : Slot ι} {a : Arg} {pending : List Arg}
    (hdrop : sl.args.drop sl.written = a :: pending) :
    sl.written < sl.args.length ∧
      sl.args.take (sl.written + 1) = sl.args.take sl.written ++ [a] ∧
      sl.args.drop (sl.written + 1) = pending := by
  have hlt : sl.written < sl.args.length := by
    by_contra hge
    rw [List.drop_eq_nil_of_le (by omega)] at hdrop
    cases hdrop
  rw [List.drop_eq_getElem_cons hlt] at hdrop
  obtain ⟨hget, hrest⟩ := List.cons.inj hdrop
  exact ⟨hlt, by rw [List.take_succ_eq_append_getElem hlt, hget], hrest⟩

theorem lengthField (pid : UInt32) (sl : Slot ι) (x : UInt64) (rest : List UInt8) :
    ((u64 x ++ sl.headerTail pid ++ rest).drop 16).take 4 = u32 sl.length.toUInt32 := by
  have h16 : (u64 x ++ u64 sl.timestamp).length = 16 := by simp
  simp only [headerTail, List.append_assoc]
  rw [← List.append_assoc (u64 x) (u64 sl.timestamp), drop_append_of_length h16,
    take_append_of_length (length_u32 _)]

variable [DecidableEq ι]

theorem image_advance (pid : UInt32) {p : ι} {sl : Slot ι} {a : Arg} {pending : List Arg}
    (hown : sl.owner = p) (hdrop : sl.args.drop sl.written = a :: pending) :
    sl.image pid = u64 sl.eventWord ++ sl.headerTail pid ++
        (sl.args.take sl.written).flatMap Arg.bytes ++ List.replicate a.size 0 ++
        List.replicate (dataSize pending) 0 ∧
      (sl.advance p).image pid = u64 sl.eventWord ++ sl.headerTail pid ++
        (sl.args.take sl.written).flatMap Arg.bytes ++ a.bytes ++
        List.replicate (dataSize pending) 0 := by
  obtain ⟨hlt, htake, hrest⟩ := next_arg hdrop
  constructor
  · rw [image, body, hdrop, dataSize_cons, List.replicate_add]
    simp only [List.append_assoc]
  · rw [advance, dif_pos ⟨hown, hlt⟩]
    simp [image, eventWord, headerTail, body, length, htake, hrest]

end Slot

def contents {ι : Type} (pid : UInt32) (slots : List (Slot ι)) : List UInt8 :=
  (slots.map (Slot.image pid)).flatten

@[simp] theorem contents_nil {ι : Type} (pid : UInt32) : contents pid ([] : List (Slot ι)) = [] :=
  rfl

@[simp] theorem contents_cons {ι : Type} (pid : UInt32) (sl : Slot ι) (slots : List (Slot ι)) :
    contents pid (sl :: slots) = sl.image pid ++ contents pid slots := rfl

@[simp] theorem contents_append {ι : Type} (pid : UInt32) (xs ys : List (Slot ι)) :
    contents pid (xs ++ ys) = contents pid xs ++ contents pid ys := by
  simp [contents]

@[simp] theorem length_contents {ι : Type} (pid : UInt32) (slots : List (Slot ι)) :
    (contents pid slots).length = used slots := by
  induction slots with
  | nil => rfl
  | cons sl slots ih => simp [ih]

section Relation

variable {ι : Type}

/-- What producer `p` is doing as the slots show it, the ring seen from `w`: an idle producer
has no open slot; a writing one has exactly one, its `tbuf_idx` at the slot's first byte and
its `rec_off` after the arguments written so far, and its pending arguments are the slot's
others. -/
def Tracks (w : Nat) (slots : List (Slot ι)) (p : ι) : Producer → Prop
  | .idle => ∀ sl ∈ slots, sl.owner = p → sl.finished = true
  | .writing rec pending => ∃ before sl after, slots = before ++ sl :: after ∧
      sl.owner = p ∧ sl.finished = false ∧
      (∀ x ∈ before ++ after, x.owner = p → x.finished = true) ∧
      pending = sl.args.drop sl.written ∧
      rec.tbufIdx % TRACE_BUF_LEN = (w + used before) % TRACE_BUF_LEN ∧
      rec.recOff % TRACE_BUF_LEN =
        (w + used before + TRACE_RECORD_SIZE + dataSize (sl.args.take sl.written)) %
          TRACE_BUF_LEN

/-- The backend state `s` is the queue `q` laid out in the ring. -/
structure Represents (pid : UInt32) (s : TraceState ι) (q : RecordQueue ι) : Prop where
  file_eq : s.file = q.written.flatMap fileRecord
  used_le : used q.slots ≤ TRACE_BUF_LEN
  traceIdx_eq : s.traceIdx = s.writeoutIdx + (used q.slots).toUInt32
  writerIdx_eq : s.writerIdx = s.writeoutIdx.toNat % TRACE_BUF_LEN
  ring_eq : Ring.rot s.traceBuf s.writeoutIdx.toNat =
    contents pid q.slots ++ List.replicate (TRACE_BUF_LEN - used q.slots) 0
  tracks : ∀ p, Tracks s.writeoutIdx.toNat q.slots p (s.producers p)

variable {w : Nat} {slots : List (Slot ι)} {p : ι} {pr : Producer}

theorem Tracks.append_other {x : Slot ι} (hx : x.owner ≠ p) (h : Tracks w slots p pr) :
    Tracks w (slots ++ [x]) p pr := by
  cases pr with
  | idle =>
    intro sl hsl hown
    rcases List.mem_append.mp hsl with hsl | hsl
    · exact h sl hsl hown
    · rw [List.mem_singleton.mp hsl] at hown
      exact absurd hown hx
  | writing rec pending =>
    obtain ⟨before, sl, after, rfl, hown, hfin, hothers, hpend, htb, hro⟩ := h
    refine ⟨before, sl, after ++ [x], by simp, hown, hfin, ?_, hpend, htb, hro⟩
    intro y hy hyown
    rw [← List.append_assoc, List.mem_append, List.mem_singleton] at hy
    rcases hy with hy | rfl
    · exact hothers y hy hyown
    · exact absurd hyown hx

theorem Tracks.map {f : Slot ι → Slot ι} (hown : ∀ x, (f x).owner = x.owner)
    (hlen : ∀ x, (f x).length = x.length) (hfix : ∀ x, x.owner = p → f x = x)
    (h : Tracks w slots p pr) : Tracks w (slots.map f) p pr := by
  cases pr with
  | idle =>
    intro y hy hyown
    obtain ⟨x, hx, rfl⟩ := List.mem_map.mp hy
    rw [hown] at hyown
    rw [hfix x hyown]
    exact h x hx hyown
  | writing rec pending =>
    obtain ⟨before, sl, after, rfl, hslown, hfin, hothers, hpend, htb, hro⟩ := h
    refine ⟨before.map f, sl, after.map f, by simp [hfix sl hslown], hslown, hfin, ?_, hpend,
      by rwa [used_map hlen], by rwa [used_map hlen]⟩
    intro y hy hyown
    rw [← List.map_append] at hy
    obtain ⟨x, hx, rfl⟩ := List.mem_map.mp hy
    rw [hown] at hyown
    rw [hfix x hyown]
    exact hothers x hx hyown

theorem Tracks.tail {w' : Nat} {sl : Slot ι} {rest : List (Slot ι)} (hfin : sl.finished = true)
    (hw : w' % TRACE_BUF_LEN = (w + sl.length) % TRACE_BUF_LEN) (h : Tracks w (sl :: rest) p pr) :
    Tracks w' rest p pr := by
  have hshift : ∀ n, (w' + n) % TRACE_BUF_LEN = (w + (sl.length + n)) % TRACE_BUF_LEN := by
    intro n
    rw [Nat.add_mod, hw, ← Nat.add_mod, Nat.add_assoc]
  cases pr with
  | idle => exact fun y hy => h y (List.mem_cons_of_mem _ hy)
  | writing rec pending =>
    obtain ⟨before, sl', after, hsplit, hown, hfin', hothers, hpend, htb, hro⟩ := h
    cases before with
    | nil =>
      -- the open slot is not the finished one at the front
      obtain ⟨rfl, -⟩ := List.cons.inj hsplit
      rw [hfin] at hfin'
      cases hfin'
    | cons b before =>
      obtain ⟨rfl, rfl⟩ := List.cons.inj hsplit
      refine ⟨before, sl', after, rfl, hown, hfin', ?_, hpend, ?_, ?_⟩
      · exact fun y hy => hothers y (List.mem_cons_of_mem _ hy)
      · rw [htb, hshift, used_cons]
      · rw [hro, used_cons]
        simp only [Nat.add_assoc]
        rw [hshift]

end Relation

section Simulation

variable {ι : Type} [DecidableEq ι] {pid : UInt32} {s s' : TraceState ι} {q : RecordQueue ι}

omit [DecidableEq ι] in
theorem represents_init : Represents pid (TraceState.init : TraceState ι) RecordQueue.empty where
  file_eq := rfl
  used_le := Nat.zero_le _
  traceIdx_eq := rfl
  writerIdx_eq := rfl
  ring_eq := by
    apply List.ext_getElem (by simp [RecordQueue.empty])
    intro k _ _
    simp [Ring.getElem_rot, TraceState.init, RecordQueue.empty]
  tracks := fun _ _ hsl => absurd hsl List.not_mem_nil

theorem Represents.start {p : ι} {event : UInt32} {timestamp : UInt64} {args : List Arg}
    (hR : Represents pid s q) (hfit : TRACE_RECORD_SIZE + dataSize args ≤ TRACE_BUF_LEN)
    (h : s.step pid (.start p event timestamp args) = some s') :
    ∃ q', q.step pid (.start p event timestamp args) = some q' ∧ Represents pid s' q' := by
  obtain ⟨hidle, s₁, rec, hstart, rfl⟩ := TraceState.step_start_eq_some h
  have hroom := TraceState.le_of_traceRecordStart_eq_some hstart
  rw [hR.traceIdx_eq, toNat_sub_of_le _ hR.used_le hfit] at hroom
  rw [TraceState.traceRecordStart_of_le (by rw [hR.traceIdx_eq, toNat_sub_of_le _ hR.used_le hfit]; exact hroom)] at hstart
  obtain ⟨rfl, rfl⟩ := Prod.mk.inj (Option.some.inj hstart)
  have hidle' : Tracks s.writeoutIdx.toNat q.slots p .idle := hidle ▸ hR.tracks p
  have hq : q.step pid (.start p event timestamp args) =
      some { q with slots := q.slots ++ [Slot.fresh p event timestamp args] } := by
    rw [RecordQueue.step, if_neg]
    rintro (⟨sl, hsl, hown, hfin⟩ | hfull)
    · rw [hidle' sl hsl hown] at hfin
      cases hfin
    · omega
  refine ⟨_, hq, ?_⟩
  have hidx : s.traceIdx.toNat % TRACE_BUF_LEN =
      (s.writeoutIdx.toNat + used q.slots) % TRACE_BUF_LEN := by
    rw [hR.traceIdx_eq, toNat_add_mod]
  constructor
  · exact hR.file_eq
  · simp only [used_append, used_cons, used_nil, Slot.length_fresh]
    omega
  · simp only [used_append, used_cons, used_nil, Slot.length_fresh, Nat.add_zero, toUInt32_add,
      hR.traceIdx_eq, UInt32.add_assoc]
  · exact hR.writerIdx_eq
  · -- the header goes into the first 24 zeroes after the slots
    have hrot : Ring.rot s.traceBuf s.writeoutIdx.toNat = contents pid q.slots ++
        List.replicate TRACE_RECORD_SIZE 0 ++ (List.replicate (dataSize args) 0 ++
          List.replicate (TRACE_BUF_LEN - (used q.slots + (TRACE_RECORD_SIZE + dataSize args))) 0) := by
      rw [hR.ring_eq, List.append_assoc, ← List.replicate_add, ← List.replicate_add]
      congr 2
      omega
    have hwrite := Ring.rot_writeFrom_block hrot (by rw [Nat.mod_mod, hidx, length_contents])
      (recordHeader event timestamp (TRACE_RECORD_SIZE + dataSize args).toUInt32 pid)
      (by simp [recordHeader, TRACE_RECORD_SIZE])
    simp only [writeToBuffer] at hwrite ⊢
    rw [hwrite]
    simp [Slot.image_fresh]
  · intro p'
    by_cases hp : p' = p
    · subst hp
      simp only [Function.update_self]
      refine ⟨q.slots, Slot.fresh p' event timestamp args, [], rfl, rfl, rfl, ?_, rfl, ?_, ?_⟩
      · exact fun x hx => hidle' x (by simpa using hx)
      · rw [Nat.mod_mod, hidx]
      · simp [Slot.fresh, hidx]
    · dsimp only
      rw [Function.update_of_ne hp]
      exact (hR.tracks p').append_other (Ne.symm hp)

omit [DecidableEq ι] in
theorem length_le_used {slots before after : List (Slot ι)} {sl : Slot ι}
    (hsplit : slots = before ++ sl :: after) : sl.length ≤ used slots := by
  rw [hsplit, used_append, used_cons]
  omega

omit [DecidableEq ι] in
theorem map_split {p : ι} {f : Slot ι → Slot ι}
    (hfix : ∀ x, (x.owner = p → x.finished = true) → f x = x) {before after : List (Slot ι)}
    {sl : Slot ι} (hothers : ∀ x ∈ before ++ after, x.owner = p → x.finished = true) :
    (before ++ sl :: after).map f = before ++ f sl :: after := by
  have hmap : ∀ xs : List (Slot ι), (∀ x ∈ xs, x.owner = p → x.finished = true) →
      xs.map f = xs :=
    fun xs hxs => (List.map_congr_left fun x hx => hfix x (hxs x hx)).trans (List.map_id xs)
  rw [List.map_append, List.map_cons,
    hmap before fun x hx => hothers x (List.mem_append_left _ hx),
    hmap after fun x hx => hothers x (List.mem_append_right _ hx)]

theorem Represents.write {p : ι} (hR : Represents pid s q)
    (h : s.step pid (.write p) = some s') :
    ∃ q', q.step pid (.write p) = some q' ∧ Represents pid s' q' := by
  obtain ⟨rec, a, pending, hprod, rfl⟩ := TraceState.step_write_eq_some h
  have htr := hR.tracks p
  rw [hprod] at htr
  obtain ⟨before, sl, after, hsplit, hown, hfin, hothers, hpend, htb, hro⟩ := htr
  obtain ⟨hlt, htake, hrest⟩ := Slot.next_arg hpend.symm
  obtain ⟨himg, himg'⟩ := Slot.image_advance pid hown hpend.symm
  -- the argument fits in the ring, so a string is written with its full length
  have hsize : a.size < 2 ^ 32 := by
    have hds : dataSize sl.args = dataSize (sl.args.take sl.written) + (a.size + dataSize pending) := by
      rw [← dataSize_cons, hpend, ← dataSize_append, List.take_append_drop]
    have := length_le_used hsplit
    have := hR.used_le
    simp only [Slot.length, TRACE_RECORD_SIZE, TRACE_BUF_LEN] at *
    omega
  rw [TraceState.writeArg_eq rec hsize]
  have hmap : q.slots.map (Slot.advance p) = before ++ sl.advance p :: after := by
    rw [hsplit]
    exact map_split (fun _ => Slot.advance_of_finished) hothers
  refine ⟨_, by rw [RecordQueue.step, if_pos ⟨sl, hsplit ▸ by simp, hown, hlt⟩], ?_⟩
  constructor
  · exact hR.file_eq
  · simpa [used_map (Slot.length_advance p)] using hR.used_le
  · simpa [used_map (Slot.length_advance p)] using hR.traceIdx_eq
  · exact hR.writerIdx_eq
  · have hrot : Ring.rot s.traceBuf s.writeoutIdx.toNat =
        (contents pid before ++ u64 sl.eventWord ++ sl.headerTail pid ++
          (sl.args.take sl.written).flatMap Arg.bytes) ++ List.replicate a.size 0 ++
        (List.replicate (dataSize pending) 0 ++ contents pid after ++
          List.replicate (TRACE_BUF_LEN - used q.slots) 0) := by
      rw [hR.ring_eq, hsplit, contents_append, contents_cons, himg]
      simp only [List.append_assoc]
    have hidx : rec.recOff % TRACE_BUF_LEN = (s.writeoutIdx.toNat + (contents pid before ++
        u64 sl.eventWord ++ sl.headerTail pid ++
        (sl.args.take sl.written).flatMap Arg.bytes).length) % TRACE_BUF_LEN := by
      rw [hro]
      simp only [List.length_append, length_contents, length_u64, Slot.length_headerTail,
        length_flatMap_bytes, TRACE_RECORD_SIZE]
      exact congrArg (· % TRACE_BUF_LEN) (by omega)
    have hwrite := Ring.rot_writeFrom_block hrot hidx a.bytes (by simp)
    simp only [writeToBuffer] at hwrite ⊢
    rw [hwrite, used_map (Slot.length_advance p), hmap, contents_append, contents_cons, himg']
    simp only [List.append_assoc]
  · intro p'
    dsimp only
    by_cases hp : p' = p
    · subst hp
      rw [Function.update_self]
      refine ⟨before, sl.advance p', after, hmap, by simpa using hown, by simpa using hfin,
        hothers, by simpa [Slot.advance_of_lt hown hlt] using hrest.symm, htb, ?_⟩
      rw [writeToBuffer, Ring.writeFrom_snd_mod, Nat.add_mod, hro, ← Nat.add_mod]
      simp [Slot.advance_of_lt hown hlt, htake, Nat.add_assoc]
    · rw [Function.update_of_ne hp]
      refine (hR.tracks p').map (Slot.owner_advance p) (Slot.length_advance p) fun x hx => ?_
      exact Slot.advance_of_finished fun hxp => absurd (hx.symm.trans hxp) hp

theorem Represents.finish {p : ι} (hR : Represents pid s q)
    (h : s.step pid (.finish p) = some s') :
    ∃ q', q.step pid (.finish p) = some q' ∧ Represents pid s' q' := by
  obtain ⟨rec, hprod, rfl⟩ := TraceState.step_finish_eq_some h
  have htr := hR.tracks p
  rw [hprod] at htr
  obtain ⟨before, sl, after, hsplit, hown, hfin, hothers, hpend, htb, -⟩ := htr
  have hfull : sl.written = sl.args.length :=
    Nat.le_antisymm sl.written_le (List.drop_eq_nil_iff.mp hpend.symm)
  have hmap : q.slots.map (Slot.close p) = before ++ sl.close p :: after := by
    rw [hsplit]
    exact map_split (fun _ => Slot.close_of_finished) hothers
  refine ⟨_, by rw [RecordQueue.step, if_pos ⟨sl, hsplit ▸ by simp, hown, hfin, hfull⟩], ?_⟩
  -- the header of `p`'s slot, as `trace_record_finish` reads it
  have hrot : Ring.rot s.traceBuf s.writeoutIdx.toNat = contents pid before ++
      (u64 sl.event.toUInt64 ++ sl.headerTail pid) ++
      (sl.body ++ contents pid after ++ List.replicate (TRACE_BUF_LEN - used q.slots) 0) := by
    rw [hR.ring_eq, hsplit, contents_append, contents_cons, Slot.image_of_unfinished pid hfin]
    simp only [List.append_assoc]
  have hidx : rec.tbufIdx % TRACE_BUF_LEN =
      (s.writeoutIdx.toNat + (contents pid before).length) % TRACE_BUF_LEN := by
    rw [htb, length_contents]
  have hheader : readFromBuffer s.traceBuf rec.tbufIdx TRACE_RECORD_SIZE =
      u64 sl.event.toUInt64 ++ sl.headerTail pid := by
    simpa [readFromBuffer, TRACE_RECORD_SIZE] using Ring.readFrom_block hrot hidx
  have hbody : sl.body = sl.args.flatMap Arg.bytes := by
    simp [Slot.body, hfull]
  constructor
  · exact hR.file_eq
  · simpa [used_map (Slot.length_close p)] using hR.used_le
  · rw [used_map (Slot.length_close p)]
    exact hR.traceIdx_eq
  · exact hR.writerIdx_eq
  · have hwrite := Ring.rot_writeFrom_block hrot hidx
      (u64 (sl.event.toUInt64 ||| TRACE_RECORD_VALID) ++ sl.headerTail pid) (by simp)
    simp only [TraceState.traceRecordFinish_eq, hheader, take_append_of_length (length_u64 _),
      drop_append_of_length (length_u64 _), toU64_u64, writeToBuffer]
    rw [hwrite, used_map (Slot.length_close p), hmap, contents_append, contents_cons,
      Slot.image_of_finished pid (Slot.close_of_full hown hfull), hbody]
    simp [Slot.headerTail, Slot.length_close, List.append_assoc]
  · intro p'
    dsimp only
    by_cases hp : p' = p
    · subst hp
      rw [Function.update_self]
      intro x hx hxown
      rw [hmap, List.mem_append, List.mem_cons] at hx
      rcases hx with hx | rfl | hx
      · exact hothers x (List.mem_append_left _ hx) hxown
      · exact Slot.close_of_full hown hfull
      · exact hothers x (List.mem_append_right _ hx) hxown
    · rw [Function.update_of_ne hp]
      refine (hR.tracks p').map (Slot.owner_close p) (Slot.length_close p) fun x hx => ?_
      exact Slot.close_of_finished fun hxp => absurd (hx.symm.trans hxp) hp

theorem Represents.writeout (hR : Represents pid s q) (h : s.step pid .writeout = some s') :
    ∃ q', q.step pid .writeout = some q' ∧ Represents pid s' q' := by
  obtain ⟨record, buf, hget, rfl⟩ := TraceState.writeout_eq_some h
  obtain ⟨hflag, length, hlength, hrecord, rfl⟩ := TraceState.getTraceRecord_eq_some hget
  rw [hR.writerIdx_eq] at hflag hlength hrecord
  simp only [readFromBuffer] at hflag hlength hrecord
  have hidx : s.writeoutIdx.toNat % TRACE_BUF_LEN % TRACE_BUF_LEN =
      (s.writeoutIdx.toNat + ([] : List UInt8).length) % TRACE_BUF_LEN := by
    simp
  have hring := hR.ring_eq
  cases hslots : q.slots with
  | nil =>
    have hrot : Ring.rot s.traceBuf s.writeoutIdx.toNat =
        [] ++ List.replicate 8 0 ++ List.replicate (TRACE_BUF_LEN - 8) 0 := by
      rw [hring, hslots, contents_nil, used_nil, List.nil_append, List.nil_append,
        ← List.replicate_add]
      rfl
    have hread := Ring.readFrom_block hrot hidx
    rw [List.length_replicate] at hread
    rw [hread] at hflag
    exact absurd (by decide) hflag
  | cons sl rest =>
    rw [hslots, contents_cons] at hring
    cases hfin : sl.finished with
    | false =>
      have hrot : Ring.rot s.traceBuf s.writeoutIdx.toNat = [] ++ u64 sl.event.toUInt64 ++
          (sl.headerTail pid ++ sl.body ++ contents pid rest ++
            List.replicate (TRACE_BUF_LEN - used (sl :: rest)) 0) := by
        rw [hring, Slot.image_of_unfinished pid hfin]
        simp only [List.nil_append, List.append_assoc]
      rw [← length_u64 sl.event.toUInt64, Ring.readFrom_block hrot hidx, toU64_u64] at hflag
      exact absurd (event_and_valid _) hflag
    | true =>
      refine ⟨⟨q.written ++ [sl.record pid], rest⟩, by simp [RecordQueue.step, hslots, hfin], ?_⟩
      have hlen := length_le_used (show q.slots = [] ++ sl :: rest by rw [hslots, List.nil_append])
      have hlen' : sl.length ≤ TRACE_BUF_LEN := hlen.trans hR.used_le
      have hused : sl.length + used rest ≤ TRACE_BUF_LEN := by
        have h := hR.used_le
        rwa [hslots, used_cons] at h
      -- the header, then the whole record, as `get_trace_record` reads them
      have hrot : Ring.rot s.traceBuf s.writeoutIdx.toNat = [] ++ sl.image pid ++
          (contents pid rest ++ List.replicate (TRACE_BUF_LEN - used q.slots) 0) := by
        rw [hring, hslots]
        simp only [List.nil_append, List.append_assoc]
      have hrot24 : Ring.rot s.traceBuf s.writeoutIdx.toNat =
          [] ++ (u64 (sl.event.toUInt64 ||| TRACE_RECORD_VALID) ++ sl.headerTail pid) ++
          (sl.args.flatMap Arg.bytes ++ contents pid rest ++
            List.replicate (TRACE_BUF_LEN - used q.slots) 0) := by
        rw [hrot, Slot.image_of_finished pid hfin]
        simp only [List.nil_append, List.append_assoc]
      have hheader := Ring.readFrom_block hrot24 hidx
      simp only [List.length_append, length_u64, Slot.length_headerTail] at hheader
      rw [show TRACE_RECORD_SIZE = 8 + 16 from rfl, hheader, ← List.append_nil (_ ++ _),
        Slot.lengthField, toU32_u32, toNat_toUInt32 hlen'] at hlength
      subst hlength
      have hread := Ring.readFrom_block hrot hidx
      rw [Slot.length_image] at hread
      have hrec : record = sl.record pid := by
        rw [hrecord, hread, Slot.image_of_finished pid hfin, List.append_assoc,
          take_append_of_length (length_u64 _), drop_append_of_length (length_u64 _), toU64_u64,
          event_or_valid_and_not_valid, Slot.record_eq, List.append_assoc]
      subst hrec
      have hclear := Ring.rot_writeFrom_block hrot hidx (List.replicate sl.length 0) (by simp)
      have hstep : (s.writeoutIdx + toU32 (((sl.record pid).drop 16).take 4)).toNat %
          TRACE_BUF_LEN = (s.writeoutIdx.toNat + sl.length) % TRACE_BUF_LEN := by
        rw [Slot.record_eq, Slot.lengthField, toU32_u32, toNat_add_mod]
      constructor
      · simp [hR.file_eq]
      · show used rest ≤ TRACE_BUF_LEN
        omega
      · rw [hR.traceIdx_eq, hslots, used_cons, toUInt32_add, Slot.record_eq, Slot.lengthField,
          toU32_u32, UInt32.add_assoc]
      · rfl
      · -- the ring seen from past the record: the zeroed record has moved to the back
        simp only [clearBufferRange]
        have hrotate := List.rotate_append_length_eq (List.replicate sl.length (0 : UInt8))
          (contents pid rest ++ List.replicate (TRACE_BUF_LEN - used q.slots) 0)
        rw [List.length_replicate] at hrotate
        rw [hR.writerIdx_eq, Ring.rot_congr hstep, Ring.rot_add, hclear, List.nil_append, hrotate,
          List.append_assoc, ← List.replicate_add, hslots, used_cons]
        rw [show TRACE_BUF_LEN - (sl.length + used rest) + sl.length = TRACE_BUF_LEN - used rest by
          omega]
      · intro p'
        have htr := hR.tracks p'
        rw [hslots] at htr
        exact htr.tail hfin hstep

theorem Represents.step {a : Action ι} (hR : Represents pid s q) (hfit : a.Fits)
    (h : s.step pid a = some s') :
    ∃ q', q.step pid a = some q' ∧ Represents pid s' q' := by
  cases a with
  | start p event timestamp args => exact hR.start hfit h
  | write p => exact hR.write h
  | finish p => exact hR.finish h
  | writeout => exact hR.writeout h

theorem Represents.run {actions : List (Action ι)} (hR : Represents pid s q)
    (hfit : ∀ a ∈ actions, a.Fits) (h : s.run pid actions = some s') :
    ∃ q', q.run pid actions = some q' ∧ Represents pid s' q' := by
  induction actions generalizing s q with
  | nil =>
    cases h
    exact ⟨q, rfl, hR⟩
  | cons a actions ih =>
    simp only [TraceState.run, List.foldlM_cons, Option.bind_eq_bind] at h
    cases hstep : s.step pid a with
    | none => simp [hstep] at h
    | some s₁ =>
      rw [hstep, Option.bind_some] at h
      obtain ⟨q₁, hq₁, hR₁⟩ := hR.step (hfit a List.mem_cons_self) hstep
      obtain ⟨q', hq', hR'⟩ := ih hR₁ (fun b hb => hfit b (List.mem_cons_of_mem _ hb)) h
      refine ⟨q', ?_, hR'⟩
      simp only [RecordQueue.run, List.foldlM_cons, Option.bind_eq_bind, hq₁, Option.bind_some]
      exact hq'

end Simulation

/-- At every reachable state of the simple backend, for any producers and any interleaving of
their steps and the writer's, with records that fit in the ring: the state represents the
record queue after the same steps, the file after its header
and event mappings is the first records reserved, in reservation order, each the record type
followed by the bytes its producer wrote, and `trace_idx - writeout_idx` is at most
`TRACE_BUF_LEN`. -/
theorem reachable_file_prefix {ι : Type} [DecidableEq ι] (pid : UInt32)
    (actions : List (Action ι)) (hfit : ∀ a ∈ actions, a.Fits) {s : TraceState ι}
    (h : TraceState.init.run pid actions = some s) :
    (∃ q, RecordQueue.empty.run pid actions = some q ∧ Represents pid s q) ∧
      (∃ k, s.file = ((reservedRecords pid actions).take k).flatMap fileRecord) ∧
      (s.traceIdx - s.writeoutIdx).toNat ≤ TRACE_BUF_LEN := by
  obtain ⟨q, hq, hR⟩ := represents_init.run hfit h
  obtain ⟨hwritten, hused⟩ := RecordQueue.written_prefix hq
  refine ⟨⟨q, hq, hR⟩, ⟨q.written.length, by rw [hR.file_eq, ← hwritten]⟩, ?_⟩
  rw [hR.traceIdx_eq, UInt32.add_comm, UInt32.add_sub_cancel, toNat_toUInt32 hused]
  exact hused

/-- Two producers whose records finish in the other order than they were reserved. -/
def interleavedRun : List (Action Bool) :=
  [.start true 63 5 [.u64 1], .start false 64 6 [.str [65, 66]], .write false, .finish false,
    .write true, .finish true, .writeout, .writeout]

theorem reachable_file_prefix_interleaved :
    ∃ s : TraceState Bool, TraceState.init.run 7 interleavedRun = some s ∧
      (∃ q, RecordQueue.empty.run 7 interleavedRun = some q ∧ Represents 7 s q) ∧
      (∃ k, s.file = ((reservedRecords 7 interleavedRun).take k).flatMap fileRecord) ∧
      (s.traceIdx - s.writeoutIdx).toNat ≤ TRACE_BUF_LEN := by
  obtain ⟨s, hs⟩ : ∃ s, TraceState.init.run 7 interleavedRun = some s :=
    Option.isSome_iff_exists.mp (by decide)
  exact ⟨s, hs, reachable_file_prefix 7 interleavedRun (by decide) hs⟩

-- the first record reserved is written first, though it was finished last
example : (TraceState.init.run 7 interleavedRun).map TraceState.file =
    some (fileRecord (recordBytes 63 5 7 [.u64 1]) ++ fileRecord (recordBytes 64 6 7 [.str [65, 66]])) := by
  decide

end MindPalace.Qemu
