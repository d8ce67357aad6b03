import MindPalace.ChampSim.Packet

/-! # The IP-based stride prefetcher

`prefetcher/ip_stride/ip_stride.cc` starts a lookahead when an instruction address shows the same
stride twice. `prefetcher_cache_operate` stores a line address and `prefetcher_cycle_operate` adds
the stride in bytes, so every prefetch lies at a line address plus whole byte strides. The cache's
answers are inputs, and the calls of `prefetch_line` are the output.
-/

namespace MindPalace.ChampSim

def PREFETCH_DEGREE : Int := 3

def TRACKER_SETS : Nat := 256

def TRACKER_WAYS : Nat := 4

/-- A `tracker_entry`, with its default member initialisers. -/
structure TrackerEntry where
  ip : UInt64 := 0
  lastClAddr : UInt64 := 0
  lastStride : Int64 := 0
  lastUsedCycle : UInt64 := 0

/-- A `lookahead_entry`, with its default member initialisers. -/
structure LookaheadEntry where
  address : UInt64 := 0
  stride : Int64 := 0
  degree : Int := 0

/-- `lookahead[this]` and `trackers[this]` of one cache, as the `std::map`s create them. -/
structure IpStride where
  lookahead : LookaheadEntry := {}
  trackers : List TrackerEntry := List.replicate (TRACKER_SETS * TRACKER_WAYS) {}

structure PrefetchCall where
  pfAddr : UInt64
  fillThisLevel : Bool
  deriving DecidableEq

namespace IpStride

/-- `stride << LOG2_BLOCK_SIZE`, as the unsigned amount it adds to an address. -/
def strideStep (stride : Int64) : UInt64 :=
  (stride <<< (Int64.ofNat LOG2_BLOCK_SIZE)).toUInt64

/-- `CACHE::prefetcher_cycle_operate`, with the cache's `virtual_prefetch`; `fillThisLevel` is
`get_occupancy(0, pf_address) < get_size(0, pf_address) / 2` and `success` is what
`prefetch_line` returns. The call of `prefetch_line` it makes, if any, comes with the state. -/
def cycleOperate (virtualPrefetch : Bool) (s : IpStride) (fillThisLevel success : Bool) :
    IpStride × Option PrefetchCall :=
  let oldPfAddress := s.lookahead.address
  let stride := s.lookahead.stride
  let degree := s.lookahead.degree
  if degree > 0 then
    let pfAddress := oldPfAddress + strideStep stride
    -- stop where the next step would run off the page
    if virtualPrefetch ||
        pfAddress >>> LOG2_PAGE_SIZE.toUInt64 == oldPfAddress >>> LOG2_PAGE_SIZE.toUInt64 then
      -- a failed prefetch is tried again next cycle
      let s := if success then { s with lookahead := ⟨pfAddress, stride, degree - 1⟩ } else s
      (s, some ⟨pfAddress, fillThisLevel⟩)
    else ({ s with lookahead := {} }, none)
  else (s, none)

/-- The first tracker of `ip`'s set, `std::next(std::begin(trackers[this]), ip % TRACKER_SETS)`:
the sets start one entry apart. -/
def setBegin (ip : UInt64) : Nat :=
  (ip % TRACKER_SETS.toUInt64).toNat

def trackingSet (s : IpStride) (ip : UInt64) : List TrackerEntry :=
  (s.trackers.drop (setBegin ip)).take TRACKER_WAYS

/-- `CACHE::prefetcher_cache_operate(addr, ip, ...)` at `current_cycle`. -/
def cacheOperate (s : IpStride) (addr ip currentCycle : UInt64) : IpStride :=
  let clAddr := addr >>> LOG2_BLOCK_SIZE.toUInt64
  let set := s.trackingSet ip
  let found := set.findIdx fun x => x.ip == ip
  let (s, way, stride) : IpStride × Nat × Int64 :=
    match set[found]? with
    | some e =>
      let stride := clAddr.toInt64 - e.lastClAddr.toInt64
      -- a lookahead starts on the second time in a row a non-zero stride is seen
      let s := if stride ≠ 0 ∧ stride = e.lastStride then
          { s with lookahead := ⟨clAddr, stride, PREFETCH_DEGREE⟩ }
        else s
      (s, found, stride)
    | none =>
      (s, StdAlgorithm.minElement (fun x y => decide (x.lastUsedCycle < y.lastUsedCycle)) set, 0)
  { s with trackers := s.trackers.set (setBegin ip + way) ⟨ip, clAddr, stride, currentCycle⟩ }

inductive IpStrideOp where
  | cacheOperate (addr ip currentCycle : UInt64)
  | cycleOperate (fillThisLevel success : Bool)

variable (virtualPrefetch : Bool)

def step (s : IpStride) : IpStrideOp → IpStride × Option PrefetchCall
  | .cacheOperate addr ip currentCycle => (s.cacheOperate addr ip currentCycle, none)
  | .cycleOperate fillThisLevel success => cycleOperate virtualPrefetch s fillThisLevel success

/-- The prefetcher after the calls `ops`, with the calls of `prefetch_line` they make, in
order. -/
def run : IpStride → List IpStrideOp → IpStride × List PrefetchCall
  | s, [] => (s, [])
  | s, op :: ops =>
    let r := step virtualPrefetch s op
    let rest := run r.1 ops
    (rest.1, r.2.toList ++ rest.2)

/-! ### Where the prefetches go -/

/-- The stride `prefetcher_cache_operate` sees for the second time in a row, when it starts the
lookahead. -/
def repeatedStride (s : IpStride) (addr ip : UInt64) : Option Int64 :=
  let clAddr := addr >>> LOG2_BLOCK_SIZE.toUInt64
  let set := s.trackingSet ip
  match set[set.findIdx fun x => x.ip == ip]? with
  | some e =>
    let stride := clAddr.toInt64 - e.lastClAddr.toInt64
    if stride ≠ 0 ∧ stride = e.lastStride then some stride else none
  | none => none

/-- The accesses of a run at which a lookahead starts, with the stride seen twice there. -/
def starts : IpStride → List IpStrideOp → List (UInt64 × Int64)
  | _, [] => []
  | s, op :: ops =>
    let here := match op with
      | .cacheOperate addr ip _ => ((s.repeatedStride addr ip).map (addr, ·)).toList
      | .cycleOperate _ _ => []
    here ++ starts (step virtualPrefetch s op).1 ops

theorem lookahead_cacheOperate (s : IpStride) (addr ip currentCycle : UInt64) :
    (s.cacheOperate addr ip currentCycle).lookahead =
      match s.repeatedStride addr ip with
      | some stride => ⟨addr >>> LOG2_BLOCK_SIZE.toUInt64, stride, PREFETCH_DEGREE⟩
      | none => s.lookahead := by
  unfold cacheOperate repeatedStride
  dsimp only
  split
  · next e _ =>
    dsimp only
    split_ifs <;> rfl
  · rfl

/-- The lookahead is idle, or `j` steps of its stride past the line address of an access of
`P` at which that stride was seen twice, with `j + degree = PREFETCH_DEGREE`. -/
def LookaheadFrom (P : List (UInt64 × Int64)) (la : LookaheadEntry) : Prop :=
  la.degree = 0 ∨
    (0 < la.degree ∧ ∃ (a : UInt64) (j : Nat), (a, la.stride) ∈ P ∧ j + la.degree = PREFETCH_DEGREE ∧
      la.address = (a >>> LOG2_BLOCK_SIZE.toUInt64) + j.toUInt64 * strideStep la.stride)

/-- A prefetch `k` strides in bytes, `1 ≤ k ≤ PREFETCH_DEGREE`, past the line address of an
access of `P` at which the stride was seen twice. -/
def CallFrom (P : List (UInt64 × Int64)) (c : PrefetchCall) : Prop :=
  ∃ (a : UInt64) (stride : Int64) (k : Nat), (a, stride) ∈ P ∧ 1 ≤ k ∧ (k : Int) ≤ PREFETCH_DEGREE ∧
    c.pfAddr = (a >>> LOG2_BLOCK_SIZE.toUInt64) + k.toUInt64 * strideStep stride

theorem LookaheadFrom.mono {P Q : List (UInt64 × Int64)} (hPQ : ∀ x ∈ P, x ∈ Q)
    {la : LookaheadEntry} (h : LookaheadFrom P la) : LookaheadFrom Q la := by
  rcases h with h | ⟨hpos, a, j, hmem, hj, haddr⟩
  · exact Or.inl h
  · exact Or.inr ⟨hpos, a, j, hPQ _ hmem, hj, haddr⟩

theorem CallFrom.mono {P Q : List (UInt64 × Int64)} (hPQ : ∀ x ∈ P, x ∈ Q) {c : PrefetchCall}
    (h : CallFrom P c) : CallFrom Q c := by
  obtain ⟨a, stride, k, hmem, hk⟩ := h
  exact ⟨a, stride, k, hPQ _ hmem, hk⟩

theorem lookaheadFrom_cacheOperate {P : List (UInt64 × Int64)} {s : IpStride}
    (h : LookaheadFrom P s.lookahead) (addr ip currentCycle : UInt64) :
    LookaheadFrom (P ++ ((s.repeatedStride addr ip).map (addr, ·)).toList)
      (s.cacheOperate addr ip currentCycle).lookahead := by
  cases hrep : s.repeatedStride addr ip with
  | none =>
    rw [lookahead_cacheOperate, hrep]
    simpa using h
  | some stride =>
    rw [lookahead_cacheOperate, hrep]
    dsimp only
    -- the new lookahead is zero steps past the access
    refine Or.inr ⟨(by decide : (0 : Int) < PREFETCH_DEGREE), addr, 0, by simp, by simp, by simp⟩

theorem toUInt64_succ_mul (j : Nat) (x : UInt64) :
    (j + 1).toUInt64 * x = j.toUInt64 * x + x := by
  rw [Nat.toUInt64_eq, Nat.toUInt64_eq, UInt64.ofNat_add]
  grind

theorem cycleOperate_from {P : List (UInt64 × Int64)} {s : IpStride}
    (h : LookaheadFrom P s.lookahead) (fillThisLevel success : Bool) :
    LookaheadFrom P (cycleOperate virtualPrefetch s fillThisLevel success).1.lookahead ∧
      ∀ c ∈ (cycleOperate virtualPrefetch s fillThisLevel success).2, CallFrom P c := by
  unfold cycleOperate
  dsimp only
  by_cases hdeg : s.lookahead.degree > 0
  · rw [if_pos hdeg]
    obtain ⟨a, j, hmem, hj, haddr⟩ := (h.resolve_left (by omega)).2
    -- the address one stride on is `j + 1` strides past the access
    have hnext : s.lookahead.address + strideStep s.lookahead.stride =
        (a >>> LOG2_BLOCK_SIZE.toUInt64) + (j + 1).toUInt64 * strideStep s.lookahead.stride := by
      rw [haddr, toUInt64_succ_mul, UInt64.add_assoc]
    split
    · refine ⟨?_, ?_⟩
      · split
        · by_cases hlast : s.lookahead.degree - 1 = 0
          · exact Or.inl hlast
          · exact Or.inr ⟨by dsimp only; omega, a, j + 1, hmem, by dsimp only; omega, hnext⟩
        · exact h
      · intro c hc
        cases hc
        refine ⟨a, s.lookahead.stride, j + 1, hmem, by omega, by omega, hnext⟩
    · exact ⟨Or.inl rfl, by simp⟩
  · rw [if_neg hdeg]
    exact ⟨h, by simp⟩

theorem run_callFrom :
    ∀ (ops : List IpStrideOp) (s : IpStride) (P : List (UInt64 × Int64)),
      LookaheadFrom P s.lookahead →
        ∀ c ∈ (run virtualPrefetch s ops).2, CallFrom (P ++ starts virtualPrefetch s ops) c
  | [], _, _, _ => by simp [run]
  | .cacheOperate addr ip currentCycle :: ops, s, P, h => by
    have hnext := lookaheadFrom_cacheOperate h addr ip currentCycle
    intro c hc
    have hrest := run_callFrom ops _ _ hnext c (by simpa [run, step] using hc)
    simpa [starts, step] using hrest
  | .cycleOperate fillThisLevel success :: ops, s, P, h => by
    obtain ⟨hnext, hcall⟩ := cycleOperate_from virtualPrefetch h fillThisLevel success
    intro c hc
    simp only [run, step, List.mem_append, Option.mem_toList] at hc
    rcases hc with hc | hc
    · exact (hcall c hc).mono fun x hx => List.mem_append_left _ hx
    · simpa [starts, step] using run_callFrom ops _ _ hnext c hc

/-- From a fresh prefetcher, every prefetch of a run is `k` strides in bytes past the line
address of an access at which that stride was seen twice, `1 ≤ k ≤ PREFETCH_DEGREE`. -/
theorem prefetchCalls_from_starts (ops : List IpStrideOp) :
    ∀ c ∈ (run virtualPrefetch {} ops).2, CallFrom (starts virtualPrefetch {} ops) c := by
  intro c hc
  simpa using run_callFrom virtualPrefetch ops {} [] (Or.inl rfl) c hc

end IpStride

/-! ### Three accesses one line apart -/

/-- One instruction address reads three consecutive lines of page `0x100`; then a cycle,
whose prefetch the cache accepts. -/
def strideTrace : List IpStride.IpStrideOp :=
  [.cacheOperate 0x100000 0x401000 1, .cacheOperate 0x100040 0x401000 2,
    .cacheOperate 0x100080 0x401000 3, .cycleOperate true true]

/-- The stride of one line is seen twice at the third access, and the prefetch goes to the line
address `0x4002` plus `64` bytes: `0x4042`, which no address of the form
`x << LOG2_BLOCK_SIZE` is, and which lies in page `4` while every access is in page `0x100`. -/
theorem ipStride_prefetchesLineAddress :
    (IpStride.run false {} strideTrace).2 = [⟨0x4042, true⟩] ∧
      (∀ x : UInt64, x <<< LOG2_BLOCK_SIZE.toUInt64 ≠ 0x4042) ∧
      ∀ a ∈ [(0x100000 : UInt64), 0x100040, 0x100080],
        a >>> LOG2_PAGE_SIZE.toUInt64 ≠ (0x4042 : UInt64) >>> LOG2_PAGE_SIZE.toUInt64 := by
  refine ⟨by decide, fun x hx => ?_, fun a ha => ?_⟩
  · -- a shifted line address has its low six bits clear
    have h6 : LOG2_BLOCK_SIZE.toUInt64.toNat % 64 = 6 := by decide
    have hc : (0x4042 : UInt64).toNat = 16450 := rfl
    have h := congrArg UInt64.toNat hx
    rw [UInt64.toNat_shiftLeft, h6, Nat.shiftLeft_eq, hc,
      show (2 : Nat) ^ 6 = 64 from rfl, show (2 : Nat) ^ 64 = 18446744073709551616 from rfl] at h
    omega
  · -- the pages of the three accesses, one at a time
    simp only [List.mem_cons, List.not_mem_nil, or_false] at ha
    rcases ha with rfl | rfl | rfl <;> decide

/-- The prefetch of `strideTrace` lies one stride in bytes past the line address of its third
access. -/
theorem prefetchCalls_from_starts_strideTrace :
    (⟨0x4042, true⟩ : PrefetchCall) ∈ (IpStride.run false {} strideTrace).2 ∧
      IpStride.CallFrom (IpStride.starts false {} strideTrace) ⟨0x4042, true⟩ := by
  have hmem : (⟨0x4042, true⟩ : PrefetchCall) ∈ (IpStride.run false {} strideTrace).2 := by
    decide
  exact ⟨hmem, IpStride.prefetchCalls_from_starts false strideTrace _ hmem⟩

end MindPalace.ChampSim
