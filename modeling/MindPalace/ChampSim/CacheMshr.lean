import MindPalace.ChampSim.Cache

/-! # The MSHR invariants

Every reachable cache has at most `MSHR_SIZE` MSHR entries and at most one valid entry for each
block. The returned entries need not be in order: the fill latency comes from the member `cpu`,
so a later return can be due earlier, and `handle_fill` waits at `MSHR.begin()`.
-/

namespace MindPalace.ChampSim

namespace Cache

variable {cfg : CacheConfig} {c c' : Cache}

section Frames

/-- The last branch of `add_rq`, `add_wq` and `add_pq`: the packet is queued, and the cache is
the one built from the new queue. -/
theorem eq_of_pushQueue_bind {o : Option (DelayQueue PACKET)} {f : DelayQueue PACKET → Cache}
    {c' : Cache} {r : Int} (h : (do let q ← o; pure (f q, q.occupancy)) = some (c', r)) :
    ∃ q, o = some q ∧ c' = f q := by
  cases o with
  | none => cases h
  | some q =>
    simp only [Option.bind_eq_bind, Option.bind_some, Option.pure_def, Option.some.injEq,
      Prod.mk.injEq] at h
    exact ⟨q, rfl, h.1.symm⟩

@[simp] theorem MSHR_returnTo (c : Cache) (rets : List Nat) (p : PACKET) :
    (c.returnTo rets p).MSHR = c.MSHR := rfl

@[simp] theorem MSHR_notePrefetcher (c : Cache) (p : PACKET) :
    (notePrefetcher cfg c p).MSHR = c.MSHR := by
  unfold notePrefetcher
  split <;> rfl

@[simp] theorem MSHR_readlikeHit (c : Cache) (set way : Nat) (p : PACKET) :
    (readlikeHit cfg c set way p).MSHR = c.MSHR := by
  unfold readlikeHit
  dsimp only
  split <;> simp

@[simp] theorem MSHR_setReadlikeQueue (isRead : Bool) (c : Cache) (q : DelayQueue PACKET) :
    (setReadlikeQueue isRead c q).MSHR = c.MSHR := by
  cases isRead <;> rfl

theorem MSHR_of_filllikeMiss {set way : Nat} {p : PACKET} {b : Bool}
    (h : filllikeMiss cfg c set way p = some (b, c')) : c'.MSHR = c.MSHR := by
  unfold filllikeMiss at h
  dsimp only at h
  split at h
  · cases h
  split at h
  · cases h
    rfl
  split at h <;> split at h <;> cases h <;> rfl

theorem MSHR_of_addRq {p : PACKET} {r : Int} (h : addRq cfg c p = some (c', r)) :
    c'.MSHR = c.MSHR := by
  unfold addRq at h
  dsimp only at h
  split at h
  · cases h
  split at h
  · cases h
    rfl
  split at h
  · cases h
    rfl
  split at h
  · cases h
    rfl
  obtain ⟨_, -, rfl⟩ := eq_of_pushQueue_bind h
  rfl

theorem MSHR_of_addWq {p : PACKET} {r : Int} (h : addWq cfg c p = some (c', r)) :
    c'.MSHR = c.MSHR := by
  unfold addWq at h
  split at h
  · cases h
    rfl
  split at h
  · cases h
    rfl
  obtain ⟨_, -, rfl⟩ := eq_of_pushQueue_bind h
  rfl

theorem MSHR_of_addPq {p : PACKET} {r : Int} (h : addPq cfg c p = some (c', r)) :
    c'.MSHR = c.MSHR := by
  unfold addPq at h
  dsimp only at h
  split at h
  · cases h
  split at h
  · cases h
    rfl
  split at h
  · cases h
    rfl
  split at h
  · cases h
    rfl
  obtain ⟨_, -, rfl⟩ := eq_of_pushQueue_bind h
  rfl

theorem MSHR_invalidateEntry (c : Cache) (a : Nat) : (invalidateEntry cfg c a).1.MSHR = c.MSHR := by
  unfold invalidateEntry
  dsimp only
  split <;> rfl

@[simp] theorem run_nil (c : Cache) : run cfg c [] = some c := rfl

@[simp] theorem run_cons (c : Cache) (op : CacheOp) (ops : List CacheOp) :
    run cfg c (op :: ops) = (step cfg c op).bind fun c => run cfg c ops := rfl

end Frames

variable (cfg) in
/-- The block of an MSHR entry as `eq_addr` sees it: `address >> OFFSET_BITS` of a valid
entry, nothing for an invalid one. -/
def mshrKey (p : PACKET) : Option Nat :=
  if p.isValid then some (p.address >>> cfg.OFFSET_BITS) else none

variable (cfg) in
/-- At most `MSHR_SIZE` entries, and at most one valid entry for a block. -/
structure MshrInv (mshr : List PACKET) : Prop where
  length_le : mshr.length ≤ cfg.MSHR_SIZE
  nodup : (mshr.filterMap (mshrKey cfg)).Nodup

theorem mshrKey_ne_of_eqAddr {a : Nat} {p : PACKET} (h : p.eqAddr a cfg.OFFSET_BITS = false) :
    mshrKey cfg p ≠ some (a >>> cfg.OFFSET_BITS) := by
  unfold mshrKey
  unfold PACKET.eqAddr at h
  split
  · next hv =>
    simp only [hv, Bool.true_and, beq_eq_false_iff_ne] at h
    simpa using h
  · simp

theorem mshrKey_of_eqAddr {a : Nat} {p : PACKET} (h : p.eqAddr a cfg.OFFSET_BITS = true) :
    mshrKey cfg p = some (a >>> cfg.OFFSET_BITS) := by
  unfold PACKET.eqAddr at h
  simp only [Bool.and_eq_true, beq_iff_eq] at h
  simp [mshrKey, h.1, h.2]

theorem mshrKey_mergeIntoMshr {handlePkt e : PACKET}
    (h : e.eqAddr handlePkt.address cfg.OFFSET_BITS = true) :
    mshrKey cfg (mergeIntoMshr handlePkt e) = mshrKey cfg e ∨
      mshrKey cfg (mergeIntoMshr handlePkt e) = none := by
  unfold mergeIntoMshr
  dsimp only
  split
  · rw [mshrKey_of_eqAddr h]
    unfold mshrKey
    split
    · exact Or.inl rfl
    · exact Or.inr rfl
  · exact Or.inl rfl

namespace MshrInv

theorem of_sublist {l l' : List PACKET} (hs : l'.Sublist l) (hi : MshrInv cfg l) :
    MshrInv cfg l' :=
  ⟨hs.length_le.trans hi.length_le, hi.nodup.sublist (hs.filterMap _)⟩

theorem of_perm {l l' : List PACKET} (hp : l'.Perm l) (hi : MshrInv cfg l) : MshrInv cfg l' :=
  ⟨hp.length_eq ▸ hi.length_le, ((hp.filterMap _).nodup_iff).mpr hi.nodup⟩

theorem modify {l : List PACKET} {i : Nat} {f : PACKET → PACKET} (hi : MshrInv cfg l)
    (hf : ∀ x ∈ l[i]?, mshrKey cfg (f x) = mshrKey cfg x ∨ mshrKey cfg (f x) = none) :
    MshrInv cfg (l.modify i f) :=
  ⟨(List.length_modify f l i).symm ▸ hi.length_le,
    hi.nodup.sublist (StdAlgorithm.filterMap_modify_sublist _ f l i hf)⟩

theorem concat {l : List PACKET} {x : PACKET} (hi : MshrInv cfg l)
    (hlen : l.length < cfg.MSHR_SIZE)
    (hx : ∀ y ∈ l, y.eqAddr x.address cfg.OFFSET_BITS = false) :
    MshrInv cfg (l ++ [x]) := by
  constructor
  · rw [List.length_append, List.length_singleton]
    omega
  · apply StdAlgorithm.nodup_filterMap_concat _ hi.nodup
    intro k hk y hy
    have hkx : k = x.address >>> cfg.OFFSET_BITS := by
      unfold mshrKey at hk
      split at hk <;> simp_all
    rw [hkx]
    exact mshrKey_ne_of_eqAddr (hx y hy)

end MshrInv

theorem MSHR_readlikeMiss_of_none {p : PACKET}
    (hnone : c.MSHR.findIdx? (PACKET.eqAddr p.address cfg.OFFSET_BITS) = none) :
    (readlikeMiss cfg c p).2.MSHR = c.MSHR ∨
      (c.MSHR.length ≠ cfg.MSHR_SIZE ∧ (readlikeMiss cfg c p).2.MSHR =
        c.MSHR ++ [{ p with cycleEnqueued := c.currentCycle, eventCycle := UINT64_MAX }]) := by
  unfold readlikeMiss
  rw [hnone]
  dsimp only
  split_ifs with hfull <;> simp [hfull]

theorem mshrInv_readlikeMiss (hi : MshrInv cfg c.MSHR) (p : PACKET) :
    MshrInv cfg (readlikeMiss cfg c p).2.MSHR := by
  cases hfind : c.MSHR.findIdx? (PACKET.eqAddr p.address cfg.OFFSET_BITS) with
  | none =>
    rcases MSHR_readlikeMiss_of_none hfind with h | ⟨hfull, h⟩
    · rw [h]
      exact hi
    · -- a new entry, for a block that no entry is for
      rw [h]
      apply hi.concat (lt_of_le_of_ne hi.length_le hfull)
      exact List.findIdx?_eq_none_iff.mp hfind
  | some i =>
    -- a miss already in flight: the merge keeps the entry's block
    unfold readlikeMiss
    rw [hfind, MSHR_notePrefetcher]
    apply hi.modify
    intro e he
    obtain ⟨hlt, hmatch, -⟩ := List.findIdx?_eq_some_iff_getElem.mp hfind
    rw [List.getElem?_eq_getElem hlt, Option.mem_some_iff] at he
    subst he
    exact mshrKey_mergeIntoMshr hmatch

theorem mshrInv_returnData {p : PACKET} (h : returnData cfg c p = some c')
    (hi : MshrInv cfg c.MSHR) : MshrInv cfg c'.MSHR := by
  unfold returnData at h
  split at h
  · cases h
  · dsimp only at h
    split at h
    · cases h
    · cases h
      apply MshrInv.of_perm (StdAlgorithm.iterSwap_perm _ _ _)
      exact hi.modify fun _ _ => Or.inl rfl

theorem mshrInv_readlikeAccess {p : PACKET} {b : Bool} (h : readlikeAccess cfg c p = (b, c'))
    (hi : MshrInv cfg c.MSHR) : MshrInv cfg c'.MSHR := by
  unfold readlikeAccess at h
  dsimp only at h
  split at h
  · cases h
    rw [MSHR_readlikeHit]
    exact hi
  · have hi' := mshrInv_readlikeMiss hi p
    rw [h] at hi'
    exact hi'

theorem mshrInv_writebackAccess {p : PACKET} {b : Bool} (h : writebackAccess cfg c p = some (b, c'))
    (hi : MshrInv cfg c.MSHR) : MshrInv cfg c'.MSHR := by
  unfold writebackAccess at h
  dsimp only at h
  split at h
  · cases h
    exact hi
  split at h
  · have hc' : c' = (readlikeMiss cfg c p).2 := by
      rw [Option.some.injEq] at h
      rw [h]
    rw [hc']
    exact mshrInv_readlikeMiss hi p
  · rw [MSHR_of_filllikeMiss h]
    exact hi


theorem mshrInv_handleFillLoop : ∀ (fuel : Nat) {c c' : Cache},
    handleFillLoop cfg fuel c = some c' → MshrInv cfg c.MSHR → MshrInv cfg c'.MSHR
  | 0, c, c', h, hi => by
    cases h
    exact hi
  | fuel + 1, c, c', h, hi => by
    unfold handleFillLoop at h
    split at h
    · cases h
      exact hi
    split at h
    · cases h
      exact hi
    next fillMshr rest hmshr =>
    split at h
    · cases h
      exact hi
    dsimp only at h
    split at h
    · cases h
    · next c₁ hfill =>
      cases h
      rw [MSHR_of_filllikeMiss hfill]
      exact hi
    · next c₁ hfill =>
      -- the fill erases the front entry, whether or not it returned data
      apply mshrInv_handleFillLoop fuel h
      rw [hmshr] at hi
      simp only [apply_ite Cache.MSHR, MSHR_returnTo, ite_self, MSHR_of_filllikeMiss hfill, hmshr,
        List.tail_cons]
      exact hi.of_sublist (List.sublist_cons_self _ _)

theorem mshrInv_handleWritebackLoop : ∀ (fuel : Nat) {c c' : Cache},
    handleWritebackLoop cfg fuel c = some c' → MshrInv cfg c.MSHR → MshrInv cfg c'.MSHR
  | 0, c, c', h, hi => by
    cases h
    exact hi
  | fuel + 1, c, c', h, hi => by
    unfold handleWritebackLoop at h
    split at h
    · cases h
      exact hi
    split at h
    · cases h
    · next c₁ hacc =>
      cases h
      exact mshrInv_writebackAccess hacc hi
    · next c₁ hacc =>
      have hi₁ := mshrInv_writebackAccess hacc hi
      obtain ⟨WQ, -, h⟩ := Option.bind_eq_some_iff.mp h
      exact mshrInv_handleWritebackLoop fuel h hi₁

theorem mshrInv_handleReadlikeLoop (isRead : Bool) : ∀ (fuel : Nat) {c c' : Cache},
    handleReadlikeLoop cfg isRead fuel c = some c' → MshrInv cfg c.MSHR → MshrInv cfg c'.MSHR
  | 0, c, c', h, hi => by
    cases h
    exact hi
  | fuel + 1, c, c', h, hi => by
    unfold handleReadlikeLoop at h
    dsimp only at h
    split at h
    · cases h
      exact hi
    split at h
    · next c₁ hacc =>
      cases h
      exact mshrInv_readlikeAccess hacc hi
    · next c₁ hacc =>
      have hi₁ := mshrInv_readlikeAccess hacc hi
      obtain ⟨q, -, h⟩ := Option.bind_eq_some_iff.mp h
      exact mshrInv_handleReadlikeLoop isRead fuel h (by simpa using hi₁)

theorem mshrInv_operate (h : operate cfg c = some c') (hi : MshrInv cfg c.MSHR) :
    MshrInv cfg c'.MSHR := by
  unfold operate at h
  obtain ⟨c₁, h₁, h⟩ := Option.bind_eq_some_iff.mp h
  obtain ⟨c₂, h₂, h⟩ := Option.bind_eq_some_iff.mp h
  obtain ⟨c₃, h₃, h⟩ := Option.bind_eq_some_iff.mp h
  obtain ⟨c₄, h₄, h⟩ := Option.bind_eq_some_iff.mp h
  cases h
  have hi₁ := mshrInv_handleFillLoop _ h₁ hi
  have hi₂ := mshrInv_handleWritebackLoop _ h₂ hi₁
  have hi₃ := mshrInv_handleReadlikeLoop _ _ h₃ hi₂
  have hi₄ := mshrInv_handleReadlikeLoop _ _ h₄ hi₃
  exact hi₄

theorem mshrInv_step {op : CacheOp} (h : step cfg c op = some c') (hi : MshrInv cfg c.MSHR) :
    MshrInv cfg c'.MSHR := by
  cases op with
  | addRq p =>
    obtain ⟨⟨c₁, r⟩, h₁, rfl⟩ := Option.map_eq_some_iff.mp h
    rw [MSHR_of_addRq h₁]
    exact hi
  | addWq p =>
    obtain ⟨⟨c₁, r⟩, h₁, rfl⟩ := Option.map_eq_some_iff.mp h
    rw [MSHR_of_addWq h₁]
    exact hi
  | addPq p =>
    obtain ⟨⟨c₁, r⟩, h₁, rfl⟩ := Option.map_eq_some_iff.mp h
    rw [MSHR_of_addPq h₁]
    exact hi
  | returnData p => exact mshrInv_returnData h hi
  | handleFill => exact mshrInv_handleFillLoop _ h hi
  | handleWriteback => exact mshrInv_handleWritebackLoop _ h hi
  | handleRead => exact mshrInv_handleReadlikeLoop _ _ h hi
  | handlePrefetch => exact mshrInv_handleReadlikeLoop _ _ h hi
  | operate => exact mshrInv_operate h hi
  | invalidateEntry a =>
    cases h
    rw [MSHR_invalidateEntry]
    exact hi
  | tick =>
    cases h
    exact hi
  | completeWarmup cpu =>
    cases h
    exact hi

theorem mshrInv_run : ∀ (ops : List CacheOp) {c c' : Cache},
    run cfg c ops = some c' → MshrInv cfg c.MSHR → MshrInv cfg c'.MSHR
  | [], c, c', h, hi => by
    cases h
    exact hi
  | op :: ops, c, c', h, hi => by
    rw [run_cons] at h
    obtain ⟨c₁, h₁, h⟩ := Option.bind_eq_some_iff.mp h
    exact mshrInv_run ops h (mshrInv_step h₁ hi)

theorem mshrInv_new (lower : LowerLevel) : MshrInv cfg (new cfg lower).MSHR :=
  ⟨Nat.zero_le _, List.nodup_nil⟩

/-- Every cache reachable from a new one has at most `MSHR_SIZE` MSHR entries and at most
one valid entry for each block. -/
theorem mshrInv_of_run {lower : LowerLevel} {ops : List CacheOp}
    (h : run cfg (new cfg lower) ops = some c) : MshrInv cfg c.MSHR :=
  mshrInv_run ops h (mshrInv_new lower)

/-- The MSHR returns in order: an entry whose data has returned comes after returned entries
only, each due no later than it. `handle_fill` serves the front entry alone, so only then does
every due entry get filled when it is due. -/
def ReturnsInOrder (mshr : List PACKET) : Prop :=
  mshr.Pairwise fun a b =>
    b.eventCycle ≠ UINT64_MAX → a.eventCycle ≠ UINT64_MAX ∧ a.eventCycle ≤ b.eventCycle

instance : DecidablePred ReturnsInOrder := fun mshr =>
  inferInstanceAs (Decidable (List.Pairwise _ mshr))

end Cache

/-- A shared last-level cache (`smallCache 4 4`) with cores 0 and 1, of which core 0 has
finished its warmup. Core 1 misses on block 0x1000 and core 0 on block 0x2000, so the
prefetcher hook leaves the member `cpu` at 0; 0x1000 returns at cycle 0 with the fill latency
of a warm core. Core 1 then misses on block 0x3000, which sets `cpu` to 1, and 0x2000 returns
at cycle 1 with no fill latency. -/
def warmupSkewRun : List CacheOp :=
  [.completeWarmup 0,
   .addRq { type := LOAD, fillLevel := 1, cpu := 1, address := 0x1000, toReturn := [11] },
   .addRq { type := LOAD, fillLevel := 1, cpu := 0, address := 0x2000, toReturn := [10] },
   .operate, .operate,
   .returnData { address := 0x1000, data := 1 },
   .addRq { type := LOAD, fillLevel := 1, cpu := 1, address := 0x3000, toReturn := [11] },
   .operate, .operate, .tick,
   .returnData { address := 0x2000, data := 2 },
   .operate]

/-- After the run the returned entries are due at cycles 3 and 1, out of order, and at cycle 1
the `operate()` fills nothing: the entry for 0x2000 is due but waits behind 0x1000. -/
theorem warmupSkew_fill_blocked :
    ∃ c, (Cache.new (smallCache 4 4) roomyLower).run (smallCache 4 4) warmupSkewRun = some c ∧
      c.MSHR.map (·.eventCycle) = [3, 1, UINT64_MAX] ∧ c.currentCycle = 1 ∧ c.returned = [] ∧
      ¬ Cache.ReturnsInOrder c.MSHR :=
  Cache.exists_eq_some_of_any (by decide +kernel)

/-- The same run keeps at most one MSHR entry for each block. -/
theorem mshrInv_warmupSkewRun :
    ∃ c, (Cache.new (smallCache 4 4) roomyLower).run (smallCache 4 4) warmupSkewRun = some c ∧
      Cache.MshrInv (smallCache 4 4) c.MSHR := by
  obtain ⟨c, hc⟩ := Option.isSome_iff_exists.mp
    (show ((Cache.new (smallCache 4 4) roomyLower).run (smallCache 4 4) warmupSkewRun).isSome by decide +kernel)
  exact ⟨c, hc, Cache.mshrInv_of_run hc⟩

end MindPalace.ChampSim
