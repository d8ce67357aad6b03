import MindPalace.ChampSim.Cache

/-! # Retrying a failed miss

`readlike_miss` and `filllike_miss` test before they write, so a failed call leaves the cache
and its lower level as they were, and failed attempts leave no trace in a run.
-/

namespace MindPalace.ChampSim

namespace Cache

variable (cfg : CacheConfig)

/-- The iteration of `handle_fill` at `c` meets a due MSHR entry whose fill fails. -/
def FillFails (c : Cache) : Prop :=
  c.writesAvailableThisCycle ≠ 0 ∧ ∃ fillMshr rest, c.MSHR = fillMshr :: rest ∧
    ¬ c.currentCycle < fillMshr.eventCycle ∧
    (filllikeMiss cfg c (getSet cfg fillMshr.address)
      (victimWay cfg c (getSet cfg fillMshr.address) fillMshr) fillMshr).map Prod.fst = some false

/-- The iteration of `handle_writeback` at `c` meets a ready packet whose miss fails. -/
def WritebackFails (c : Cache) : Prop :=
  ¬ (c.writesAvailableThisCycle = 0 ∨ !c.WQ.hasReady) ∧
    (writebackAccess cfg c c.WQ.front).map Prod.fst = some false

/-- The cache once `handle_read` (`isRead`) has noted whether the packet carries data; for
`handle_prefetch` nothing changes. -/
def noteData (isRead : Bool) (c : Cache) (handlePkt : PACKET) : Cache :=
  { c with everSeenData := c.everSeenData || isRead && handlePkt.vAddress != handlePkt.ip }

/-- The iteration of `handle_read` or `handle_prefetch` at `c` meets a ready packet whose miss
fails. -/
def ReadlikeFails (isRead : Bool) (c : Cache) : Prop :=
  ¬ (c.readsAvailableThisCycle = 0 ∨ !(readlikeQueue isRead c).hasReady) ∧
    (readlikeAccess cfg (noteData isRead c (readlikeQueue isRead c).front)
      (readlikeQueue isRead c).front).1 = false

variable {cfg} {c c' : Cache} {handlePkt : PACKET}

theorem readlikeMiss_false (h : readlikeMiss cfg c handlePkt = (false, c')) : c' = c := by
  unfold readlikeMiss at h
  dsimp only at h
  -- a merge and an allocation succeed; the two tests fail with the cache as it was
  repeat' split at h
  all_goals first
    | (cases h; done)
    | exact (Prod.mk.inj h).2.symm

theorem filllikeMiss_false {set way : Nat}
    (h : filllikeMiss cfg c set way handlePkt = some (false, c')) : c' = c := by
  unfold filllikeMiss at h
  dsimp only at h
  -- every branch but the refused writeback succeeds or fails its assertion
  repeat' split at h
  all_goals first
    | (cases h; done)
    | exact (Prod.mk.inj (Option.some.inj h)).2.symm

theorem writebackAccess_false (h : writebackAccess cfg c handlePkt = some (false, c')) : c' = c := by
  unfold writebackAccess at h
  dsimp only at h
  split at h
  · cases h
  · split at h
    · exact readlikeMiss_false (Option.some.inj h)
    · exact filllikeMiss_false h

theorem readlikeAccess_false (h : readlikeAccess cfg c handlePkt = (false, c')) : c' = c := by
  unfold readlikeAccess at h
  dsimp only at h
  split at h
  · cases h
  · exact readlikeMiss_false h

theorem handleFillLoop_of_fails (h : FillFails cfg c) (fuel : Nat) :
    handleFillLoop cfg (fuel + 1) c = some c := by
  obtain ⟨hw, fillMshr, rest, hm, hdue, hfail⟩ := h
  obtain ⟨⟨b, c'⟩, hsome, hb⟩ := Option.map_eq_some_iff.mp hfail
  dsimp only at hb
  subst hb
  rw [handleFillLoop, if_neg hw]
  simp only [hm, if_neg hdue, hsome]
  rw [filllikeMiss_false hsome]

theorem handleWritebackLoop_of_fails (h : WritebackFails cfg c) (fuel : Nat) :
    handleWritebackLoop cfg (fuel + 1) c = some c := by
  obtain ⟨hready, hfail⟩ := h
  obtain ⟨⟨b, c'⟩, hsome, hb⟩ := Option.map_eq_some_iff.mp hfail
  dsimp only at hb
  subst hb
  rw [handleWritebackLoop, if_neg hready]
  simp only [hsome]
  rw [writebackAccess_false hsome]

theorem handleReadlikeLoop_of_fails {isRead : Bool} (h : ReadlikeFails cfg isRead c) (fuel : Nat) :
    handleReadlikeLoop cfg isRead (fuel + 1) c =
      some (noteData isRead c (readlikeQueue isRead c).front) := by
  obtain ⟨hready, hfail⟩ := h
  rcases hacc : readlikeAccess cfg (noteData isRead c (readlikeQueue isRead c).front)
    (readlikeQueue isRead c).front with ⟨b, c'⟩
  rw [hacc] at hfail
  dsimp only at hfail
  subst hfail
  rw [handleReadlikeLoop]
  dsimp only
  rw [if_neg hready]
  have hnote : ({ c with everSeenData :=
      c.everSeenData || isRead && (readlikeQueue isRead c).front.vAddress !=
        (readlikeQueue isRead c).front.ip } : Cache) =
      noteData isRead c (readlikeQueue isRead c).front := rfl
  rw [hnote, hacc]
  dsimp only
  rw [readlikeAccess_false hacc]

theorem run_replicate_of_step {op : CacheOp} (h : step cfg c op = some c) (k : Nat)
    (ops : List CacheOp) : run cfg c (List.replicate k op ++ ops) = run cfg c ops := by
  induction k with
  | zero => rfl
  | succ k ih =>
    rw [List.replicate_succ, List.cons_append]
    unfold run at ih ⊢
    rw [List.foldlM_cons, h]
    exact ih

theorem step_handleFill_of_fails (h : FillFails cfg c) : step cfg c .handleFill = some c := by
  obtain ⟨w, hw⟩ := Nat.exists_eq_succ_of_ne_zero h.1
  show handleFillLoop cfg c.writesAvailableThisCycle c = some c
  rw [hw]
  exact handleFillLoop_of_fails h w

theorem step_handleWriteback_of_fails (h : WritebackFails cfg c) :
    step cfg c .handleWriteback = some c := by
  have hw : c.writesAvailableThisCycle ≠ 0 := fun h0 => h.1 (Or.inl h0)
  obtain ⟨w, hw'⟩ := Nat.exists_eq_succ_of_ne_zero hw
  show handleWritebackLoop cfg c.writesAvailableThisCycle c = some c
  rw [hw']
  exact handleWritebackLoop_of_fails h w

/-- Failed misses are safe to retry. A failed `readlike_miss` or `filllike_miss` leaves the
whole cache, its lower level included, as it was. The loop of `handle_fill`,
`handle_writeback`, `handle_read` or `handle_prefetch` that meets one returns that state
with the packet still at the front, and only `handle_read` has noted `ever_seen_data`.
Failed calls of `handle_fill` and `handle_writeback` may come any number of times before the
rest of a run without changing it. -/
theorem failedMiss_retrySafe (cfg : CacheConfig) :
    (∀ c handlePkt c', readlikeMiss cfg c handlePkt = (false, c') → c' = c) ∧
    (∀ c set way handlePkt c', filllikeMiss cfg c set way handlePkt = some (false, c') → c' = c) ∧
    (∀ c fuel, FillFails cfg c → handleFillLoop cfg (fuel + 1) c = some c) ∧
    (∀ c fuel, WritebackFails cfg c → handleWritebackLoop cfg (fuel + 1) c = some c) ∧
    (∀ isRead c fuel, ReadlikeFails cfg isRead c →
      handleReadlikeLoop cfg isRead (fuel + 1) c =
        some (noteData isRead c (readlikeQueue isRead c).front)) ∧
    (∀ c k ops, FillFails cfg c → run cfg c (List.replicate k .handleFill ++ ops) = run cfg c ops) ∧
    (∀ c k ops, WritebackFails cfg c →
      run cfg c (List.replicate k .handleWriteback ++ ops) = run cfg c ops) :=
  ⟨fun _ _ _ h => readlikeMiss_false h,
    fun _ _ _ _ _ h => filllikeMiss_false h,
    fun _ fuel h => handleFillLoop_of_fails h fuel,
    fun _ fuel h => handleWritebackLoop_of_fails h fuel,
    fun _ _ fuel h => handleReadlikeLoop_of_fails h fuel,
    fun _ k ops h => run_replicate_of_step (step_handleFill_of_fails h) k ops,
    fun _ k ops h => run_replicate_of_step (step_handleWriteback_of_fails h) k ops⟩

end Cache

/-- A cache of one set whose two ways hold dirty blocks, with a fill due at the front of its
MSHR, over a lower level whose queues are full. -/
def stuckFill : Cache where
  cpu := 0
  block := [{ valid := true, dirty := true, address := 0x2000 },
    { valid := true, dirty := true, address := 0x3000 }]
  readsAvailableThisCycle := 0
  writesAvailableThisCycle := 2
  everSeenData := false
  RQ := .new 2 1
  PQ := .new 2 1
  WQ := .new 2 1
  MSHR := [{ address := 0x1000, eventCycle := 0 }]
  currentCycle := 0
  warmupComplete := fun _ => true
  lower := { fillLevel := 16, occupancy := fun _ => 4, size := fun _ => 4 }
  returned := []

/-- The fill's dirty victim cannot be written back, so `handle_fill` stops with the cache as
it was. -/
theorem failedMiss_retrySafe_stuckFill :
    Cache.FillFails (smallCache 1 2) stuckFill ∧
      Cache.handleFillLoop (smallCache 1 2) 1 stuckFill = some stuckFill := by
  have hfails : Cache.FillFails (smallCache 1 2) stuckFill :=
    ⟨by decide, _, [], rfl, by decide, by decide +kernel⟩
  exact ⟨hfails, (Cache.failedMiss_retrySafe (smallCache 1 2)).2.2.1 stuckFill 0 hfails⟩

end MindPalace.ChampSim
