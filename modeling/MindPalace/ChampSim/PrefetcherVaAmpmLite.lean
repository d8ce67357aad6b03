import MindPalace.ChampSim.PrefetcherIpStride

/-! # The AMPM-Lite prefetcher over virtual addresses

`prefetcher/va_ampm_lite/va_ampm_lite.cc` tracks pages as regions of access and prefetch bits in
LRU order. `va_ampm_find_region` answers a repeated lookup from two `static`s, and a remembered
miss is not forgotten when its page is then given a region, so the next access to such a page
allocates it a second region. The cache's answers are inputs, and the calls are the output.
-/

namespace MindPalace.ChampSim

def L2C_VA_AMPM_LITE_REGION_COUNT : Nat := 128

def L2C_VA_AMPM_LITE_MAX_DISTANCE : Nat := 256

def L2C_VA_AMPM_LITE_PREFETCH_DEGREE : Nat := 2

def BLOCK_SIZE : Nat := 64

def FILL_L2 : Int := 2

def FILL_LLC : Int := 4

structure VaAmpmRegion where
  vpn : UInt64 := 0
  accessMap : UInt64 := 0
  prefetchMap : UInt64 := 0
  lru : UInt64 := 0

/-- The globals `l2c_va_ampm_lite_regions` and `l2c_va_ampm_lite_region_lru`, and the two
`static`s of `va_ampm_find_region`, where the index `-1` is `none`. -/
structure VaAmpmLite where
  regions : Vector VaAmpmRegion L2C_VA_AMPM_LITE_REGION_COUNT := Vector.replicate _ {}
  regionLru : UInt64 := 0
  wayPredictIndex : Option (Fin L2C_VA_AMPM_LITE_REGION_COUNT) := some ⟨0, by decide⟩
  wayPredictVpn : UInt64 := 0

inductive RegionMap where
  | access
  | prefetch

namespace VaAmpmRegion

def map (r : VaAmpmRegion) : RegionMap → UInt64
  | .access => r.accessMap
  | .prefetch => r.prefetchMap

def setMap (r : VaAmpmRegion) : RegionMap → UInt64 → VaAmpmRegion
  | .access, v => { r with accessMap := v }
  | .prefetch, v => { r with prefetchMap := v }

@[simp] theorem vpn_setMap (r : VaAmpmRegion) (m : RegionMap) (v : UInt64) :
    (r.setMap m v).vpn = r.vpn := by
  cases m <;> rfl

@[simp] theorem lru_setMap (r : VaAmpmRegion) (m : RegionMap) (v : UInt64) :
    (r.setMap m v).lru = r.lru := by
  cases m <;> rfl

end VaAmpmRegion

namespace VaAmpmLite

/-! ### The region table -/

def allocateRegion (s : VaAmpmLite) (regionIndex : Fin L2C_VA_AMPM_LITE_REGION_COUNT)
    (allocateVpn : UInt64) : VaAmpmLite :=
  { s with
    regions := s.regions.set regionIndex ⟨allocateVpn, 0, 0, s.regionLru⟩
    regionLru := s.regionLru + 1 }

/-- The loop of `va_ampm_find_region`: the first region of page `searchVpn`. -/
def searchRegions (s : VaAmpmLite) (searchVpn : UInt64) :
    Option (Fin L2C_VA_AMPM_LITE_REGION_COUNT) :=
  (List.finRange L2C_VA_AMPM_LITE_REGION_COUNT).find? fun i => s.regions[i].vpn == searchVpn

/-- `va_ampm_find_region(search_vpn)`: the remembered answer for the remembered page, else the
search, which it then remembers. -/
def findRegion (s : VaAmpmLite) (searchVpn : UInt64) :
    VaAmpmLite × Option (Fin L2C_VA_AMPM_LITE_REGION_COUNT) :=
  if s.wayPredictVpn = searchVpn then (s, s.wayPredictIndex)
  else
    let regionIndex := s.searchRegions searchVpn
    ({ s with wayPredictIndex := regionIndex, wayPredictVpn := searchVpn }, regionIndex)

/-- One iteration of the loop of `va_ampm_get_lru_region`; its `lru_value` is always the `lru`
of `lru_index`, so the index alone is kept. -/
def lruStep (s : VaAmpmLite) (lruIndex i : Fin L2C_VA_AMPM_LITE_REGION_COUNT) :
    Fin L2C_VA_AMPM_LITE_REGION_COUNT :=
  if s.regions[i].lru < s.regions[lruIndex].lru then i else lruIndex

def getLruRegion (s : VaAmpmLite) : Fin L2C_VA_AMPM_LITE_REGION_COUNT :=
  (List.finRange L2C_VA_AMPM_LITE_REGION_COUNT).foldl s.lruStep ⟨0, by decide⟩

def checkMap (m : RegionMap) (s : VaAmpmLite) (regionIndex : Fin L2C_VA_AMPM_LITE_REGION_COUNT)
    (regionOffset : UInt64) : Bool :=
  (s.regions[regionIndex].map m >>> regionOffset) &&& 1 != 0

/-- `va_ampm_set_access` and `va_ampm_set_prefetch`: `map |= 1L << region_offset`. -/
def setMap (m : RegionMap) (s : VaAmpmLite) (regionIndex : Fin L2C_VA_AMPM_LITE_REGION_COUNT)
    (regionOffset : UInt64) : VaAmpmLite :=
  let r := s.regions[regionIndex]
  { s with regions := s.regions.set regionIndex (r.setMap m (r.map m ||| ((1 : UInt64) <<< regionOffset))) }

def checkAccess : VaAmpmLite → Fin L2C_VA_AMPM_LITE_REGION_COUNT → UInt64 → Bool :=
  checkMap .access

def setAccess : VaAmpmLite → Fin L2C_VA_AMPM_LITE_REGION_COUNT → UInt64 → VaAmpmLite :=
  setMap .access

def checkPrefetch : VaAmpmLite → Fin L2C_VA_AMPM_LITE_REGION_COUNT → UInt64 → Bool :=
  checkMap .prefetch

def setPrefetch : VaAmpmLite → Fin L2C_VA_AMPM_LITE_REGION_COUNT → UInt64 → VaAmpmLite :=
  setMap .prefetch

def vpnOf (vAddr : UInt64) : UInt64 :=
  vAddr >>> LOG2_PAGE_SIZE.toUInt64

/-- The line `(v_addr >> LOG2_BLOCK_SIZE) & 63` of an address within its page. -/
def pageOffset (vAddr : UInt64) : UInt64 :=
  (vAddr >>> LOG2_BLOCK_SIZE.toUInt64) &&& 63

/-- `va_ampm_check_cl_access` and `va_ampm_check_cl_prefetch`. -/
def checkClMap (m : RegionMap) (s : VaAmpmLite) (vAddr : UInt64) : VaAmpmLite × Bool :=
  let r := s.findRegion (vpnOf vAddr)
  match r.2 with
  | none => (r.1, false)
  | some regionIndex => (r.1, checkMap m r.1 regionIndex (pageOffset vAddr))

/-- `va_ampm_set_cl_access` and `va_ampm_set_cl_prefetch`: a page without a region is given
the LRU region first. -/
def setClMap (m : RegionMap) (s : VaAmpmLite) (vAddr : UInt64) : VaAmpmLite :=
  let vpn := vpnOf vAddr
  let r := s.findRegion vpn
  match r.2 with
  | none =>
    let lruIndex := r.1.getLruRegion
    setMap m (r.1.allocateRegion lruIndex vpn) lruIndex (pageOffset vAddr)
  | some regionIndex => setMap m r.1 regionIndex (pageOffset vAddr)

def checkClAccess : VaAmpmLite → UInt64 → VaAmpmLite × Bool :=
  checkClMap .access

def setClAccess : VaAmpmLite → UInt64 → VaAmpmLite :=
  setClMap .access

def checkClPrefetch : VaAmpmLite → UInt64 → VaAmpmLite × Bool :=
  checkClMap .prefetch

def setClPrefetch : VaAmpmLite → UInt64 → VaAmpmLite :=
  setClMap .prefetch

/-! ### `l2c_prefetcher_operate` -/

/-- `l2c_prefetch(cache, ip, base_addr, pf_addr, pf_fill_level, 0)`, where `accepted` is what
`prefetch_line` returns, with the call of `prefetch_line(pf_addr, fill_this_level, 0)` it makes
through the deprecated signature. -/
def l2cPrefetch (baseAddr pfAddr : UInt64) (pfFillLevel : Int) (accepted : Bool) :
    Int × Option PrefetchCall :=
  if baseAddr >>> LOG2_BLOCK_SIZE.toUInt64 = pfAddr >>> LOG2_BLOCK_SIZE.toUInt64 then (-1, none)
  else (if accepted then 1 else 0, some ⟨pfAddr, pfFillLevel != 0⟩)

inductive Direction where
  | positive
  | negative

/-- `addr + d` for the positive loop, `addr - d` for the negative one. -/
def Direction.ahead : Direction → UInt64 → Nat → UInt64
  | .positive, addr, d => addr + d.toUInt64
  | .negative, addr, d => addr - d.toUInt64

/-- `addr - d` for the positive loop, `addr + d` for the negative one. -/
def Direction.behind : Direction → UInt64 → Nat → UInt64
  | .positive, addr, d => addr - d.toUInt64
  | .negative, addr, d => addr + d.toUInt64

/-- What one call `l2c_prefetcher_operate(addr, ...)` reads from the cache:
`get_occupancy(0, 0)` and `get_size(0, 0)` of the MSHR, and what its `n`-th call of
`prefetch_line` returns. -/
structure OperateCall where
  addr : UInt64
  mshrOccupancy : Nat
  mshrSize : Nat
  accept : Nat → Bool

/-- The condition of iteration `i` of a prefetch loop. The `&&` stops at its first false operand,
and each operand looks up its page and so moves the way-predict pair. -/
def isCandidate (dir : Direction) (s : VaAmpmLite) (addr : UInt64) (i : Nat) :
    VaAmpmLite × Bool :=
  let r₁ := checkClAccess s (dir.behind addr (i * BLOCK_SIZE))
  if !r₁.2 then (r₁.1, false) else
  let r₂ := checkClAccess r₁.1 (dir.behind addr (2 * i * BLOCK_SIZE))
  if !r₂.2 then (r₂.1, false) else
  let r₃ := checkClAccess r₂.1 (dir.ahead addr (i * BLOCK_SIZE))
  if r₃.2 then (r₃.1, false) else
  let r₄ := checkClPrefetch r₃.1 (dir.ahead addr (i * BLOCK_SIZE))
  (r₄.1, !r₄.2)

def OperateCall.pfFillLevel (c : OperateCall) : Int :=
  if c.mshrOccupancy > c.mshrSize >>> 1 then FILL_LLC else FILL_L2

/-- The loop's state: the prefetcher, `prefetches_issued`, and the calls of `prefetch_line` so
far in this `l2c_prefetcher_operate`. -/
abbrev LoopState := VaAmpmLite × Nat × List PrefetchCall

def scanStep (dir : Direction) (c : OperateCall) (i : Nat) (p : LoopState) : LoopState :=
  let cand := isCandidate dir p.1 c.addr i
  if cand.2 then
    let pfAddr := dir.ahead c.addr (i * BLOCK_SIZE)
    let r := l2cPrefetch c.addr pfAddr c.pfFillLevel (c.accept p.2.2.length)
    let calls := p.2.2 ++ r.2.toList
    if r.1 > 0 then (setClPrefetch cand.1 pfAddr, p.2.1 + 1, calls) else (cand.1, p.2.1, calls)
  else (cand.1, p.2.1, p.2.2)

/-- A prefetch loop from iteration `i` with `n` iterations left, and its `break` once
`L2C_VA_AMPM_LITE_PREFETCH_DEGREE` prefetches are issued. -/
def scanLoop (dir : Direction) (c : OperateCall) : Nat → Nat → LoopState → LoopState
  | 0, _, p => p
  | n + 1, i, p =>
    let p := scanStep dir c i p
    if p.2.1 ≥ L2C_VA_AMPM_LITE_PREFETCH_DEGREE then p else scanLoop dir c n (i + 1) p

/-- `CACHE::l2c_prefetcher_operate(addr, ...)`, with the calls of `prefetch_line` it makes. -/
def l2cPrefetcherOperate (s : VaAmpmLite) (c : OperateCall) : VaAmpmLite × List PrefetchCall :=
  let currentVpn := vpnOf c.addr
  let r := s.findRegion currentVpn
  match r.2 with
  | none => (r.1.allocateRegion r.1.getLruRegion currentVpn, [])
  | some _ =>
    let s := setClAccess r.1 c.addr
    let p := scanLoop .positive c L2C_VA_AMPM_LITE_MAX_DISTANCE 1 (s, 0, [])
    let p := scanLoop .negative c L2C_VA_AMPM_LITE_MAX_DISTANCE 1 (p.1, 0, p.2.2)
    (p.1, p.2.2)

def l2cPrefetcherInitialize (s : VaAmpmLite) : VaAmpmLite :=
  (List.finRange L2C_VA_AMPM_LITE_REGION_COUNT).foldl (fun s i => s.allocateRegion i 0)
    { s with regionLru := 0 }

/-- The prefetcher after `l2c_prefetcher_initialize`, with the `static`s at their first values. -/
def start : VaAmpmLite :=
  l2cPrefetcherInitialize {}

/-- The prefetcher after the calls `cs`, with the calls of `prefetch_line` they make. -/
def run (s : VaAmpmLite) : List OperateCall → VaAmpmLite × List PrefetchCall
  | [] => (s, [])
  | c :: cs =>
    let r := s.l2cPrefetcherOperate c
    let rest := run r.1 cs
    (rest.1, r.2 ++ rest.2)

/-! ### Lookups -/

@[simp] theorem regions_findRegion (s : VaAmpmLite) (v : UInt64) :
    (s.findRegion v).1.regions = s.regions := by
  unfold findRegion
  split <;> rfl

@[simp] theorem regionLru_findRegion (s : VaAmpmLite) (v : UInt64) :
    (s.findRegion v).1.regionLru = s.regionLru := by
  unfold findRegion
  split <;> rfl

theorem wayPredict_findRegion (s : VaAmpmLite) (v : UInt64) :
    (s.findRegion v).1.wayPredictVpn = v ∧
      (s.findRegion v).1.wayPredictIndex = (s.findRegion v).2 := by
  unfold findRegion
  split
  · next h => exact ⟨h, rfl⟩
  · exact ⟨rfl, rfl⟩

theorem findRegion_of_eq {s : VaAmpmLite} {v : UInt64} (h : s.wayPredictVpn = v) :
    s.findRegion v = (s, s.wayPredictIndex) := by
  rw [findRegion, if_pos h]

theorem findRegion_of_ne {s : VaAmpmLite} {v : UInt64} (h : s.wayPredictVpn ≠ v) :
    (s.findRegion v).2 = s.searchRegions v := by
  rw [findRegion, if_neg h]

theorem searchRegions_eq_none_iff {s : VaAmpmLite} {v : UInt64} :
    s.searchRegions v = none ↔ ∀ i : Fin L2C_VA_AMPM_LITE_REGION_COUNT, s.regions[i].vpn ≠ v := by
  simp [searchRegions, List.find?_eq_none]

theorem searchRegions_of_first {s : VaAmpmLite} {v : UInt64}
    {i : Fin L2C_VA_AMPM_LITE_REGION_COUNT} (hi : s.regions[i].vpn = v)
    (hfirst : ∀ j, j < i → s.regions[j].vpn ≠ v) : s.searchRegions v = some i := by
  rw [searchRegions, List.find?_eq_some_iff_getElem]
  refine ⟨by simpa using hi, i.val, by simp, by simp, fun j hj => ?_⟩
  simpa using hfirst ⟨j, by omega⟩ hj

theorem searchRegions_congr {s t : VaAmpmLite}
    (h : ∀ i : Fin L2C_VA_AMPM_LITE_REGION_COUNT, t.regions[i].vpn = s.regions[i].vpn)
    (v : UInt64) : t.searchRegions v = s.searchRegions v := by
  simp only [searchRegions, h]

/-! ### The LRU region -/

theorem lru_foldl_lruStep_le (s : VaAmpmLite) (l : List (Fin L2C_VA_AMPM_LITE_REGION_COUNT))
    (acc : Fin L2C_VA_AMPM_LITE_REGION_COUNT) :
    (s.regions[l.foldl s.lruStep acc]).lru.toNat ≤ (s.regions[acc]).lru.toNat ∧
      ∀ j ∈ l, (s.regions[l.foldl s.lruStep acc]).lru.toNat ≤ (s.regions[j]).lru.toNat := by
  induction l generalizing acc with
  | nil => simp
  | cons i l ih =>
    obtain ⟨hacc, hl⟩ := ih (s.lruStep acc i)
    -- the kept index has an `lru` at most the old one's and the new one's
    have hstep : (s.regions[s.lruStep acc i]).lru.toNat ≤ (s.regions[acc]).lru.toNat ∧
        (s.regions[s.lruStep acc i]).lru.toNat ≤ (s.regions[i]).lru.toNat := by
      unfold lruStep
      split
      · next h => rw [UInt64.lt_iff_toNat_lt] at h; omega
      · next h => rw [UInt64.lt_iff_toNat_lt] at h; omega
    refine ⟨hacc.trans hstep.1, fun j hj => ?_⟩
    rcases List.mem_cons.mp hj with rfl | hj
    · exact hacc.trans hstep.2
    · exact hl j hj

theorem lru_getLruRegion_le (s : VaAmpmLite) (j : Fin L2C_VA_AMPM_LITE_REGION_COUNT) :
    (s.regions[s.getLruRegion]).lru.toNat ≤ (s.regions[j]).lru.toNat :=
  (lru_foldl_lruStep_le s _ _).2 j (List.mem_finRange j)

theorem getLruRegion_congr {s t : VaAmpmLite} (h : t.regions = s.regions) :
    t.getLruRegion = s.getLruRegion := by
  have hstep : t.lruStep = s.lruStep := by
    funext lruIndex i
    simp only [lruStep, h]
  simp only [getLruRegion, hstep]

/-! ### Allocating and marking -/

@[simp] theorem wayPredictIndex_allocateRegion (s : VaAmpmLite) r v :
    (s.allocateRegion r v).wayPredictIndex = s.wayPredictIndex := rfl

@[simp] theorem wayPredictVpn_allocateRegion (s : VaAmpmLite) r v :
    (s.allocateRegion r v).wayPredictVpn = s.wayPredictVpn := rfl

@[simp] theorem regionLru_allocateRegion (s : VaAmpmLite) r v :
    (s.allocateRegion r v).regionLru = s.regionLru + 1 := rfl

theorem getElem_allocateRegion (s : VaAmpmLite) (r : Fin L2C_VA_AMPM_LITE_REGION_COUNT)
    (v : UInt64) (j : Fin L2C_VA_AMPM_LITE_REGION_COUNT) :
    (s.allocateRegion r v).regions[j] = if r = j then ⟨v, 0, 0, s.regionLru⟩ else s.regions[j] := by
  simp only [allocateRegion, Fin.getElem_fin, Vector.getElem_set, Fin.val_inj]

@[simp] theorem wayPredictIndex_setMap (m : RegionMap) (s : VaAmpmLite) r off :
    (setMap m s r off).wayPredictIndex = s.wayPredictIndex := rfl

@[simp] theorem wayPredictVpn_setMap (m : RegionMap) (s : VaAmpmLite) r off :
    (setMap m s r off).wayPredictVpn = s.wayPredictVpn := rfl

theorem vpn_setMap (m : RegionMap) (s : VaAmpmLite) (r : Fin L2C_VA_AMPM_LITE_REGION_COUNT)
    (off : UInt64) (j : Fin L2C_VA_AMPM_LITE_REGION_COUNT) :
    (setMap m s r off).regions[j].vpn = s.regions[j].vpn := by
  simp only [setMap, Fin.getElem_fin, Vector.getElem_set]
  split
  · next h => simp [h]
  · rfl

/-! ### Remembered hits are right -/

/-- The pair of `va_ampm_find_region` remembers a hit only for the region the search finds; a
remembered miss is not constrained. -/
def PredictOk (s : VaAmpmLite) : Prop :=
  ∀ i, s.wayPredictIndex = some i → s.searchRegions s.wayPredictVpn = some i

theorem predictOk_of_miss {s : VaAmpmLite} (h : s.wayPredictIndex = none) : s.PredictOk := by
  intro i hi
  rw [h] at hi
  cases hi

theorem PredictOk.congr {s t : VaAmpmLite} (hs : s.PredictOk)
    (hindex : t.wayPredictIndex = s.wayPredictIndex) (hvpn : t.wayPredictVpn = s.wayPredictVpn)
    (hregions : ∀ i : Fin L2C_VA_AMPM_LITE_REGION_COUNT, t.regions[i].vpn = s.regions[i].vpn) : t.PredictOk := by
  intro i hi
  rw [searchRegions_congr hregions, hvpn]
  exact hs i (hindex ▸ hi)

theorem PredictOk.findRegion {s : VaAmpmLite} (hs : s.PredictOk) (v : UInt64) :
    (s.findRegion v).1.PredictOk := by
  by_cases h : s.wayPredictVpn = v
  · rw [findRegion_of_eq h]
    exact hs
  · intro i hi
    rw [VaAmpmLite.findRegion, if_neg h] at hi ⊢
    exact hi

theorem PredictOk.findRegion_eq {s : VaAmpmLite} (hs : s.PredictOk) (v : UInt64) :
    (s.findRegion v).2 = s.searchRegions v ∨ (s.wayPredictVpn = v ∧ s.wayPredictIndex = none) := by
  by_cases h : s.wayPredictVpn = v
  · rw [findRegion_of_eq h]
    cases hi : s.wayPredictIndex with
    | none => exact Or.inr ⟨h, rfl⟩
    | some i =>
      rw [← h]
      exact Or.inl (hs i hi).symm
  · exact Or.inl (findRegion_of_ne h)

theorem PredictOk.findRegion_of_untracked {s : VaAmpmLite} (hs : s.PredictOk) {v : UInt64}
    (hu : s.searchRegions v = none) : (s.findRegion v).2 = none := by
  rcases hs.findRegion_eq v with h | ⟨h, hmiss⟩
  · rw [h, hu]
  · rw [findRegion_of_eq h, hmiss]

theorem PredictOk.setMap {s : VaAmpmLite} (hs : s.PredictOk) (m : RegionMap)
    (r : Fin L2C_VA_AMPM_LITE_REGION_COUNT) (off : UInt64) : (setMap m s r off).PredictOk :=
  hs.congr rfl rfl (vpn_setMap m s r off)

@[simp] theorem fst_checkClMap (m : RegionMap) (s : VaAmpmLite) (a : UInt64) :
    (checkClMap m s a).1 = (s.findRegion (vpnOf a)).1 := by
  unfold checkClMap
  dsimp only
  split <;> rfl

theorem PredictOk.checkClMap {s : VaAmpmLite} (hs : s.PredictOk) (m : RegionMap) (a : UInt64) :
    (checkClMap m s a).1.PredictOk := by
  rw [fst_checkClMap]
  exact hs.findRegion _

theorem PredictOk.setClMap {s : VaAmpmLite} (hs : s.PredictOk) (m : RegionMap) (a : UInt64) :
    (setClMap m s a).PredictOk := by
  unfold VaAmpmLite.setClMap
  dsimp only
  split
  · next hnone =>
    -- the lookup missed, and the allocation keeps the remembered miss
    apply PredictOk.setMap
    apply predictOk_of_miss
    rw [wayPredictIndex_allocateRegion, (wayPredict_findRegion s _).2, hnone]
  · exact (hs.findRegion _).setMap _ _ _

theorem PredictOk.isCandidate {s : VaAmpmLite} (hs : s.PredictOk) (dir : Direction)
    (addr : UInt64) (i : Nat) : (isCandidate dir s addr i).1.PredictOk := by
  have h₁ := hs.checkClMap .access (dir.behind addr (i * BLOCK_SIZE))
  have h₂ := h₁.checkClMap .access (dir.behind addr (2 * i * BLOCK_SIZE))
  have h₃ := h₂.checkClMap .access (dir.ahead addr (i * BLOCK_SIZE))
  have h₄ := h₃.checkClMap .prefetch (dir.ahead addr (i * BLOCK_SIZE))
  unfold VaAmpmLite.isCandidate checkClAccess checkClPrefetch
  dsimp only
  -- the condition stops after its first, second, third or fourth operand
  split_ifs <;> dsimp only
  · exact h₁
  · exact h₂
  · exact h₃
  · exact h₄

theorem scanLoop_induction {P : LoopState → Prop} {dir : Direction} {c : OperateCall}
    (hstep : ∀ i p, P p → P (scanStep dir c i p)) :
    ∀ n i p, P p → P (scanLoop dir c n i p)
  | 0, _, _, hp => hp
  | n + 1, i, p, hp => by
    have h := hstep i p hp
    rw [scanLoop]
    split_ifs
    · exact h
    · exact scanLoop_induction hstep n (i + 1) _ h

theorem fst_scanStep (dir : Direction) (c : OperateCall) (i : Nat) (p : LoopState) :
    (scanStep dir c i p).1 = (isCandidate dir p.1 c.addr i).1 ∨
      (scanStep dir c i p).1 =
        setClPrefetch (isCandidate dir p.1 c.addr i).1 (dir.ahead c.addr (i * BLOCK_SIZE)) := by
  unfold scanStep
  dsimp only
  split_ifs
  · exact Or.inr rfl
  · exact Or.inl rfl
  · exact Or.inl rfl

theorem calls_scanStep (dir : Direction) (c : OperateCall) (i : Nat) (p : LoopState) :
    (scanStep dir c i p).2.2 = p.2.2 ∨
      (scanStep dir c i p).2.2 = p.2.2 ++ (l2cPrefetch c.addr (dir.ahead c.addr (i * BLOCK_SIZE))
        c.pfFillLevel (c.accept p.2.2.length)).2.toList := by
  unfold scanStep
  dsimp only
  split_ifs
  · exact Or.inr rfl
  · exact Or.inr rfl
  · exact Or.inl rfl

theorem PredictOk.scanStep {dir : Direction} {c : OperateCall} {i : Nat} {p : LoopState}
    (hp : p.1.PredictOk) : (scanStep dir c i p).1.PredictOk := by
  have hcand := hp.isCandidate dir c.addr i
  rcases fst_scanStep dir c i p with h | h
  · rw [h]
    exact hcand
  · rw [h]
    exact hcand.setClMap _ _

theorem PredictOk.scanLoop {t : VaAmpmLite} (ht : t.PredictOk) (dir : Direction)
    (c : OperateCall) (n i issued : Nat) (calls : List PrefetchCall) :
    (scanLoop dir c n i (t, issued, calls)).1.PredictOk :=
  scanLoop_induction (P := fun p => p.1.PredictOk) (fun _ _ hp => hp.scanStep) n i _ ht

theorem PredictOk.operate {s : VaAmpmLite} (hs : s.PredictOk) (c : OperateCall) :
    (s.l2cPrefetcherOperate c).1.PredictOk := by
  unfold l2cPrefetcherOperate
  dsimp only
  split
  · next hnone =>
    apply predictOk_of_miss
    rw [wayPredictIndex_allocateRegion, (wayPredict_findRegion s _).2, hnone]
  · -- the mark of the access, then the two loops
    dsimp only
    have h₀ := (hs.findRegion (vpnOf c.addr)).setClMap .access c.addr
    have h₁ := h₀.scanLoop .positive c L2C_VA_AMPM_LITE_MAX_DISTANCE 1 0 []
    exact h₁.scanLoop .negative c L2C_VA_AMPM_LITE_MAX_DISTANCE 1 0 _

@[simp] theorem run_nil (s : VaAmpmLite) : s.run [] = (s, []) := rfl

@[simp] theorem run_cons (s : VaAmpmLite) (c : OperateCall) (cs : List OperateCall) :
    s.run (c :: cs) = (((s.l2cPrefetcherOperate c).1.run cs).1,
      (s.l2cPrefetcherOperate c).2 ++ ((s.l2cPrefetcherOperate c).1.run cs).2) := rfl

theorem PredictOk.run {s : VaAmpmLite} (hs : s.PredictOk) : ∀ cs, (s.run cs).1.PredictOk
  | [] => hs
  | c :: cs => (hs.operate c).run cs

/-! ### The calls of `prefetch_line` -/

theorem fillThisLevel_l2cPrefetch (baseAddr pfAddr : UInt64) {pfFillLevel : Int}
    (h : pfFillLevel ≠ 0) (accepted : Bool) :
    ∀ call ∈ (l2cPrefetch baseAddr pfAddr pfFillLevel accepted).2.toList,
      call.fillThisLevel = true := by
  unfold l2cPrefetch
  split <;> simp [h]

theorem fillThisLevel_scanStep {dir : Direction} {c : OperateCall} {i : Nat} {p : LoopState}
    (hp : ∀ call ∈ p.2.2, call.fillThisLevel = true) :
    ∀ call ∈ (scanStep dir c i p).2.2, call.fillThisLevel = true := by
  have hlevel : c.pfFillLevel ≠ 0 := by
    unfold OperateCall.pfFillLevel
    split <;> decide
  intro call hcall
  rcases calls_scanStep dir c i p with h | h <;> rw [h] at hcall
  · exact hp call hcall
  · rcases List.mem_append.mp hcall with hcall | hcall
    · exact hp call hcall
    · exact fillThisLevel_l2cPrefetch _ _ hlevel _ call hcall

theorem fillThisLevel_scanLoop (dir : Direction) (c : OperateCall) (t : VaAmpmLite)
    (n i issued : Nat) (calls : List PrefetchCall)
    (hcalls : ∀ call ∈ calls, call.fillThisLevel = true) :
    ∀ call ∈ (scanLoop dir c n i (t, issued, calls)).2.2, call.fillThisLevel = true :=
  scanLoop_induction (P := fun p => ∀ call ∈ p.2.2, call.fillThisLevel = true)
    (fun _ _ hp => fillThisLevel_scanStep hp) n i _ hcalls

theorem fillThisLevel_operate (s : VaAmpmLite) (c : OperateCall) :
    ∀ call ∈ (s.l2cPrefetcherOperate c).2, call.fillThisLevel = true := by
  unfold l2cPrefetcherOperate
  dsimp only
  split
  · simp
  · dsimp only
    have h₁ := fillThisLevel_scanLoop .positive c
      ((s.findRegion (vpnOf c.addr)).1.setClAccess c.addr) L2C_VA_AMPM_LITE_MAX_DISTANCE 1 0 []
      (by simp)
    exact fillThisLevel_scanLoop .negative c _ L2C_VA_AMPM_LITE_MAX_DISTANCE 1 0 _ h₁

theorem fillThisLevel_run (s : VaAmpmLite) :
    ∀ cs, ∀ call ∈ (s.run cs).2, call.fillThisLevel = true
  | [], call, hcall => by simp [run] at hcall
  | c :: cs, call, hcall => by
    rcases List.mem_append.mp hcall with hcall | hcall
    · exact fillThisLevel_operate s c call hcall
    · exact fillThisLevel_run _ cs call hcall

/-! ### Initialization -/

theorem foldl_allocateRegion_take (s : VaAmpmLite) {k : Nat}
    (hk : k ≤ L2C_VA_AMPM_LITE_REGION_COUNT) :
    let t := ((List.finRange L2C_VA_AMPM_LITE_REGION_COUNT).take k).foldl
      (fun s i => s.allocateRegion i 0) { s with regionLru := 0 }
    t.regionLru = k.toUInt64 ∧ t.wayPredictIndex = s.wayPredictIndex ∧
      t.wayPredictVpn = s.wayPredictVpn ∧
        ∀ i : Fin L2C_VA_AMPM_LITE_REGION_COUNT, i.val < k →
          t.regions[i] = ⟨0, 0, 0, i.val.toUInt64⟩ := by
  induction k with
  | zero => exact ⟨rfl, rfl, rfl, fun i hi => absurd hi (Nat.not_lt_zero _)⟩
  | succ k ih =>
    obtain ⟨hlru, hidx, hvpn, hreg⟩ := ih (by omega)
    have hlen : k < (List.finRange L2C_VA_AMPM_LITE_REGION_COUNT).length := by
      rw [List.length_finRange]
      omega
    have hget : (List.finRange L2C_VA_AMPM_LITE_REGION_COUNT)[k]? = some ⟨k, hk⟩ := by
      rw [List.getElem?_eq_getElem hlen, List.getElem_finRange]
      rfl
    simp only [List.take_add_one, hget, Option.toList_some, List.foldl_append, List.foldl_cons,
      List.foldl_nil]
    refine ⟨?_, hidx, hvpn, fun i hi => ?_⟩
    · rw [regionLru_allocateRegion, hlru, Nat.toUInt64_eq, Nat.toUInt64_eq, UInt64.ofNat_add]
      rfl
    · rw [getElem_allocateRegion]
      split
      · next h => rw [hlru, ← h]
      · next h =>
        have hne : i.val ≠ k := fun h' => h (Fin.ext h'.symm)
        exact hreg i (by omega)

theorem start_eq : start.regionLru = L2C_VA_AMPM_LITE_REGION_COUNT.toUInt64 ∧
    start.wayPredictIndex = some ⟨0, by decide⟩ ∧ start.wayPredictVpn = 0 ∧
      ∀ i : Fin L2C_VA_AMPM_LITE_REGION_COUNT, start.regions[i] = ⟨0, 0, 0, i.val.toUInt64⟩ := by
  have h := foldl_allocateRegion_take {} (le_refl L2C_VA_AMPM_LITE_REGION_COUNT)
  rw [List.take_of_length_le (by simp)] at h
  obtain ⟨hlru, hidx, hvpn, hreg⟩ := h
  exact ⟨hlru, hidx, hvpn, fun i => hreg i i.isLt⟩

theorem predictOk_start : start.PredictOk := by
  obtain ⟨-, hidx, hvpn, hreg⟩ := start_eq
  intro i hi
  rw [hidx, Option.some.injEq] at hi
  subst hi
  rw [hvpn]
  exact searchRegions_of_first (by rw [hreg]) fun j hj => absurd hj (Nat.not_lt_zero _)

theorem toNat_lru_start (j : Fin L2C_VA_AMPM_LITE_REGION_COUNT) :
    (start.regions[j]).lru.toNat = j.val := by
  have hj : j.val < 2 ^ 64 := lt_trans j.isLt (by decide)
  rw [start_eq.2.2.2 j]
  simp only [Nat.toUInt64_eq, UInt64.toNat_ofNat', Nat.mod_eq_of_lt hj]

theorem lru_start_lt (j : Fin L2C_VA_AMPM_LITE_REGION_COUNT) :
    (start.regions[j]).lru.toNat < start.regionLru.toNat := by
  rw [toNat_lru_start, start_eq.1]
  exact j.isLt

theorem getLruRegion_start : start.getLruRegion = ⟨0, by decide⟩ := by
  have hle := lru_getLruRegion_le start ⟨0, by decide⟩
  simp only [toNat_lru_start] at hle
  exact Fin.ext (Nat.le_zero.mp hle)

theorem searchRegions_start {v : UInt64} (hv : v ≠ 0) : start.searchRegions v = none :=
  searchRegions_eq_none_iff.mpr fun i => by
    rw [start_eq.2.2.2 i]
    exact Ne.symm hv

/-! ### What a lookup returns over a run -/

/-- Over every run from initialization, every lookup returns what the linear search returns,
unless it is of the remembered page and the pair remembers a miss. -/
theorem findRegion_run (cs : List OperateCall) (v : UInt64) :
    let s := (start.run cs).1
    (s.findRegion v).2 = s.searchRegions v ∨ (s.wayPredictVpn = v ∧ s.wayPredictIndex = none) :=
  (predictOk_start.run cs).findRegion_eq v

/-! ### Remembered misses -/

theorem operate_of_findRegion_none {s : VaAmpmLite} {c : OperateCall}
    (h : (s.findRegion (vpnOf c.addr)).2 = none) :
    s.l2cPrefetcherOperate c =
      ((s.findRegion (vpnOf c.addr)).1.allocateRegion (s.findRegion (vpnOf c.addr)).1.getLruRegion
        (vpnOf c.addr), []) := by
  unfold l2cPrefetcherOperate
  dsimp only
  split
  · rfl
  · next hsome => rw [h] at hsome; cases hsome

theorem operate_untracked {s : VaAmpmLite} (hs : s.PredictOk) {c : OperateCall}
    (hu : s.searchRegions (vpnOf c.addr) = none) :
    let t := (s.l2cPrefetcherOperate c).1
    t.regions[s.getLruRegion] = ⟨vpnOf c.addr, 0, 0, s.regionLru⟩ ∧
      (∀ j, j ≠ s.getLruRegion → t.regions[j] = s.regions[j]) ∧
        t.wayPredictVpn = vpnOf c.addr ∧ t.wayPredictIndex = none := by
  have hfind := hs.findRegion_of_untracked hu
  obtain ⟨hvpn, hidx⟩ := wayPredict_findRegion s (vpnOf c.addr)
  rw [operate_of_findRegion_none hfind, getLruRegion_congr (regions_findRegion s _)]
  refine ⟨?_, fun j hj => ?_, hvpn, hidx.trans hfind⟩
  · rw [getElem_allocateRegion, if_pos rfl, regionLru_findRegion]
  · rw [getElem_allocateRegion, if_neg (Ne.symm hj), regions_findRegion]

theorem operate_operate_untracked {s : VaAmpmLite} (hs : s.PredictOk)
    (hlru : ∀ j : Fin L2C_VA_AMPM_LITE_REGION_COUNT, (s.regions[j]).lru.toNat < s.regionLru.toNat)
    (c₁ c₂ : OperateCall) (hpage : vpnOf c₂.addr = vpnOf c₁.addr)
    (hu : s.searchRegions (vpnOf c₁.addr) = none) :
    let u := ((s.l2cPrefetcherOperate c₁).1.l2cPrefetcherOperate c₂).1
    ∃ i j : Fin L2C_VA_AMPM_LITE_REGION_COUNT, i ≠ j ∧ u.regions[i].vpn = vpnOf c₁.addr ∧
      u.regions[j].vpn = vpnOf c₁.addr ∧
        ∀ k : Fin L2C_VA_AMPM_LITE_REGION_COUNT, u.regions[k].vpn = vpnOf c₁.addr → u.regions[k].accessMap = 0 := by
  obtain ⟨hr, hother, hvpn, hidx⟩ := operate_untracked hs hu
  generalize (s.l2cPrefetcherOperate c₁).1 = t at hr hother hvpn hidx ⊢
  -- the second lookup answers from the remembered miss
  have hmiss : t.findRegion (vpnOf c₂.addr) = (t, none) := by
    rw [findRegion_of_eq (hvpn.trans hpage.symm), hidx]
  have hop : t.l2cPrefetcherOperate c₂ =
      (t.allocateRegion t.getLruRegion (vpnOf c₁.addr), []) := by
    rw [operate_of_findRegion_none (by rw [hmiss]), hmiss, hpage]
  -- the region just allocated has the greatest `lru`, so the LRU region is another one
  have hne : t.getLruRegion ≠ s.getLruRegion := by
    intro heq
    obtain ⟨j, hj⟩ : ∃ j : Fin L2C_VA_AMPM_LITE_REGION_COUNT, j ≠ s.getLruRegion := by
      by_cases h0 : s.getLruRegion = ⟨0, by decide⟩
      · exact ⟨⟨1, by decide⟩, by rw [h0]; decide⟩
      · exact ⟨⟨0, by decide⟩, Ne.symm h0⟩
    have hle := lru_getLruRegion_le t j
    simp only [heq, hr, hother j hj] at hle
    exact absurd (hlru j) (by simpa using hle)
  rw [hop]
  refine ⟨s.getLruRegion, t.getLruRegion, hne.symm, ?_, ?_, fun k hk => ?_⟩
  · rw [getElem_allocateRegion, if_neg hne, hr]
  · rw [getElem_allocateRegion, if_pos rfl]
  · rw [getElem_allocateRegion] at hk ⊢
    split
    · rfl
    · next hk' =>
      rw [if_neg hk'] at hk
      by_cases hks : k = s.getLruRegion
      · rw [hks, hr]
      · rw [hother k hks] at hk ⊢
        exact absurd hk (searchRegions_eq_none_iff.mp hu k)

end VaAmpmLite

/-! ### Two accesses to one page -/

def staleMissTrace : List VaAmpmLite.OperateCall :=
  [⟨0x1000, 0, 32, fun _ => true⟩, ⟨0x1040, 0, 32, fun _ => true⟩]

theorem run_staleMissTrace (s : VaAmpmLite) :
    (s.run (staleMissTrace.take 1)).1 = (s.l2cPrefetcherOperate ⟨0x1000, 0, 32, fun _ => true⟩).1 ∧
      (s.run staleMissTrace).1 = ((s.l2cPrefetcherOperate ⟨0x1000, 0, 32, fun _ => true⟩).1.l2cPrefetcherOperate
        ⟨0x1040, 0, 32, fun _ => true⟩).1 := by
  simp only [staleMissTrace, List.take_succ_cons, List.take_zero, VaAmpmLite.run_cons,
    VaAmpmLite.run_nil, and_self]

/-- After the first access, the search finds region `0` for page `1` while the lookup still
misses; after the second, page `1` has two regions, and neither records an access. -/
theorem vaAmpm_staleMissAllocatesTwice :
    ((VaAmpmLite.start.run (staleMissTrace.take 1)).1.findRegion 1).2 = none ∧
      (VaAmpmLite.start.run (staleMissTrace.take 1)).1.searchRegions 1 = some ⟨0, by decide⟩ ∧
      ∃ i j : Fin L2C_VA_AMPM_LITE_REGION_COUNT, i ≠ j ∧
        (VaAmpmLite.start.run staleMissTrace).1.regions[i].vpn = 1 ∧
        (VaAmpmLite.start.run staleMissTrace).1.regions[j].vpn = 1 ∧
        ∀ k : Fin L2C_VA_AMPM_LITE_REGION_COUNT,
          (VaAmpmLite.start.run staleMissTrace).1.regions[k].vpn = 1 →
            (VaAmpmLite.start.run staleMissTrace).1.regions[k].accessMap = 0 := by
  have hpage₁ : VaAmpmLite.vpnOf 0x1000 = 1 := by decide
  have hpage₂ : VaAmpmLite.vpnOf 0x1040 = 1 := by decide
  have hu : VaAmpmLite.start.searchRegions (VaAmpmLite.vpnOf 0x1000) = none := by
    rw [hpage₁]
    exact VaAmpmLite.searchRegions_start (by decide)
  obtain ⟨hr, -, hvpn, hidx⟩ :=
    VaAmpmLite.operate_untracked VaAmpmLite.predictOk_start (c := ⟨0x1000, 0, 32, fun _ => true⟩) hu
  simp only [VaAmpmLite.getLruRegion_start] at hr
  -- the trace read from a state left abstract, so that the kernel never runs initialization
  rw [(run_staleMissTrace _).1, (run_staleMissTrace _).2]
  refine ⟨?_, ?_, ?_⟩
  · -- the pair still remembers the miss of page `1`
    rw [VaAmpmLite.findRegion_of_eq (hvpn.trans hpage₁), hidx]
  · -- while region `0` now holds page `1`
    exact VaAmpmLite.searchRegions_of_first (by rw [hr]; exact hpage₁)
      fun j hj => absurd hj (Nat.not_lt_zero _)
  · have h := VaAmpmLite.operate_operate_untracked VaAmpmLite.predictOk_start
      VaAmpmLite.lru_start_lt ⟨0x1000, 0, 32, fun _ => true⟩ ⟨0x1040, 0, 32, fun _ => true⟩
      (hpage₂.trans hpage₁.symm) hu
    simp only [hpage₁] at h
    exact h

end MindPalace.ChampSim
