import MindPalace.ChampSim.ReplacementRrip

/-! # The ship replacement policy

`replacement/ship/ship.cc` shadows its sampled sets with a sampler that trains the SHCT counters
of instruction addresses. Every update of a block writes an in-range RRPV, so ship keeps the
RRPVs of the valid blocks in range and its `find_victim` returns within `maxRRPV` rounds.
-/

namespace MindPalace.ChampSim

namespace Ship

def SHCT_PRIME : Nat := 16381

def SHCT_MAX : UInt32 := 7

def SAMPLER_SET (cfg : ReplConfig) : Nat :=
  256 * cfg.NUM_CPUS

/-- An entry of the sampler, `SAMPLER_class`, with its default member initialisers; its
`cl_addr` is never read or written. -/
structure SamplerEntry where
  valid : Bool := false
  type : UInt8 := 0
  used : UInt8 := 0
  address : Nat := 0
  ip : Nat := 0
  lru : UInt32 := 9999999
  deriving DecidableEq, Repr

instance : LruEntry SamplerEntry where
  valid e := e.valid
  lru e := e.lru
  setLru e v := { e with lru := v }
  valid_setLru _ _ := rfl
  lru_setLru _ _ := rfl

/-- `eq_addr<SAMPLER_class>(val, shamt)`: a valid entry of the same block. -/
def SamplerEntry.eqAddr (val shamt : Nat) (e : SamplerEntry) : Bool :=
  e.valid && (e.address >>> shamt == val >>> shamt)

/-- The policy's tables for one cache: `rand_sets[this]`, `sampler[this]`, and
`SHCT[(this, cpu)]` by core, value-initialised as the `std::map` creates it. -/
structure ShipState where
  randSets : List Nat := []
  sampler : List SamplerEntry := []
  shct : Nat → Nat → UInt32 := fun _ _ => 0

def ShipState.setShct (st : ShipState) (cpu idx : Nat) (v : UInt32) : ShipState :=
  { st with shct := Function.update st.shct cpu (Function.update (st.shct cpu) idx v) }

/-- `initialize_replacement`: draw the sampled sets and create `SAMPLER_SET * NUM_WAY` default
sampler entries. -/
def initializeReplacement (cfg : ReplConfig) (s : ReplState ShipState) :
    Option (ReplState ShipState) :=
  (SampledSets.sample cfg (SAMPLER_SET cfg) SampledSets.firstSeed s.repl.randSets).map fun sets =>
    { s with
      repl := { s.repl with
        randSets := sets
        sampler := List.replicate (SAMPLER_SET cfg * cfg.NUM_WAY) {} } }

/-- The sampler's side of an update for the sampled set at position `p`: its `NUM_WAY` entries
from `sampler[this][p]` on. An entry of the block is marked used and lowers the SHCT counter
of its instruction address; otherwise the entry `lru_comparator` picks takes the block,
raising the counter of its own instruction address first if it was used. Then every entry of
the set ages and the touched one goes to `0`. On a cache without ways `getD` stands for the
dereference of an empty range. -/
def updateSampler (cfg : ReplConfig) (st : ShipState) (cpu p fullAddr ip : Nat) (type : UInt8) :
    ShipState :=
  let ways := (st.sampler.drop p).take cfg.NUM_WAY
  let found := ways.findIdx (SamplerEntry.eqAddr fullAddr (8 + lg2 cfg.NUM_WAY))
  let (st, ways, way) :=
    if found = ways.length then
      let way := StdAlgorithm.maxElement LruEntry.lruComparator ways
      let e := ways.getD way {}
      let idx := e.ip % SHCT_PRIME
      let st :=
        if e.used ≠ 0 then
          if st.shct cpu idx < SHCT_MAX then st.setShct cpu idx (st.shct cpu idx + 1) else st
        else st
      (st, ways.modify way fun e =>
        { e with valid := true, address := fullAddr, ip := ip, type := type, used := 0 }, way)
    else
      let e := ways.getD found {}
      let idx := e.ip % SHCT_PRIME
      let st := if st.shct cpu idx > 0 then st.setShct cpu idx (st.shct cpu idx - 1) else st
      (st, ways.modify found fun e => { e with type := type, used := 1 }, found)
  let ways := (ways.map fun e => { e with lru := e.lru + 1 }).modify way fun e => { e with lru := 0 }
  { st with sampler := st.sampler.take p ++ ways ++ st.sampler.drop (p + cfg.NUM_WAY) }

def updateReplacementState (cfg : ReplConfig) (s : ReplState ShipState) (cpu set way fullAddr ip : Nat)
    (type : UInt8) (hit : Bool) : ReplState ShipState :=
  if type = WRITEBACK then
    if hit then s else Rrip.writeRrpv s set way (maxRRPV - 1)
  else
    let p := s.repl.randSets.idxOf set
    let st := if p = s.repl.randSets.length then s.repl
      else updateSampler cfg s.repl cpu p fullAddr ip type
    if hit then Rrip.writeRrpv { s with repl := st } set way 0
    else
      -- the SHiP prediction, from the counter the sampler has just updated
      Rrip.writeRrpv { s with repl := st } set way
        (if st.shct cpu (ip % SHCT_PRIME) = SHCT_MAX then maxRRPV else maxRRPV - 1)

def policy : ReplacementPolicy ShipState where
  initializeReplacement := initializeReplacement
  findVictim cfg s _ set _ _ _ := Rrip.findVictim cfg s set
  updateReplacementState cfg s cpu set way fullAddr ip _ type hit :=
    updateReplacementState cfg s cpu set way fullAddr ip type hit

variable {cfg : ReplConfig} {s : ReplState ShipState}

theorem block_initializeReplacement {s' : ReplState ShipState}
    (h : initializeReplacement cfg s = some s') : s'.block = s.block := by
  obtain ⟨sets, -, rfl⟩ := Option.map_eq_some_iff.mp h
  rfl

theorem valid_updateReplacementState (cpu set way fullAddr ip : Nat) (type : UInt8) (hit : Bool)
    (set' way' : Nat) :
    ((updateReplacementState cfg s cpu set way fullAddr ip type hit).block set' way').valid =
      (s.block set' way').valid := by
  unfold updateReplacementState
  split_ifs <;> simp

theorem block_updateReplacementState_of_ne {cpu set way fullAddr ip : Nat} {type : UInt8}
    {hit : Bool} {set' way' : Nat} (h : ¬ (set' = set ∧ way' = way)) :
    (updateReplacementState cfg s cpu set way fullAddr ip type hit).block set' way' =
      s.block set' way' := by
  unfold updateReplacementState
  split_ifs <;> simp [Rrip.block_writeRrpv_of_ne h]

theorem prediction_le (c : Prop) [Decidable c] : (if c then maxRRPV else maxRRPV - 1) ≤ maxRRPV := by
  split <;> decide

theorem lru_updateReplacementState {cpu set way fullAddr ip : Nat} {type : UInt8} {hit : Bool}
    (hw : hit = false ∨ (s.block set way).lru ≤ maxRRPV) :
    ((updateReplacementState cfg s cpu set way fullAddr ip type hit).block set way).lru ≤ maxRRPV := by
  unfold updateReplacementState
  by_cases hwb : type = WRITEBACK
  · cases hit with
    | false =>
      simp only [hwb, if_true, Bool.false_eq_true, if_false, Rrip.lru_writeRrpv_self]
      decide
    | true => simpa [hwb] using hw
  · dsimp only
    cases hit with
    | false =>
      simp only [hwb, if_false, Bool.false_eq_true, Rrip.lru_writeRrpv_self]
      exact prediction_le _
    | true =>
      simp only [hwb, if_false, if_true, Rrip.lru_writeRrpv_self]
      decide

theorem keepsRange (cfg : ReplConfig) : Rrip.KeepsRange cfg policy where
  start_inRange s s' hs h := by
    intro set hset way hway hv
    have hblock := block_initializeReplacement h
    rw [hblock] at hv ⊢
    exact hs set hset way hway hv
  findVictim_eq _ _ _ _ _ _ := rfl
  valid_update _ _ _ _ _ _ _ _ _ _ _ := valid_updateReplacementState _ _ _ _ _ _ _ _ _
  block_update _ _ _ _ _ _ _ _ _ _ _ h := block_updateReplacementState_of_ne h
  lru_update _ _ _ _ _ _ _ _ _ hw := lru_updateReplacementState hw

end Ship

/-- Along any calls of the cache from its start, srrip and ship age a full set at most
`maxRRPV` times before `find_victim` finds a block at `maxRRPV`, and so give a way to every
fill the cache makes. -/
theorem rrip_victim_within_maxRRPV {cfg : ReplConfig} (hway : 0 < cfg.NUM_WAY) :
    (∀ es s, Srrip.policy.runFromStart cfg () es = some s →
      Rrip.VictimWithinMaxRrpv cfg Srrip.policy s ∧ Rrip.FillsSucceed cfg Srrip.policy s) ∧
    ∀ repl es s, Ship.policy.runFromStart cfg repl es = some s →
      Rrip.VictimWithinMaxRrpv cfg Ship.policy s ∧ Rrip.FillsSucceed cfg Ship.policy s :=
  ⟨fun es _ h => (Srrip.keepsRange cfg).fillsSucceed_runFromStart hway () es h,
    fun repl es _ h => (Ship.keepsRange cfg).fillsSucceed_runFromStart hway repl es h⟩

def fourSets : ReplConfig where
  NUM_SET := 4
  NUM_WAY := 2
  NUM_CPUS := 0

def fillSetOne : List ReplAccess :=
  [.fill 0 1 64 0 LOAD, .fill 0 1 128 0 LOAD, .hit 0 1 0 64 0 LOAD]

/-- After the hit srrip holds RRPVs `0` and `maxRRPV - 1` in the full set, so its victim
takes one round of aging. -/
example : (Srrip.policy.runFromStart fourSets () fillSetOne).map
    (fun s => ((s.block 1 0).lru, (s.block 1 1).lru)) = some (0, 2) := by decide +kernel

theorem rrip_victim_within_fillSetOne :
    (∃ s, Srrip.policy.runFromStart fourSets () fillSetOne = some s ∧
      ReplacementPolicy.firstInvalid fourSets s 1 = fourSets.NUM_WAY ∧
      Rrip.VictimWithinMaxRrpv fourSets Srrip.policy s ∧ Rrip.FillsSucceed fourSets Srrip.policy s) ∧
    ∃ s, Ship.policy.runFromStart fourSets {} fillSetOne = some s ∧
      ReplacementPolicy.firstInvalid fourSets s 1 = fourSets.NUM_WAY ∧
      Rrip.VictimWithinMaxRrpv fourSets Ship.policy s ∧ Rrip.FillsSucceed fourSets Ship.policy s := by
  have h := @rrip_victim_within_maxRRPV fourSets (by decide)
  obtain ⟨s, hs⟩ := Option.isSome_iff_exists.mp
    (show (Srrip.policy.runFromStart fourSets () fillSetOne).isSome = true by decide +kernel)
  obtain ⟨t, ht⟩ := Option.isSome_iff_exists.mp
    (show (Ship.policy.runFromStart fourSets {} fillSetOne).isSome = true by decide +kernel)
  have hfs : (Srrip.policy.runFromStart fourSets () fillSetOne).map
      (fun s => ReplacementPolicy.firstInvalid fourSets s 1) = some 2 := by decide +kernel
  have hft : (Ship.policy.runFromStart fourSets {} fillSetOne).map
      (fun s => ReplacementPolicy.firstInvalid fourSets s 1) = some 2 := by decide +kernel
  rw [hs, Option.map_some, Option.some.injEq] at hfs
  rw [ht, Option.map_some, Option.some.injEq] at hft
  exact ⟨⟨s, hs, hfs, h.1 _ _ hs⟩, t, ht, hft, h.2 _ _ _ ht⟩

end MindPalace.ChampSim
