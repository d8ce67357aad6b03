import MindPalace.ChampSim.ReplacementRrip

/-! # The drrip replacement policy

`replacement/drrip/drrip.cc` duels BIP and SRRIP over each core's slice of `rand_sets`. Only the
first two positions of a slice lead; a miss into a sampled set at a later position writes no RRPV,
so a block it fills keeps the initial `2 ^ 31 - 1` of `lru`, far above `maxRRPV`, and a set full of
such blocks makes `find_victim` age it `2 ^ 31 + 4` rounds.
-/

namespace MindPalace.ChampSim

namespace Drrip

def NUM_POLICY : Nat := 2

def SDM_SIZE : Nat := 32

def BIP_MAX : UInt32 := 32

def PSEL_MAX : UInt32 := ((1 : UInt32) <<< 10) - 1

def PSEL_THRS : UInt32 := PSEL_MAX / 2

def TOTAL_SDM_SETS (cfg : ReplConfig) : Nat :=
  cfg.NUM_CPUS * NUM_POLICY * SDM_SIZE

/-- The policy's tables for one cache: `bip_counter[this]`, `rand_sets[this]` and
`PSEL[(this, cpu)]` by core, value-initialised as the `std::map`s create them. -/
structure DrripState where
  bipCounter : UInt32 := 0
  randSets : List Nat := []
  psel : Nat → UInt32 := fun _ => 0

/-- `initialize_replacement`: draw the sampled sets, and nothing else. -/
def initializeReplacement (cfg : ReplConfig) (s : ReplState DrripState) :
    Option (ReplState DrripState) :=
  (SampledSets.sample cfg (TOTAL_SDM_SETS cfg) SampledSets.firstSeed s.repl.randSets).map
    fun sets => { s with repl := { s.repl with randSets := sets } }

/-- The sampled sets of core `cpu`, from `std::next(std::begin(rand_sets[this]),
cpu * NUM_POLICY * SDM_SIZE)` for `NUM_POLICY * SDM_SIZE` sets. -/
def leaders (st : DrripState) (cpu : Nat) : List Nat :=
  (st.randSets.drop (cpu * NUM_POLICY * SDM_SIZE)).take (NUM_POLICY * SDM_SIZE)

/-- A BIP insertion: `maxRRPV`, or `maxRRPV - 1` each time `bip_counter` comes round to `0`. -/
def bipInsert (st : DrripState) : DrripState × UInt32 :=
  let counter := st.bipCounter + 1
  let counter := if counter = BIP_MAX then 0 else counter
  ({ st with bipCounter := counter }, if counter = 0 then maxRRPV - 1 else maxRRPV)

def insert (s : ReplState DrripState) (st : DrripState) (set way : Nat) (v : UInt32) :
    ReplState DrripState :=
  Rrip.writeRrpv { s with repl := st } set way v

def updateReplacementState (s : ReplState DrripState) (cpu set way : Nat) (type : UInt8)
    (hit : Bool) : ReplState DrripState :=
  if type = WRITEBACK then insert s s.repl set way (maxRRPV - 1)
  else if hit then insert s s.repl set way 0
  else
    let slice := leaders s.repl cpu
    let leader := slice.idxOf set
    let psel := s.repl.psel cpu
    if leader = slice.length then
      -- a follower set
      if psel > PSEL_THRS then
        let (st, v) := bipInsert s.repl
        insert s st set way v
      else insert s s.repl set way (maxRRPV - 1)
    else if leader = 0 then
      -- leader 0: BIP
      let st := if psel > 0 then { s.repl with psel := Function.update s.repl.psel cpu (psel - 1) }
        else s.repl
      let (st, v) := bipInsert st
      insert s st set way v
    else if leader = 1 then
      -- leader 1: SRRIP
      let st := if psel < PSEL_MAX then { s.repl with psel := Function.update s.repl.psel cpu (psel + 1) }
        else s.repl
      insert s st set way (maxRRPV - 1)
    else s

def policy : ReplacementPolicy DrripState where
  initializeReplacement := initializeReplacement
  findVictim cfg s _ set _ _ _ := Rrip.findVictim cfg s set
  updateReplacementState _ s cpu set way _ _ _ type hit := updateReplacementState s cpu set way type hit

theorem block_initializeReplacement {cfg : ReplConfig} {s s' : ReplState DrripState}
    (h : initializeReplacement cfg s = some s') : s'.block = s.block := by
  obtain ⟨sets, -, rfl⟩ := Option.map_eq_some_iff.mp h
  rfl

end Drrip

/-- The last-level cache of `champsim_config.json`, 2048 sets of 16 ways, on one core. -/
def llc : ReplConfig where
  NUM_SET := 2048
  NUM_WAY := 16
  NUM_CPUS := 1

def thirdSetFills : List ReplAccess :=
  List.replicate 16 (.fill 0 71 0 0 LOAD)

/-- Set `71`, the third sampled set of core `0`, filled by loads: all its blocks are valid
with an RRPV of `2 ^ 31 - 1`, and `find_victim` finds no victim within `maxRRPV` rounds. -/
theorem drrip_thirdSet_outOfRange :
    (Drrip.policy.runFromStart llc {} thirdSetFills).map (fun s =>
      ((s.setBlocks llc 71).map fun b => (b.valid, b.lru),
        (Rrip.agingLoop llc 71 maxRRPV.toNat s).isSome)) =
      some (List.replicate 16 (true, 0x7FFFFFFF), false) := by
  decide +kernel

def sampledSetFills : List ReplAccess :=
  [.fill 0 15 0 0 LOAD, .fill 0 47 0 0 LOAD, .fill 0 71 0 0 LOAD]

/-- The first three sampled sets of core `0` are `15`, `47` and `71`. The load into the BIP
leader `15` inserts at `maxRRPV` and counts one BIP insertion, the load into the SRRIP leader
`47` inserts at `maxRRPV - 1` and raises PSEL to `1`, and the load into `71` inserts at
neither and leaves PSEL and `bip_counter` as they were. -/
theorem drrip_thirdSet_noRole :
    (Drrip.policy.start llc {}).map (fun s => (Drrip.leaders s.repl 0).take 3) =
        some [15, 47, 71] ∧
      (Drrip.policy.runFromStart llc {} sampledSetFills).map (fun s =>
        ((s.block 15 0).lru, (s.block 47 0).lru, (s.block 71 0).lru, s.repl.psel 0,
          s.repl.bipCounter)) = some (3, 2, 0x7FFFFFFF, 1, 1) := by
  decide +kernel

end MindPalace.ChampSim
