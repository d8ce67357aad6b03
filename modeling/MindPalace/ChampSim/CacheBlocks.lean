import MindPalace.ChampSim.Cache

/-! # Copies of a block

Neither `handle_fill` nor `handle_writeback` looks for the block in the set before it fills, so
a writeback that arrives while a read miss is in flight leaves two copies of the block.
-/

namespace MindPalace.ChampSim

namespace Cache

variable (cfg : CacheConfig)

/-- The valid blocks of a set that hold the block of `address`. -/
def copies (c : Cache) (set address : Nat) : Nat :=
  ((setBlocks cfg c set).filter (BLOCK.eqAddr address cfg.OFFSET_BITS)).length

end Cache

/-- A cache shared by two upper levels (`smallCache 2 2`). A load for block 0x1000 misses; while
the miss is in flight the other upper level writes the block back, and `handle_writeback`,
finding no copy, fills it into way 0. The load's data then returns, and `handle_fill` fills the
block again, into the invalid way 1. -/
def fillRaceRun : List CacheOp :=
  [.addRq { type := LOAD, fillLevel := 1, address := 0x1000, toReturn := [10] },
   .operate, .operate,
   .addWq { type := WRITEBACK, fillLevel := 1, address := 0x1000, data := 7 },
   .operate, .operate,
   .returnData { address := 0x1000, data := 5 }, .tick, .operate]

/-- The set then holds two valid copies of the block; `invalidate_entry` clears the first,
with the written-back data, and leaves the second valid, with the data the load read. -/
theorem fillRace_two_copies :
    ∃ c, (Cache.new (smallCache 2 2) roomyLower).run (smallCache 2 2) fillRaceRun = some c ∧
      Cache.copies (smallCache 2 2) c 0 0x1000 = 2 ∧
      (Cache.setBlocks (smallCache 2 2) (Cache.invalidateEntry (smallCache 2 2) c 0x1000).1 0).map
        (fun b => (b.valid, b.data)) = [(false, 7), (true, 5)] :=
  Cache.exists_eq_some_of_any (by decide +kernel)

end MindPalace.ChampSim
