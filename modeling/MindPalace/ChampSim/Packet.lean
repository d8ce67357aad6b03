import MindPalace.Lib.StdAlgorithm
import MindPalace.ChampSim.VirtualMemory

/-! # Packets and blocks

`PACKET` (`inc/block.h`) and `BLOCK` (`inc/memory_class.h`) with the fields the cache uses.
Requesters and dependents are numbers, and `packet_dep_merge` merges two sorted lists of them
without losing one.
-/

namespace MindPalace.ChampSim

def LOAD : UInt8 := 0
def RFO : UInt8 := 1
def PREFETCH : UInt8 := 2
def WRITEBACK : UInt8 := 3
def TRANSLATION : UInt8 := 4

/-- `LOG2_BLOCK_SIZE` for the configured `block_size` of `64`. -/
def LOG2_BLOCK_SIZE : Nat := 6

/-- `std::numeric_limits<uint64_t>::max()`, the `event_cycle` of a request not yet served. -/
def UINT64_MAX : Nat := 2 ^ 64 - 1

/-- A `PACKET`, without the prefetcher's `pf_metadata`, `asid` and `init_translation_level`,
which no modelled function reads. -/
structure PACKET where
  type : UInt8 := 0
  fillLevel : Nat := 0
  pfOriginLevel : Nat := 0
  cpu : Nat := 0
  address : Nat := 0
  vAddress : Nat := 0
  data : Nat := 0
  instrId : Nat := 0
  ip : Nat := 0
  eventCycle : Nat := UINT64_MAX
  cycleEnqueued : Nat := 0
  lqIndexDependOnMe : List Nat := []
  sqIndexDependOnMe : List Nat := []
  instrDependOnMe : List Nat := []
  toReturn : List Nat := []
  translationLevel : Nat := 0
  scheduled : Bool := false
  deriving DecidableEq, Repr

/-- A `BLOCK`, without `tag` and the replacement state `lru`. -/
structure BLOCK where
  valid : Bool := false
  prefetch : Bool := false
  dirty : Bool := false
  address : Nat := 0
  vAddress : Nat := 0
  data : Nat := 0
  ip : Nat := 0
  cpu : Nat := 0
  instrId : Nat := 0
  deriving DecidableEq, Repr

namespace PACKET

def isValid (p : PACKET) : Bool :=
  p.address != 0

def eqAddr (val shamt : Nat) (p : PACKET) : Bool :=
  p.isValid && p.address >>> shamt == val >>> shamt

end PACKET

namespace BLOCK

/-- `eq_addr<BLOCK>(val, shamt)`: `is_valid<BLOCK>` is the `valid` bit. -/
def eqAddr (val shamt : Nat) (b : BLOCK) : Bool :=
  b.valid && b.address >>> shamt == val >>> shamt

end BLOCK

/-- `packet_dep_merge(dest, src)`: append `src`, `std::inplace_merge` the two sorted halves,
and `std::unique` the result. -/
def packetDepMerge (dest src : List Nat) : List Nat :=
  (StdAlgorithm.inplaceMerge (fun a b => decide (a ≤ b)) dest src).destutter (· ≠ ·)

@[simp] theorem mem_packetDepMerge {x : Nat} (dest src : List Nat) :
    x ∈ packetDepMerge dest src ↔ x ∈ dest ∨ x ∈ src := by
  rw [packetDepMerge, StdAlgorithm.mem_destutter_ne, StdAlgorithm.mem_inplaceMerge]

/-- The four requester lists of `src` merged into those of `dest`, as `add_rq` and
`readlike_miss` do. -/
def PACKET.mergeDeps (dest src : PACKET) : PACKET :=
  { dest with
    lqIndexDependOnMe := packetDepMerge dest.lqIndexDependOnMe src.lqIndexDependOnMe
    sqIndexDependOnMe := packetDepMerge dest.sqIndexDependOnMe src.sqIndexDependOnMe
    instrDependOnMe := packetDepMerge dest.instrDependOnMe src.instrDependOnMe
    toReturn := packetDepMerge dest.toReturn src.toReturn }

@[simp] theorem PACKET.address_mergeDeps (dest src : PACKET) :
    (dest.mergeDeps src).address = dest.address := rfl

@[simp] theorem PACKET.mem_toReturn_mergeDeps {x : Nat} (dest src : PACKET) :
    x ∈ (dest.mergeDeps src).toReturn ↔ x ∈ dest.toReturn ∨ x ∈ src.toReturn :=
  mem_packetDepMerge _ _

end MindPalace.ChampSim
