import MindPalace.ChampSim.Cache

/-! # Merging requests

`packet_dep_merge` keeps the requesters of both packets, but a demand that finds a prefetch in
the MSHR then overwrites the entry with itself, and the prefetch's requesters are lost.
-/

namespace MindPalace.ChampSim

inductive DepList
  | lqIndex
  | sqIndex
  | instr
  | toReturn
  deriving DecidableEq, Repr

/-- `lq_index_depend_on_me`, `sq_index_depend_on_me`, `instr_depend_on_me` and `to_return`. -/
def PACKET.deps (p : PACKET) : DepList → List Nat
  | .lqIndex => p.lqIndexDependOnMe
  | .sqIndex => p.sqIndexDependOnMe
  | .instr => p.instrDependOnMe
  | .toReturn => p.toReturn

@[simp] theorem PACKET.mem_deps_mergeDeps {x : Nat} (dest src : PACKET) (k : DepList) :
    x ∈ (dest.mergeDeps src).deps k ↔ x ∈ dest.deps k ∨ x ∈ src.deps k := by
  cases k <;> exact mem_packetDepMerge _ _

namespace Cache

/-- A demand merged into the MSHR entry of a prefetch in flight replaces it. -/
def Promotes (handlePkt entry : PACKET) : Prop :=
  entry.type = PREFETCH ∧ handlePkt.type ≠ PREFETCH

instance (handlePkt entry : PACKET) : Decidable (Promotes handlePkt entry) :=
  inferInstanceAs (Decidable (_ ∧ _))

end Cache

/-- A prefetch for block 0x1000 from requester 1 and, once it is in flight, a load for the
same block from requester 3, at an L2 (`smallCache 2 2`). -/
def promotionRun : List CacheOp :=
  [.addPq { type := PREFETCH, fillLevel := 1, address := 0x1000, toReturn := [1] },
   .operate, .operate,
   .addRq { type := LOAD, fillLevel := 1, address := 0x1000, toReturn := [3] },
   .operate, .operate]

theorem promotion_drops_requester :
    (∃ c r, (Cache.new (smallCache 2 2) roomyLower).addPq (smallCache 2 2)
        { type := PREFETCH, fillLevel := 1, address := 0x1000, toReturn := [1] } = some (c, r) ∧
        r ≠ -2) ∧
    (∃ c, (Cache.new (smallCache 2 2) roomyLower).run (smallCache 2 2) promotionRun = some c ∧
      c.MSHR.map (·.toReturn) = [[3]] ∧ (∀ p ∈ c.RQ.elems ++ c.PQ.elems, 1 ∉ p.toReturn)) ∧
    (∃ c, (Cache.new (smallCache 2 2) roomyLower).run (smallCache 2 2)
        (promotionRun ++ [.returnData { address := 0x1000, data := 42 }, .tick, .operate]) =
          some c ∧
      c.MSHR = [] ∧ c.returned.map Prod.fst = [3]) := by
  refine ⟨?_, ?_, ?_⟩
  · exact ⟨_, _, rfl, by decide⟩
  · exact Cache.exists_eq_some_of_any (by decide +kernel)
  · exact Cache.exists_eq_some_of_any (by decide +kernel)

end MindPalace.ChampSim
