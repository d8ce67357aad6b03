import MindPalace.Lib.Lcg
import MindPalace.ChampSim.ReplacementDrrip
import MindPalace.ChampSim.ReplacementShip

/-! # The sampled sets of drrip and ship

Both policies draw their sampled sets with one loop (`SampledSets.sample`): draw from a 64-bit
linear congruential generator, draw again while `std::lower_bound` finds the set, insert it there.
Since the generator's low bits run through every value (`Lcg.exists_iterate_toNat_mod`), for
every power of two `NUM_SET` large enough the loop ends with distinct sets in increasing order.
-/

namespace MindPalace.ChampSim

namespace SampledSets

open Lcg
open scoped UInt64.CommRing

theorem nextSeed_eq : nextSeed = affine 1103515245 12345 := by
  funext seed
  exact congrArg (· + 12345) (mul_comm seed 1103515245)

theorem draw_eq {cfg : ReplConfig} {m : Nat} (hset : cfg.NUM_SET = 2 ^ m) (seed : UInt64) :
    draw cfg seed = seed.toNat % 2 ^ (16 + m) / 2 ^ 16 := by
  rw [draw, hset, UInt64.toNat_div, pow_add, Nat.mod_mul_right_div_self]
  rfl

variable {cfg : ReplConfig} {m : Nat}

theorem exists_draw_eq (hset : cfg.NUM_SET = 2 ^ m) (hm : m ≤ 48) (seed : UInt64) {v : Nat}
    (hv : v < 2 ^ m) : ∃ k < 2 ^ (16 + m), draw cfg (nextSeed^[k] seed) = v := by
  have hr : v * 2 ^ 16 < 2 ^ (15 + m + 1) := by
    rw [show 15 + m + 1 = m + 16 by omega, pow_add]
    exact Nat.mul_lt_mul_of_pos_right hv (Nat.two_pow_pos 16)
  obtain ⟨k, hk, hbits⟩ :=
    exists_iterate_toNat_mod (a := 1103515245) (c := 12345) (by decide) (by decide)
      (show 15 + m < 64 by omega) seed hr
  have hexp : 15 + m + 1 = 16 + m := by omega
  rw [hexp] at hk hbits
  refine ⟨k, hk, ?_⟩
  rw [draw_eq hset, nextSeed_eq, hbits, Nat.mul_div_cancel _ (Nat.two_pow_pos 16)]

theorem exists_free_draw (hset : cfg.NUM_SET = 2 ^ m) (hm : m ≤ 48) {sets : List Nat}
    (hlen : sets.length < cfg.NUM_SET) (seed : UInt64) :
    ∃ k < 2 ^ (16 + m), draw cfg (nextSeed^[k] seed) ∉ sets := by
  have hfree : ∃ v < 2 ^ m, v ∉ sets := by
    by_contra hnone
    have hall : ∀ v < 2 ^ m, v ∈ sets := fun v hv => by_contra fun h => hnone ⟨v, hv, h⟩
    have hsub : (List.range (2 ^ m)).Subperm sets :=
      List.nodup_range.subperm fun v hv => hall v (List.mem_range.mp hv)
    have hle := hsub.length_le
    rw [List.length_range, ← hset] at hle
    omega
  obtain ⟨v, hv, hnot⟩ := hfree
  obtain ⟨k, hk, hdraw⟩ := exists_draw_eq hset hm seed hv
  exact ⟨k, hk, hdraw ▸ hnot⟩

/-! ### The sorted vector -/

theorem taken_iff_mem {val : Nat} :
    ∀ {sets : List Nat}, sets.Pairwise (· < ·) → (taken sets val = true ↔ val ∈ sets)
  | [], _ => by simp [taken]
  | b :: l, hs => by
    have hl := (List.pairwise_cons.mp hs).2
    have hb := (List.pairwise_cons.mp hs).1
    by_cases hvb : val ≤ b
    · -- `lower_bound` stops at `b`, and the rest of the vector is above `val`
      have hpos : lowerBound (b :: l) val = 0 := by
        rw [lowerBound, List.findIdx_cons]
        simp [hvb]
      have hnot : val ∉ l := fun hv => absurd (hb val hv) (by omega)
      simp only [taken, hpos, List.getElem?_cons_zero, List.mem_cons, hnot, or_false]
      simp only [beq_iff_eq, Option.some.injEq]
      exact eq_comm
    · have hpos : lowerBound (b :: l) val = lowerBound l val + 1 := by
        rw [lowerBound, List.findIdx_cons]
        simp [hvb, lowerBound]
      have hne : val ≠ b := by omega
      have htail : taken (b :: l) val = taken l val := by
        simp only [taken, hpos, List.getElem?_cons_succ]
      rw [htail, taken_iff_mem hl, List.mem_cons]
      simp [hne]

theorem insertIdx_lowerBound (val : Nat) :
    ∀ sets : List Nat, sets.insertIdx (lowerBound sets val) val = sets.orderedInsert (· ≤ ·) val
  | [] => rfl
  | b :: l => by
    by_cases hvb : val ≤ b
    · have hpos : lowerBound (b :: l) val = 0 := by
        rw [lowerBound, List.findIdx_cons]
        simp [hvb]
      rw [hpos, List.insertIdx_zero, List.orderedInsert_cons_of_le _ l hvb]
    · have hpos : lowerBound (b :: l) val = lowerBound l val + 1 := by
        rw [lowerBound, List.findIdx_cons]
        simp [hvb, lowerBound]
      rw [hpos, List.insertIdx_succ_cons, insertIdx_lowerBound val l,
        List.orderedInsert_of_not_le _ l hvb]

theorem pairwise_orderedInsert {val : Nat} {sets : List Nat} (hs : sets.Pairwise (· < ·))
    (hval : val ∉ sets) : (sets.orderedInsert (· ≤ ·) val).Pairwise (· < ·) := by
  have hle : (sets.orderedInsert (· ≤ ·) val).Pairwise (· ≤ ·) :=
    (hs.imp le_of_lt).orderedInsert val sets
  have hnodup : (sets.orderedInsert (· ≤ ·) val).Nodup :=
    (List.perm_orderedInsert _ val sets).nodup_iff.mpr
      (List.nodup_cons.mpr ⟨hval, hs.imp ne_of_lt⟩)
  exact (hle.and hnodup).imp fun h => lt_of_le_of_ne h.1 h.2

/-! ### The loops -/

theorem redraw_of_free {sets : List Nat} :
    ∀ (fuel : Nat) (seed : UInt64) (k : Nat), k ≤ fuel →
      taken sets (draw cfg (nextSeed^[k] seed)) = false →
        ∃ seed', redraw cfg sets fuel seed = some seed' ∧ taken sets (draw cfg seed') = false
  | 0, seed, k, hk, hfree => by
    obtain rfl : k = 0 := by omega
    rw [Function.iterate_zero_apply] at hfree
    exact ⟨seed, by simp [redraw, hfree], hfree⟩
  | fuel + 1, seed, k, hk, hfree => by
    cases htaken : taken sets (draw cfg seed) with
    | false => exact ⟨seed, by simp [redraw, htaken], htaken⟩
    | true =>
      -- the current seed draws a taken set, so the free one is further on
      cases k with
      | zero => rw [Function.iterate_zero_apply, htaken] at hfree; cases hfree
      | succ k =>
        rw [Function.iterate_succ_apply] at hfree
        obtain ⟨seed', hredraw, hseed'⟩ := redraw_of_free fuel (nextSeed seed) k (by omega) hfree
        exact ⟨seed', by simp only [redraw, htaken, if_true, hredraw], hseed'⟩

theorem sample_spec (hset : cfg.NUM_SET = 2 ^ m) (hm : m ≤ 48) :
    ∀ (count : Nat) (seed : UInt64) (sets : List Nat), sets.Pairwise (· < ·) →
      (∀ x ∈ sets, x < cfg.NUM_SET) → sets.length + count ≤ cfg.NUM_SET →
        ∃ sets', sample cfg count seed sets = some sets' ∧ sets'.Pairwise (· < ·) ∧
          sets'.length = sets.length + count ∧ ∀ x ∈ sets', x < cfg.NUM_SET
  | 0, _, sets, hs, hrange, _ => ⟨sets, rfl, hs, rfl, hrange⟩
  | count + 1, seed, sets, hs, hrange, hroom => by
    obtain ⟨k, hk, hfree⟩ := exists_free_draw hset hm (show sets.length < cfg.NUM_SET by omega) seed
    have hk64 : k ≤ 2 ^ 64 :=
      (Nat.le_of_lt hk).trans (Nat.pow_le_pow_right (by decide) (by omega))
    obtain ⟨seed', hredraw, hseed'⟩ :=
      redraw_of_free (2 ^ 64) seed k hk64 (by
        rw [Bool.eq_false_iff, ne_eq, taken_iff_mem hs]
        exact hfree)
    -- the set drawn is free, in range, and goes in at its place
    have hnot : draw cfg seed' ∉ sets := fun hmem =>
      absurd ((taken_iff_mem hs).mpr hmem) (by rw [hseed']; decide)
    have hlt : draw cfg seed' < cfg.NUM_SET :=
      Nat.mod_lt _ (by rw [hset]; exact Nat.two_pow_pos m)
    obtain ⟨sets', hsample, hs', hlen', hrange'⟩ :=
      sample_spec hset hm count seed' (sets.orderedInsert (· ≤ ·) (draw cfg seed'))
        (pairwise_orderedInsert hs hnot)
        (fun x hx => by
          rcases (List.mem_orderedInsert _).mp hx with rfl | hx
          · exact hlt
          · exact hrange x hx)
        (by rw [List.orderedInsert_length]; omega)
    refine ⟨sets', ?_, hs', by rw [hlen', List.orderedInsert_length]; omega, hrange'⟩
    simp only [sample, hredraw, Option.bind_some, insertIdx_lowerBound, hsample]

theorem sample_nil_spec (hset : cfg.NUM_SET = 2 ^ m) (hm : m ≤ 48) {count : Nat}
    (hcount : count ≤ cfg.NUM_SET) (seed : UInt64) :
    ∃ sets, sample cfg count seed [] = some sets ∧ sets.SortedLT ∧ sets.Nodup ∧
      sets.length = count ∧ ∀ x ∈ sets, x < cfg.NUM_SET := by
  obtain ⟨sets, hsample, hs, hlen, hrange⟩ :=
    sample_spec hset hm count seed [] List.Pairwise.nil (by simp) (by simpa using hcount)
  exact ⟨sets, hsample, List.sortedLT_iff_pairwise.mpr hs, hs.imp ne_of_lt, by simpa using hlen,
    hrange⟩

end SampledSets

/-- For every power of two `NUM_SET` (below `2^49`, and `NUM_SET` is a `uint32_t`) at least the
number of sets asked for, `initialize_replacement` of a fresh drrip or ship cache ends, and
leaves `rand_sets[this]` strictly increasing, with exactly that many distinct sets, all below
`NUM_SET`. -/
theorem sampledSets_wellFormed (cfg : ReplConfig) (m : Nat) (hset : cfg.NUM_SET = 2 ^ m)
    (hm : m ≤ 48) :
    (Drrip.TOTAL_SDM_SETS cfg ≤ cfg.NUM_SET →
      ∃ s, Drrip.policy.start cfg {} = some s ∧ s.repl.randSets.SortedLT ∧
        s.repl.randSets.Nodup ∧ s.repl.randSets.length = Drrip.TOTAL_SDM_SETS cfg ∧
        ∀ x ∈ s.repl.randSets, x < cfg.NUM_SET) ∧
    (Ship.SAMPLER_SET cfg ≤ cfg.NUM_SET →
      ∃ s, Ship.policy.start cfg {} = some s ∧ s.repl.randSets.SortedLT ∧
        s.repl.randSets.Nodup ∧ s.repl.randSets.length = Ship.SAMPLER_SET cfg ∧
        ∀ x ∈ s.repl.randSets, x < cfg.NUM_SET) := by
  constructor
  · intro hcount
    obtain ⟨sets, hsample, hspec⟩ :=
      SampledSets.sample_nil_spec hset hm hcount SampledSets.firstSeed
    have hstart : Drrip.policy.start cfg {} =
        some { ReplState.init ({} : Drrip.DrripState) with repl := { randSets := sets } } := by
      simp only [ReplacementPolicy.start, Drrip.policy, Drrip.initializeReplacement,
        ReplState.init, hsample, Option.map_some]
    exact ⟨_, hstart, hspec⟩
  · intro hcount
    obtain ⟨sets, hsample, hspec⟩ :=
      SampledSets.sample_nil_spec hset hm hcount SampledSets.firstSeed
    have hstart : Ship.policy.start cfg {} =
        some { ReplState.init ({} : Ship.ShipState) with
          repl := { randSets := sets, sampler := List.replicate (Ship.SAMPLER_SET cfg * cfg.NUM_WAY) {} } } := by
      simp only [ReplacementPolicy.start, Ship.policy, Ship.initializeReplacement,
        ReplState.init, hsample, Option.map_some]
    exact ⟨_, hstart, hspec⟩

/-- A one-core last-level cache of `2048` sets: `64` drrip sets and `256` ship sets. -/
theorem sampledSets_wellFormed_llc :
    (⟨2048, 16, 1⟩ : ReplConfig).NUM_SET = 2 ^ 11 ∧ 11 ≤ 48 ∧
      ((Drrip.TOTAL_SDM_SETS ⟨2048, 16, 1⟩ ≤ (⟨2048, 16, 1⟩ : ReplConfig).NUM_SET →
        ∃ s, Drrip.policy.start ⟨2048, 16, 1⟩ {} = some s ∧ s.repl.randSets.SortedLT ∧
          s.repl.randSets.Nodup ∧ s.repl.randSets.length = Drrip.TOTAL_SDM_SETS ⟨2048, 16, 1⟩ ∧
          ∀ x ∈ s.repl.randSets, x < (⟨2048, 16, 1⟩ : ReplConfig).NUM_SET) ∧
      (Ship.SAMPLER_SET ⟨2048, 16, 1⟩ ≤ (⟨2048, 16, 1⟩ : ReplConfig).NUM_SET →
        ∃ s, Ship.policy.start ⟨2048, 16, 1⟩ {} = some s ∧ s.repl.randSets.SortedLT ∧
          s.repl.randSets.Nodup ∧ s.repl.randSets.length = Ship.SAMPLER_SET ⟨2048, 16, 1⟩ ∧
          ∀ x ∈ s.repl.randSets, x < (⟨2048, 16, 1⟩ : ReplConfig).NUM_SET)) :=
  ⟨rfl, by decide, sampledSets_wellFormed ⟨2048, 16, 1⟩ 11 rfl (by decide)⟩

end MindPalace.ChampSim
