import MindPalace.ChampSim.Replacement
import MindPalace.Lib.Recency

/-! # The lru replacement policy

`replacement/lru/lru.cc` keeps a counter per block, bumps the counters not above the updated one
and zeroes it, and evicts the greatest. It refines `LruSpec`, the valid bits and the ways in order
of last update: every counter is its way's rank in that order (`Recency.rank`), while `NUM_WAY` is
at most `2 ^ 31 + 1`.
-/

namespace MindPalace.ChampSim

namespace Lru

/-- `find_victim`: the way of the block `std::max_element` finds with `lru_comparator`. -/
def findVictim (cfg : ReplConfig) (s : ReplState Unit) (set : Nat) : Nat :=
  StdAlgorithm.maxElement LruEntry.lruComparator (s.setBlocks cfg set)

/-- `update_replacement_state`: a writeback hit changes nothing; otherwise every block of the
set whose counter is not above the updated block's goes up by one, and the updated block's
counter goes to zero. -/
def updateReplacementState (cfg : ReplConfig) (s : ReplState Unit) (set way : Nat) (type : UInt8)
    (hit : Bool) : ReplState Unit :=
  if hit ∧ type = WRITEBACK then s
  else
    let hitLru := (s.block set way).lru
    (s.forEachSet cfg set fun x => if x.lru ≤ hitLru then { x with lru := x.lru + 1 } else x)
      |>.modifyBlock set way fun b => { b with lru := 0 }

/-- The lru policy; `initialize_replacement` does nothing. -/
def policy : ReplacementPolicy Unit where
  initializeReplacement _ s := some s
  findVictim cfg s _ set _ _ _ := some (findVictim cfg s set, s)
  updateReplacementState cfg s _ set way _ _ _ type hit := updateReplacementState cfg s set way type hit

/-- The initial counter, `std::numeric_limits<uint32_t>::max() >> 1`. -/
def base : Nat := 2 ^ 31 - 1

theorem toNat_initial_lru : (({} : ReplBlock).lru).toNat = base := by
  decide

variable {cfg : ReplConfig} {s : ReplState Unit}

theorem valid_updateReplacementState (set way : Nat) (type : UInt8) (hit : Bool) (set' way' : Nat) :
    ((updateReplacementState cfg s set way type hit).block set' way').valid =
      (s.block set' way').valid := by
  unfold updateReplacementState
  split
  · rfl
  · simp only [ReplState.block_modifyBlock, ReplState.block_forEachSet]
    split_ifs <;> simp_all

theorem lru_updateReplacementState {set way x : Nat} {type : UInt8} {hit : Bool}
    (hskip : ¬ (hit ∧ type = WRITEBACK)) (hx : x < cfg.NUM_WAY) :
    ((updateReplacementState cfg s set way type hit).block set x).lru =
      if x = way then 0
      else if (s.block set x).lru ≤ (s.block set way).lru then (s.block set x).lru + 1
      else (s.block set x).lru := by
  unfold updateReplacementState
  rw [if_neg hskip]
  simp only [ReplState.block_modifyBlock, ReplState.block_forEachSet, true_and, hx]
  split_ifs <;> simp_all

theorem block_updateReplacementState_of_ne {set set' way : Nat} {type : UInt8} {hit : Bool}
    (hs : set' ≠ set) (way' : Nat) :
    (updateReplacementState cfg s set way type hit).block set' way' = s.block set' way' := by
  unfold updateReplacementState
  split
  · rfl
  · simp [hs]

theorem block_updateReplacementState_of_skip {set way : Nat} {type : UInt8} {hit : Bool}
    (hskip : hit ∧ type = WRITEBACK) :
    updateReplacementState cfg s set way type hit = s := by
  rw [updateReplacementState, if_pos hskip]

theorem fillWay_eq (cpu set ip fullAddr : Nat) (type : UInt8) :
    policy.fillWay cfg s cpu set ip fullAddr type =
      some (if ReplacementPolicy.firstInvalid cfg s set = cfg.NUM_WAY then findVictim cfg s set
        else ReplacementPolicy.firstInvalid cfg s set, s) := by
  by_cases hfull : ReplacementPolicy.firstInvalid cfg s set = cfg.NUM_WAY
  · simp only [ReplacementPolicy.fillWay, hfull, if_true]
    rfl
  · simp only [ReplacementPolicy.fillWay, hfull, if_false]

end Lru

/-- Exact LRU replacement: per set the valid bits and the ways in the order of their last
update, most recent first. -/
structure LruSpec where
  valid : Nat → Nat → Bool
  recency : Nat → List Nat

namespace LruSpec

variable (cfg : ReplConfig)

/-- No block valid and none updated. -/
def init : LruSpec where
  valid _ _ := false
  recency _ := []

def firstInvalid (a : LruSpec) (set : Nat) : Nat :=
  ((List.range cfg.NUM_WAY).map (a.valid set)).findIdx fun v => !v

def setValid (a : LruSpec) (set way : Nat) (v : Bool) : LruSpec :=
  { a with valid := Function.update a.valid set (Function.update (a.valid set) way v) }

/-- An update makes the way the most recent of its set, except at a writeback hit. -/
def update (a : LruSpec) (set way : Nat) (type : UInt8) (hit : Bool) : LruSpec :=
  if hit ∧ type = WRITEBACK then a
  else { a with recency := Function.update a.recency set (Recency.touch (a.recency set) way) }

/-- The way a fill goes to: the first invalid one, or else the one updated longest ago. -/
def fillWay (a : LruSpec) (set : Nat) : Option Nat :=
  if a.firstInvalid cfg set = cfg.NUM_WAY then (a.recency set).getLast?
  else some (a.firstInvalid cfg set)

def access (a : LruSpec) : ReplAccess → Option LruSpec
  | .hit _ set way _ _ type =>
    if set < cfg.NUM_SET ∧ way < cfg.NUM_WAY ∧ a.valid set way then some (a.update set way type true)
    else none
  | .fill _ set _ _ type =>
    if set < cfg.NUM_SET then
      (a.fillWay cfg set).bind fun way =>
        if way < cfg.NUM_WAY then some ((a.setValid set way true).update set way type false)
        else none
    else none
  | .refusedFill _ set _ _ _ =>
    if set < cfg.NUM_SET ∧ a.firstInvalid cfg set = cfg.NUM_WAY then some a else none
  | .invalidate set way =>
    if set < cfg.NUM_SET ∧ way < cfg.NUM_WAY then some (a.setValid set way false) else none

def run (a : LruSpec) : List ReplAccess → Option LruSpec
  | [] => some a
  | e :: es => (a.access cfg e).bind fun a => run a es

structure WF (a : LruSpec) : Prop where
  nodup : ∀ set, (a.recency set).Nodup
  lt : ∀ set, ∀ w ∈ a.recency set, w < cfg.NUM_WAY
  touched : ∀ set way, way < cfg.NUM_WAY → a.valid set way = true → way ∈ a.recency set

variable {cfg}

theorem wf_init : init.WF cfg where
  nodup _ := List.nodup_nil
  lt _ _ h := absurd h List.not_mem_nil
  touched _ _ _ h := absurd h Bool.false_ne_true

@[simp] theorem valid_update (a : LruSpec) (set way : Nat) (type : UInt8) (hit : Bool) :
    (a.update set way type hit).valid = a.valid := by
  unfold update
  split <;> rfl

@[simp] theorem recency_setValid (a : LruSpec) (set way : Nat) (v : Bool) :
    (a.setValid set way v).recency = a.recency := rfl

theorem valid_setValid (a : LruSpec) (set way : Nat) (v : Bool) (set' way' : Nat) :
    (a.setValid set way v).valid set' way' =
      if set' = set ∧ way' = way then v else a.valid set' way' := by
  unfold setValid
  by_cases hs : set' = set
  · subst hs
    by_cases hw : way' = way
    · subst hw
      simp
    · simp [hw]
  · simp [hs]

theorem recency_update_of_ne (a : LruSpec) {set set' : Nat} (way : Nat) (type : UInt8) (hit : Bool)
    (hs : set' ≠ set) : (a.update set way type hit).recency set' = a.recency set' := by
  unfold update
  split
  · rfl
  · exact Function.update_of_ne hs _ _

theorem recency_update_self (a : LruSpec) (set way : Nat) (type : UInt8) (hit : Bool) :
    (a.update set way type hit).recency set =
      if hit ∧ type = WRITEBACK then a.recency set else Recency.touch (a.recency set) way := by
  unfold update
  split
  · rfl
  · exact Function.update_self _ _ _

theorem recency_update_cases (a : LruSpec) (set way : Nat) (type : UInt8) (hit : Bool) (set' : Nat) :
    (a.update set way type hit).recency set' = a.recency set' ∨
      (set' = set ∧ ¬ (hit ∧ type = WRITEBACK) ∧
        (a.update set way type hit).recency set' = Recency.touch (a.recency set) way) := by
  by_cases hs : set' = set
  · subst hs
    rw [recency_update_self]
    split
    · exact Or.inl rfl
    · next hskip => exact Or.inr ⟨rfl, hskip, rfl⟩
  · exact Or.inl (recency_update_of_ne a way type hit hs)

theorem WF.update_of {a : LruSpec} {set way : Nat} {type : UInt8} {hit : Bool}
    (hnodup : ∀ set, (a.recency set).Nodup) (hlt : ∀ set, ∀ w ∈ a.recency set, w < cfg.NUM_WAY)
    (htouched : ∀ set' way', way' < cfg.NUM_WAY → a.valid set' way' = true →
      way' ∈ a.recency set' ∨ (set' = set ∧ way' = way ∧ ¬ (hit ∧ type = WRITEBACK)))
    (hway : way < cfg.NUM_WAY) : (a.update set way type hit).WF cfg := by
  refine ⟨fun set' => ?_, fun set' w hw => ?_, fun set' way' hw' hv => ?_⟩
  · rcases recency_update_cases a set way type hit set' with he | ⟨rfl, -, he⟩
    · exact he ▸ hnodup set'
    · exact he ▸ Recency.nodup_touch (hnodup set')
  · rcases recency_update_cases a set way type hit set' with he | ⟨rfl, -, he⟩
    · exact hlt set' w (he ▸ hw)
    · rcases Recency.mem_touch.mp (he ▸ hw) with rfl | hw
      · exact hway
      · exact hlt set' w hw
  · rw [valid_update] at hv
    rcases htouched set' way' hw' hv with hmem | ⟨rfl, rfl, hskip⟩
    · rcases recency_update_cases a set way type hit set' with he | ⟨rfl, -, he⟩
      · exact he ▸ hmem
      · exact he ▸ Recency.mem_touch.mpr (Or.inr hmem)
    · rw [recency_update_self, if_neg hskip]
      exact Recency.mem_touch.mpr (Or.inl rfl)

theorem WF.update {a : LruSpec} (h : a.WF cfg) {set way : Nat} (hway : way < cfg.NUM_WAY)
    (type : UInt8) (hit : Bool) : (a.update set way type hit).WF cfg :=
  WF.update_of h.nodup h.lt (fun set' way' hw hv => Or.inl (h.touched set' way' hw hv)) hway

theorem WF.invalidate {a : LruSpec} (h : a.WF cfg) (set way : Nat) :
    (a.setValid set way false).WF cfg := by
  refine ⟨h.nodup, h.lt, fun set' way' hw' hv => ?_⟩
  rw [valid_setValid] at hv
  split at hv
  · cases hv
  · exact h.touched set' way' hw' hv

theorem WF.fill {a : LruSpec} (h : a.WF cfg) {set way : Nat} (hway : way < cfg.NUM_WAY)
    (type : UInt8) : ((a.setValid set way true).update set way type false).WF cfg := by
  refine WF.update_of h.nodup h.lt (fun set' way' hw hv => ?_) hway
  rw [valid_setValid] at hv
  split at hv
  · next hsw => exact Or.inr ⟨hsw.1, hsw.2, by simp⟩
  · exact Or.inl (h.touched set' way' hw hv)

theorem valid_of_firstInvalid {a : LruSpec} {set : Nat} (h : a.firstInvalid cfg set = cfg.NUM_WAY)
    {way : Nat} (hway : way < cfg.NUM_WAY) : a.valid set way = true := by
  unfold firstInvalid at h
  have hall := List.findIdx_eq_length.mp (by rw [h, List.length_map, List.length_range])
  simpa using hall (a.valid set way) (List.mem_map_of_mem (List.mem_range.mpr hway))

end LruSpec

theorem length_le_of_forall_lt {l : List Nat} {n : Nat} (hnd : l.Nodup) (hlt : ∀ w ∈ l, w < n) :
    l.length ≤ n := by
  have hsub := hnd.subperm fun w hw => List.mem_range.mpr (hlt w hw)
  simpa using hsub.length_le

theorem length_lt_of_not_mem {l : List Nat} {n x : Nat} (hnd : l.Nodup) (hlt : ∀ w ∈ l, w < n)
    (hx : x < n) (hxl : x ∉ l) : l.length < n := by
  have hsub := hnd.subperm fun w hw => (List.mem_erase_of_ne (a := w) (b := x)
    (fun h => hxl (h ▸ hw))).mpr (List.mem_range.mpr (hlt w hw))
  have hle := hsub.length_le
  rw [List.length_erase_of_mem (List.mem_range.mpr hx), List.length_range] at hle
  omega

theorem rank_touch_lt {n : Nat} (hn : n ≤ 2 ^ 31 + 1) {r : List Nat} (hnd : r.Nodup)
    (hlt : ∀ w ∈ r, w < n) {way x : Nat} (hway : way < n) (hx : x < n) :
    Recency.rank Lru.base (Recency.touch r way) x < 2 ^ 32 := by
  have hnd' := Recency.nodup_touch (w := way) hnd
  have hlt' : ∀ w ∈ Recency.touch r way, w < n := by
    intro w hw
    rcases Recency.mem_touch.mp hw with rfl | hw
    · exact hway
    · exact hlt w hw
  by_cases hmem : x ∈ Recency.touch r way
  · have h₁ := Recency.rank_lt_length Lru.base hmem
    have h₂ := length_le_of_forall_lt hnd' hlt'
    omega
  · -- a way left out sits after all of them, at most `base + n - 1`
    have h₁ := length_lt_of_not_mem hnd' hlt' hx hmem
    rw [Recency.rank_of_not_mem Lru.base hmem, Lru.base]
    omega

/-- The counters and valid bits of the lru policy agree with the exact LRU state: each counter
is the rank of its way in its set's order. -/
structure LruRepresents (cfg : ReplConfig) (a : LruSpec) (s : ReplState Unit) : Prop where
  valid : ∀ set way, way < cfg.NUM_WAY → (s.block set way).valid = a.valid set way
  lru : ∀ set way, way < cfg.NUM_WAY →
    (s.block set way).lru.toNat = Recency.rank Lru.base (a.recency set) way

namespace LruRepresents

variable {cfg : ReplConfig} {a : LruSpec} {s : ReplState Unit}

theorem init : LruRepresents cfg LruSpec.init (ReplState.init ()) where
  valid _ _ _ := rfl
  lru _ _ _ := Lru.toNat_initial_lru

theorem update (hr : LruRepresents cfg a s) {set way : Nat} (hway : way < cfg.NUM_WAY)
    (type : UInt8) (hit : Bool)
    (hroom : ∀ x < cfg.NUM_WAY, Recency.rank Lru.base (Recency.touch (a.recency set) way) x < 2 ^ 32) :
    LruRepresents cfg (a.update set way type hit) (Lru.updateReplacementState cfg s set way type hit) := by
  by_cases hskip : hit ∧ type = WRITEBACK
  · rw [Lru.block_updateReplacementState_of_skip hskip, LruSpec.update, if_pos hskip]
    exact hr
  constructor
  · intro set' x hx
    rw [Lru.valid_updateReplacementState, LruSpec.valid_update]
    exact hr.valid set' x hx
  · intro set' x hx
    by_cases hs : set' = set
    · subst hs
      have hxx := hr.lru set' x hx
      have hww := hr.lru set' way hway
      rw [LruSpec.recency_update_self, if_neg hskip, ← Recency.bump_rank, Recency.bump,
        Lru.lru_updateReplacementState hskip hx]
      by_cases hxw : x = way
      · rw [if_pos hxw, if_pos hxw]
        rfl
      rw [if_neg hxw, if_neg hxw]
      by_cases hc : Recency.rank Lru.base (a.recency set') x ≤ Recency.rank Lru.base (a.recency set') way
      · -- the bumped counter is the new rank, which fits
        have hfit := hroom x hx
        rw [← Recency.bump_rank, Recency.bump, if_neg hxw, if_pos hc] at hfit
        rw [if_pos (UInt32.le_iff_toNat_le.mpr (by rw [hxx, hww]; exact hc)), if_pos hc,
          UInt32.toNat_add, UInt32.toNat_one, hxx, Nat.mod_eq_of_lt hfit]
      · rw [if_neg (fun h => hc (by rw [← hxx, ← hww]; exact UInt32.le_iff_toNat_le.mp h)),
          if_neg hc, hxx]
    · rw [Lru.block_updateReplacementState_of_ne hs, LruSpec.recency_update_of_ne a way type hit hs]
      exact hr.lru set' x hx

theorem setValid (hr : LruRepresents cfg a s) (set way : Nat) (v : Bool) :
    LruRepresents cfg (a.setValid set way v) (s.modifyBlock set way fun b => { b with valid := v }) := by
  constructor
  · intro set' x hx
    rw [ReplState.block_modifyBlock, LruSpec.valid_setValid]
    split
    · rfl
    · exact hr.valid set' x hx
  · intro set' x hx
    rw [ReplState.block_modifyBlock, LruSpec.recency_setValid]
    split
    · next h =>
      obtain ⟨rfl, rfl⟩ := h
      exact hr.lru set' x hx
    · exact hr.lru set' x hx

theorem firstInvalid (hr : LruRepresents cfg a s) (set : Nat) :
    ReplacementPolicy.firstInvalid cfg s set = a.firstInvalid cfg set := by
  have hmap : (List.range cfg.NUM_WAY).map (fun w => (s.block set w).valid) =
      (List.range cfg.NUM_WAY).map (a.valid set) :=
    List.map_congr_left fun w hw => hr.valid set w (List.mem_range.mp hw)
  calc ReplacementPolicy.firstInvalid cfg s set
      = ((List.range cfg.NUM_WAY).map (fun w => (s.block set w).valid)).findIdx fun v => !v := by
        rw [ReplacementPolicy.firstInvalid, ReplState.setBlocks, List.findIdx_map, List.findIdx_map]
        rfl
    _ = a.firstInvalid cfg set := by rw [hmap]; rfl

theorem findVictim (hr : LruRepresents cfg a s) (hwf : a.WF cfg) {set : Nat}
    (hfull : a.firstInvalid cfg set = cfg.NUM_WAY) (hpos : 0 < cfg.NUM_WAY) :
    (a.recency set).getLast? = some (Lru.findVictim cfg s set) := by
  have hvalid := fun w (hw : w < cfg.NUM_WAY) => LruSpec.valid_of_firstInvalid hfull hw
  -- every way is valid, hence in the order, which therefore has one entry per way
  have hlen : (a.recency set).length = cfg.NUM_WAY := by
    refine le_antisymm (length_le_of_forall_lt (hwf.nodup set) (hwf.lt set)) ?_
    have hsub := List.nodup_range.subperm fun w hw =>
      hwf.touched set w (List.mem_range.mp hw) (hvalid w (List.mem_range.mp hw))
    simpa using hsub.length_le
  have hne : a.recency set ≠ [] := List.ne_nil_of_length_pos (by omega)
  have hblocks : ∀ x ∈ s.setBlocks cfg set, x.valid = true := by
    intro x hx
    obtain ⟨w, hw, rfl⟩ := List.mem_map.mp hx
    rw [hr.valid set w (List.mem_range.mp hw)]
    exact hvalid w (List.mem_range.mp hw)
  have hnil : s.setBlocks cfg set ≠ [] := by
    rw [← List.length_pos_iff, ReplState.length_setBlocks]
    exact hpos
  obtain ⟨v, hv, hmax⟩ := LruEntry.maxElement_lruComparator_of_valid hblocks hnil
  -- the block found is at a way of the set
  have hi : Lru.findVictim cfg s set < cfg.NUM_WAY := by
    have := (List.getElem?_eq_some_iff.mp hv).1
    rwa [ReplState.length_setBlocks] at this
  have hvb : v = s.block set (Lru.findVictim cfg s set) := by
    change (s.setBlocks cfg set)[Lru.findVictim cfg s set]? = some v at hv
    rw [ReplState.getElem?_setBlocks s cfg hi] at hv
    exact (Option.some.inj hv).symm
  -- its rank is at least the last way's, which is the greatest
  have hlast := Recency.rank_getLast Lru.base (hwf.nodup set) hne
  have hlastlt := hwf.lt set _ (List.getLast_mem hne)
  have hge := hmax (s.block set _) (List.mem_map_of_mem (List.mem_range.mpr hlastlt))
  have hmem := hwf.touched set _ hi (hvalid _ hi)
  have hrank := Recency.rank_lt_length Lru.base hmem
  rw [hvb] at hge
  change (s.block set _).lru.toNat ≤ (s.block set _).lru.toNat at hge
  rw [hr.lru set _ hlastlt, hr.lru set _ hi, hlast] at hge
  have heq := Recency.eq_getLast_of_rank Lru.base hmem (by omega)
  rw [List.getLast?_eq_some_getLast hne, ← heq]

theorem fillWay (hr : LruRepresents cfg a s) (hwf : a.WF cfg) {set : Nat}
    (hpos : 0 < cfg.NUM_WAY) :
    a.fillWay cfg set = some (if ReplacementPolicy.firstInvalid cfg s set = cfg.NUM_WAY then
      Lru.findVictim cfg s set else ReplacementPolicy.firstInvalid cfg s set) := by
  rw [hr.firstInvalid, LruSpec.fillWay]
  split
  · next hfull => exact hr.findVictim hwf hfull hpos
  · rfl

theorem access (hr : LruRepresents cfg a s) (hwf : a.WF cfg) (hn : cfg.NUM_WAY ≤ 2 ^ 31 + 1)
    {e : ReplAccess} {s' : ReplState Unit} (h : Lru.policy.access cfg s e = some s') :
    ∃ a', a.access cfg e = some a' ∧ a'.WF cfg ∧ LruRepresents cfg a' s' := by
  have hroom : ∀ {set way : Nat}, way < cfg.NUM_WAY → ∀ x < cfg.NUM_WAY,
      Recency.rank Lru.base (Recency.touch (a.recency set) way) x < 2 ^ 32 :=
    fun hway _ hx => rank_touch_lt hn (hwf.nodup _) (hwf.lt _) hway hx
  cases e with
  | hit cpu set way fullAddr ip type =>
    rw [ReplacementPolicy.access, Option.ite_none_right_eq_some, Option.some.injEq] at h
    obtain ⟨⟨hset, hway, hv⟩, rfl⟩ := h
    refine ⟨a.update set way type true, ?_, hwf.update hway type true,
      hr.update hway type true (hroom hway)⟩
    rw [LruSpec.access, if_pos ⟨hset, hway, by rw [← hr.valid set way hway]; exact hv⟩]
  | fill cpu set fullAddr ip type =>
    rw [ReplacementPolicy.access, Option.ite_none_right_eq_some] at h
    obtain ⟨hset, h⟩ := h
    rw [Lru.fillWay_eq, Option.bind_some] at h
    dsimp only at h
    -- the way filled: the first invalid one, or the victim of a full set
    generalize hw : (if ReplacementPolicy.firstInvalid cfg s set = cfg.NUM_WAY then
      Lru.findVictim cfg s set else ReplacementPolicy.firstInvalid cfg s set) = way at h
    rw [Option.ite_none_right_eq_some, Option.some.injEq] at h
    obtain ⟨hway, rfl⟩ := h
    refine ⟨_, ?_, hwf.fill hway type, (hr.setValid set _ true).update hway type false (hroom hway)⟩
    rw [LruSpec.access, if_pos hset, hr.fillWay hwf (Nat.lt_of_le_of_lt (Nat.zero_le _) hway), hw,
      Option.bind_some, if_pos hway]
  | refusedFill cpu set fullAddr ip type =>
    rw [ReplacementPolicy.access, Option.ite_none_right_eq_some] at h
    obtain ⟨hg, h⟩ := h
    obtain rfl := Option.some.inj h
    refine ⟨a, ?_, hwf, hr⟩
    rw [LruSpec.access, if_pos ⟨hg.1, hr.firstInvalid set ▸ hg.2⟩]
  | invalidate set way =>
    rw [ReplacementPolicy.access, Option.ite_none_right_eq_some, Option.some.injEq] at h
    obtain ⟨hg, rfl⟩ := h
    exact ⟨_, by rw [LruSpec.access, if_pos hg], hwf.invalidate set way, hr.setValid set way false⟩

theorem run (hn : cfg.NUM_WAY ≤ 2 ^ 31 + 1) : ∀ (es : List ReplAccess) {a : LruSpec}
    {s s' : ReplState Unit}, LruRepresents cfg a s → a.WF cfg → Lru.policy.run cfg s es = some s' →
      ∃ a', LruSpec.run cfg a es = some a' ∧ a'.WF cfg ∧ LruRepresents cfg a' s'
  | [], a, _, _, hr, hwf, h => by
    cases h
    exact ⟨a, rfl, hwf, hr⟩
  | e :: es, a, _, _, hr, hwf, h => by
    rw [ReplacementPolicy.run_cons] at h
    obtain ⟨s₁, h₁, h₂⟩ := Option.bind_eq_some_iff.mp h
    obtain ⟨a₁, ha₁, hwf₁, hr₁⟩ := hr.access hwf hn h₁
    obtain ⟨a', ha', hwf', hr'⟩ := run hn es hr₁ hwf₁ h₂
    refine ⟨a', ?_, hwf', hr'⟩
    rw [LruSpec.run, ha₁]
    exact ha'

end LruRepresents

/-- The lru policy is exact LRU while the counters fit: along any calls of the cache from a
fresh cache with at most `2 ^ 31 + 1` ways, there is the exact LRU state of the same calls,
in which every way updated at least once holds its position in its set's order of last
updates, every other way holds the initial counter plus the number of updated ways, and
`find_victim` on a set without an invalid way returns the way updated longest ago. -/
theorem lru_exactLru (cfg : ReplConfig) (hn : cfg.NUM_WAY ≤ 2 ^ 31 + 1) (es : List ReplAccess)
    {s : ReplState Unit} (hrun : Lru.policy.runFromStart cfg () es = some s) :
    ∃ a, LruSpec.run cfg LruSpec.init es = some a ∧ a.WF cfg ∧ ∀ set,
      (∀ way ∈ a.recency set, (s.block set way).lru.toNat = (a.recency set).idxOf way) ∧
      (∀ way < cfg.NUM_WAY, way ∉ a.recency set →
        (s.block set way).lru.toNat = Lru.base + (a.recency set).length) ∧
      (ReplacementPolicy.firstInvalid cfg s set = cfg.NUM_WAY → 0 < cfg.NUM_WAY →
        (a.recency set).getLast? = some (Lru.findVictim cfg s set)) := by
  obtain ⟨a, ha, hwf, hr⟩ := LruRepresents.run hn es LruRepresents.init LruSpec.wf_init hrun
  refine ⟨a, ha, hwf, fun set => ⟨fun way hway => ?_, fun way hway hnot => ?_, fun hfull hpos => ?_⟩⟩
  · rw [hr.lru set way (hwf.lt set way hway), Recency.rank_of_mem Lru.base hway]
  · rw [hr.lru set way hway, Recency.rank_of_not_mem Lru.base hnot]
  · exact hr.findVictim hwf (hr.firstInvalid set ▸ hfull) hpos

def twoWays : ReplConfig where
  NUM_SET := 1
  NUM_WAY := 2
  NUM_CPUS := 1

def fillFillHit : List ReplAccess :=
  [.fill 0 0 64 0 LOAD, .fill 0 0 128 0 LOAD, .hit 0 0 0 64 0 LOAD]

/-- After two fills and a hit on way `0`, `find_victim` on the full set returns way `1`. -/
theorem lru_exactLru_fillFillHit :
    ∃ s, Lru.policy.runFromStart twoWays () fillFillHit = some s ∧
      Lru.findVictim twoWays s 0 = 1 := by
  obtain ⟨s, hs⟩ := Option.isSome_iff_exists.mp (show (Lru.policy.runFromStart twoWays ()
    fillFillHit).isSome = true by decide +kernel)
  obtain ⟨a, ha, -, hset⟩ := lru_exactLru twoWays (by decide) fillFillHit hs
  have hrec : (LruSpec.run twoWays LruSpec.init fillFillHit).map (fun a => a.recency 0) =
      some [0, 1] := by decide +kernel
  have hfull : (Lru.policy.runFromStart twoWays () fillFillHit).map
      (fun s => ReplacementPolicy.firstInvalid twoWays s 0) = some 2 := by decide +kernel
  rw [ha, Option.map_some, Option.some.injEq] at hrec
  rw [hs, Option.map_some, Option.some.injEq] at hfull
  have hlast := (hset 0).2.2 hfull (by decide)
  rw [hrec] at hlast
  exact ⟨s, hs, (Option.some.inj hlast).symm⟩

/-! ### A set too wide for the counters -/

def wideSet : ReplConfig where
  NUM_SET := 1
  NUM_WAY := 2 ^ 31 + 2
  NUM_CPUS := 1

/-- After `j` fills from empty: the ways below `j` are valid and hold `j - 1 - w`, the others
invalid and at the initial counter plus `j`. -/
def FilledUpTo (j : Nat) (s : ReplState Unit) : Prop :=
  ∀ w < 2 ^ 31 + 2, (s.block 0 w).valid = decide (w < j) ∧
    (s.block 0 w).lru.toNat = if w < j then j - 1 - w else Lru.base + j

theorem filledUpTo_init : FilledUpTo 0 (ReplState.init ()) := fun _ _ =>
  ⟨rfl, Lru.toNat_initial_lru⟩

theorem firstInvalid_of_filledUpTo {j : Nat} {s : ReplState Unit} (h : FilledUpTo j s)
    (hj : j < 2 ^ 31 + 2) : ReplacementPolicy.firstInvalid wideSet s 0 = j := by
  have hlen : j < (s.setBlocks wideSet 0).length := by
    rw [ReplState.length_setBlocks]
    exact hj
  rw [ReplacementPolicy.firstInvalid, List.findIdx_eq hlen]
  constructor
  · simp [ReplState.setBlocks, (h j hj).1]
  · intro i hi
    simp [ReplState.setBlocks, (h i (by omega)).1, hi]

theorem fill_filledUpTo {j : Nat} {s : ReplState Unit} (h : FilledUpTo j s) (hj : j < 2 ^ 31 + 2) :
    ∃ s', Lru.policy.access wideSet s (.fill 0 0 0 0 LOAD) = some s' ∧
      ∀ w < 2 ^ 31 + 2, (s'.block 0 w).valid = decide (w < j + 1) ∧
        (s'.block 0 w).lru.toNat = if w < j + 1 then j - w else (Lru.base + j + 1) % 2 ^ 32 := by
  have hfi := firstInvalid_of_filledUpTo h hj
  refine ⟨Lru.updateReplacementState wideSet (s.modifyBlock 0 j fun b => { b with valid := true })
    0 j LOAD false, ?_, fun w hw => ⟨?_, ?_⟩⟩
  · rw [ReplacementPolicy.access, if_pos (by decide), Lru.fillWay_eq, Option.bind_some]
    dsimp only
    have hne : ¬ (j = wideSet.NUM_WAY) := by
      show j ≠ 2 ^ 31 + 2
      omega
    rw [hfi, if_neg hne, if_pos (show j < wideSet.NUM_WAY from hj)]
    rfl
  · rw [Lru.valid_updateReplacementState, ReplState.block_modifyBlock]
    by_cases hwj : w = j
    · simp [hwj]
    · simp only [hwj, and_false, if_false, (h w hw).1]
      exact decide_eq_decide.mpr (by omega)
  · have hskip : ¬ (false = true ∧ LOAD = WRITEBACK) := by simp
    rw [Lru.lru_updateReplacementState hskip hw, ReplState.lru_modifyBlock_valid,
      ReplState.lru_modifyBlock_valid]
    have hwl := (h w hw).2
    have hjl := (h j hj).2
    rw [if_neg (Nat.lt_irrefl j)] at hjl
    by_cases hwj : w = j
    · rw [if_pos hwj, if_pos (by omega), hwj, Nat.sub_self]
      rfl
    rw [if_neg hwj, if_pos (UInt32.le_iff_toNat_le.mpr (by
      rw [hwl, hjl]; split <;> omega)), UInt32.toNat_add, UInt32.toNat_one, hwl]
    by_cases hlt : w < j
    · rw [if_pos hlt, if_pos (by omega), Nat.mod_eq_of_lt (by omega)]
      omega
    · rw [if_neg hlt, if_neg (by omega)]

theorem run_fills_filledUpTo : ∀ j ≤ 2 ^ 31, ∃ s,
    Lru.policy.runFromStart wideSet () (List.replicate j (.fill 0 0 0 0 LOAD)) = some s ∧
      FilledUpTo j s
  | 0, _ => ⟨_, rfl, filledUpTo_init⟩
  | j + 1, hj => by
    obtain ⟨s, hs, hfill⟩ := run_fills_filledUpTo j (by omega)
    obtain ⟨s', hs', hnext⟩ := fill_filledUpTo hfill (by omega)
    refine ⟨s', ?_, fun w hw => ⟨(hnext w hw).1, ?_⟩⟩
    · rw [List.replicate_succ', ReplacementPolicy.runFromStart_append, hs, Option.bind_some,
        ReplacementPolicy.run_cons, hs']
      rfl
    · rw [(hnext w hw).2]
      split
      · omega
      · rw [Nat.mod_eq_of_lt (by rw [Lru.base]; omega), Nat.add_assoc]

/-- With `2 ^ 31 + 2` ways, `2 ^ 31 + 1` fills leave the one way never filled, and so never
updated, at counter zero: the increment of its counter from `2 ^ 32 - 1` wraps. -/
theorem lru_untouched_wraps : ∃ s,
    Lru.policy.runFromStart wideSet () (List.replicate (2 ^ 31 + 1) (.fill 0 0 0 0 LOAD)) =
      some s ∧
      (∀ way < 2 ^ 31 + 1, (s.block 0 way).valid = true) ∧
      (s.block 0 (2 ^ 31 + 1)).valid = false ∧ (s.block 0 (2 ^ 31 + 1)).lru = 0 := by
  obtain ⟨s, hs, hfill⟩ := run_fills_filledUpTo (2 ^ 31) (Nat.le_refl _)
  obtain ⟨s', hs', hnext⟩ := fill_filledUpTo hfill (by omega)
  refine ⟨s', ?_, fun way hway => ?_, ?_, ?_⟩
  · rw [List.replicate_succ', ReplacementPolicy.runFromStart_append, hs, Option.bind_some,
      ReplacementPolicy.run_cons, hs']
    rfl
  · rw [(hnext way (by omega)).1]
    exact decide_eq_true hway
  · rw [(hnext _ (by omega)).1]
    exact decide_eq_false (Nat.lt_irrefl _)
  · have hlru := (hnext (2 ^ 31 + 1) (by omega)).2
    rw [if_neg (Nat.lt_irrefl _), Lru.base] at hlru
    exact UInt32.toNat_inj.mp (hlru.trans (by decide))

end MindPalace.ChampSim
