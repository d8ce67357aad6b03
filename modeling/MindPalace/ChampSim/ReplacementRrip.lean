import MindPalace.ChampSim.Replacement

/-! # The RRIP replacement policies

`srrip`, `drrip` and `ship` keep an RRPV in each block's `lru` field and share one `find_victim`,
which ages the set until a block reaches `maxRRPV`. While every RRPV of the set is in range the
loop ends within `maxRRPV` rounds; `KeepsRange` says what a policy must do for that to hold along
any calls of the cache, and srrip does it.
-/

namespace MindPalace.ChampSim

def maxRRPV : UInt32 := 3

theorem le_maxRRPV_iff {v : UInt32} : v ≤ maxRRPV ↔ v.toNat ≤ 3 :=
  UInt32.le_iff_toNat_le

theorem eq_maxRRPV_iff {v : UInt32} : v = maxRRPV ↔ v.toNat = 3 := by
  rw [← UInt32.toNat_inj]
  rfl

namespace Rrip

variable {π : Type} (cfg : ReplConfig)

/-- The way of the first block of the set at `maxRRPV` (`std::find_if`), `NUM_WAY` for none. -/
def victimWay (s : ReplState π) (set : Nat) : Nat :=
  (s.setBlocks cfg set).findIdx fun b => b.lru == maxRRPV

def age (s : ReplState π) (set : Nat) : ReplState π :=
  s.forEachSet cfg set fun b => { b with lru := b.lru + 1 }

/-- The `while (victim == end)` loop of `find_victim`, with `fuel` rounds left. -/
def agingLoop (set : Nat) : Nat → ReplState π → Option (Nat × ReplState π)
  | 0, s => if victimWay cfg s set = cfg.NUM_WAY then none else some (victimWay cfg s set, s)
  | fuel + 1, s =>
    if victimWay cfg s set = cfg.NUM_WAY then agingLoop set fuel (age cfg s set)
    else some (victimWay cfg s set, s)

/-- `find_victim`. The RRPVs are `uint32_t`, so within `2 ^ 32` rounds each block of a set
takes every value once: the loop returns within these rounds or never. -/
def findVictim (s : ReplState π) (set : Nat) : Option (Nat × ReplState π) :=
  agingLoop cfg set (2 ^ 32) s

/-- Write the RRPV of one block: `block[set * NUM_WAY + way].lru = v`. -/
def writeRrpv (s : ReplState π) (set way : Nat) (v : UInt32) : ReplState π :=
  s.modifyBlock set way fun b => { b with lru := v }

def InRange (s : ReplState π) : Prop :=
  ∀ set < cfg.NUM_SET, ∀ way < cfg.NUM_WAY, (s.block set way).valid = true →
    (s.block set way).lru ≤ maxRRPV

def SetInRange (s : ReplState π) (set : Nat) : Prop :=
  ∀ way < cfg.NUM_WAY, (s.block set way).lru ≤ maxRRPV

/-- Every valid block but one holds an RRPV in range. -/
def InRangeExcept (s : ReplState π) (set way : Nat) : Prop :=
  ∀ set' < cfg.NUM_SET, ∀ way' < cfg.NUM_WAY, ¬ (set' = set ∧ way' = way) →
    (s.block set' way').valid = true → (s.block set' way').lru ≤ maxRRPV

/-- What rounds of the loop on one set keep: the valid bits, the blocks of the other sets and
the policy's own state. -/
structure Aged (set : Nat) (s s' : ReplState π) : Prop where
  valid : ∀ set' way, (s'.block set' way).valid = (s.block set' way).valid
  other : ∀ set' way, set' ≠ set → s'.block set' way = s.block set' way
  repl : s'.repl = s.repl

variable {cfg} {s s' : ReplState π} {set : Nat}

@[simp] theorem repl_age : (age cfg s set).repl = s.repl := rfl

@[simp] theorem repl_writeRrpv (way : Nat) (v : UInt32) : (writeRrpv s set way v).repl = s.repl :=
  rfl

@[simp] theorem valid_writeRrpv (way : Nat) (v : UInt32) (set' way' : Nat) :
    ((writeRrpv s set way v).block set' way').valid = (s.block set' way').valid := by
  rw [writeRrpv, ReplState.block_modifyBlock]
  split
  · next h =>
    obtain ⟨rfl, rfl⟩ := h
    rfl
  · rfl

@[simp] theorem lru_writeRrpv_self (way : Nat) (v : UInt32) :
    ((writeRrpv s set way v).block set way).lru = v := by
  simp [writeRrpv]

theorem block_writeRrpv_of_ne {way set' way' : Nat} (h : ¬ (set' = set ∧ way' = way)) (v : UInt32) :
    (writeRrpv s set way v).block set' way' = s.block set' way' := by
  rw [writeRrpv, ReplState.block_modifyBlock, if_neg h]

theorem block_age (set' way' : Nat) :
    (age cfg s set).block set' way' =
      if set' = set ∧ way' < cfg.NUM_WAY then
        { s.block set way' with lru := (s.block set way').lru + 1 }
      else s.block set' way' :=
  ReplState.block_forEachSet s cfg set _ set' way'

theorem victimWay_lt (h : victimWay cfg s set ≠ cfg.NUM_WAY) : victimWay cfg s set < cfg.NUM_WAY :=
  (ReplState.findIdx_setBlocks_lt h).1

theorem lru_victimWay (h : victimWay cfg s set ≠ cfg.NUM_WAY) :
    (s.block set (victimWay cfg s set)).lru = maxRRPV := by
  exact beq_iff_eq.mp (ReplState.findIdx_setBlocks_lt h).2

theorem lru_ne_of_victimWay_eq (h : victimWay cfg s set = cfg.NUM_WAY) {way : Nat}
    (hway : way < cfg.NUM_WAY) : (s.block set way).lru ≠ maxRRPV := by
  simpa using ReplState.findIdx_setBlocks_eq h hway

theorem agingLoop_of_ne (h : victimWay cfg s set ≠ cfg.NUM_WAY) (fuel : Nat) :
    agingLoop cfg set fuel s = some (victimWay cfg s set, s) := by
  cases fuel <;> rw [agingLoop, if_neg h]

theorem agingLoop_succ_of_eq (h : victimWay cfg s set = cfg.NUM_WAY) (fuel : Nat) :
    agingLoop cfg set (fuel + 1) s = agingLoop cfg set fuel (age cfg s set) := by
  rw [agingLoop, if_pos h]

theorem agingLoop_cases {fuel : Nat} {r : Nat × ReplState π}
    (h : agingLoop cfg set fuel s = some r) :
    (victimWay cfg s set ≠ cfg.NUM_WAY ∧ r = (victimWay cfg s set, s)) ∨
      (victimWay cfg s set = cfg.NUM_WAY ∧
        ∃ fuel', fuel = fuel' + 1 ∧ agingLoop cfg set fuel' (age cfg s set) = some r) := by
  by_cases hv : victimWay cfg s set = cfg.NUM_WAY
  · cases fuel with
    | zero =>
      rw [agingLoop, if_pos hv] at h
      cases h
    | succ fuel =>
      rw [agingLoop_succ_of_eq hv] at h
      exact Or.inr ⟨hv, fuel, rfl, h⟩
  · rw [agingLoop_of_ne hv] at h
    exact Or.inl ⟨hv, (Option.some.inj h).symm⟩

theorem agingLoop_induction {motive : ReplState π → Nat × ReplState π → Prop}
    (found : ∀ s, victimWay cfg s set ≠ cfg.NUM_WAY → motive s (victimWay cfg s set, s))
    (aged : ∀ s r, victimWay cfg s set = cfg.NUM_WAY → motive (age cfg s set) r → motive s r) :
    ∀ {fuel : Nat} {s : ReplState π} {r : Nat × ReplState π},
      agingLoop cfg set fuel s = some r → motive s r
  | 0, s, r, h => by
    rcases agingLoop_cases h with ⟨hv, rfl⟩ | ⟨-, fuel', hfuel, -⟩
    · exact found s hv
    · cases hfuel
  | fuel + 1, s, r, h => by
    rcases agingLoop_cases h with ⟨hv, rfl⟩ | ⟨hv, fuel', hfuel, h'⟩
    · exact found s hv
    · obtain rfl : fuel = fuel' := Nat.succ_inj.mp hfuel
      exact aged s r hv (agingLoop_induction found aged h')

theorem agingLoop_add (m : Nat) {fuel : Nat} {r : Nat × ReplState π}
    (h : agingLoop cfg set fuel s = some r) : agingLoop cfg set (fuel + m) s = some r := by
  induction fuel generalizing s with
  | zero =>
    rcases agingLoop_cases h with ⟨hv, rfl⟩ | ⟨-, fuel', hfuel, -⟩
    · exact agingLoop_of_ne hv _
    · cases hfuel
  | succ fuel ih =>
    rcases agingLoop_cases h with ⟨hv, rfl⟩ | ⟨hv, fuel', hfuel, h'⟩
    · exact agingLoop_of_ne hv _
    · obtain rfl : fuel = fuel' := Nat.succ_inj.mp hfuel
      rw [Nat.add_right_comm, agingLoop_succ_of_eq hv]
      exact ih h'

theorem agingLoop_spec {fuel way : Nat} (h : agingLoop cfg set fuel s = some (way, s')) :
    way < cfg.NUM_WAY ∧ (s'.block set way).lru = maxRRPV :=
  agingLoop_induction (motive := fun _ r => r.1 < cfg.NUM_WAY ∧ (r.2.block set r.1).lru = maxRRPV)
    (fun _ hv => ⟨victimWay_lt hv, lru_victimWay hv⟩) (fun _ _ _ hr => hr) h

theorem Aged.refl (s : ReplState π) : Aged set s s :=
  ⟨fun _ _ => rfl, fun _ _ _ => rfl, rfl⟩

theorem Aged.trans {s₁ s₂ s₃ : ReplState π} (h₁ : Aged set s₁ s₂) (h₂ : Aged set s₂ s₃) :
    Aged set s₁ s₃ :=
  ⟨fun set' way => (h₂.valid set' way).trans (h₁.valid set' way),
    fun set' way hs => (h₂.other set' way hs).trans (h₁.other set' way hs), h₂.repl.trans h₁.repl⟩

theorem aged_age : Aged set s (age cfg s set) where
  valid set' way := by
    rw [block_age]
    split <;> simp_all
  other set' way hs := by rw [block_age, if_neg fun h => hs h.1]
  repl := rfl

theorem agingLoop_aged {fuel way : Nat} (h : agingLoop cfg set fuel s = some (way, s')) :
    Aged set s s' :=
  agingLoop_induction (motive := fun s r => Aged set s r.2) (fun s _ => Aged.refl s)
    (fun _ _ _ hr => aged_age.trans hr) h

theorem age_lru (hs : SetInRange cfg s set) (hv : victimWay cfg s set = cfg.NUM_WAY) {way : Nat}
    (hway : way < cfg.NUM_WAY) :
    ((age cfg s set).block set way).lru.toNat = (s.block set way).lru.toNat + 1 ∧
      ((age cfg s set).block set way).lru ≤ maxRRPV := by
  have hle := le_maxRRPV_iff.mp (hs way hway)
  have hne : (s.block set way).lru.toNat ≠ 3 := fun h =>
    lru_ne_of_victimWay_eq hv hway (eq_maxRRPV_iff.mpr h)
  have hadd : ((s.block set way).lru + 1).toNat = (s.block set way).lru.toNat + 1 := by
    rw [UInt32.toNat_add, UInt32.toNat_one]
    omega
  rw [block_age, if_pos ⟨rfl, hway⟩, le_maxRRPV_iff]
  dsimp only
  omega

theorem SetInRange.age (hs : SetInRange cfg s set) (hv : victimWay cfg s set = cfg.NUM_WAY) :
    SetInRange cfg (age cfg s set) set :=
  fun _ hway => (age_lru hs hv hway).2

theorem SetInRange.agingLoop (hs : SetInRange cfg s set) {fuel way : Nat}
    (h : agingLoop cfg set fuel s = some (way, s')) : SetInRange cfg s' set :=
  agingLoop_induction (motive := fun s r => SetInRange cfg s set → SetInRange cfg r.2 set)
    (fun _ _ hs => hs) (fun _ _ hv hr hs => hr (hs.age hv)) h hs

theorem agingLoop_isSome {fuel : Nat} (hs : SetInRange cfg s set)
    (hclose : ∃ way < cfg.NUM_WAY, 3 ≤ (s.block set way).lru.toNat + fuel) :
    (agingLoop cfg set fuel s).isSome := by
  induction fuel generalizing s with
  | zero =>
    obtain ⟨way, hway, hthree⟩ := hclose
    by_cases hv : victimWay cfg s set = cfg.NUM_WAY
    · -- with no round left the block is at `maxRRPV`, so the search finds it
      have hle := le_maxRRPV_iff.mp (hs way hway)
      exact absurd (eq_maxRRPV_iff.mpr (by omega)) (lru_ne_of_victimWay_eq hv hway)
    · rw [agingLoop_of_ne hv]
      rfl
  | succ fuel ih =>
    obtain ⟨way, hway, hthree⟩ := hclose
    by_cases hv : victimWay cfg s set = cfg.NUM_WAY
    · rw [agingLoop_succ_of_eq hv]
      have hnext := (age_lru hs hv hway).1
      exact ih (hs.age hv) ⟨way, hway, by omega⟩
    · rw [agingLoop_of_ne hv]
      rfl

theorem findVictim_of_setInRange (hs : SetInRange cfg s set) (hway : 0 < cfg.NUM_WAY) :
    ∃ way s', agingLoop cfg set maxRRPV.toNat s = some (way, s') ∧
      findVictim cfg s set = some (way, s') ∧ way < cfg.NUM_WAY ∧ (s'.block set way).lru = maxRRPV := by
  have hsome : (agingLoop cfg set maxRRPV.toNat s).isSome :=
    agingLoop_isSome hs ⟨0, hway, Nat.le_add_left _ _⟩
  obtain ⟨⟨way, s'⟩, h⟩ := Option.isSome_iff_exists.mp hsome
  have hfuel : maxRRPV.toNat + (2 ^ 32 - 3) = 2 ^ 32 := rfl
  have hfv : findVictim cfg s set = some (way, s') := by
    rw [findVictim, ← hfuel]
    exact agingLoop_add _ h
  exact ⟨way, s', h, hfv, agingLoop_spec h⟩

/-! ### Valid blocks in range -/

theorem inRange_init (repl : π) : InRange cfg (ReplState.init repl) := by
  intro set _ way _ hv
  simp [ReplState.init] at hv

theorem InRange.setInRange (hs : InRange cfg s) (hset : set < cfg.NUM_SET)
    (hfull : ReplacementPolicy.firstInvalid cfg s set = cfg.NUM_WAY) : SetInRange cfg s set :=
  fun way hway => hs set hset way hway (ReplacementPolicy.valid_of_firstInvalid_eq cfg hfull hway)

theorem InRange.of_aged (hs : InRange cfg s) (ha : Aged set s s') (hs' : SetInRange cfg s' set) :
    InRange cfg s' := by
  intro set' hset' way hway hv
  by_cases h : set' = set
  · subst h
    exact hs' way hway
  · rw [ha.other set' way h] at hv ⊢
    exact hs set' hset' way hway hv

theorem InRange.agingLoop (hs : InRange cfg s) (hset : set < cfg.NUM_SET)
    (hfull : ReplacementPolicy.firstInvalid cfg s set = cfg.NUM_WAY) {fuel way : Nat}
    (h : agingLoop cfg set fuel s = some (way, s')) : InRange cfg s' :=
  hs.of_aged (agingLoop_aged h) ((hs.setInRange hset hfull).agingLoop h)

theorem InRange.except (hs : InRange cfg s) (set way : Nat) : InRangeExcept cfg s set way :=
  fun set' hset' way' hway' _ hv => hs set' hset' way' hway' hv

theorem InRangeExcept.modifyBlock {way : Nat} (hs : InRangeExcept cfg s set way)
    (f : ReplBlock → ReplBlock) : InRangeExcept cfg (s.modifyBlock set way f) set way := by
  intro set' hset' way' hway' hne hv
  rw [ReplState.block_modifyBlock, if_neg hne] at hv ⊢
  exact hs set' hset' way' hway' hne hv

theorem InRange.invalidate (hs : InRange cfg s) (set way : Nat) :
    InRange cfg (s.modifyBlock set way fun b => { b with valid := false }) := by
  intro set' hset' way' hway' hv
  rw [ReplState.lru_modifyBlock_valid]
  rw [ReplState.block_modifyBlock] at hv
  split at hv
  · cases hv
  · exact hs set' hset' way' hway' hv

/-- Every fill the cache makes into a set, and every refused fill of a set without an invalid
way, gets a way from the policy. -/
def FillsSucceed (cfg : ReplConfig) (P : ReplacementPolicy π) (s : ReplState π) : Prop :=
  ∀ set < cfg.NUM_SET, ∀ cpu fullAddr ip type,
    (∃ s', P.access cfg s (.fill cpu set fullAddr ip type) = some s') ∧
      (ReplacementPolicy.firstInvalid cfg s set = cfg.NUM_WAY →
        ∃ s', P.access cfg s (.refusedFill cpu set fullAddr ip type) = some s')

/-- The aging bound of the family: on a set without an invalid way, `find_victim` ages the
set at most `maxRRPV` times before it finds a block at `maxRRPV`, and returns that way. -/
def VictimWithinMaxRrpv (cfg : ReplConfig) (P : ReplacementPolicy π) (s : ReplState π) : Prop :=
  ∀ set < cfg.NUM_SET, ReplacementPolicy.firstInvalid cfg s set = cfg.NUM_WAY →
    ∀ cpu ip fullAddr type, ∃ way s', agingLoop cfg set maxRRPV.toNat s = some (way, s') ∧
      P.findVictim cfg s cpu set ip fullAddr type = some (way, s') ∧ way < cfg.NUM_WAY ∧
        (s'.block set way).lru = maxRRPV

/-- What a policy of the family does that keeps the RRPVs of the valid blocks in range:
`initialize_replacement` keeps them in range, `find_victim` is the shared loop, and
`update_replacement_state` keeps every valid bit, writes no block but the updated one, and
leaves that one in range, on a miss whatever it held before. -/
structure KeepsRange (cfg : ReplConfig) (P : ReplacementPolicy π) : Prop where
  start_inRange : ∀ s s', InRange cfg s → P.initializeReplacement cfg s = some s' → InRange cfg s'
  findVictim_eq : ∀ s cpu set ip fullAddr type,
    P.findVictim cfg s cpu set ip fullAddr type = findVictim cfg s set
  valid_update : ∀ s cpu set way fullAddr ip victimAddr type hit set' way',
    ((P.updateReplacementState cfg s cpu set way fullAddr ip victimAddr type hit).block set' way').valid =
      (s.block set' way').valid
  block_update : ∀ s cpu set way fullAddr ip victimAddr type hit set' way', ¬ (set' = set ∧ way' = way) →
    (P.updateReplacementState cfg s cpu set way fullAddr ip victimAddr type hit).block set' way' =
      s.block set' way'
  lru_update : ∀ s cpu set way fullAddr ip victimAddr type hit,
    (hit = false ∨ (s.block set way).lru ≤ maxRRPV) →
    ((P.updateReplacementState cfg s cpu set way fullAddr ip victimAddr type hit).block set way).lru ≤
      maxRRPV

namespace KeepsRange

variable {P : ReplacementPolicy π} (hP : KeepsRange cfg P)
include hP

theorem inRange_update {way : Nat} (hs : InRangeExcept cfg s set way) {hit : Bool}
    (hw : hit = false ∨ (s.block set way).lru ≤ maxRRPV) (cpu fullAddr ip victimAddr : Nat)
    (type : UInt8) :
    InRange cfg (P.updateReplacementState cfg s cpu set way fullAddr ip victimAddr type hit) := by
  intro set' hset' way' hway' hv
  by_cases h : set' = set ∧ way' = way
  · obtain ⟨rfl, rfl⟩ := h
    exact hP.lru_update _ _ _ _ _ _ _ _ _ hw
  · rw [hP.block_update _ _ _ _ _ _ _ _ _ _ _ h] at hv ⊢
    exact hs set' hset' way' hway' h hv

theorem inRange_fillWay (hs : InRange cfg s) (hset : set < cfg.NUM_SET) {cpu ip fullAddr way : Nat}
    {type : UInt8} (h : P.fillWay cfg s cpu set ip fullAddr type = some (way, s')) :
    InRange cfg s' := by
  unfold ReplacementPolicy.fillWay at h
  dsimp only at h
  split at h
  · next hfull =>
    rw [hP.findVictim_eq] at h
    exact hs.agingLoop hset hfull h
  · obtain ⟨-, rfl⟩ := Prod.mk.inj (Option.some.inj h)
    exact hs

theorem inRange_access (hs : InRange cfg s) {e : ReplAccess} (h : P.access cfg s e = some s') :
    InRange cfg s' := by
  cases e with
  | hit cpu set way fullAddr ip type =>
    rw [ReplacementPolicy.access, Option.ite_none_right_eq_some, Option.some.injEq] at h
    obtain ⟨⟨hset, hway, hv⟩, rfl⟩ := h
    exact hP.inRange_update (hs.except set way) (Or.inr (hs set hset way hway hv)) _ _ _ _ _
  | fill cpu set fullAddr ip type =>
    rw [ReplacementPolicy.access, Option.ite_none_right_eq_some] at h
    obtain ⟨hset, h⟩ := h
    obtain ⟨⟨way, s₁⟩, h₁, h₂⟩ := Option.bind_eq_some_iff.mp h
    dsimp only at h₂
    rw [Option.ite_none_right_eq_some, Option.some.injEq] at h₂
    obtain ⟨-, rfl⟩ := h₂
    -- the filled block is validated and then written as a miss
    exact hP.inRange_update (((hP.inRange_fillWay hs hset h₁).except set way).modifyBlock _)
      (Or.inl rfl) _ _ _ _ _
  | refusedFill cpu set fullAddr ip type =>
    rw [ReplacementPolicy.access, Option.ite_none_right_eq_some] at h
    obtain ⟨⟨hset, hfull⟩, h⟩ := h
    obtain ⟨⟨way, s₁⟩, h₁, rfl⟩ := Option.map_eq_some_iff.mp h
    rw [hP.findVictim_eq] at h₁
    exact hs.agingLoop hset hfull h₁
  | invalidate set way =>
    rw [ReplacementPolicy.access, Option.ite_none_right_eq_some, Option.some.injEq] at h
    obtain ⟨-, rfl⟩ := h
    exact hs.invalidate set way

theorem inRange_run : ∀ {s s' : ReplState π} (es : List ReplAccess), InRange cfg s →
    P.run cfg s es = some s' → InRange cfg s'
  | _, _, [], hs, h => by
    cases h
    exact hs
  | _, _, e :: es, hs, h => by
    obtain ⟨s₁, h₁, h₂⟩ := Option.bind_eq_some_iff.mp h
    exact inRange_run es (hP.inRange_access hs h₁) h₂

theorem victim_runFromStart (hway : 0 < cfg.NUM_WAY) (repl : π) (es : List ReplAccess)
    (h : P.runFromStart cfg repl es = some s) : InRange cfg s ∧ VictimWithinMaxRrpv cfg P s := by
  obtain ⟨s₀, h₀, hrun⟩ := Option.bind_eq_some_iff.mp h
  have hs := hP.inRange_run es (hP.start_inRange _ _ (inRange_init repl) h₀) hrun
  refine ⟨hs, fun set hset hfull cpu ip fullAddr type => ?_⟩
  rw [hP.findVictim_eq]
  exact findVictim_of_setInRange (hs.setInRange hset hfull) hway

theorem findVictim_isSome (hway : 0 < cfg.NUM_WAY) (hs : InRange cfg s) (hset : set < cfg.NUM_SET)
    (hfull : ReplacementPolicy.firstInvalid cfg s set = cfg.NUM_WAY) (cpu ip fullAddr : Nat)
    (type : UInt8) :
    ∃ way s', P.findVictim cfg s cpu set ip fullAddr type = some (way, s') ∧ way < cfg.NUM_WAY := by
  obtain ⟨way, s', -, hv, hlt, -⟩ := findVictim_of_setInRange (hs.setInRange hset hfull) hway
  exact ⟨way, s', (hP.findVictim_eq _ _ _ _ _ _).trans hv, hlt⟩

theorem fillWay_isSome (hway : 0 < cfg.NUM_WAY) (hs : InRange cfg s) (hset : set < cfg.NUM_SET)
    (cpu ip fullAddr : Nat) (type : UInt8) :
    ∃ way s', P.fillWay cfg s cpu set ip fullAddr type = some (way, s') ∧ way < cfg.NUM_WAY := by
  unfold ReplacementPolicy.fillWay
  dsimp only
  split
  · next hfull => exact hP.findVictim_isSome hway hs hset hfull cpu ip fullAddr type
  · next hne =>
    refine ⟨_, s, rfl, Nat.lt_of_le_of_ne ?_ hne⟩
    exact ReplState.length_setBlocks s cfg set ▸ List.findIdx_le_length

theorem fillsSucceed (hway : 0 < cfg.NUM_WAY) (hs : InRange cfg s) : FillsSucceed cfg P s := by
  intro set hset cpu fullAddr ip type
  constructor
  · obtain ⟨way, s₁, hfill, hlt⟩ := hP.fillWay_isSome hway hs hset cpu ip fullAddr type
    rw [ReplacementPolicy.access, if_pos hset, hfill, Option.bind_some]
    dsimp only
    rw [if_pos hlt]
    exact ⟨_, rfl⟩
  · intro hfull
    obtain ⟨way, s', hv, -⟩ := hP.findVictim_isSome hway hs hset hfull cpu ip fullAddr type
    rw [ReplacementPolicy.access, if_pos ⟨hset, hfull⟩, hv]
    exact ⟨s', rfl⟩

theorem fillsSucceed_runFromStart (hway : 0 < cfg.NUM_WAY) (repl : π) (es : List ReplAccess)
    (h : P.runFromStart cfg repl es = some s) : VictimWithinMaxRrpv cfg P s ∧ FillsSucceed cfg P s :=
  have hv := hP.victim_runFromStart hway repl es h
  ⟨hv.2, hP.fillsSucceed hway hv.1⟩

end KeepsRange

end Rrip

namespace Srrip

def initializeReplacement (cfg : ReplConfig) (s : ReplState Unit) : ReplState Unit where
  block set way :=
    if set < cfg.NUM_SET ∧ way < cfg.NUM_WAY then { s.block set way with lru := maxRRPV }
    else s.block set way
  repl := s.repl

/-- `update_replacement_state`: `0` on a hit, `maxRRPV - 1` otherwise. -/
def updateReplacementState (s : ReplState Unit) (set way : Nat) (hit : Bool) : ReplState Unit :=
  Rrip.writeRrpv s set way (if hit then 0 else maxRRPV - 1)

def policy : ReplacementPolicy Unit where
  initializeReplacement cfg s := some (initializeReplacement cfg s)
  findVictim cfg s _ set _ _ _ := Rrip.findVictim cfg s set
  updateReplacementState _ s _ set way _ _ _ _ hit := updateReplacementState s set way hit

theorem keepsRange (cfg : ReplConfig) : Rrip.KeepsRange cfg policy where
  start_inRange s s' _ h := by
    obtain rfl := Option.some.inj h
    intro set hset way hway _
    simp only [initializeReplacement, hset, hway, and_self, if_true]
    decide
  findVictim_eq _ _ _ _ _ _ := rfl
  valid_update _ _ _ _ _ _ _ _ _ _ _ := Rrip.valid_writeRrpv _ _ _ _
  block_update _ _ _ _ _ _ _ _ _ _ _ h := Rrip.block_writeRrpv_of_ne h _
  lru_update _ _ _ _ _ _ _ _ hit _ := by
    simp only [policy, updateReplacementState, Rrip.lru_writeRrpv_self]
    cases hit <;> decide

end Srrip

/-! ### The sampled sets of drrip and ship -/

namespace SampledSets

/-- `rand_seed = rand_seed * 1103515245 + 12345`, on the 64-bit `std::size_t`. -/
def nextSeed (seed : UInt64) : UInt64 :=
  seed * 1103515245 + 12345

def firstSeed : UInt64 :=
  1103515245 + 12345

/-- The set a seed draws: `(rand_seed / 65536) % NUM_SET`. -/
def draw (cfg : ReplConfig) (seed : UInt64) : Nat :=
  (seed / 65536).toNat % cfg.NUM_SET

/-- `std::lower_bound` of `val` in the vector, which is sorted. -/
def lowerBound (sets : List Nat) (val : Nat) : Nat :=
  sets.findIdx fun x => decide (val ≤ x)

/-- `loc != std::end(rand_sets[this]) && *loc == val`: the set is taken already. -/
def taken (sets : List Nat) (val : Nat) : Bool :=
  sets[lowerBound sets val]? == some val

/-- The inner `while`: draw again while the drawn set is taken, at most `fuel` more times. -/
def redraw (cfg : ReplConfig) (sets : List Nat) : Nat → UInt64 → Option UInt64
  | 0, seed => if taken sets (draw cfg seed) then none else some seed
  | fuel + 1, seed =>
    if taken sets (draw cfg seed) then redraw cfg sets fuel (nextSeed seed) else some seed

/-- The `for` loop of `initialize_replacement` with `count` iterations left: draw a set not yet
taken and insert it in order. The seed is not advanced between iterations, so each iteration
after the first starts on the set the one before took. The inner loop is allowed `2 ^ 64`
draws: the generator's multiplier is `1` modulo `4` and its increment is odd, so its seeds run
through every `std::size_t` before they repeat, and a loop that has found no free set by then
never does. -/
def sample (cfg : ReplConfig) : Nat → UInt64 → List Nat → Option (List Nat)
  | 0, _, sets => some sets
  | count + 1, seed, sets =>
    (redraw cfg sets (2 ^ 64) seed).bind fun seed =>
      let val := draw cfg seed
      sample cfg count seed (sets.insertIdx (lowerBound sets val) val)

end SampledSets

end MindPalace.ChampSim
