import MindPalace.ChampSim.LruUtil
import MindPalace.ChampSim.Packet

/-! # Replacement policies

The three members a policy (`replacement/*.cc`) supplies to `CACHE`, and `access`, the cache's
side of them (`src/cache.cc`): a hit updates its way, a fill takes the first invalid way or the
victim and updates it as a miss, and `invalidate_entry` clears a valid bit.
-/

namespace MindPalace.ChampSim

/-- The fields of a `BLOCK` that the replacement policies read and write, with their
initial values: the valid bit and `lru`, which starts at
`std::numeric_limits<uint32_t>::max() >> 1`. -/
structure ReplBlock where
  valid : Bool := false
  lru : UInt32 := (0xFFFFFFFF : UInt32) >>> 1
  deriving DecidableEq, Repr

instance : LruEntry ReplBlock where
  valid b := b.valid
  lru b := b.lru
  setLru b v := { b with lru := v }
  valid_setLru _ _ := rfl
  lru_setLru _ _ := rfl

structure ReplConfig where
  NUM_SET : Nat
  NUM_WAY : Nat
  NUM_CPUS : Nat

/-- The blocks, by set and way (`block[set * NUM_WAY + way]`), and the policy's own state. -/
structure ReplState (π : Type) where
  block : Nat → Nat → ReplBlock
  repl : π

namespace ReplState

variable {π : Type}

def init (repl : π) : ReplState π where
  block _ _ := {}
  repl := repl

def setBlocks (s : ReplState π) (cfg : ReplConfig) (set : Nat) : List ReplBlock :=
  (List.range cfg.NUM_WAY).map (s.block set)

def modifyBlock (s : ReplState π) (set way : Nat) (f : ReplBlock → ReplBlock) : ReplState π where
  block := Function.update s.block set (Function.update (s.block set) way (f (s.block set way)))
  repl := s.repl

def forEachSet (s : ReplState π) (cfg : ReplConfig) (set : Nat) (f : ReplBlock → ReplBlock) :
    ReplState π where
  block := Function.update s.block set
    fun way => if way < cfg.NUM_WAY then f (s.block set way) else s.block set way
  repl := s.repl

@[simp] theorem block_modifyBlock (s : ReplState π) (set way : Nat) (f : ReplBlock → ReplBlock)
    (set' way' : Nat) :
    (s.modifyBlock set way f).block set' way' =
      if set' = set ∧ way' = way then f (s.block set way) else s.block set' way' := by
  unfold modifyBlock
  by_cases hs : set' = set
  · subst hs
    by_cases hw : way' = way
    · subst hw
      simp
    · simp [hw]
  · simp [hs]

@[simp] theorem block_forEachSet (s : ReplState π) (cfg : ReplConfig) (set : Nat)
    (f : ReplBlock → ReplBlock) (set' way' : Nat) :
    (s.forEachSet cfg set f).block set' way' =
      if set' = set ∧ way' < cfg.NUM_WAY then f (s.block set way') else s.block set' way' := by
  unfold forEachSet
  by_cases hs : set' = set
  · subst hs
    simp
  · simp [hs]

@[simp] theorem lru_modifyBlock_valid (s : ReplState π) (set way : Nat) (v : Bool) (set' way' : Nat) :
    ((s.modifyBlock set way fun b => { b with valid := v }).block set' way').lru =
      (s.block set' way').lru := by
  rw [block_modifyBlock]
  split
  · next h =>
    obtain ⟨rfl, rfl⟩ := h
    rfl
  · rfl

@[simp] theorem repl_modifyBlock (s : ReplState π) (set way : Nat) (f : ReplBlock → ReplBlock) :
    (s.modifyBlock set way f).repl = s.repl := rfl

@[simp] theorem repl_forEachSet (s : ReplState π) (cfg : ReplConfig) (set : Nat)
    (f : ReplBlock → ReplBlock) : (s.forEachSet cfg set f).repl = s.repl := rfl

theorem length_setBlocks (s : ReplState π) (cfg : ReplConfig) (set : Nat) :
    (s.setBlocks cfg set).length = cfg.NUM_WAY := by
  simp [setBlocks]

theorem getElem?_setBlocks (s : ReplState π) (cfg : ReplConfig) {set way : Nat}
    (h : way < cfg.NUM_WAY) : (s.setBlocks cfg set)[way]? = some (s.block set way) := by
  simp [setBlocks, h]

@[simp] theorem getElem_setBlocks (s : ReplState π) (cfg : ReplConfig) {set way : Nat}
    (h : way < (s.setBlocks cfg set).length) : (s.setBlocks cfg set)[way] = s.block set way := by
  simp [setBlocks]

theorem findIdx_setBlocks_eq {s : ReplState π} {cfg : ReplConfig} {p : ReplBlock → Bool}
    {set : Nat} (h : (s.setBlocks cfg set).findIdx p = cfg.NUM_WAY) {way : Nat}
    (hway : way < cfg.NUM_WAY) : p (s.block set way) = false := by
  rw [← length_setBlocks s cfg set, List.findIdx_eq_length] at h
  exact h _ (List.mem_of_getElem? (getElem?_setBlocks s cfg hway))

theorem findIdx_setBlocks_lt {s : ReplState π} {cfg : ReplConfig} {p : ReplBlock → Bool}
    {set : Nat} (h : (s.setBlocks cfg set).findIdx p ≠ cfg.NUM_WAY) :
    (s.setBlocks cfg set).findIdx p < cfg.NUM_WAY ∧
      p (s.block set ((s.setBlocks cfg set).findIdx p)) = true := by
  have hlt : (s.setBlocks cfg set).findIdx p < (s.setBlocks cfg set).length := by
    rw [length_setBlocks]
    exact Nat.lt_of_le_of_ne (length_setBlocks s cfg set ▸ List.findIdx_le_length) h
  refine ⟨length_setBlocks s cfg set ▸ hlt, ?_⟩
  have hp := List.findIdx_getElem (w := hlt)
  rwa [getElem_setBlocks] at hp

end ReplState

/-- The three members a replacement policy defines, over the blocks and the policy's state
`π`. `initialize_replacement` and `find_victim` are `none` where a loop of theirs would not
return. -/
structure ReplacementPolicy (π : Type) where
  initializeReplacement : ReplConfig → ReplState π → Option (ReplState π)
  findVictim : ReplConfig → ReplState π → (cpu set ip fullAddr : Nat) → (type : UInt8) →
    Option (Nat × ReplState π)
  updateReplacementState : ReplConfig → ReplState π → (cpu set way fullAddr ip victimAddr : Nat) →
    (type : UInt8) → (hit : Bool) → ReplState π

inductive ReplAccess
  /-- A hit on a valid way: `readlike_hit`, or a write hit in `handle_writeback`. -/
  | hit (cpu set way fullAddr ip : Nat) (type : UInt8)
  /-- A fill that `filllike_miss` accepts. -/
  | fill (cpu set fullAddr ip : Nat) (type : UInt8)
  /-- A fill into a set without an invalid way that `filllike_miss` refuses: only the call
  of `find_victim` happens. -/
  | refusedFill (cpu set fullAddr ip : Nat) (type : UInt8)
  /-- `invalidate_entry` on a way holding the block. -/
  | invalidate (set way : Nat)

namespace ReplacementPolicy

variable {π : Type} (P : ReplacementPolicy π) (cfg : ReplConfig)

/-- The first invalid way of the set: `std::find_if_not(set_begin, set_end, is_valid<BLOCK>())`. -/
def firstInvalid (s : ReplState π) (set : Nat) : Nat :=
  (s.setBlocks cfg set).findIdx fun b => !b.valid

/-- The way `handle_fill` and `handle_writeback` fill: the first invalid one, or else the one
`find_victim` returns. -/
def fillWay (s : ReplState π) (cpu set ip fullAddr : Nat) (type : UInt8) :
    Option (Nat × ReplState π) :=
  let way := firstInvalid cfg s set
  if way = cfg.NUM_WAY then P.findVictim cfg s cpu set ip fullAddr type else some (way, s)

/-- One call of the cache into the policy; `none` is a call the cache does not make, or a
failed assertion. -/
def access (s : ReplState π) : ReplAccess → Option (ReplState π)
  | .hit cpu set way fullAddr ip type =>
    if set < cfg.NUM_SET ∧ way < cfg.NUM_WAY ∧ (s.block set way).valid then
      some (P.updateReplacementState cfg s cpu set way fullAddr ip 0 type true)
    else none
  | .fill cpu set fullAddr ip type =>
    if set < cfg.NUM_SET then
      (P.fillWay cfg s cpu set ip fullAddr type).bind fun (way, s) =>
        -- `LLC_BYPASS` is defined, so `filllike_miss` would take `NUM_WAY` as a bypass; but
        -- lru's `std::max_element` and the RRIP loop's `std::find_if` stop inside a nonempty
        -- set (`LruRepresents.fillWay`, `Rrip.KeepsRange.fillWay_isSome`), so no policy here
        -- returns it, and the model takes it for a call the cache does not make
        if way < cfg.NUM_WAY then
          some (P.updateReplacementState cfg (s.modifyBlock set way fun b => { b with valid := true })
            cpu set way fullAddr ip 0 type false)
        else none
    else none
  | .refusedFill cpu set fullAddr ip type =>
    if set < cfg.NUM_SET ∧ firstInvalid cfg s set = cfg.NUM_WAY then
      (P.findVictim cfg s cpu set ip fullAddr type).map Prod.snd
    else none
  | .invalidate set way =>
    if set < cfg.NUM_SET ∧ way < cfg.NUM_WAY then
      some (s.modifyBlock set way fun b => { b with valid := false })
    else none

def run (s : ReplState π) : List ReplAccess → Option (ReplState π)
  | [] => some s
  | a :: as => (P.access cfg s a).bind fun s => run s as

/-- A cache after its constructor and `initialize_replacement`. -/
def start (repl : π) : Option (ReplState π) :=
  P.initializeReplacement cfg (ReplState.init repl)

/-- A fresh cache, `initialize_replacement`, then the calls. -/
def runFromStart (repl : π) (es : List ReplAccess) : Option (ReplState π) :=
  (P.start cfg repl).bind fun s => P.run cfg s es

@[simp] theorem run_nil (s : ReplState π) : P.run cfg s [] = some s := rfl

theorem run_cons (s : ReplState π) (a : ReplAccess) (as : List ReplAccess) :
    P.run cfg s (a :: as) = (P.access cfg s a).bind fun s => P.run cfg s as := rfl

theorem run_append (s : ReplState π) (xs ys : List ReplAccess) :
    P.run cfg s (xs ++ ys) = (P.run cfg s xs).bind fun s => P.run cfg s ys := by
  induction xs generalizing s with
  | nil => rfl
  | cons a as ih => simp only [List.cons_append, run_cons, ih, Option.bind_assoc]

theorem valid_of_firstInvalid_eq {s : ReplState π} {set : Nat}
    (h : firstInvalid cfg s set = cfg.NUM_WAY) {way : Nat} (hway : way < cfg.NUM_WAY) :
    (s.block set way).valid = true := by
  simpa using ReplState.findIdx_setBlocks_eq h hway

theorem runFromStart_append (repl : π) (xs ys : List ReplAccess) :
    P.runFromStart cfg repl (xs ++ ys) =
      (P.runFromStart cfg repl xs).bind fun s => P.run cfg s ys := by
  simp only [runFromStart, run_append, Option.bind_assoc]

end ReplacementPolicy

end MindPalace.ChampSim
