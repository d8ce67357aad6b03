import MindPalace.Lib.RingStack
import MindPalace.ChampSim.InitInstruction

/-! # The basic BTB

`btb/basic_btb/basic_btb.cc`: a set-associative BTB, an indirect table and a return address
stack kept as a `RingStack`. While the unmatched calls fit in the ring, every return is predicted
from the innermost one (`ras_lifo`), and the BTB keeps one entry per branch.
-/

namespace MindPalace.ChampSim

def BASIC_BTB_SETS : Nat := 1024

def BASIC_BTB_WAYS : Nat := 8

def BASIC_BTB_INDIRECT_SIZE : Nat := 4096

def BASIC_BTB_RAS_SIZE : Nat := 64

def BASIC_BTB_CALL_INSTR_SIZE_TRACKERS : Nat := 1024

structure BasicBtbEntry where
  ipTag : UInt64
  target : UInt64
  alwaysTaken : UInt8
  lru : UInt64
  deriving DecidableEq, Repr

/-- One core's slices of the BTB's arrays, `basic_btb[cpu]` to
`basic_btb_call_instr_sizes[cpu]`. The RAS cursor `basic_btb_ras_index[cpu]` is an `int`
that the push and the pop keep in `[0, BASIC_BTB_RAS_SIZE)`. -/
structure BasicBtb where
  btb : Nat → Nat → BasicBtbEntry
  lruCounter : UInt64
  indirect : Nat → UInt64
  conditionalHistory : UInt64
  ras : Nat → UInt64
  rasIndex : Int
  rasIndex_nonneg : 0 ≤ rasIndex
  rasIndex_lt : rasIndex < BASIC_BTB_RAS_SIZE
  callInstrSizes : Nat → UInt64

namespace BasicBtb

def absAddrDist (addr1 addr2 : UInt64) : UInt64 :=
  if addr1 > addr2 then addr1 - addr2 else addr2 - addr1

def setIndex (ip : UInt64) : Nat :=
  (ip >>> 2 &&& (BASIC_BTB_SETS - 1).toUInt64).toNat

/-- `basic_btb_find_entry`: the first way of the set tagged with `ip`. -/
def findEntry (b : BasicBtb) (ip : UInt64) : Option Nat :=
  (List.range BASIC_BTB_WAYS).find? fun i => (b.btb (setIndex ip) i).ipTag == ip

/-- `basic_btb_get_lru_entry`: the first way of least `lru`. -/
def getLruEntry (b : BasicBtb) (set : Nat) : Nat :=
  ((List.range BASIC_BTB_WAYS).foldl
    (fun (acc : Nat × UInt64) i => if (b.btb set i).lru < acc.2 then (i, (b.btb set i).lru) else acc)
    (0, (b.btb set 0).lru)).1

def setEntry (b : BasicBtb) (set way : Nat) (e : BasicBtbEntry) : BasicBtb :=
  { b with btb := Function.update b.btb set (Function.update (b.btb set) way e) }

def updateLru (b : BasicBtb) (set way : Nat) : BasicBtb :=
  { b.setEntry set way { b.btb set way with lru := b.lruCounter } with
    lruCounter := b.lruCounter + 1 }

def indirectHash (b : BasicBtb) (ip : UInt64) : Nat :=
  ((ip >>> 2 ^^^ b.conditionalHistory) &&& (BASIC_BTB_INDIRECT_SIZE - 1).toUInt64).toNat

/-- `basic_btb_ras_index[cpu]++`, back to `0` at `BASIC_BTB_RAS_SIZE`. -/
def nextIndex (i : Int) : Int :=
  if i + 1 = BASIC_BTB_RAS_SIZE then 0 else i + 1

/-- `basic_btb_ras_index[cpu]--`, corrected by `BASIC_BTB_RAS_SIZE` at `-1`. -/
def prevIndex (i : Int) : Int :=
  if i - 1 = -1 then i - 1 + BASIC_BTB_RAS_SIZE else i - 1

theorem nextIndex_nonneg {i : Int} (h : 0 ≤ i) : 0 ≤ nextIndex i := by
  unfold nextIndex
  split <;> omega

theorem nextIndex_lt {i : Int} (h : i < BASIC_BTB_RAS_SIZE) : nextIndex i < BASIC_BTB_RAS_SIZE := by
  unfold nextIndex BASIC_BTB_RAS_SIZE at *
  split <;> omega

theorem prevIndex_nonneg {i : Int} (h : 0 ≤ i) : 0 ≤ prevIndex i := by
  unfold prevIndex BASIC_BTB_RAS_SIZE
  split <;> omega

theorem prevIndex_lt {i : Int} (h : 0 ≤ i) (h' : i < BASIC_BTB_RAS_SIZE) :
    prevIndex i < BASIC_BTB_RAS_SIZE := by
  unfold prevIndex BASIC_BTB_RAS_SIZE at *
  split <;> omega

/-- `push_basic_btb_ras`: move the cursor on and write `ip` there. -/
def pushRas (b : BasicBtb) (ip : UInt64) : BasicBtb :=
  { b with
    rasIndex := nextIndex b.rasIndex
    rasIndex_nonneg := nextIndex_nonneg b.rasIndex_nonneg
    rasIndex_lt := nextIndex_lt b.rasIndex_lt
    ras := Function.update b.ras (nextIndex b.rasIndex).toNat ip }

def peekRas (b : BasicBtb) : UInt64 :=
  b.ras b.rasIndex.toNat

/-- `pop_basic_btb_ras`: read the cell under the cursor, clear it and move the cursor back. -/
def popRas (b : BasicBtb) : UInt64 × BasicBtb :=
  (b.ras b.rasIndex.toNat,
    { b with
      ras := Function.update b.ras b.rasIndex.toNat 0
      rasIndex := prevIndex b.rasIndex
      rasIndex_nonneg := prevIndex_nonneg b.rasIndex_nonneg
      rasIndex_lt := prevIndex_lt b.rasIndex_nonneg b.rasIndex_lt })

def callSizeTrackerHash (ip : UInt64) : Nat :=
  (ip &&& (BASIC_BTB_CALL_INSTR_SIZE_TRACKERS - 1).toUInt64).toNat

def getCallSize (b : BasicBtb) (ip : UInt64) : UInt64 :=
  b.callInstrSizes (callSizeTrackerHash ip)

/-- `O3_CPU::initialize_btb`: everything `0`, but every call size `4`. -/
def initializeBtb : BasicBtb where
  btb _ _ := ⟨0, 0, 0, 0⟩
  lruCounter := 0
  indirect _ := 0
  conditionalHistory := 0
  ras _ := 0
  rasIndex := 0
  rasIndex_nonneg := Int.le_refl 0
  rasIndex_lt := by decide
  callInstrSizes _ := 4

/-- The BTB's prediction for `ip`: the target and `always_taken` of its entry, whose `lru`
is refreshed, or `0` and taken without one. -/
def predictEntry (b : BasicBtb) (ip : UInt64) : (UInt64 × UInt8) × BasicBtb :=
  match b.findEntry ip with
  | none => ((0, 1), b)
  | some way =>
    let e := b.btb (setIndex ip) way
    ((e.target, e.alwaysTaken), b.updateLru (setIndex ip) way)

/-- `O3_CPU::btb_prediction`: the predicted target and `always_taken`. -/
def btbPrediction (b : BasicBtb) (ip : UInt64) (branchType : UInt8) :
    (UInt64 × UInt8) × BasicBtb :=
  let alwaysTaken : UInt8 := if branchType ≠ BRANCH_CONDITIONAL then 1 else 0
  let b := if branchType = BRANCH_DIRECT_CALL ∨ branchType = BRANCH_INDIRECT_CALL then b.pushRas ip
    else b
  if branchType = BRANCH_RETURN then
    -- the top of the RAS, adjusted by the size of the call
    let target := b.peekRas
    ((target + b.getCallSize target, alwaysTaken), b)
  else if branchType = BRANCH_INDIRECT ∨ branchType = BRANCH_INDIRECT_CALL then
    ((b.indirect (b.indirectHash ip), alwaysTaken), b)
  else b.predictEntry ip

/-- What `update_btb` trains first: the indirect table and the conditional history. -/
def trainTables (b : BasicBtb) (ip branchTarget : UInt64) (taken : Bool) (branchType : UInt8) :
    BasicBtb :=
  let b := if branchType = BRANCH_INDIRECT ∨ branchType = BRANCH_INDIRECT_CALL then
      { b with indirect := Function.update b.indirect (b.indirectHash ip) branchTarget }
    else b
  if branchType = BRANCH_CONDITIONAL then
    { b with conditionalHistory :=
        if taken then b.conditionalHistory <<< 1 ||| 1 else b.conditionalHistory <<< 1 }
  else b

/-- The return's side of `update_btb`: pop the RAS, and take the distance from the popped
call to the return's target as that call's size when it is at most `10`. -/
def recalibrate (b : BasicBtb) (branchTarget : UInt64) : BasicBtb :=
  let (callIp, b) := b.popRas
  let estimated := absAddrDist callIp branchTarget
  if estimated ≤ 10 then
    { b with callInstrSizes := Function.update b.callInstrSizes (callSizeTrackerHash callIp) estimated }
  else b

/-- The BTB's side of `update_btb`: retarget the entry of `ip`, or allocate the least recently
used way of its set for a taken branch with a target. -/
def trainEntry (b : BasicBtb) (ip branchTarget : UInt64) (taken : Bool) : BasicBtb :=
  match b.findEntry ip with
  | none =>
    if branchTarget ≠ 0 ∧ taken then
      let set := setIndex ip
      let way := b.getLruEntry set
      (b.setEntry set way { b.btb set way with ipTag := ip, target := branchTarget, alwaysTaken := 1 }).updateLru
        set way
    else b
  | some way =>
    let e := b.btb (setIndex ip) way
    b.setEntry (setIndex ip) way
      { e with target := branchTarget, alwaysTaken := if taken then e.alwaysTaken else 0 }

def updateBtb (b : BasicBtb) (ip branchTarget : UInt64) (taken : Bool) (branchType : UInt8) :
    BasicBtb :=
  let b := b.trainTables ip branchTarget taken branchType
  if branchType = BRANCH_RETURN then b.recalibrate branchTarget
  else if branchType ≠ BRANCH_INDIRECT ∧ branchType ≠ BRANCH_INDIRECT_CALL then
    b.trainEntry ip branchTarget taken
  else b

structure Branch where
  ip : UInt64
  branchTarget : UInt64
  taken : Bool
  branchType : UInt8

/-- `btb_prediction` and then `update_btb` on one branch: the prediction, and the BTB after. -/
def branchStep (b : BasicBtb) (br : Branch) : (UInt64 × UInt8) × BasicBtb :=
  let p := b.btbPrediction br.ip br.branchType
  (p.1, p.2.updateBtb br.ip br.branchTarget br.taken br.branchType)

def run (b : BasicBtb) : List Branch → BasicBtb
  | [] => b
  | br :: bs => run (b.branchStep br).2 bs

/-! ### What the RAS stands for -/

/-- The calls not yet matched by a return, innermost first, after one more branch: a call is
pushed, and a return matches the innermost one if there is one. -/
def unmatchedStep (S : List UInt64) (br : Branch) : List UInt64 :=
  if br.branchType = BRANCH_DIRECT_CALL ∨ br.branchType = BRANCH_INDIRECT_CALL then br.ip :: S
  else if br.branchType = BRANCH_RETURN then S.tail
  else S

/-- The calls not yet matched by a return after the branches, from `S`. -/
def unmatchedFrom (S : List UInt64) : List Branch → List UInt64
  | [] => S
  | br :: bs => unmatchedFrom (unmatchedStep S br) bs

/-- The calls of the branches not yet matched by a return. -/
def unmatched (bs : List Branch) : List UInt64 :=
  unmatchedFrom [] bs

def RasHolds (b : BasicBtb) (S : List UInt64) : Prop :=
  RingStack.Holds BASIC_BTB_RAS_SIZE b.ras b.rasIndex S

def rasState (b : BasicBtb) : (Nat → UInt64) × Int :=
  (b.ras, b.rasIndex)

variable {b b' : BasicBtb} {S : List UInt64}

theorem RasHolds.of_rasState (h : b.RasHolds S) (hb : b'.rasState = b.rasState) : b'.RasHolds S := by
  obtain ⟨hras, hidx⟩ := Prod.mk.inj hb
  unfold RasHolds
  rw [hras, hidx]
  exact h

@[simp] theorem rasState_setEntry (set way : Nat) (e : BasicBtbEntry) :
    (b.setEntry set way e).rasState = b.rasState := rfl

@[simp] theorem rasState_updateLru (set way : Nat) : (b.updateLru set way).rasState = b.rasState :=
  rfl

theorem below_rasIndex : RingStack.below BASIC_BTB_RAS_SIZE b.rasIndex 0 = b.rasIndex.toNat := by
  have h₀ := b.rasIndex_nonneg
  have h₁ := b.rasIndex_lt
  unfold RingStack.below BASIC_BTB_RAS_SIZE at *
  omega

theorem RasHolds.pushRas (h : b.RasHolds S) (hroom : S.length < BASIC_BTB_RAS_SIZE) (ip : UInt64) :
    (b.pushRas ip).RasHolds (ip :: S) := by
  have hcell := below_rasIndex (b := b.pushRas ip)
  have hidx : nextIndex b.rasIndex % (BASIC_BTB_RAS_SIZE : Int) =
      (b.rasIndex + 1) % (BASIC_BTB_RAS_SIZE : Int) := by
    unfold nextIndex BASIC_BTB_RAS_SIZE
    split <;> omega
  have hpush := RingStack.Holds.push h hroom hidx ip
  rw [show RingStack.below BASIC_BTB_RAS_SIZE (nextIndex b.rasIndex) 0 = (nextIndex b.rasIndex).toNat
    from hcell] at hpush
  exact hpush

theorem RasHolds.peekRas {c : UInt64} (h : b.RasHolds (c :: S)) : b.peekRas = c := by
  have htop := RingStack.Holds.top_eq h
  rwa [below_rasIndex] at htop

theorem RasHolds.popRas {c : UInt64} (h : b.RasHolds (c :: S)) :
    b.popRas.1 = c ∧ b.popRas.2.RasHolds S := by
  refine ⟨h.peekRas, ?_⟩
  have hidx : prevIndex b.rasIndex % (BASIC_BTB_RAS_SIZE : Int) =
      (b.rasIndex - 1) % (BASIC_BTB_RAS_SIZE : Int) := by
    unfold prevIndex BASIC_BTB_RAS_SIZE
    split <;> omega
  have hpop := RingStack.Holds.pop h hidx 0
  rw [below_rasIndex] at hpop
  exact hpop

theorem RasHolds.popRas_nil (b : BasicBtb) : b.popRas.2.RasHolds [] :=
  RingStack.holds_nil _ _

theorem rasHolds_initializeBtb : initializeBtb.RasHolds [] :=
  RingStack.holds_nil _ _

/-! ### The RAS across a branch -/

variable {ip branchTarget : UInt64} {taken : Bool} {branchType : UInt8}

theorem rasState_predictEntry : (b.predictEntry ip).2.rasState = b.rasState := by
  unfold predictEntry
  split <;> rfl

theorem rasState_btbPrediction :
    (b.btbPrediction ip branchType).2.rasState =
      (if branchType = BRANCH_DIRECT_CALL ∨ branchType = BRANCH_INDIRECT_CALL then b.pushRas ip
        else b).rasState := by
  unfold btbPrediction
  dsimp only
  split
  · rfl
  · split
    · rfl
    · exact rasState_predictEntry

theorem btbPrediction_of_return (hret : branchType = BRANCH_RETURN) :
    b.btbPrediction ip branchType = ((b.peekRas + b.getCallSize b.peekRas, 1), b) := by
  subst hret
  rfl

@[simp] theorem rasState_trainTables :
    (b.trainTables ip branchTarget taken branchType).rasState = b.rasState := by
  unfold trainTables
  dsimp only
  split_ifs <;> rfl

@[simp] theorem rasState_trainEntry : (b.trainEntry ip branchTarget taken).rasState = b.rasState := by
  unfold trainEntry
  split
  · split <;> rfl
  · rfl

theorem rasState_recalibrate : (b.recalibrate branchTarget).rasState = b.popRas.2.rasState := by
  unfold recalibrate
  dsimp only
  split <;> rfl

theorem popRas_congr (hb : b'.rasState = b.rasState) :
    b'.popRas.1 = b.popRas.1 ∧ b'.popRas.2.rasState = b.popRas.2.rasState := by
  obtain ⟨hras, hidx⟩ := Prod.mk.inj hb
  constructor
  · show b'.ras b'.rasIndex.toNat = b.ras b.rasIndex.toNat
    rw [hras, hidx]
  · show (Function.update b'.ras b'.rasIndex.toNat 0, prevIndex b'.rasIndex) =
      (Function.update b.ras b.rasIndex.toNat 0, prevIndex b.rasIndex)
    rw [hras, hidx]

theorem rasState_updateBtb :
    (b.updateBtb ip branchTarget taken branchType).rasState =
      (if branchType = BRANCH_RETURN then b.popRas.2 else b).rasState := by
  unfold updateBtb
  dsimp only
  split
  · rw [rasState_recalibrate]
    exact (popRas_congr rasState_trainTables).2
  · split
    · simp
    · simp

/-! ### Last in, first out -/

theorem RasHolds.branchStep (h : b.RasHolds S) (br : Branch)
    (hfit : (unmatchedStep S br).length ≤ BASIC_BTB_RAS_SIZE) :
    (b.branchStep br).2.RasHolds (unmatchedStep S br) := by
  have hstate : (b.branchStep br).2.rasState =
      (if br.branchType = BRANCH_RETURN then (b.btbPrediction br.ip br.branchType).2.popRas.2
        else (b.btbPrediction br.ip br.branchType).2).rasState :=
    rasState_updateBtb
  unfold unmatchedStep at hfit ⊢
  by_cases hcall : br.branchType = BRANCH_DIRECT_CALL ∨ br.branchType = BRANCH_INDIRECT_CALL
  · -- a call: the prediction pushes its `ip`, and the update leaves the RAS alone
    have hret : br.branchType ≠ BRANCH_RETURN := by
      rcases hcall with hc | hc <;> rw [hc] <;> decide
    rw [if_pos hcall] at hfit ⊢
    rw [if_neg hret, rasState_btbPrediction, if_pos hcall] at hstate
    have hroom : S.length < BASIC_BTB_RAS_SIZE := by
      rw [List.length_cons] at hfit
      omega
    exact (h.pushRas hroom br.ip).of_rasState hstate
  · rw [if_neg hcall] at hfit ⊢
    by_cases hret : br.branchType = BRANCH_RETURN
    · -- a return: the prediction only reads the RAS, and the update pops it
      rw [if_pos hret] at hfit ⊢
      rw [if_pos hret, btbPrediction_of_return hret] at hstate
      cases S with
      | nil => exact (RasHolds.popRas_nil b).of_rasState hstate
      | cons c S => exact h.popRas.2.of_rasState hstate
    · rw [if_neg hret] at hfit ⊢
      rw [if_neg hret, rasState_btbPrediction, if_neg hcall] at hstate
      exact h.of_rasState hstate

theorem RasHolds.run (h : b.RasHolds S) (bs : List Branch)
    (hfit : ∀ n ≤ bs.length, (unmatchedFrom S (bs.take n)).length ≤ BASIC_BTB_RAS_SIZE) :
    (b.run bs).RasHolds (unmatchedFrom S bs) := by
  induction bs generalizing b S with
  | nil => exact h
  | cons br bs ih =>
    have hstep := h.branchStep br (hfit 1 (by simp))
    exact ih hstep fun n hn => hfit (n + 1) (by simpa using hn)

/-- The basic BTB's RAS is last in, first out: on any branches, in program order from
`initialize_btb`, whose calls not yet matched by a return never exceed `BASIC_BTB_RAS_SIZE`,
the target predicted for a return is the `ip` of the innermost unmatched call plus the call
size tracked for it, and the pop of the return's `update_btb` reads that `ip`. -/
theorem ras_lifo (bs : List Branch)
    (hfit : ∀ n ≤ bs.length, (unmatched (bs.take n)).length ≤ BASIC_BTB_RAS_SIZE)
    {j : Nat} (hj : j < bs.length) (hret : bs[j].branchType = BRANCH_RETURN) {ipc : UInt64}
    (hc : (unmatched (bs.take j)).head? = some ipc) :
    ((initializeBtb.run (bs.take j)).btbPrediction bs[j].ip bs[j].branchType).1.1 =
        ipc + (initializeBtb.run (bs.take j)).callInstrSizes (callSizeTrackerHash ipc) ∧
      (((initializeBtb.run (bs.take j)).btbPrediction bs[j].ip bs[j].branchType).2.trainTables
        bs[j].ip bs[j].branchTarget bs[j].taken bs[j].branchType).popRas.1 = ipc := by
  have hpre : (initializeBtb.run (bs.take j)).RasHolds (unmatched (bs.take j)) := by
    refine rasHolds_initializeBtb.run (bs.take j) fun n hn => ?_
    rw [List.take_take]
    exact hfit (min n j) (by omega)
  obtain ⟨rest, hS⟩ : ∃ rest, unmatched (bs.take j) = ipc :: rest := by
    cases hu : unmatched (bs.take j) with
    | nil => simp [hu] at hc
    | cons c rest =>
      rw [hu, List.head?_cons, Option.some.injEq] at hc
      exact ⟨rest, by rw [hc]⟩
  rw [hS] at hpre
  rw [btbPrediction_of_return hret]
  refine ⟨by rw [hpre.peekRas]; rfl, ?_⟩
  rw [(popRas_congr rasState_trainTables).1]
  exact hpre.popRas.1

/-! ### One entry for each branch

`update_btb` allocates an entry for a branch only when `find_entry` finds none in the branch's
set, so no two ways of a set hold one branch, and each entry lies in the set of its branch.
Tag `0` is the tag of the empty ways, which a branch at address `0` shares. -/

structure TagsOk (b : BasicBtb) : Prop where
  unique : ∀ set w w', w < BASIC_BTB_WAYS → w' < BASIC_BTB_WAYS → w ≠ w' →
    (b.btb set w).ipTag = (b.btb set w').ipTag → (b.btb set w).ipTag = 0
  own_set : ∀ set w, w < BASIC_BTB_WAYS → (b.btb set w).ipTag ≠ 0 → setIndex (b.btb set w).ipTag = set

theorem TagsOk.congr (h : b.TagsOk) (ht : ∀ set w, (b'.btb set w).ipTag = (b.btb set w).ipTag) :
    b'.TagsOk where
  unique set w w' hw hw' hne he := by
    rw [ht, ht] at he
    rw [ht]
    exact h.unique set w w' hw hw' hne he
  own_set set w hw hne := by
    rw [ht] at hne ⊢
    exact h.own_set set w hw hne

theorem btb_setEntry (set way : Nat) (e : BasicBtbEntry) (s w : Nat) :
    (b.setEntry set way e).btb s w = if s = set ∧ w = way then e else b.btb s w := by
  unfold setEntry
  by_cases hs : s = set
  · subst hs
    by_cases hw : w = way
    · subst hw
      simp
    · simp [hw]
  · simp [hs]

@[simp] theorem ipTag_updateLru (set way s w : Nat) :
    ((b.updateLru set way).btb s w).ipTag = (b.btb s w).ipTag := by
  rw [updateLru, btb_setEntry]
  split
  · next h => rw [h.1, h.2]
  · rfl

theorem ipTag_btbPrediction (s w : Nat) :
    ((b.btbPrediction ip branchType).2.btb s w).ipTag = (b.btb s w).ipTag := by
  have hpush : (if branchType = BRANCH_DIRECT_CALL ∨ branchType = BRANCH_INDIRECT_CALL then b.pushRas ip
      else b).btb = b.btb := by
    split <;> rfl
  unfold btbPrediction predictEntry
  dsimp only
  split
  · rw [hpush]
  · split
    · rw [hpush]
    · split
      · rw [hpush]
      · rw [ipTag_updateLru, hpush]

@[simp] theorem btb_trainTables : (b.trainTables ip branchTarget taken branchType).btb = b.btb := by
  unfold trainTables
  dsimp only
  split_ifs <;> rfl

@[simp] theorem btb_recalibrate : (b.recalibrate branchTarget).btb = b.btb := by
  unfold recalibrate
  dsimp only
  split <;> rfl

theorem ipTag_ne_of_findEntry (h : b.findEntry ip = none) {w : Nat} (hw : w < BASIC_BTB_WAYS) :
    (b.btb (setIndex ip) w).ipTag ≠ ip := by
  have hnot := List.find?_eq_none.mp h w (List.mem_range.mpr hw)
  simpa using hnot

theorem TagsOk.allocate (h : b.TagsOk) (hnone : b.findEntry ip = none) (e : BasicBtbEntry) (he : e.ipTag = ip) :
    ((b.setEntry (setIndex ip) (b.getLruEntry (setIndex ip)) e).updateLru (setIndex ip)
      (b.getLruEntry (setIndex ip))).TagsOk := by
  have htag : ∀ s w, (((b.setEntry (setIndex ip) (b.getLruEntry (setIndex ip)) e).updateLru (setIndex ip)
      (b.getLruEntry (setIndex ip))).btb s w).ipTag =
        if s = setIndex ip ∧ w = b.getLruEntry (setIndex ip) then ip else (b.btb s w).ipTag := by
    intro s w
    rw [ipTag_updateLru, btb_setEntry]
    split <;> simp [he]
  constructor
  · intro set w w' hw hw' hne heq
    rw [htag, htag] at heq
    rw [htag]
    split_ifs at heq ⊢ with h₁ h₂ h₂
    · exact absurd (h₁.2.trans h₂.2.symm) hne
    · exact absurd heq.symm (h₁.1 ▸ ipTag_ne_of_findEntry hnone hw')
    · exact absurd heq (h₂.1 ▸ ipTag_ne_of_findEntry hnone hw)
    · exact h.unique set w w' hw hw' hne heq
  · intro set w hw hne
    rw [htag] at hne ⊢
    split_ifs at hne ⊢ with h₁
    · exact h₁.1.symm
    · exact h.own_set set w hw hne

theorem TagsOk.trainEntry (h : b.TagsOk) : (b.trainEntry ip branchTarget taken).TagsOk := by
  unfold BasicBtb.trainEntry
  split
  · next hnone =>
    split
    · exact h.allocate hnone _ rfl
    · exact h
  · -- a retarget keeps the tag
    refine h.congr fun s w => ?_
    rw [btb_setEntry]
    split
    · next hsw => rw [hsw.1, hsw.2]
    · rfl

theorem TagsOk.updateBtb (h : b.TagsOk) : (b.updateBtb ip branchTarget taken branchType).TagsOk := by
  have ht : (b.trainTables ip branchTarget taken branchType).TagsOk := h.congr fun _ _ => by rw [btb_trainTables]
  unfold BasicBtb.updateBtb
  dsimp only
  split
  · exact ht.congr fun _ _ => by rw [btb_recalibrate]
  · split
    · exact ht.trainEntry
    · exact ht

theorem TagsOk.run (h : b.TagsOk) (bs : List Branch) : (b.run bs).TagsOk := by
  induction bs generalizing b with
  | nil => exact h
  | cons br bs ih => exact ih ((h.congr fun _ _ => ipTag_btbPrediction _ _).updateBtb)

theorem tagsOk_initializeBtb : initializeBtb.TagsOk where
  unique _ _ _ _ _ _ _ := rfl
  own_set _ _ _ hne := absurd rfl hne

/-- Along any branches from `initialize_btb`, no two ways of a set hold the same branch and each
entry lies in its branch's set; so `find_entry` finds for a branch the one way that holds it. -/
theorem btb_oneEntryPerBranch (bs : List Branch) :
    (initializeBtb.run bs).TagsOk ∧
      ∀ ip w, ip ≠ 0 → w < BASIC_BTB_WAYS → ((initializeBtb.run bs).btb (setIndex ip) w).ipTag = ip →
        (initializeBtb.run bs).findEntry ip = some w := by
  have h := tagsOk_initializeBtb.run bs
  refine ⟨h, fun ip w hip hw htag => ?_⟩
  have hsome : ((initializeBtb.run bs).findEntry ip).isSome :=
    List.find?_isSome.mpr ⟨w, List.mem_range.mpr hw, by simpa using htag⟩
  obtain ⟨w', hw'⟩ := Option.isSome_iff_exists.mp hsome
  have hlt : w' < BASIC_BTB_WAYS := List.mem_range.mp (List.mem_of_find?_eq_some hw')
  have htag' : ((initializeBtb.run bs).btb (setIndex ip) w').ipTag = ip := by
    simpa using List.find?_some hw'
  -- two ways holding the branch would both hold tag `0`
  by_contra hne
  have hww : w' ≠ w := fun he => hne (he ▸ hw')
  exact hip (htag' ▸ h.unique _ w' w hlt hw hww (htag'.trans htag.symm))

end BasicBtb

/-! ### The BTB in the core -/

/-- The branch `init_instruction` hands to the BTB for an instruction. -/
def BasicBtb.Branch.ofInstr (instr : OooModelInstr) : BasicBtb.Branch :=
  ⟨instr.ip.toUInt64, instr.branchTarget.toUInt64, instr.branchTaken, instr.branchType⟩

/-- The core's predictor modules with the basic BTB as the target predictor, beside the other
modules of `bp` on their own state. -/
def BranchPredictor.withBasicBtb {σ : Type} (bp : BranchPredictor σ) :
    BranchPredictor (BasicBtb × σ) where
  btbPrediction p ip branchType :=
    let r := p.1.btbPrediction ip.toUInt64 branchType
    ((r.1.1.toNat, r.1.2), (r.2, p.2))
  predictBranch p ip target alwaysTaken branchType :=
    let r := bp.predictBranch p.2 ip target alwaysTaken branchType
    (r.1, (p.1, r.2))
  prefetcherBranchOperate p ip branchType target :=
    (p.1, bp.prefetcherBranchOperate p.2 ip branchType target)
  updateBtb p ip target taken branchType :=
    (p.1.updateBtb ip.toUInt64 target.toUInt64 taken branchType, p.2)
  lastBranchResult p ip target taken branchType :=
    (p.1, bp.lastBranchResult p.2 ip target taken branchType)

def callReturn : List BasicBtb.Branch :=
  [⟨0x401000, 0x402000, true, BRANCH_DIRECT_CALL⟩, ⟨0x402010, 0x401004, true, BRANCH_RETURN⟩]

/-- The return after the call is predicted at the call's `ip` plus the initial call size `4`,
and its update pops the call. -/
theorem ras_lifo_callReturn :
    ((BasicBtb.initializeBtb.run (callReturn.take 1)).btbPrediction 0x402010 BRANCH_RETURN).1.1 =
        0x401000 + (BasicBtb.initializeBtb.run (callReturn.take 1)).callInstrSizes
          (BasicBtb.callSizeTrackerHash 0x401000) ∧
      (((BasicBtb.initializeBtb.run (callReturn.take 1)).btbPrediction 0x402010
        BRANCH_RETURN).2.trainTables 0x402010 0x401004 true BRANCH_RETURN).popRas.1 = 0x401000 :=
  BasicBtb.ras_lifo callReturn (by decide) (j := 1) (by decide) (by decide) (by decide)

end MindPalace.ChampSim
