import MindPalace.ChampSim.CircularBuffer
import MindPalace.ChampSim.TraceReader

/-! # Decoding at fetch

`O3_CPU::init_instruction` (`src/ooo_cpu.cc`) counts an instruction's operands, classifies a
branch through a chain of register-pattern tests and pushes it into `IFETCH_BUFFER`. The pattern
the QEMU reader writes for `QEMU_OPTYPE_OTHERS` is also that of a direct jump, which the chain
tests first.
-/

namespace MindPalace.ChampSim

structure RegisterUse where
  readsSp : Bool := false
  writesSp : Bool := false
  readsFlags : Bool := false
  readsIp : Bool := false
  writesIp : Bool := false
  readsOther : Bool := false
  deriving DecidableEq, Repr

namespace RegisterUse

def destination (u : RegisterUse) (reg : UInt8) : RegisterUse :=
  if reg = 0 then u
  else if reg = REG_STACK_POINTER then { u with writesSp := true }
  else if reg = REG_INSTRUCTION_POINTER then { u with writesIp := true }
  else u

def source (u : RegisterUse) (reg : UInt8) : RegisterUse :=
  if reg = 0 then u
  else if reg = REG_STACK_POINTER then { u with readsSp := true }
  else if reg = REG_FLAGS then { u with readsFlags := true }
  else if reg = REG_INSTRUCTION_POINTER then { u with readsIp := true }
  else { u with readsOther := true }

end RegisterUse

/-- The destination slots the loops of `init_instruction` visit. -/
def destinationSlots : List (Fin NUM_INSTR_DESTINATIONS_SPARC) :=
  (List.finRange NUM_INSTR_DESTINATIONS_SPARC).take MAX_INSTR_DESTINATIONS

def sourceSlots : List (Fin NUM_INSTR_SOURCES) :=
  List.finRange NUM_INSTR_SOURCES

/-- The body of the two operand loops: the register's `switch` and the two operand counts. -/
def scanOperand (switch : RegisterUse → UInt8 → RegisterUse) (reg : UInt8) (mem : Nat)
    (s : RegisterUse × OooModelInstr) : RegisterUse × OooModelInstr :=
  let (u, instr) := s
  let instr := if reg ≠ 0 then { instr with numRegOps := instr.numRegOps + 1 } else instr
  let instr := if mem ≠ 0 then { instr with numMemOps := instr.numMemOps + 1 } else instr
  (switch u reg, instr)

def scanOperands (instr : OooModelInstr) : RegisterUse × OooModelInstr :=
  let s := destinationSlots.foldl (fun s i =>
    scanOperand RegisterUse.destination (getElem instr.destinationRegisters i i.isLt)
      (getElem instr.destinationMemory i i.isLt) s) ({}, instr)
  sourceSlots.foldl (fun s i =>
    scanOperand RegisterUse.source (getElem instr.sourceRegisters i i.isLt)
      (getElem instr.sourceMemory i i.isLt) s) s

def storeOperands (instr : OooModelInstr) : Nat :=
  (destinationSlots.filter fun i => getElem instr.destinationMemory i i.isLt ≠ 0).length

/-- The `STA` pushes of the destination loop, each after its `SANITY_CHECK` assertion;
`none` is a failed assertion. -/
def pushSta (capacity id : Nat) : Nat → List Nat → Option (List Nat)
  | 0, sta => some sta
  | k + 1, sta => if sta.length < capacity then pushSta capacity id k (sta ++ [id]) else none

/-- The classification chain; the first pattern that matches wins. -/
def classifyBranch (u : RegisterUse) (instr : OooModelInstr) : OooModelInstr :=
  if !u.readsSp && !u.readsFlags && u.writesIp && !u.readsOther then
    { instr with isBranch := true, branchTaken := true, branchType := BRANCH_DIRECT_JUMP }
  else if !u.readsSp && !u.readsFlags && u.writesIp && u.readsOther then
    { instr with isBranch := true, branchTaken := true, branchType := BRANCH_INDIRECT }
  else if !u.readsSp && u.readsIp && !u.writesSp && u.writesIp && u.readsFlags &&
      !u.readsOther then
    { instr with isBranch := true, branchType := BRANCH_CONDITIONAL }
  else if u.readsSp && u.readsIp && u.writesSp && u.writesIp && !u.readsFlags &&
      !u.readsOther then
    { instr with isBranch := true, branchTaken := true, branchType := BRANCH_DIRECT_CALL }
  else if u.readsSp && u.readsIp && u.writesSp && u.writesIp && !u.readsFlags &&
      u.readsOther then
    { instr with isBranch := true, branchTaken := true, branchType := BRANCH_INDIRECT_CALL }
  else if u.readsSp && !u.readsIp && u.writesSp && u.writesIp then
    { instr with isBranch := true, branchTaken := true, branchType := BRANCH_RETURN }
  else if u.writesIp then
    { instr with isBranch := true, branchType := BRANCH_OTHER }
  else instr

/-- A branch target is kept only for a taken branch. -/
def clearBranchTarget (instr : OooModelInstr) : OooModelInstr :=
  if !instr.isBranch || !instr.branchTaken then { instr with branchTarget := 0 } else instr

/-- Stack-pointer folding: drop the stack pointer from the destinations when its new value
is known at decode. -/
def foldStackPointer (u : RegisterUse) (instr : OooModelInstr) : OooModelInstr :=
  if u.writesSp && (instr.isBranch || decide (0 < instr.numMemOps) || !u.readsOther) then
    destinationSlots.foldl (fun instr (i : Fin NUM_INSTR_DESTINATIONS_SPARC) =>
      if getElem instr.destinationRegisters i i.isLt = REG_STACK_POINTER then
        { instr with destinationRegisters := instr.destinationRegisters.set i 0 i.isLt,
                     numRegOps := instr.numRegOps - 1 }
      else instr) instr
  else instr

/-- The decode part of `init_instruction`, up to the branch predictor. -/
def decodeInstr (archInstr : OooModelInstr) : OooModelInstr :=
  let (u, instr) := scanOperands archInstr
  let instr := if 0 < instr.numMemOps then { instr with isMemory := true } else instr
  foldStackPointer u (clearBranchTarget (classifyBranch u instr))

/-- The branch-predictor and BTB modules `init_instruction` calls, over their state `σ`. -/
structure BranchPredictor (σ : Type) where
  /-- `impl_btb_prediction(ip, type)`: the predicted target and `always_taken`. -/
  btbPrediction : σ → Nat → UInt8 → (Nat × UInt8) × σ
  /-- `impl_predict_branch(ip, target, always_taken, type)`. -/
  predictBranch : σ → Nat → Nat → UInt8 → UInt8 → UInt8 × σ
  /-- `impl_prefetcher_branch_operate(ip, type, target)`. -/
  prefetcherBranchOperate : σ → Nat → UInt8 → Nat → σ
  /-- `impl_update_btb(ip, target, taken, type)`. -/
  updateBtb : σ → Nat → Nat → Bool → UInt8 → σ
  /-- `impl_last_branch_result(ip, target, taken, type)`. -/
  lastBranchResult : σ → Nat → Nat → Bool → UInt8 → σ

/-- The members of `O3_CPU` that `init_instruction` reads and writes, with the state of its
predictor modules. -/
structure O3Cpu (σ : Type) where
  instrsToReadThisCycle : Nat
  instrUniqueId : Nat
  /-- `STA`, front first. -/
  sta : List Nat
  /-- The `ROB`, of which only the size and the occupancy are read here. -/
  rob : CircularBuffer OooModelInstr
  ifetchBuffer : CircularBuffer OooModelInstr
  fetchStall : Bool
  numBranch : Nat
  branchMispredictions : Nat
  totalRobOccupancyAtBranchMispredict : Nat
  totalBranchTypes : Vector Nat 8
  branchTypeMisses : Vector Nat 8
  currentCycle : Nat
  /-- `warmup_complete[cpu]`. -/
  warmupComplete : Bool
  predictor : σ

namespace O3Cpu

variable {σ : Type}

/-- `counts[type]++` on an array of eight counters; `none` is an index out of bounds. -/
def bumpCount (counts : Vector Nat 8) (type : UInt8) : Option (Vector Nat 8) :=
  if h : type.toNat < 8 then some (counts.set type.toNat (counts[type.toNat] + 1)) else none

/-- The `if (arch_instr.is_branch)` block: predict, count a misprediction, stall the fetch
after one once warmed up, and train the predictor with the outcome. -/
def predictStep (bp : BranchPredictor σ) (cpu : O3Cpu σ) (instr : OooModelInstr) :
    Option (O3Cpu σ × OooModelInstr) := do
  let cpu := { cpu with numBranch := cpu.numBranch + 1 }
  let ((target, alwaysTaken), p) := bp.btbPrediction cpu.predictor instr.ip instr.branchType
  let (prediction, p) := bp.predictBranch p instr.ip target alwaysTaken instr.branchType
  let target := if prediction = 0 ∧ alwaysTaken = 0 then 0 else target
  let p := bp.prefetcherBranchOperate p instr.ip instr.branchType target
  -- `branch_prediction != arch_instr.branch_taken` compares a byte with a `bool`
  let (cpu, instr) ← if prediction ≠ (if instr.branchTaken then 1 else 0) then do
      let misses ← bumpCount cpu.branchTypeMisses instr.branchType
      let cpu := { cpu with
        branchMispredictions := cpu.branchMispredictions + 1
        totalRobOccupancyAtBranchMispredict :=
          cpu.totalRobOccupancyAtBranchMispredict + cpu.rob.occupancy
        branchTypeMisses := misses }
      pure (if cpu.warmupComplete then
          ({ cpu with fetchStall := true, instrsToReadThisCycle := 0 },
            { instr with branchMispredicted := true })
        else (cpu, instr))
    else pure (if instr.branchTaken then { cpu with instrsToReadThisCycle := 0 } else cpu, instr)
  let p := bp.updateBtb p instr.ip instr.branchTarget instr.branchTaken instr.branchType
  let p := bp.lastBranchResult p instr.ip instr.branchTarget instr.branchTaken instr.branchType
  pure ({ cpu with predictor := p }, instr)

/-- Fast warmup: no register dependences before the warmup is complete. -/
def clearRegisters (instr : OooModelInstr) : OooModelInstr :=
  { instr with
    sourceRegisters :=
      sourceSlots.foldl (fun v (i : Fin NUM_INSTR_SOURCES) => v.set i 0 i.isLt)
        instr.sourceRegisters
    destinationRegisters :=
      destinationSlots.foldl (fun v (i : Fin NUM_INSTR_DESTINATIONS_SPARC) => v.set i 0 i.isLt)
        instr.destinationRegisters
    numRegOps := 0 }

/-- What `init_instruction` does to the instruction after the predictor: the event cycle,
and the registers cleared before the warmup is complete. -/
def stamp (cpu : O3Cpu σ) (instr : OooModelInstr) : OooModelInstr :=
  let instr := { instr with eventCycle := cpu.currentCycle }
  if cpu.warmupComplete then instr else clearRegisters instr

/-- `O3_CPU::init_instruction`; `none` is a failed assertion or an index out of bounds. The
caller calls it only while `instrs_to_read_this_cycle` is positive. -/
def initInstruction (bp : BranchPredictor σ) (cpu : O3Cpu σ) (archInstr : OooModelInstr) :
    Option (O3Cpu σ) := do
  let cpu := { cpu with instrsToReadThisCycle := cpu.instrsToReadThisCycle - 1 }
  let archInstr := { archInstr with instrId := cpu.instrUniqueId }
  -- the `STA` pushes happen inside the destination loop, whose other effects do not read `STA`
  let sta ← pushSta (cpu.rob.sz * NUM_INSTR_DESTINATIONS_SPARC) cpu.instrUniqueId
    (storeOperands archInstr) cpu.sta
  let instr := decodeInstr archInstr
  let totalBranchTypes ← bumpCount cpu.totalBranchTypes instr.branchType
  let cpu := { cpu with sta, totalBranchTypes }
  let (cpu, instr) ← if instr.isBranch then predictStep bp cpu instr else pure (cpu, instr)
  let ifetchBuffer ← cpu.ifetchBuffer.pushBack (cpu.stamp instr)
  pure { cpu with ifetchBuffer, instrUniqueId := cpu.instrUniqueId + 1 }

theorem predictor_predictStep {bp : BranchPredictor σ} {cpu cpu' : O3Cpu σ}
    {instr instr' : OooModelInstr} (h : predictStep bp cpu instr = some (cpu', instr')) :
    cpu'.predictor =
      let r := bp.btbPrediction cpu.predictor instr.ip instr.branchType
      let q := bp.predictBranch r.2 instr.ip r.1.1 r.1.2 instr.branchType
      let target := if q.1 = 0 ∧ r.1.2 = 0 then 0 else r.1.1
      bp.lastBranchResult
        (bp.updateBtb (bp.prefetcherBranchOperate q.2 instr.ip instr.branchType target) instr.ip
          instr.branchTarget instr.branchTaken instr.branchType)
        instr.ip instr.branchTarget instr.branchTaken instr.branchType := by
  unfold predictStep at h
  rcases hr : bp.btbPrediction cpu.predictor instr.ip instr.branchType with
    ⟨⟨target, alwaysTaken⟩, p⟩
  rcases hq : bp.predictBranch p instr.ip target alwaysTaken instr.branchType with ⟨prediction, p'⟩
  simp only [hr, hq] at h ⊢
  by_cases hm : prediction ≠ (if instr.branchTaken then 1 else 0)
  · -- a misprediction is counted, and marked on the instruction once warmed up
    rw [if_pos hm] at h
    obtain ⟨misses, -, h⟩ := Option.bind_eq_some_iff.mp h
    by_cases hw : cpu.warmupComplete = true
    · simp only [hw, if_true, pure] at h
      obtain ⟨rfl, rfl⟩ := Prod.mk.inj (Option.some.inj h)
      rfl
    · simp only [hw, pure] at h
      obtain ⟨rfl, rfl⟩ := Prod.mk.inj (Option.some.inj h)
      rfl
  · rw [if_neg hm] at h
    simp only [pure] at h
    obtain ⟨rfl, rfl⟩ := Prod.mk.inj (Option.some.inj h)
    rfl

end O3Cpu

/-! ### What the decode step keeps -/

def OooModelInstr.branchInfo (i : OooModelInstr) : Bool × UInt8 × Bool :=
  (i.isBranch, i.branchType, i.branchTaken)

def registerUse (dst : Vector UInt8 NUM_INSTR_DESTINATIONS_SPARC)
    (src : Vector UInt8 NUM_INSTR_SOURCES) : RegisterUse :=
  sourceSlots.foldl (fun u k => u.source (getElem src k k.isLt))
    (destinationSlots.foldl (fun u k => u.destination (getElem dst k k.isLt)) {})

theorem branchInfo_scanOperand (sw : RegisterUse → UInt8 → RegisterUse) (reg : UInt8)
    (mem : Nat) (s : RegisterUse × OooModelInstr) :
    (scanOperand sw reg mem s).2.branchInfo = s.2.branchInfo := by
  unfold scanOperand
  split_ifs <;> rfl

theorem foldl_scanOperand {ι : Type} (sw : RegisterUse → UInt8 → RegisterUse) (reg : ι → UInt8)
    (mem : ι → Nat) (l : List ι) (s : RegisterUse × OooModelInstr) :
    (l.foldl (fun s i => scanOperand sw (reg i) (mem i) s) s).1 =
        l.foldl (fun u i => sw u (reg i)) s.1 ∧
      (l.foldl (fun s i => scanOperand sw (reg i) (mem i) s) s).2.branchInfo = s.2.branchInfo := by
  induction l generalizing s with
  | nil => exact ⟨rfl, rfl⟩
  | cons i l ih =>
    obtain ⟨h₁, h₂⟩ := ih (scanOperand sw (reg i) (mem i) s)
    exact ⟨h₁, h₂.trans (branchInfo_scanOperand ..)⟩

theorem scanOperands_fst (i : OooModelInstr) :
    (scanOperands i).1 = registerUse i.destinationRegisters i.sourceRegisters := by
  simp only [scanOperands, registerUse, (foldl_scanOperand ..).1]

theorem branchInfo_scanOperands (i : OooModelInstr) :
    (scanOperands i).2.branchInfo = i.branchInfo := by
  simp only [scanOperands, (foldl_scanOperand ..).2]

theorem branchInfo_clearBranchTarget (i : OooModelInstr) :
    (clearBranchTarget i).branchInfo = i.branchInfo := by
  unfold clearBranchTarget
  split_ifs <;> rfl

theorem branchInfo_foldStackPointer (u : RegisterUse) (i : OooModelInstr) :
    (foldStackPointer u i).branchInfo = i.branchInfo := by
  unfold foldStackPointer
  split_ifs with h
  · -- each slot the loop visits keeps the branch fields
    clear h
    generalize destinationSlots = l
    induction l generalizing i with
    | nil => rfl
    | cons k l ih =>
      rw [List.foldl_cons, ih]
      split_ifs <;> rfl
  · rfl

theorem branchInfo_classifyBranch_congr (u : RegisterUse) {i j : OooModelInstr}
    (h : i.branchInfo = j.branchInfo) :
    (classifyBranch u i).branchInfo = (classifyBranch u j).branchInfo := by
  simp only [OooModelInstr.branchInfo, Prod.mk.injEq] at h
  obtain ⟨hb, ht, hk⟩ := h
  unfold classifyBranch
  split_ifs <;> simp [OooModelInstr.branchInfo, hb, ht, hk]

theorem branchInfo_decodeInstr (i : OooModelInstr) :
    (decodeInstr i).branchInfo =
      (classifyBranch (registerUse i.destinationRegisters i.sourceRegisters) i).branchInfo := by
  have hscan := branchInfo_scanOperands i
  rw [decodeInstr, ← scanOperands_fst]
  generalize scanOperands i = s at hscan ⊢
  obtain ⟨u, j⟩ := s
  simp only [branchInfo_foldStackPointer, branchInfo_clearBranchTarget]
  apply branchInfo_classifyBranch_congr
  split_ifs
  · exact hscan
  · exact hscan

theorem branchInfo_decode_translateBranch (last : OooModelInstr)
    (hd : last.destinationRegisters = Vector.replicate _ 0)
    (hs : last.sourceRegisters = Vector.replicate _ 0) (nextIp : Nat) :
    (decodeInstr (translateBranch last nextIp)).branchInfo =
      if QemuOpType.ofNat? last.branchType.toNat = some .others then
        (true, BRANCH_DIRECT_JUMP, true)
      else (translateBranch last nextIp).branchInfo := by
  rw [branchInfo_decodeInstr]
  unfold translateBranch
  rcases hk : QemuOpType.ofNat? last.branchType.toNat with _ | k
  · simp +decide [classifyBranch, OooModelInstr.branchInfo, hd, hs]
  · cases k <;> simp +decide [classifyBranch, OooModelInstr.branchInfo, hd, hs]

namespace O3Cpu

variable {σ : Type}

theorem pushSta_some (capacity id : Nat) :
    ∀ (k : Nat) (sta : List Nat), sta.length + k ≤ capacity →
      ∃ sta', pushSta capacity id k sta = some sta'
  | 0, sta, _ => ⟨sta, rfl⟩
  | k + 1, sta, h => by
    rw [pushSta, if_pos (by omega)]
    exact pushSta_some capacity id k _ (by simp; omega)

theorem bumpCount_some (counts : Vector Nat 8) {type : UInt8} (h : type.toNat < 8) :
    ∃ counts', bumpCount counts type = some counts' :=
  ⟨_, dif_pos h⟩

theorem predictStep_some (bp : BranchPredictor σ) (cpu : O3Cpu σ) {instr : OooModelInstr}
    (h : instr.branchType.toNat < 8) :
    ∃ cpu' m, predictStep bp cpu instr = some (cpu', { instr with branchMispredicted := m }) ∧
      cpu'.ifetchBuffer = cpu.ifetchBuffer ∧ cpu'.currentCycle = cpu.currentCycle ∧
      cpu'.warmupComplete = cpu.warmupComplete := by
  obtain ⟨misses, hm⟩ := bumpCount_some cpu.branchTypeMisses h
  simp only [predictStep, hm]
  split_ifs
  all_goals exact ⟨_, _, rfl, rfl, rfl, rfl⟩

theorem branchInfo_stamp (cpu : O3Cpu σ) (instr : OooModelInstr) :
    (cpu.stamp instr).branchInfo = instr.branchInfo := by
  unfold stamp
  split_ifs <;> rfl

theorem branchInfo_decodeInstr_instrId (a : OooModelInstr) (n : Nat) :
    (decodeInstr { a with instrId := n }).branchInfo = (decodeInstr a).branchInfo := by
  rw [branchInfo_decodeInstr, branchInfo_decodeInstr]
  exact branchInfo_classifyBranch_congr _ rfl

theorem initInstruction_pushes (bp : BranchPredictor σ) (cpu : O3Cpu σ) (a : OooModelInstr)
    (hsta : cpu.sta.length + storeOperands a ≤ cpu.rob.sz * NUM_INSTR_DESTINATIONS_SPARC)
    (htype : (decodeInstr a).branchType.toNat < 8) (hfree : cpu.ifetchBuffer.full = false) :
    ∃ cpu', initInstruction bp cpu a = some cpu' ∧
      cpu'.ifetchBuffer.back.branchInfo = (decodeInstr a).branchInfo := by
  have hinfo := branchInfo_decodeInstr_instrId a cpu.instrUniqueId
  generalize hd : decodeInstr { a with instrId := cpu.instrUniqueId } = instr at hinfo
  have htype' : instr.branchType.toNat < 8 := by
    have := congrArg (·.2.1) hinfo
    simp only [OooModelInstr.branchInfo] at this
    rwa [this]
  obtain ⟨sta, hs⟩ := pushSta_some (cpu.rob.sz * NUM_INSTR_DESTINATIONS_SPARC) cpu.instrUniqueId
    (storeOperands a) cpu.sta hsta
  obtain ⟨types, ht⟩ := bumpCount_some cpu.totalBranchTypes htype'
  have hs' : pushSta (cpu.rob.sz * NUM_INSTR_DESTINATIONS_SPARC) cpu.instrUniqueId
      (storeOperands { a with instrId := cpu.instrUniqueId }) cpu.sta = some sta := hs
  simp only [initInstruction, hs', hd, ht, Option.bind_eq_bind, Option.bind_some]
  generalize hc : ({ cpu with instrsToReadThisCycle := cpu.instrsToReadThisCycle - 1
                              sta := sta, totalBranchTypes := types } : O3Cpu σ) = cpu₀
  have hfree₀ : cpu₀.ifetchBuffer.full = false := by rw [← hc]; exact hfree
  split
  · obtain ⟨cpu₁, m, hp, hf, -, -⟩ := predictStep_some bp cpu₀ htype'
    obtain ⟨buf, hb⟩ := cpu₁.ifetchBuffer.pushBack_some
      (cpu₁.stamp { instr with branchMispredicted := m }) (hf ▸ hfree₀)
    refine ⟨_, by rw [hp, Option.bind_some, hb]; rfl, ?_⟩
    rw [CircularBuffer.back_pushBack hb, branchInfo_stamp, ← hinfo]
    rfl
  · obtain ⟨buf, hb⟩ := cpu₀.ifetchBuffer.pushBack_some (cpu₀.stamp instr) hfree₀
    refine ⟨_, by rw [Option.pure_def, Option.bind_some, hb]; rfl, ?_⟩
    rw [CircularBuffer.back_pushBack hb, branchInfo_stamp, ← hinfo]

theorem storeOperands_le_one {i : OooModelInstr} (h : i.destinationMemory[1] = 0) :
    storeOperands i ≤ 1 := by
  have hslots : destinationSlots = [⟨0, by decide⟩, ⟨1, by decide⟩] := by decide
  simp only [storeOperands, hslots, List.filter_cons, List.filter_nil]
  split_ifs <;> simp_all

theorem initInstruction_reader (bp : BranchPredictor σ) (cpu : O3Cpu σ) (b : Block)
    (nextIp : Nat) (hsta : cpu.sta.length < cpu.rob.sz * NUM_INSTR_DESTINATIONS_SPARC)
    (hfree : cpu.ifetchBuffer.full = false) :
    ∃ cpu', cpu.initInstruction bp (translateBranch b.instr nextIp) = some cpu' ∧
      cpu'.ifetchBuffer.back.branchInfo = (decodeInstr (translateBranch b.instr nextIp)).branchInfo := by
  have hdec := branchInfo_decode_translateBranch b.instr b.destinationRegisters_instr
    b.sourceRegisters_instr nextIp
  have hstore : storeOperands (translateBranch b.instr nextIp) ≤ 1 := by
    apply storeOperands_le_one
    rw [destinationMemory_translateBranch]
    exact b.destinationMemory_one_instr
  have htype : (decodeInstr (translateBranch b.instr nextIp)).branchType.toNat < 8 := by
    have h := congrArg (·.2.1) hdec
    simp only [OooModelInstr.branchInfo] at h
    rw [h]
    split
    · decide
    · exact branchType_translateBranch_lt _ _
  exact initInstruction_pushes bp cpu _ (by omega) htype hfree

/-- An `OTHERS` branch from the reader, whatever its target, enters `IFETCH_BUFFER` as an
always-taken direct jump, where `get()` made it a `BRANCH_OTHER` taken only when the next
instruction is at its target. -/
theorem initInstruction_others (bp : BranchPredictor σ) (cpu : O3Cpu σ) (b : Block)
    (nextIp : Nat) (hk : b.insn.brType = 7)
    (hsta : cpu.sta.length < cpu.rob.sz * NUM_INSTR_DESTINATIONS_SPARC)
    (hfree : cpu.ifetchBuffer.full = false) :
    (translateBranch b.instr nextIp).branchInfo =
        (true, BRANCH_OTHER, decide (b.insn.targetVaddr.toNat = nextIp)) ∧
      ∃ cpu', cpu.initInstruction bp (translateBranch b.instr nextIp) = some cpu' ∧
        cpu'.ifetchBuffer.back.branchInfo = (true, BRANCH_DIRECT_JUMP, true) := by
  have hkind : QemuOpType.ofNat? b.instr.branchType.toNat = some .others := by
    rw [Block.branchType_instr, hk]
    rfl
  obtain ⟨cpu', hinit, hback⟩ := initInstruction_reader bp cpu b nextIp hsta hfree
  rw [branchInfo_decode_translateBranch b.instr b.destinationRegisters_instr
    b.sourceRegisters_instr nextIp, if_pos hkind] at hback
  refine ⟨?_, cpu', hinit, hback⟩
  simp only [translateBranch, hkind, OooModelInstr.branchInfo, Block.branchTarget_instr]

/-- A never-taken predictor over no state. -/
def notTaken : BranchPredictor Unit where
  btbPrediction _ _ _ := ((0, 0), ())
  predictBranch _ _ _ _ _ := (0, ())
  prefetcherBranchOperate _ _ _ _ := ()
  updateBtb _ _ _ _ _ := ()
  lastBranchResult _ _ _ _ _ := ()

/-- A core after warmup with empty buffers of four entries. -/
def idle : O3Cpu Unit where
  instrsToReadThisCycle := 4
  instrUniqueId := 0
  sta := []
  rob := .empty 4
  ifetchBuffer := .empty 4
  fetchStall := false
  numBranch := 0
  branchMispredictions := 0
  totalRobOccupancyAtBranchMispredict := 0
  totalBranchTypes := Vector.replicate 8 0
  branchTypeMisses := Vector.replicate 8 0
  currentCycle := 0
  warmupComplete := true
  predictor := ()

/-- An `OTHERS` branch at `0x401000` targeting `0x402000`, followed by the instruction at
`0x401005`. -/
theorem initInstruction_others_fallthrough :
    (translateBranch (Block.instr ⟨⟨1, 0x401000, 0x1000, 0, 0, 7, 0x402000⟩, 0, [], []⟩)
        0x401005).branchInfo = (true, BRANCH_OTHER, decide ((0x402000 : UInt64).toNat = 0x401005)) ∧
      ∃ cpu', idle.initInstruction notTaken
          (translateBranch (Block.instr ⟨⟨1, 0x401000, 0x1000, 0, 0, 7, 0x402000⟩, 0, [], []⟩)
            0x401005) = some cpu' ∧
        cpu'.ifetchBuffer.back.branchInfo = (true, BRANCH_DIRECT_JUMP, true) :=
  initInstruction_others notTaken idle ⟨⟨1, 0x401000, 0x1000, 0, 0, 7, 0x402000⟩, 0, [], []⟩
    0x401005 rfl (by decide) (by decide)

end O3Cpu

end MindPalace.ChampSim
