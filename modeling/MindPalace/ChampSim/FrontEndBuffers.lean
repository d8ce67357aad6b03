import Mathlib
import MindPalace.ChampSim.FrontEnd

/-! # The front end's buffers keep their asserts

Along any run of the front end, `DECODE_BUFFER` and `DISPATCH_BUFFER` stay well formed and
every DIB set keeps its `dib_way` entries. So the loops of `promote_to_decode`,
`decode_instruction` and `dispatch_instruction` always return: those calls fail only by
throwing `champsim::deadlock`.
-/

namespace MindPalace.ChampSim

namespace Dib

variable (cfg : DibConfig)

def SetsSized (d : Dib) : Prop :=
  ∀ set, (d.sets set).length = cfg.dibWay

theorem setsSized_init : SetsSized cfg (init cfg) :=
  fun _ => List.length_replicate

theorem length_enterLine (ways : List DibEntry) (ip : Nat) :
    (enterLine cfg ways ip).1.length = ways.length := by
  unfold enterLine
  dsimp only
  split <;> simp

theorem enterLine_lt {ways : List DibEntry} (hne : ways ≠ []) (ip : Nat) :
    (enterLine cfg ways ip).2 < ways.length := by
  unfold enterLine
  dsimp only
  split
  · exact StdAlgorithm.maxElement_lt _ hne
  · next h => exact Nat.lt_of_le_of_ne List.findIdx_le_length h

variable {cfg}

theorem SetsSized.setSet {d : Dib} (hd : SetsSized cfg d) {set : Nat} {ways : List DibEntry}
    (hw : ways.length = (d.sets set).length) : SetsSized cfg (d.setSet set ways) := by
  intro set'
  show (Function.update d.sets set ways set').length = cfg.dibWay
  rw [Function.update_apply]
  split
  · rw [hw, hd]
  · exact hd set'

theorem SetsSized.doDibUpdate {d : Dib} (hd : SetsSized cfg d) (hpos : 0 < cfg.dibWay)
    (instr : OooModelInstr) : ∃ d', Dib.doDibUpdate cfg d instr = some d' ∧ SetsSized cfg d' := by
  have hne : d.sets (setIndex cfg instr.ip) ≠ [] :=
    List.ne_nil_of_length_pos ((hd _).symm ▸ hpos)
  have hlt := enterLine_lt cfg hne instr.ip
  have hlen := length_enterLine cfg (d.sets (setIndex cfg instr.ip)) instr.ip
  unfold Dib.doDibUpdate
  dsimp only
  rcases hE : enterLine cfg (d.sets (setIndex cfg instr.ip)) instr.ip with ⟨ways, way⟩
  rw [hE] at hlt hlen
  dsimp only at hlt hlen ⊢
  rw [List.getElem?_eq_getElem (by omega)]
  exact ⟨_, rfl, hd.setSet (by rw [List.length_map, hlen])⟩

theorem SetsSized.doCheckDib {d : Dib} (hd : SetsSized cfg d) (currentCycle : Nat)
    (instr : OooModelInstr) : SetsSized cfg (Dib.doCheckDib cfg currentCycle d instr).2 := by
  unfold Dib.doCheckDib
  dsimp only
  split
  · exact hd
  · exact hd.setSet (List.length_map _)

end Dib

namespace O3FrontEnd

variable {σ : Type} (cfg : FrontEndConfig) {s s' : O3FrontEnd σ}

/-- The members the asserts of decode and dispatch read. -/
def buffers (s : O3FrontEnd σ) : DelayQueue OooModelInstr × DelayQueue OooModelInstr × Dib :=
  (s.DECODE_BUFFER, s.DISPATCH_BUFFER, s.DIB)

/-- The two delay queues well formed and every DIB set of `dib_way` entries. -/
structure BuffersOk (s : O3FrontEnd σ) : Prop where
  decode : s.DECODE_BUFFER.WellFormed
  dispatch : s.DISPATCH_BUFFER.WellFormed
  dib : Dib.SetsSized cfg.dib s.DIB

variable {cfg}

theorem BuffersOk.of_buffers (h : BuffersOk cfg s) (he : s'.buffers = s.buffers) : BuffersOk cfg s' := by
  simp only [buffers, Prod.mk.injEq] at he
  obtain ⟨h₁, h₂, h₃⟩ := he
  exact ⟨h₁ ▸ h.decode, h₂ ▸ h.dispatch, h₃ ▸ h.dib⟩

theorem buffersOk_new (p : σ) (itlb l1i : LowerLevel) : BuffersOk cfg (new cfg p itlb l1i) where
  decode := DelayQueue.wellFormed_new _ _
  dispatch := DelayQueue.wellFormed_new _ _
  dib := Dib.setsSized_init cfg.dib

/-! ### The requests and returns leave the buffers -/

@[simp] theorem buffers_setIfetch (b : CircularBuffer OooModelInstr) :
    (s.setIfetch b).buffers = s.buffers := rfl

theorem buffers_doTranslateFetch (first last : Nat) :
    (s.doTranslateFetch cfg first last).buffers = s.buffers := by
  unfold doTranslateFetch
  dsimp only
  generalize s.itlb.addRq _ = r
  obtain ⟨itlb, rqIndex⟩ := r
  dsimp only
  split <;> rfl

theorem buffers_translateFetch : (s.translateFetch cfg).buffers = s.buffers := by
  unfold translateFetch
  split
  · rfl
  · split
    · exact buffers_doTranslateFetch _ _
    · rfl

theorem buffers_doFetchInstruction (first last : Nat) :
    (s.doFetchInstruction cfg first last).buffers = s.buffers := by
  unfold doFetchInstruction
  dsimp only
  generalize s.l1i.addRq _ = r
  obtain ⟨l1i, rqIndex⟩ := r
  dsimp only
  split <;> rfl

theorem buffers_fetchInstruction : (s.fetchInstruction cfg).buffers = s.buffers := by
  unfold fetchInstruction
  -- the resumed fetch changes only the stall
  generalize hs₁ : (if s.cpu.fetchStall ∧ s.fetchResumeCycle ≤ s.cpu.currentCycle ∧
    s.fetchResumeCycle ≠ 0 then
      { s with cpu := { s.cpu with fetchStall := false }, fetchResumeCycle := 0 } else s) = s₁
  have h₁ : s₁.buffers = s.buffers := by
    rw [← hs₁]
    split <;> rfl
  dsimp only
  rw [← h₁]
  split
  · rfl
  · split
    · exact buffers_doFetchInstruction _ _
    · rfl

theorem buffers_handleMemoryReturn : (s.handleMemoryReturn cfg).buffers = s.buffers := rfl

theorem BuffersOk.checkDib (h : BuffersOk cfg s) : BuffersOk cfg (s.checkDib cfg) := by
  -- the loop checks one instruction after another, each on the DIB the one before left
  have hloop : ∀ (stop fuel it : Nat) (r : CircularBuffer OooModelInstr × Dib),
      Dib.SetsSized cfg.dib r.2 →
        Dib.SetsSized cfg.dib (checkDibLoop cfg s.cpu.currentCycle stop fuel it r).2 := by
    intro stop fuel
    induction fuel with
    | zero => exact fun _ _ hr => hr
    | succ fuel ih =>
      rintro it ⟨b, dib⟩ hr
      unfold checkDibLoop
      split
      · exact hr
      · exact ih _ _ (hr.doCheckDib _ _)
  unfold O3FrontEnd.checkDib
  dsimp only
  exact ⟨h.decode, h.dispatch, hloop _ _ _ (_, s.DIB) h.dib⟩

/-! ### The loops of decode and dispatch -/

/-- The condition of `throw champsim::deadlock`: the buffer has a front that has waited
`DEADLOCK_CYCLE`. -/
def Deadlocked (s : O3FrontEnd σ) (empty : Bool) (front : OooModelInstr) : Prop :=
  empty = false ∧ front.eventCycle + DEADLOCK_CYCLE ≤ s.cpu.currentCycle

theorem deadlockCheck_eq_some {empty : Bool} {front : OooModelInstr}
    (h : s.deadlockCheck empty front = some s') : s' = s := by
  unfold deadlockCheck at h
  split at h
  · cases h
  · exact (Option.some.inj h).symm

theorem deadlockCheck_eq_none {empty : Bool} {front : OooModelInstr}
    (h : s.deadlockCheck empty front = none) : Deadlocked s empty front := by
  unfold deadlockCheck at h
  split at h
  · next hc =>
    simp only [Bool.and_eq_true, Bool.not_eq_true', decide_eq_true_eq] at hc
    exact hc
  · cases h

theorem BuffersOk.promoteLoop :
    ∀ (n : Nat) {s : O3FrontEnd σ}, BuffersOk cfg s → ∃ s', promoteLoop n s = some s' ∧ BuffersOk cfg s'
  | 0, s, h => ⟨s, rfl, h⟩
  | n + 1, s, h => by
    unfold O3FrontEnd.promoteLoop
    dsimp only
    split
    · next hc =>
      simp only [Bool.and_eq_true, Bool.not_eq_true'] at hc
      obtain ⟨⟨⟨hne, hnf⟩, -⟩, -⟩ := hc
      obtain ⟨ifetch, hi⟩ : ∃ b, s.cpu.ifetchBuffer.popFront = some b :=
        ⟨_, CircularBuffer.popFront_eq_some.mpr ⟨hne, rfl⟩⟩
      -- the instruction goes in ready or with the decode latency, and the rest is the same
      have hnext : ∀ decode : DelayQueue OooModelInstr, decode.WellFormed →
          ∃ s', (s.cpu.ifetchBuffer.popFront >>= fun ifetch =>
            O3FrontEnd.promoteLoop n { s.setIfetch ifetch with DECODE_BUFFER := decode }) = some s' ∧
              BuffersOk cfg s' := by
        intro decode hwf
        rw [hi]
        exact BuffersOk.promoteLoop n ⟨hwf, h.dispatch, h.dib⟩
      split
      · obtain ⟨decode, hd, hwf⟩ := h.decode.pushDelayed hnf s.cpu.ifetchBuffer.front 0
        rw [DelayQueue.pushBackReady_eq, hd]
        exact hnext decode hwf
      · obtain ⟨decode, hd, hwf⟩ :=
          h.decode.pushDelayed hnf s.cpu.ifetchBuffer.front s.DECODE_BUFFER.latency
        rw [DelayQueue.pushBack_eq, hd]
        exact hnext decode hwf
    · exact ⟨s, rfl, h⟩

section Decode

variable (hpos : 0 < cfg.dib.dibWay)
include hpos

theorem BuffersOk.decodeLoop :
    ∀ (n : Nat) {s : O3FrontEnd σ}, BuffersOk cfg s → ∃ s', decodeLoop cfg n s = some s' ∧ BuffersOk cfg s'
  | 0, s, h => ⟨s, rfl, h⟩
  | n + 1, s, h => by
    unfold O3FrontEnd.decodeLoop
    dsimp only
    split
    · next hc =>
      simp only [Bool.and_eq_true, Bool.not_eq_true'] at hc
      obtain ⟨hr, hnf⟩ := hc
      obtain ⟨dib, hdib, hsized⟩ := h.dib.doDibUpdate hpos s.DECODE_BUFFER.front
      obtain ⟨decode, hdec, hwf⟩ := h.decode.popFront hr
      rw [hdib]
      -- a direct jump or call drops its misprediction and sets the fetch resume cycle
      generalize (if (s.DECODE_BUFFER.front.branchMispredicted &&
        (s.DECODE_BUFFER.front.branchType == BRANCH_DIRECT_JUMP ||
          s.DECODE_BUFFER.front.branchType == BRANCH_DIRECT_CALL)) = true then _ else _ :
            OooModelInstr × Nat) = r
      obtain ⟨dbEntry, fetchResumeCycle⟩ := r
      dsimp only
      have hnext : ∀ dispatch : DelayQueue OooModelInstr, dispatch.WellFormed →
          ∃ s', (s.DECODE_BUFFER.popFront >>= fun decode => O3FrontEnd.decodeLoop cfg n
            { s with
              DIB := dib, fetchResumeCycle := fetchResumeCycle, DISPATCH_BUFFER := dispatch,
              DECODE_BUFFER := decode }) = some s' ∧ BuffersOk cfg s' := by
        intro dispatch hwf'
        rw [hdec]
        exact BuffersOk.decodeLoop n ⟨hwf, hwf', hsized⟩
      split
      · obtain ⟨dispatch, hdis, hwf'⟩ := h.dispatch.pushDelayed hnf dbEntry s.DISPATCH_BUFFER.latency
        rw [DelayQueue.pushBack_eq, hdis]
        exact hnext dispatch hwf'
      · obtain ⟨dispatch, hdis, hwf'⟩ := h.dispatch.pushDelayed hnf dbEntry 0
        rw [DelayQueue.pushBackReady_eq, hdis]
        exact hnext dispatch hwf'
    · exact ⟨s, rfl, h⟩

end Decode

theorem BuffersOk.dispatchLoop :
    ∀ (n : Nat) {s : O3FrontEnd σ}, BuffersOk cfg s → ∃ s', dispatchLoop n s = some s' ∧ BuffersOk cfg s'
  | 0, s, h => ⟨s, rfl, h⟩
  | n + 1, s, h => by
    unfold O3FrontEnd.dispatchLoop
    split
    · next hc =>
      simp only [Bool.and_eq_true, Bool.not_eq_true'] at hc
      obtain ⟨hr, hnf⟩ := hc
      obtain ⟨rob, hrob⟩ := s.cpu.rob.pushBack_some s.DISPATCH_BUFFER.front hnf
      obtain ⟨dispatch, hdis, hwf⟩ := h.dispatch.popFront hr
      rw [hrob, hdis]
      exact BuffersOk.dispatchLoop n ⟨h.decode, hwf, h.dib⟩
    · exact ⟨s, rfl, h⟩

/-! ### Whole runs -/

theorem BuffersOk.promoteToDecode (h : BuffersOk cfg s) (hs : s.promoteToDecode cfg = some s') :
    BuffersOk cfg s' := by
  obtain ⟨s₁, h₁, hok⟩ := h.promoteLoop cfg.FETCH_WIDTH
  rw [O3FrontEnd.promoteToDecode, h₁, Option.bind_eq_bind, Option.bind_some] at hs
  rw [deadlockCheck_eq_some hs]
  exact hok

theorem BuffersOk.decodeInstruction (hpos : 0 < cfg.dib.dibWay) (h : BuffersOk cfg s)
    (hs : s.decodeInstruction cfg = some s') : BuffersOk cfg s' := by
  obtain ⟨s₁, h₁, hok⟩ := h.decodeLoop hpos cfg.DECODE_WIDTH
  rw [O3FrontEnd.decodeInstruction, h₁, Option.bind_eq_bind, Option.bind_some] at hs
  rw [deadlockCheck_eq_some hs]
  exact hok

theorem BuffersOk.dispatchInstruction (h : BuffersOk cfg s) (hs : s.dispatchInstruction cfg = some s') :
    BuffersOk cfg s' := by
  unfold O3FrontEnd.dispatchInstruction at hs
  split at hs
  · cases hs
    exact h
  · obtain ⟨s₁, h₁, hok⟩ := h.dispatchLoop cfg.DISPATCH_WIDTH
    rw [h₁, Option.bind_eq_bind, Option.bind_some] at hs
    rw [deadlockCheck_eq_some hs]
    exact hok

variable (bp : BranchPredictor σ)

theorem BuffersOk.step (hpos : 0 < cfg.dib.dibWay) (h : BuffersOk cfg s) {op : FrontEndOp}
    (hs : O3FrontEnd.step bp cfg s op = some s') : BuffersOk cfg s' := by
  cases op with
  | initInstruction instr =>
    dsimp only [O3FrontEnd.step] at hs
    split at hs
    · obtain ⟨cpu, -, rfl⟩ := Option.map_eq_some_iff.mp hs
      exact h.of_buffers rfl
    · cases hs
      exact h
  | checkDib =>
    cases hs
    exact h.checkDib
  | translateFetch =>
    cases hs
    exact h.of_buffers buffers_translateFetch
  | fetchInstruction =>
    cases hs
    exact h.of_buffers buffers_fetchInstruction
  | promoteToDecode => exact h.promoteToDecode hs
  | decodeInstruction => exact h.decodeInstruction hpos hs
  | dispatchInstruction => exact h.dispatchInstruction hs
  | handleMemoryReturn =>
    cases hs
    exact h.of_buffers buffers_handleMemoryReturn
  | operateBuffers =>
    cases hs
    exact ⟨h.decode.operate, h.dispatch.operate, h.dib⟩
  | retire =>
    dsimp only [O3FrontEnd.step] at hs
    split at hs <;>
    · cases hs
      exact h.of_buffers rfl
  | beginCycle | itlbReturn _ | l1iReturn _ | tick | completeWarmup =>
    cases hs
    exact h.of_buffers rfl

theorem BuffersOk.run (hpos : 0 < cfg.dib.dibWay) :
    ∀ (ops : List FrontEndOp) {s s' : O3FrontEnd σ}, BuffersOk cfg s →
      O3FrontEnd.run bp cfg s ops = some s' → BuffersOk cfg s'
  | [], s, s', h, hr => by
    cases hr
    exact h
  | op :: ops, s, s', h, hr => by
    rw [O3FrontEnd.run, List.foldlM_cons] at hr
    obtain ⟨s₁, h₁, h₂⟩ := Option.bind_eq_some_iff.mp hr
    exact BuffersOk.run hpos ops (h.step bp hpos h₁) h₂

/-- Along any run of the front end from its construction, with entries in each DIB set, the
delay queues stay well formed and the DIB sets keep their size, and `promote_to_decode`,
`decode_instruction` and `dispatch_instruction` fail only by throwing `champsim::deadlock`
after their loops have returned: no assert of `IFETCH_BUFFER`, the delay queues, the DIB or the
ROB fires. -/
theorem frontEnd_fails_only_by_deadlock (hpos : 0 < cfg.dib.dibWay) (p : σ) (itlb l1i : LowerLevel)
    {ops : List FrontEndOp} (hrun : O3FrontEnd.run bp cfg (new cfg p itlb l1i) ops = some s) :
    BuffersOk cfg s ∧
      (s.promoteToDecode cfg = none → ∃ s₁, O3FrontEnd.promoteLoop cfg.FETCH_WIDTH s = some s₁ ∧
        Deadlocked s₁ s₁.cpu.ifetchBuffer.isEmpty s₁.cpu.ifetchBuffer.front) ∧
      (s.decodeInstruction cfg = none → ∃ s₁, O3FrontEnd.decodeLoop cfg cfg.DECODE_WIDTH s = some s₁ ∧
        Deadlocked s₁ s₁.DECODE_BUFFER.isEmpty s₁.DECODE_BUFFER.front) ∧
      (s.dispatchInstruction cfg = none → ∃ s₁, O3FrontEnd.dispatchLoop cfg.DISPATCH_WIDTH s = some s₁ ∧
        Deadlocked s₁ s₁.DISPATCH_BUFFER.isEmpty s₁.DISPATCH_BUFFER.front) := by
  have h := BuffersOk.run bp hpos ops (buffersOk_new p itlb l1i) hrun
  refine ⟨h, fun hn => ?_, fun hn => ?_, fun hn => ?_⟩
  · obtain ⟨s₁, h₁, -⟩ := h.promoteLoop cfg.FETCH_WIDTH
    rw [O3FrontEnd.promoteToDecode, h₁, Option.bind_eq_bind, Option.bind_some] at hn
    exact ⟨s₁, h₁, deadlockCheck_eq_none hn⟩
  · obtain ⟨s₁, h₁, -⟩ := h.decodeLoop hpos cfg.DECODE_WIDTH
    rw [O3FrontEnd.decodeInstruction, h₁, Option.bind_eq_bind, Option.bind_some] at hn
    exact ⟨s₁, h₁, deadlockCheck_eq_none hn⟩
  · unfold O3FrontEnd.dispatchInstruction at hn
    split at hn
    · cases hn
    · obtain ⟨s₁, h₁, -⟩ := h.dispatchLoop cfg.DISPATCH_WIDTH
      rw [h₁, Option.bind_eq_bind, Option.bind_some] at hn
      exact ⟨s₁, h₁, deadlockCheck_eq_none hn⟩

def smallFrontEnd : FrontEndConfig where
  IFETCH_BUFFER_SIZE := 4
  DECODE_BUFFER_SIZE := 4
  DISPATCH_BUFFER_SIZE := 4
  ROB_SIZE := 4
  FETCH_WIDTH := 2
  DECODE_WIDTH := 2
  DISPATCH_WIDTH := 2
  BRANCH_MISPREDICT_PENALTY := 1
  DECODE_LATENCY := 1
  DISPATCH_LATENCY := 1
  cpu := 0
  itlbMaxRead := 1
  l1iMaxRead := 1
  itlbBus := 0
  l1iBus := 1
  dib := { dibSet := 2, dibWay := 2, dibWindow := 16 }

def idleLevel : LowerLevel := { fillLevel := 1, occupancy := fun _ => 0, size := fun _ => 4 }

/-- One instruction through the ITLB and the L1I, then decode and dispatch. The returns are the
packets the two caches were sent, which name the instruction's slot `0`. -/
def oneInstrOps : List FrontEndOp :=
  [.beginCycle, .initInstruction { ip := 0x401000 }, .translateFetch,
    .itlbReturn { address := 0x401000, data := 0x5000, instrDependOnMe := [0] }, .handleMemoryReturn,
    .fetchInstruction, .l1iReturn { address := 0x5000, instrDependOnMe := [0] }, .handleMemoryReturn,
    .promoteToDecode, .operateBuffers, .decodeInstruction, .operateBuffers, .dispatchInstruction]

/-- The instruction ends in the ROB, with every buffer before it empty again. -/
example : (O3FrontEnd.run O3Cpu.notTaken smallFrontEnd (new smallFrontEnd () idleLevel idleLevel)
    oneInstrOps).map (fun s => (s.cpu.rob.occupancy, s.DECODE_BUFFER.occupancy)) = some (1, 0) := by
  decide +kernel

theorem frontEnd_fails_only_by_deadlock_oneInstr :
    0 < smallFrontEnd.dib.dibWay ∧ ∃ s, O3FrontEnd.run O3Cpu.notTaken smallFrontEnd
      (new smallFrontEnd () idleLevel idleLevel) oneInstrOps = some s ∧ BuffersOk smallFrontEnd s ∧
      (s.promoteToDecode smallFrontEnd = none → ∃ s₁,
        O3FrontEnd.promoteLoop smallFrontEnd.FETCH_WIDTH s = some s₁ ∧
        Deadlocked s₁ s₁.cpu.ifetchBuffer.isEmpty s₁.cpu.ifetchBuffer.front) ∧
      (s.decodeInstruction smallFrontEnd = none → ∃ s₁,
        O3FrontEnd.decodeLoop smallFrontEnd smallFrontEnd.DECODE_WIDTH s = some s₁ ∧
        Deadlocked s₁ s₁.DECODE_BUFFER.isEmpty s₁.DECODE_BUFFER.front) ∧
      (s.dispatchInstruction smallFrontEnd = none → ∃ s₁,
        O3FrontEnd.dispatchLoop smallFrontEnd.DISPATCH_WIDTH s = some s₁ ∧
        Deadlocked s₁ s₁.DISPATCH_BUFFER.isEmpty s₁.DISPATCH_BUFFER.front) := by
  obtain ⟨s, hs⟩ := Option.isSome_iff_exists.mp (show (O3FrontEnd.run O3Cpu.notTaken smallFrontEnd
    (new smallFrontEnd () idleLevel idleLevel) oneInstrOps).isSome = true by decide +kernel)
  exact ⟨by decide, s, hs, frontEnd_fails_only_by_deadlock O3Cpu.notTaken (by decide) () _ _ hs⟩

end O3FrontEnd

end MindPalace.ChampSim
