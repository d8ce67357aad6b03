import Mathlib
import MindPalace.ChampSim.DramControllerBanks

/-! # What the controller does with each request

The LLC sends a read only when the read queue of its channel has a free slot (`readlike_miss`
compares `get_occupancy` with `get_size` first). Along runs of such calls `add_rq` answers every
read or leaves it in a valid entry of its block, `add_wq` keeps every write it accepts, and
`operate()` returns a packet only when its request leaves the data bus, and frees its slot.
-/

namespace MindPalace.ChampSim

namespace MemoryController

def rqSize (ch : DramChannel) : Nat :=
  ch.RQ.length

end MemoryController

open MemoryController

/-- The caller's side of a call. Physical pages start at `VMEM_RESERVE_CAPACITY`, so no packet
has address `0`; only the controller sets `scheduled`; and a read or a prefetch comes only when
the read queue of its channel is not full. -/
def DramOp.admissible (cfg : DramConfig) (mc : MemoryController) : DramOp → Bool
  | .addRq packet | .addPq packet =>
    packet.isValid && !packet.scheduled &&
      rqOccupancy (mc.channel (cfg.dramGetChannel packet.address)) !=
        rqSize (mc.channel (cfg.dramGetChannel packet.address))
  | .addWq packet => packet.isValid && !packet.scheduled
  | .operate | .tick | .completeWarmup => true

theorem DramOp.arrivesUnscheduled_of_admissible {cfg : DramConfig} {mc : MemoryController} {op : DramOp}
    (h : op.admissible cfg mc) : op.arrivesUnscheduled := by
  cases op <;> simp_all [DramOp.admissible, DramOp.arrivesUnscheduled]

namespace DramChannel

variable {cfg : DramConfig} {cycle : Nat} {ch : DramChannel}

/-- One channel's `operate()` returns nothing, or the requesters of the valid packet whose
request is on the data bus and due; that packet's slot is then free. -/
def ReturnsOnBus (cfg : DramConfig) (cycle : Nat) (ch : DramChannel) : Prop :=
  (ch.operate cfg cycle).2 = [] ∨
    ∃ a, ch.activeRequest = some a ∧ (ch.request a).valid ∧ (ch.request a).eventCycle ≤ cycle ∧
      (ch.packet (ch.request a).pkt).isValid ∧
      (ch.operate cfg cycle).2 =
        (ch.packet (ch.request a).pkt).toReturn.map (·, ch.packet (ch.request a).pkt) ∧
      ((ch.operate cfg cycle).1.packet (ch.request a).pkt).address = 0

theorem address_modifyPacket (ch : DramChannel) (r : DramQueue × Nat) {f : PACKET → PACKET}
    (hf : ∀ p, (f p).address = p.address) (r' : DramQueue × Nat) :
    ((ch.modifyPacket r f).packet r').address = (ch.packet r').address := by
  by_cases hr : r' = r
  · subst hr
    rcases packet_modifyPacket_self_or ch r' f with he | he <;> rw [he]
    exact hf _
  · rw [packet_modifyPacket_of_ne _ hr]

theorem address_resetRequest (ch : DramChannel) (i : Nat) (r : DramQueue × Nat) :
    ((ch.resetRequest cfg cycle i).packet r).address = (ch.packet r).address := by
  unfold resetRequest
  dsimp only
  split
  · apply address_modifyPacket
    exact fun _ => rfl
  · rfl

theorem address_switchMode (ch : DramChannel) (r : DramQueue × Nat) :
    ((ch.switchMode cfg cycle).packet r).address = (ch.packet r).address := by
  unfold switchMode
  split
  · -- each reset of a scheduled request keeps every address
    have hfold : ∀ (l : List Nat) (ch : DramChannel),
        ((l.foldl (resetRequest cfg cycle) ch).packet r).address = (ch.packet r).address := by
      intro l
      induction l with
      | nil => exact fun _ => rfl
      | cons i l ih => exact fun ch => (ih _).trans (address_resetRequest ch i r)
    exact hfold _ ch
  · rfl

theorem address_putOnBus (ch : DramChannel) (r : DramQueue × Nat) :
    ((ch.putOnBus cfg cycle).packet r).address = (ch.packet r).address := by
  unfold putOnBus
  dsimp only
  split <;> rfl

theorem address_schedulePacket (ch : DramChannel) (r : DramQueue × Nat) :
    ((ch.schedulePacket cfg cycle).packet r).address = (ch.packet r).address := by
  unfold schedulePacket
  dsimp only
  generalize StdAlgorithm.minElement PACKET.nextSchedule (if ch.writeMode = true then ch.WQ else ch.RQ) = slot
  generalize (if ch.writeMode = true then DramQueue.WQ else DramQueue.RQ) = q
  split
  · split
    · apply address_modifyPacket
      exact fun _ => rfl
    · rfl
  · rfl

theorem address_operate (ch : DramChannel) (r : DramQueue × Nat) :
    ((ch.operate cfg cycle).1.packet r).address = ((ch.finishRequest cycle).1.packet r).address := by
  unfold DramChannel.operate
  dsimp only
  rw [address_schedulePacket, address_putOnBus, address_switchMode]

theorem finishRequest_of_due (h : BanksOk cfg ch) {a : Nat} (ha : ch.activeRequest = some a)
    (hdue : (ch.request a).eventCycle ≤ cycle) :
    (ch.finishRequest cycle).2 =
        (ch.packet (ch.request a).pkt).toReturn.map (·, ch.packet (ch.request a).pkt) ∧
      ((ch.finishRequest cycle).1.packet (ch.request a).pkt).address = 0 := by
  have hv := (h.held a (h.active a ha)).1
  simp only [finishRequest, ha, if_pos hdue, true_and]
  rw [packet_modifyPacket_self
    { ch with bankRequest := ch.bankRequest.modify a fun r => { r with valid := false }, activeRequest := none } hv]

theorem returnsOnBus (h : BanksOk cfg ch) (cycle : Nat) : ch.ReturnsOnBus cfg cycle := by
  cases ha : ch.activeRequest with
  | none =>
    left
    simp [DramChannel.operate, finishRequest, ha]
  | some a =>
    by_cases hdue : (ch.request a).eventCycle ≤ cycle
    · obtain ⟨hret, hfree⟩ := finishRequest_of_due h ha hdue
      right
      refine ⟨a, ha, h.active a ha, hdue, (h.held a (h.active a ha)).1, hret, ?_⟩
      rw [address_operate, hfree]
    · left
      simp [DramChannel.operate, finishRequest, ha, hdue]

end DramChannel

namespace MemoryController

variable {cfg : DramConfig} {mc : MemoryController} {packet : PACKET}

def Admissible (cfg : DramConfig) : MemoryController → List DramOp → Bool
  | _, [] => true
  | mc, op :: ops => op.admissible cfg mc && Admissible cfg (step cfg mc op) ops

def Reachable (cfg : DramConfig) (mc : MemoryController) : Prop :=
  ∃ ops, Admissible cfg (new cfg) ops ∧ (new cfg).run cfg ops = mc

/-- A read answered during the call, with its own data or that of a queued write, or held by a
valid read-queue entry of its block that holds all of its requesters. -/
def ServesRead (cfg : DramConfig) (mc mc' : MemoryController) (packet : PACKET) : Prop :=
  (∃ data, mc'.returned = mc.returned ++ packet.toReturn.map (·, { packet with data })) ∨
    ∃ e ∈ (mc'.channel (cfg.dramGetChannel packet.address)).RQ,
      e.eqAddr packet.address LOG2_BLOCK_SIZE ∧ ∀ r ∈ packet.toReturn, r ∈ e.toReturn

def KeepsWrite (cfg : DramConfig) (mc mc' : MemoryController) (packet : PACKET) : Prop :=
  (mc.allWarmupComplete < cfg.NUM_CPUS ∧ mc' = mc) ∨
    ∃ e ∈ (mc'.channel (cfg.dramGetChannel packet.address)).WQ, e.eqAddr packet.address LOG2_BLOCK_SIZE

/-- The bookkeeping of the scheduler in one state: the bank requests and the queues agree, reads
and writes are kept, and `operate()` returns only what leaves the data bus. -/
structure Bookkeeping (cfg : DramConfig) (mc : MemoryController) : Prop where
  banks : ∀ ch ∈ mc.channels, DramChannel.BanksOk cfg ch
  distinct : ∀ ch ∈ mc.channels, ∀ i j, (ch.request i).valid → (ch.request j).valid →
    (ch.request i).pkt = (ch.request j).pkt → i = j
  reads : ∀ packet, (DramOp.addRq packet).admissible cfg mc → ServesRead cfg mc (addRq cfg mc packet).1 packet
  writes : ∀ packet, (DramOp.addWq packet).admissible cfg mc → (addWq cfg mc packet).2 ≠ -2 →
    KeepsWrite cfg mc (addWq cfg mc packet).1 packet
  returned : (operate cfg mc).returned =
    mc.returned ++ mc.channels.flatMap fun ch => (ch.operate cfg mc.currentCycle).2
  onBus : ∀ ch ∈ mc.channels, ch.ReturnsOnBus cfg mc.currentCycle

theorem arrivesUnscheduled_of_admissible :
    ∀ {mc : MemoryController} {ops : List DramOp}, Admissible cfg mc ops → ∀ op ∈ ops, op.arrivesUnscheduled
  | _, [], _ => fun _ hop => nomatch hop
  | mc, op :: ops, h => by
    rw [Admissible, Bool.and_eq_true] at h
    intro op' hop'
    rcases List.mem_cons.mp hop' with rfl | hop'
    · exact DramOp.arrivesUnscheduled_of_admissible h.1
    · exact arrivesUnscheduled_of_admissible h.2 op' hop'

theorem lt_length_of_channel_ne {c : Nat} (h : mc.channel c ≠ default) : c < mc.channels.length :=
  StdAlgorithm.lt_length_of_getD_ne h

theorem lt_length_of_lt_queue (q : DramChannel → List PACKET) (hq : q default = []) {c i : Nat}
    (h : i < (q (mc.channel c)).length) : c < mc.channels.length :=
  lt_length_of_channel_ne fun he => by
    rw [he, hq] at h
    exact absurd h (Nat.not_lt_zero _)

theorem channel_set_self {c : Nat} (hc : c < mc.channels.length) (ch : DramChannel) :
    ({ mc with channels := mc.channels.set c ch } : MemoryController).channel c = ch := by
  simp [channel, List.getD_eq_getElem?_getD, hc]

theorem findIdx?_free_isSome {l : List PACKET} (h : l.countP PACKET.isValid ≠ l.length) :
    (l.findIdx? fun p => !p.isValid).isSome := by
  rw [List.findIdx?_isSome, List.any_eq_true]
  by_contra hall
  refine h (List.countP_eq_length.mpr fun p hp => ?_)
  by_contra hp'
  exact hall ⟨p, hp, by simpa using hp'⟩

theorem servesRead_addRq (hv : packet.isValid)
    (hocc : rqOccupancy (mc.channel (cfg.dramGetChannel packet.address)) ≠
      rqSize (mc.channel (cfg.dramGetChannel packet.address))) :
    ServesRead cfg mc (addRq cfg mc packet).1 packet := by
  unfold addRq
  split
  · -- fast-forward: the packet answers with its own data
    exact .inl ⟨packet.data, rfl⟩
  · dsimp only
    split
    · next wqEntry _ => exact .inl ⟨wqEntry.data, rfl⟩
    · split
      · next i hi =>
        -- the read joins its block's entry, whose requesters take its own
        obtain ⟨hlt, heq, -⟩ := List.findIdx?_eq_some_iff_getElem.mp hi
        have hc := lt_length_of_lt_queue DramChannel.RQ rfl hlt
        right
        rw [channel_set_self hc]
        refine ⟨_, List.getElem_mem (by simpa using hlt), ?_⟩
        rw [List.getElem_modify_eq]
        exact ⟨heq, fun r hr => (PACKET.mem_toReturn_mergeDeps _ _).mpr (.inr hr)⟩
      · split
        · next hnone => exact absurd hnone (Option.isSome_iff_ne_none.mp (findIdx?_free_isSome hocc))
        · next i hi =>
          obtain ⟨hlt, -, -⟩ := List.findIdx?_eq_some_iff_getElem.mp hi
          have hc := lt_length_of_lt_queue DramChannel.RQ rfl hlt
          right
          rw [channel_set_self hc]
          refine ⟨_, List.mem_set hlt _, ?_, fun r hr => hr⟩
          simpa [PACKET.eqAddr, PACKET.isValid] using hv

theorem keepsWrite_addWq (hv : packet.isValid) (hr : (addWq cfg mc packet).2 ≠ -2) :
    KeepsWrite cfg mc (addWq cfg mc packet).1 packet := by
  unfold addWq at hr ⊢
  by_cases hwarm : mc.allWarmupComplete < cfg.NUM_CPUS
  · rw [if_pos hwarm]
    exact .inl ⟨hwarm, rfl⟩
  rw [if_neg hwarm] at hr ⊢
  dsimp only at hr ⊢
  cases hdup : (mc.channel (cfg.dramGetChannel packet.address)).WQ.find?
      (PACKET.eqAddr packet.address LOG2_BLOCK_SIZE) with
  | some e => exact .inr ⟨e, List.mem_of_find?_eq_some hdup, List.find?_some hdup⟩
  | none =>
    rw [hdup] at hr
    cases hfree : (mc.channel (cfg.dramGetChannel packet.address)).WQ.findIdx? (fun p => !p.isValid) with
    | none =>
      rw [hfree] at hr
      exact absurd rfl hr
    | some i =>
      obtain ⟨hlt, -, -⟩ := List.findIdx?_eq_some_iff_getElem.mp hfree
      have hc := lt_length_of_lt_queue DramChannel.WQ rfl hlt
      right
      dsimp only
      rw [channel_set_self hc]
      refine ⟨_, List.mem_set hlt _, ?_⟩
      simpa [PACKET.eqAddr, PACKET.isValid] using hv

theorem bookkeeping_of_channelsOk (h : ChannelsOk cfg mc) : Bookkeeping cfg mc where
  banks := h
  distinct ch hch _ _ hi hj he := (h ch hch).pkt_inj hi hj he
  reads packet hp := by
    simp only [DramOp.admissible, Bool.and_eq_true, bne_iff_ne] at hp
    exact servesRead_addRq hp.1.1 hp.2
  writes packet hp hr := by
    simp only [DramOp.admissible, Bool.and_eq_true] at hp
    exact keepsWrite_addWq hp.1 hr
  returned := returned_operate mc
  onBus ch hch := DramChannel.returnsOnBus (h ch hch) mc.currentCycle

end MemoryController

def smallDram : DramConfig :=
  { dramConfig with
    DRAM_WQ_SIZE := 4
    DRAM_RQ_SIZE := 4
    tRP := 1
    tRCD := 1
    tCAS := 1
    DRAM_DBUS_TURN_AROUND_TIME := 1
    DRAM_DBUS_RETURN_TIME := 1 }

/-- Warmup, reads of blocks 1 and 2, a write of block 3 and a second read of block 1 for another
requester, then eight cycles of `operate()`. -/
def twoReadsRun : List DramOp :=
  [.completeWarmup, .addRq (blockRead 1), .addRq (blockRead 2), .addWq { blockRead 3 with toReturn := [] },
    .addRq { blockRead 1 with toReturn := [1] }] ++ (List.replicate 8 [.operate, .tick]).flatten

/-- Both reads go through their banks and the data bus: three requesters are answered. -/
example : ((MemoryController.new smallDram).run smallDram twoReadsRun).returned.map Prod.fst = [0, 1, 0] := by
  decide +kernel

end MindPalace.ChampSim
