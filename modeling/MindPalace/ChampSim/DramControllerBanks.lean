import Mathlib
import MindPalace.ChampSim.DramController

/-! # Bank requests and queued packets

`BanksOk` says that a channel's bank requests and queued packets agree: every valid bank request
holds a valid scheduled packet of its own bank, every scheduled packet is held by its bank's
request, and the request on the data bus is a valid one. With ranks and banks that are powers of
two, every operation on packets that arrive unscheduled keeps it (`channelsOk_run`).
-/

namespace MindPalace.ChampSim

namespace DramConfig

variable (cfg : DramConfig)

/-- The bank request a packet of this address takes: `op_idx` of the scheduler. -/
def bankIndex (address : Nat) : Nat :=
  cfg.dramGetRank address * cfg.DRAM_BANKS + cfg.dramGetBank address

theorem and_bitmask_lt (x k : Nat) : x &&& bitmask k < 2 ^ k :=
  Nat.and_lt_two_pow x (Nat.sub_one_lt (Nat.two_pow_pos k).ne')

variable {cfg}

theorem bankIndex_lt (hR : cfg.DRAM_RANKS = 2 ^ lg2 cfg.DRAM_RANKS)
    (hB : cfg.DRAM_BANKS = 2 ^ lg2 cfg.DRAM_BANKS) (address : Nat) :
    cfg.bankIndex address < cfg.DRAM_RANKS * cfg.DRAM_BANKS := by
  have hr : cfg.dramGetRank address < cfg.DRAM_RANKS := hR ▸ and_bitmask_lt _ _
  have hb : cfg.dramGetBank address < cfg.DRAM_BANKS := hB ▸ and_bitmask_lt _ _
  calc cfg.bankIndex address
      < cfg.dramGetRank address * cfg.DRAM_BANKS + cfg.DRAM_BANKS := Nat.add_lt_add_left hb _
    _ = (cfg.dramGetRank address + 1) * cfg.DRAM_BANKS := (Nat.succ_mul _ _).symm
    _ ≤ cfg.DRAM_RANKS * cfg.DRAM_BANKS := Nat.mul_le_mul_right _ hr

end DramConfig

namespace DramChannel

variable {ch : DramChannel}

theorem packet_modifyPacket_of_ne (ch : DramChannel) {r r' : DramQueue × Nat} (h : r' ≠ r)
    (f : PACKET → PACKET) : (ch.modifyPacket r f).packet r' = ch.packet r' := by
  obtain ⟨q, k⟩ := r
  obtain ⟨q', k'⟩ := r'
  by_cases hq : q' = q
  · subst hq
    have hk : k ≠ k' := fun hk => h (by rw [hk])
    cases q' <;> exact StdAlgorithm.getD_modify_of_ne _ _ hk _
  · cases q <;> cases q' <;> first | rfl | exact absurd rfl hq

theorem packet_modifyPacket_self (ch : DramChannel) {r : DramQueue × Nat}
    (hv : (ch.packet r).isValid) (f : PACKET → PACKET) :
    (ch.modifyPacket r f).packet r = f (ch.packet r) := by
  obtain ⟨q, k⟩ := r
  have hne : ch.packet (q, k) ≠ {} := fun he => by rw [he] at hv; exact absurd hv (by decide)
  cases q <;> exact StdAlgorithm.getD_modify_self (StdAlgorithm.lt_length_of_getD_ne hne) _ _

theorem packet_modifyPacket_self_or (ch : DramChannel) (r : DramQueue × Nat) (f : PACKET → PACKET) :
    (ch.modifyPacket r f).packet r = f (ch.packet r) ∨ (ch.modifyPacket r f).packet r = ch.packet r := by
  obtain ⟨q, k⟩ := r
  cases q
  · simp only [modifyPacket, packet, List.getD_eq_getElem?_getD, List.getElem?_modify]
    cases ch.RQ[k]? <;> simp
  · simp only [modifyPacket, packet, List.getD_eq_getElem?_getD, List.getElem?_modify]
    cases ch.WQ[k]? <;> simp

@[simp] theorem bankRequest_modifyPacket (ch : DramChannel) (r : DramQueue × Nat) (f : PACKET → PACKET) :
    (ch.modifyPacket r f).bankRequest = ch.bankRequest := by
  obtain ⟨q, k⟩ := r
  cases q <;> rfl

@[simp] theorem activeRequest_modifyPacket (ch : DramChannel) (r : DramQueue × Nat) (f : PACKET → PACKET) :
    (ch.modifyPacket r f).activeRequest = ch.activeRequest := by
  obtain ⟨q, k⟩ := r
  cases q <;> rfl

theorem request_modifyPacket (ch : DramChannel) (r : DramQueue × Nat) (f : PACKET → PACKET) (i : Nat) :
    (ch.modifyPacket r f).request i = ch.request i := by
  rw [request, request, bankRequest_modifyPacket]

theorem request_withBanks (ch : DramChannel) (l : List BankRequest) (a : Option Nat) (i : Nat) :
    ({ ch with bankRequest := l, activeRequest := a } : DramChannel).request i = l.getD i {} := rfl

theorem getD_modify_keeps (l : List BankRequest) (g : BankRequest → BankRequest)
    (hg : ∀ b, (g b).valid = b.valid ∧ (g b).pkt = b.pkt) (k i : Nat) :
    ((l.modify k g).getD i {}).valid = (l.getD i {}).valid ∧
      ((l.modify k g).getD i {}).pkt = (l.getD i {}).pkt := by
  by_cases hki : k = i
  · subst hki
    by_cases hk : k < l.length
    · rw [StdAlgorithm.getD_modify_self hk]
      exact hg _
    · have hle := Nat.le_of_not_lt hk
      rw [List.getD_eq_default _ _ (by simpa using hle), List.getD_eq_default _ _ hle]
      exact ⟨rfl, rfl⟩
  · rw [StdAlgorithm.getD_modify_of_ne _ _ hki]
    exact ⟨rfl, rfl⟩

theorem lt_length_of_valid {i : Nat} (h : (ch.request i).valid) : i < ch.bankRequest.length :=
  StdAlgorithm.lt_length_of_getD_ne fun he => by
    rw [request, he] at h
    exact absurd h (by decide)

structure BanksOk (cfg : DramConfig) (ch : DramChannel) : Prop where
  held : ∀ i, (ch.request i).valid → (ch.packet (ch.request i).pkt).isValid ∧
    (ch.packet (ch.request i).pkt).scheduled ∧ cfg.bankIndex (ch.packet (ch.request i).pkt).address = i
  owned : ∀ r, (ch.packet r).isValid → (ch.packet r).scheduled →
    (ch.request (cfg.bankIndex (ch.packet r).address)).valid ∧
      (ch.request (cfg.bankIndex (ch.packet r).address)).pkt = r
  active : ∀ a, ch.activeRequest = some a → (ch.request a).valid
  banks : ch.bankRequest.length = cfg.DRAM_RANKS * cfg.DRAM_BANKS

variable {cfg : DramConfig}

namespace BanksOk

variable (h : BanksOk cfg ch)
include h

theorem pkt_inj {i j : Nat} (hi : (ch.request i).valid) (hj : (ch.request j).valid)
    (he : (ch.request i).pkt = (ch.request j).pkt) : i = j := by
  rw [← (h.held i hi).2.2, ← (h.held j hj).2.2, he]

theorem pkt_ne {i : Nat} {r : DramQueue × Nat} (hi : (ch.request i).valid)
    (hr : (ch.packet r).scheduled = false) : (ch.request i).pkt ≠ r := by
  rintro rfl
  simp [(h.held i hi).2.1] at hr

theorem bankIndex_ne {r : DramQueue × Nat} {i : Nat} (hv : (ch.packet r).isValid)
    (hs : (ch.packet r).scheduled) (hi : (ch.request i).valid = false) :
    cfg.bankIndex (ch.packet r).address ≠ i := by
  intro he
  have hb := (h.owned r hv hs).1
  rw [he, hi] at hb
  exact absurd hb (by decide)

theorem congr {ch' : DramChannel}
    (hp : ∀ r, (ch'.packet r).isValid = (ch.packet r).isValid ∧
      (ch'.packet r).scheduled = (ch.packet r).scheduled ∧ (ch'.packet r).address = (ch.packet r).address)
    (hv : ∀ i, (ch'.request i).valid = (ch.request i).valid)
    (hpk : ∀ i, (ch'.request i).pkt = (ch.request i).pkt)
    (ha : ∀ a, ch'.activeRequest = some a → (ch.request a).valid)
    (hl : ch'.bankRequest.length = ch.bankRequest.length) : BanksOk cfg ch' where
  held i hi := by
    rw [hv] at hi
    obtain ⟨h₁, h₂, h₃⟩ := (hp (ch'.request i).pkt)
    rw [h₁, h₂, h₃, hpk]
    exact h.held i hi
  owned r hr hs := by
    obtain ⟨h₁, h₂, h₃⟩ := hp r
    rw [h₁] at hr
    rw [h₂] at hs
    rw [h₃, hv, hpk]
    exact h.owned r hr hs
  active a ha' := (hv a).symm ▸ ha a ha'
  banks := hl.trans h.banks

theorem modifyPacket_keeps (r : DramQueue × Nat) (f : PACKET → PACKET)
    (hf : ∀ p, (f p).isValid = p.isValid ∧ (f p).scheduled = p.scheduled ∧ (f p).address = p.address) :
    BanksOk cfg (ch.modifyPacket r f) := by
  refine h.congr (fun r' => ?_) (fun i => by rw [request_modifyPacket]) (fun i => by rw [request_modifyPacket])
    (fun a ha => h.active a (by simpa using ha)) (by simp)
  by_cases hr : r' = r
  · subst hr
    rcases packet_modifyPacket_self_or ch r' f with he | he <;> rw [he]
    · exact hf _
    · exact ⟨rfl, rfl, rfl⟩
  · rw [packet_modifyPacket_of_ne _ hr]
    exact ⟨rfl, rfl, rfl⟩

theorem release {i : Nat} (hi : (ch.request i).valid) {ch' : DramChannel}
    (hreq : ∀ j, j ≠ i → ch'.request j = ch.request j) (hreqi : (ch'.request i).valid = false)
    (hpkt : ∀ r, r ≠ (ch.request i).pkt → ch'.packet r = ch.packet r)
    (hpkti : (ch'.packet (ch.request i).pkt).scheduled = false)
    (hact : ∀ a, ch'.activeRequest = some a → a ≠ i ∧ ch.activeRequest = some a)
    (hl : ch'.bankRequest.length = ch.bankRequest.length) : BanksOk cfg ch' where
  held j hj := by
    have hji : j ≠ i := by
      rintro rfl
      rw [hreqi] at hj
      exact absurd hj (by decide)
    rw [hreq j hji] at hj ⊢
    rw [hpkt _ fun he => hji (h.pkt_inj hj hi he)]
    exact h.held j hj
  owned r hv hs := by
    have hr : r ≠ (ch.request i).pkt := by
      rintro rfl
      rw [hpkti] at hs
      exact absurd hs (by decide)
    rw [hpkt r hr] at hv hs ⊢
    obtain ⟨hb, hp⟩ := h.owned r hv hs
    have hbi : cfg.bankIndex (ch.packet r).address ≠ i := by
      rintro he
      rw [he] at hp
      exact hr hp.symm
    rw [hreq _ hbi]
    exact ⟨hb, hp⟩
  active a ha := by
    obtain ⟨hai, ha'⟩ := hact a ha
    rw [hreq a hai]
    exact h.active a ha'
  banks := hl.trans h.banks

theorem take {r : DramQueue × Nat} (hv : (ch.packet r).isValid)
    (hfree : (ch.request (cfg.bankIndex (ch.packet r).address)).valid = false) {ch' : DramChannel}
    (hreqk : (ch'.request (cfg.bankIndex (ch.packet r).address)).valid ∧
      (ch'.request (cfg.bankIndex (ch.packet r).address)).pkt = r)
    (hreq : ∀ j, j ≠ cfg.bankIndex (ch.packet r).address → ch'.request j = ch.request j)
    (hpktr : (ch'.packet r).isValid ∧ (ch'.packet r).scheduled ∧
      (ch'.packet r).address = (ch.packet r).address)
    (hpkt : ∀ r', r' ≠ r → ch'.packet r' = ch.packet r')
    (hact : ch'.activeRequest = ch.activeRequest)
    (hl : ch'.bankRequest.length = ch.bankRequest.length) : BanksOk cfg ch' where
  held j hj := by
    by_cases hjk : j = cfg.bankIndex (ch.packet r).address
    · subst hjk
      rw [hreqk.2]
      exact ⟨hpktr.1, hpktr.2.1, by rw [hpktr.2.2]⟩
    · rw [hreq j hjk] at hj ⊢
      have hs : (ch.packet r).scheduled = false := by
        cases hs : (ch.packet r).scheduled
        · rfl
        · have hb := (h.owned r hv hs).1
          rw [hfree] at hb
          exact absurd hb (by decide)
      rw [hpkt _ (h.pkt_ne hj hs)]
      exact h.held j hj
  owned r' hv' hs' := by
    by_cases hr : r' = r
    · subst hr
      rw [hpktr.2.2]
      exact hreqk
    · rw [hpkt r' hr] at hv' hs' ⊢
      rw [hreq _ (h.bankIndex_ne hv' hs' hfree)]
      exact h.owned r' hv' hs'
  active a ha := by
    rw [hact] at ha
    have hav := h.active a ha
    have hne : a ≠ cfg.bankIndex (ch.packet r).address := by
      rintro rfl
      rw [hfree] at hav
      exact absurd hav (by decide)
    rw [hreq a hne]
    exact hav
  banks := hl.trans h.banks

theorem releaseBank {i : Nat} (hi : (ch.request i).valid) (g : BankRequest → BankRequest)
    (hg : ∀ b, (g b).valid = false) (f : PACKET → PACKET) (hf : ∀ p, (f p).scheduled = false)
    (act : Option Nat) (hact : ∀ a, act = some a → a ≠ i ∧ ch.activeRequest = some a) :
    BanksOk cfg ({ ch with bankRequest := ch.bankRequest.modify i g, activeRequest := act }.modifyPacket
      (ch.request i).pkt f) := by
  refine h.release hi (fun j hj => ?_) ?_ (fun r hr => ?_) ?_ ?_ ?_
  · rw [request_modifyPacket, request_withBanks, StdAlgorithm.getD_modify_of_ne _ _ hj.symm]
    rfl
  · rw [request_modifyPacket, request_withBanks, StdAlgorithm.getD_modify_self (lt_length_of_valid hi)]
    exact hg _
  · exact packet_modifyPacket_of_ne _ hr _
  · rw [packet_modifyPacket_self { ch with bankRequest := ch.bankRequest.modify i g, activeRequest := act }
      (h.held i hi).1]
    exact hf _
  · simpa using hact
  · simp

end BanksOk

theorem banksOk_new (cfg : DramConfig) : BanksOk cfg (DramChannel.new cfg) where
  held i hi := by
    simp only [request, new, List.getD_eq_getElem?_getD, List.getElem?_replicate] at hi
    split at hi <;> exact absurd hi (by decide)
  owned r hr _ := by
    obtain ⟨q, k⟩ := r
    cases q <;>
      simp only [packet, new, List.getD_eq_getElem?_getD, List.getElem?_replicate] at hr <;>
      split at hr <;> exact absurd hr (by decide)
  active _ ha := nomatch ha
  banks := List.length_replicate

variable (h : BanksOk cfg ch) (cycle : Nat)
include h

theorem banksOk_finishRequest : BanksOk cfg (ch.finishRequest cycle).1 := by
  unfold finishRequest
  cases ha : ch.activeRequest with
  | none => exact h
  | some a =>
    dsimp only
    split
    · exact h.releaseBank (h.active a ha) _ (fun _ => rfl) (fun _ => {}) (fun _ => rfl) none
        (fun _ hn => nomatch hn)
    · exact h

theorem banksOk_resetRequest (i : Nat) : BanksOk cfg (ch.resetRequest cfg cycle i) := by
  unfold resetRequest
  dsimp only
  split
  · next hc =>
    rw [Bool.and_eq_true, bne_iff_ne] at hc
    exact h.releaseBank hc.2 _ (fun _ => rfl) _ (fun _ => rfl) ch.activeRequest
      fun a ha => ⟨fun hai => hc.1 (hai ▸ ha), ha⟩
  · exact h

omit h in
theorem banksOk_foldl_resetRequest (l : List Nat) :
    ∀ ch, BanksOk cfg ch → BanksOk cfg (l.foldl (resetRequest cfg cycle) ch) := by
  induction l with
  | nil => exact fun _ h => h
  | cons i l ih => exact fun ch h => ih _ (banksOk_resetRequest h cycle i)

theorem banksOk_switchMode : BanksOk cfg (ch.switchMode cfg cycle) := by
  unfold switchMode
  split
  · have hr := banksOk_foldl_resetRequest cycle (List.range ch.bankRequest.length) ch h
    exact hr.congr (fun _ => ⟨rfl, rfl, rfl⟩) (fun _ => rfl) (fun _ => rfl) hr.active rfl
  · exact h

theorem banksOk_putOnBus : BanksOk cfg (ch.putOnBus cfg cycle) := by
  unfold putOnBus
  dsimp only
  split
  · next hc =>
    simp only [Bool.and_eq_true] at hc
    have hkeep := getD_modify_keeps ch.bankRequest
      (fun r => { r with eventCycle := cycle + cfg.DRAM_DBUS_RETURN_TIME }) (fun _ => ⟨rfl, rfl⟩)
      (StdAlgorithm.minElement BankRequest.minEventCycle ch.bankRequest)
    refine h.congr (fun _ => ⟨rfl, rfl, rfl⟩) (fun i => (hkeep i).1) (fun i => (hkeep i).2) ?_
      (List.length_modify _ _ _)
    rintro a ⟨⟩
    exact hc.1.1.1
  · exact h

omit h in
theorem banksOk_schedulePacket
    (hbank : ∀ address, cfg.bankIndex address < cfg.DRAM_RANKS * cfg.DRAM_BANKS) (h : BanksOk cfg ch) :
    BanksOk cfg (ch.schedulePacket cfg cycle) := by
  unfold schedulePacket
  dsimp only
  -- the queue of the current mode and the slot of its next due packet
  generalize StdAlgorithm.minElement PACKET.nextSchedule (if ch.writeMode = true then ch.WQ else ch.RQ) = slot
  generalize (if ch.writeMode = true then DramQueue.WQ else DramQueue.RQ) = q
  split
  · next hp =>
    rw [Bool.and_eq_true] at hp
    split
    · next hb =>
      -- `op_idx` is the packet's bank index
      rw [show cfg.dramGetRank (ch.packet (q, slot)).address * cfg.DRAM_BANKS +
        cfg.dramGetBank (ch.packet (q, slot)).address = cfg.bankIndex (ch.packet (q, slot)).address from rfl]
        at hb ⊢
      rw [Bool.not_eq_true'] at hb
      have hk := h.banks ▸ hbank (ch.packet (q, slot)).address
      refine h.take hp.1 hb ?_ (fun j hj => ?_) ?_ (fun r hr => packet_modifyPacket_of_ne _ hr _) ?_ ?_
      · rw [request_modifyPacket, request_withBanks, List.set_eq_modify, StdAlgorithm.getD_modify_self hk]
        exact ⟨rfl, rfl⟩
      · rw [request_modifyPacket, request_withBanks, List.set_eq_modify,
          StdAlgorithm.getD_modify_of_ne _ _ (Ne.symm hj)]
        rfl
      · rw [packet_modifyPacket_self { ch with bankRequest := ch.bankRequest.set _ _ } hp.1]
        exact ⟨hp.1, rfl, rfl⟩
      · simp
      · simp
    · exact h
  · exact h

omit h in
theorem banksOk_operate
    (hbank : ∀ address, cfg.bankIndex address < cfg.DRAM_RANKS * cfg.DRAM_BANKS) (h : BanksOk cfg ch) :
    BanksOk cfg (ch.operate cfg cycle).1 :=
  banksOk_schedulePacket cycle hbank
    (banksOk_putOnBus (banksOk_switchMode (banksOk_finishRequest h cycle) cycle) cycle)

end DramChannel

open DramChannel

/-- The packets a cache sends arrive unscheduled: only the controller sets `scheduled`. -/
def DramOp.arrivesUnscheduled : DramOp → Bool
  | .addRq packet | .addWq packet | .addPq packet => !packet.scheduled
  | .operate | .tick | .completeWarmup => true

namespace MemoryController

variable {cfg : DramConfig} {mc : MemoryController}

def ChannelsOk (cfg : DramConfig) (mc : MemoryController) : Prop :=
  ∀ ch ∈ mc.channels, BanksOk cfg ch

theorem channelsOk_new (cfg : DramConfig) : ChannelsOk cfg (MemoryController.new cfg) := by
  intro ch hch
  rw [List.eq_of_mem_replicate hch]
  exact banksOk_new cfg

theorem ChannelsOk.set (h : ChannelsOk cfg mc) (c : Nat) (ch' : DramChannel)
    (hch : BanksOk cfg (mc.channel c) → BanksOk cfg ch') :
    ChannelsOk cfg { mc with channels := mc.channels.set c ch' } := by
  intro x hx
  by_cases hc : c < mc.channels.length
  · rcases List.mem_or_eq_of_mem_set hx with hx | rfl
    · exact h x hx
    · exact hch (h _ (by rw [channel, List.getD_eq_getElem _ _ hc]; exact List.getElem_mem hc))
  · rw [List.set_eq_of_length_le (Nat.le_of_not_lt hc)] at hx
    exact h x hx

theorem banksOk_fillSlot {ch : DramChannel} (h : BanksOk cfg ch) {r : DramQueue × Nat}
    (hfree : (ch.packet r).isValid = false) (p : PACKET) (hp : p.scheduled = false) :
    BanksOk cfg (ch.modifyPacket r fun _ => p) where
  held i hi := by
    rw [request_modifyPacket] at hi
    have hne : (ch.request i).pkt ≠ r := by
      rintro he
      have := (h.held i hi).1
      rw [he, hfree] at this
      exact absurd this (by decide)
    rw [request_modifyPacket, packet_modifyPacket_of_ne _ hne]
    exact h.held i hi
  owned r' hv hs := by
    by_cases hr : r' = r
    · subst hr
      rcases packet_modifyPacket_self_or ch r' (fun _ => p) with he | he <;> rw [he] at hv hs
      · rw [hp] at hs
        exact absurd hs (by decide)
      · rw [hfree] at hv
        exact absurd hv (by decide)
    · rw [packet_modifyPacket_of_ne _ hr] at hv hs ⊢
      rw [request_modifyPacket]
      exact h.owned r' hv hs
  active a ha := by
    rw [activeRequest_modifyPacket] at ha
    rw [request_modifyPacket]
    exact h.active a ha
  banks := by
    rw [bankRequest_modifyPacket]
    exact h.banks

theorem isValid_getD_of_findFree {l : List PACKET} {i : Nat} (hi : l.findIdx? (fun p => !p.isValid) = some i) :
    (l.getD i {}).isValid = false := by
  obtain ⟨hlt, hf, -⟩ := List.findIdx?_eq_some_iff_getElem.mp hi
  rw [List.getD_eq_getElem _ _ hlt]
  simpa using hf

theorem channelsOk_returnTo (h : ChannelsOk cfg mc) (rets : List Nat) (packet : PACKET) :
    ChannelsOk cfg (mc.returnTo rets packet) := h

theorem channelsOk_addRq (h : ChannelsOk cfg mc) {packet : PACKET} (hp : packet.scheduled = false) :
    ChannelsOk cfg (addRq cfg mc packet).1 := by
  unfold addRq
  split
  · exact channelsOk_returnTo h _ _
  · dsimp only
    split
    · exact channelsOk_returnTo h _ _
    · split
      · -- a read of a queued block joins its requesters
        exact h.set _ _ fun hch => hch.modifyPacket_keeps (.RQ, _) _ fun _ => ⟨rfl, rfl, rfl⟩
      · split
        · exact h
        · next i hi =>
          refine h.set _ _ fun hch => ?_
          rw [List.set_eq_modify]
          exact banksOk_fillSlot hch (r := (.RQ, i)) (isValid_getD_of_findFree hi)
            { packet with eventCycle := mc.currentCycle } hp

theorem channelsOk_addWq (h : ChannelsOk cfg mc) {packet : PACKET} (hp : packet.scheduled = false) :
    ChannelsOk cfg (addWq cfg mc packet).1 := by
  unfold addWq
  split
  · exact h
  · dsimp only
    split
    · exact h
    · split
      · exact h
      · next i hi =>
        refine h.set _ _ fun hch => ?_
        rw [List.set_eq_modify]
        exact banksOk_fillSlot hch (r := (.WQ, i)) (isValid_getD_of_findFree hi)
          { packet with eventCycle := mc.currentCycle } hp

theorem foldl_operate (cycle : Nat) (l : List DramChannel) (acc : List DramChannel × List (Nat × PACKET)) :
    l.foldl (fun (acc : List DramChannel × List (Nat × PACKET)) ch =>
        let r := ch.operate cfg cycle
        (acc.1 ++ [r.1], acc.2 ++ r.2)) acc =
      (acc.1 ++ l.map fun ch => (ch.operate cfg cycle).1,
        acc.2 ++ l.flatMap fun ch => (ch.operate cfg cycle).2) := by
  induction l generalizing acc with
  | nil => simp
  | cons ch l ih => simp [ih]

theorem channels_operate (mc : MemoryController) :
    (operate cfg mc).channels = mc.channels.map fun ch => (ch.operate cfg mc.currentCycle).1 := by
  simp [operate, foldl_operate]

theorem returned_operate (mc : MemoryController) :
    (operate cfg mc).returned = mc.returned ++ mc.channels.flatMap fun ch => (ch.operate cfg mc.currentCycle).2 := by
  simp [operate, foldl_operate]

theorem channelsOk_operate (hbank : ∀ address, cfg.bankIndex address < cfg.DRAM_RANKS * cfg.DRAM_BANKS)
    (h : ChannelsOk cfg mc) : ChannelsOk cfg (operate cfg mc) := by
  intro ch hch
  rw [channels_operate, List.mem_map] at hch
  obtain ⟨ch₀, h₀, rfl⟩ := hch
  exact banksOk_operate _ hbank (h ch₀ h₀)

theorem channelsOk_step (hbank : ∀ address, cfg.bankIndex address < cfg.DRAM_RANKS * cfg.DRAM_BANKS)
    (h : ChannelsOk cfg mc) (op : DramOp) (hop : op.arrivesUnscheduled) :
    ChannelsOk cfg (step cfg mc op) := by
  cases op with
  | addRq packet => exact channelsOk_addRq h (by simpa [DramOp.arrivesUnscheduled] using hop)
  | addWq packet => exact channelsOk_addWq h (by simpa [DramOp.arrivesUnscheduled] using hop)
  | addPq packet => exact channelsOk_addRq h (by simpa [DramOp.arrivesUnscheduled] using hop)
  | operate => exact channelsOk_operate hbank h
  | tick => exact h
  | completeWarmup => exact h

theorem channelsOk_run (hbank : ∀ address, cfg.bankIndex address < cfg.DRAM_RANKS * cfg.DRAM_BANKS) :
    ∀ (ops : List DramOp) (mc : MemoryController), ChannelsOk cfg mc →
      (∀ op ∈ ops, op.arrivesUnscheduled) → ChannelsOk cfg (run cfg mc ops)
  | [], _, h, _ => h
  | op :: ops, _, h, hops =>
    channelsOk_run hbank ops _ (channelsOk_step hbank h op (hops op (.head _)))
      fun op' h' => hops op' (.tail _ h')

end MemoryController

end MindPalace.ChampSim
