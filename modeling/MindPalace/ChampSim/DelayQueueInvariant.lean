import Mathlib
import MindPalace.ChampSim.DelayQueue
import MindPalace.ChampSim.CircularBufferQueue

/-! # Delay queues as queues

The buffer of delays moves in step with the buffer of elements, and `end_ready()` stays within
the queue (`WellFormed`), so a push into a queue that is not `full()` succeeds and a `pop_front`
that `has_ready()` guards finds an element.
-/

namespace MindPalace.ChampSim

namespace DelayQueue

variable {α : Type} {q q' : DelayQueue α} {x : α}

def isEmpty (q : DelayQueue α) : Bool :=
  q.occupancy == 0

/-- `push_back` and `push_back_ready`, with the delay `d` they give the element. -/
def pushDelayed (q : DelayQueue α) (x : α) (d : Int) : Option (DelayQueue α) := do
  let buf ← q.buf.pushBack x
  let delays ← q.delays.pushBack d
  pure { q with buf, delays }

theorem pushBack_eq (q : DelayQueue α) (x : α) : q.pushBack x = q.pushDelayed x q.latency := rfl

theorem pushBackReady_eq (q : DelayQueue α) (x : α) : q.pushBackReady x = q.pushDelayed x 0 := rfl

@[simp] theorem buf_operate (q : DelayQueue α) : q.operate.buf = q.buf := rfl

theorem popFront_eq_some (h : q.popFront = some q') :
    q.buf.popFront = some q'.buf ∧ q.delays.popFront = some q'.delays ∧ q'.endReady = q.endReady := by
  obtain ⟨buf, hb, h⟩ := Option.bind_eq_some_iff.mp h
  obtain ⟨delays, hd, h⟩ := Option.bind_eq_some_iff.mp h
  cases h
  exact ⟨hb, hd, rfl⟩

theorem front_eq (q : DelayQueue α) (h : 0 < q.occupancy) : q.elems.head? = some q.front :=
  CircularBuffer.front_eq q.buf h

/-- The buffer of delays in step with the buffer of elements, and `end_ready()` the slot of an
offset within the queue. -/
structure WellFormed (q : DelayQueue α) : Prop where
  sz : q.delays.sz = q.buf.sz
  occupancy : q.delays.occupancy = q.buf.occupancy
  ready : ∃ k ≤ q.buf.occupancy, q.endReady = (q.buf.slot k).val

theorem wellFormed_new [Inhabited α] (size latency : Nat) : (new size latency : DelayQueue α).WellFormed where
  sz := rfl
  occupancy := rfl
  ready := ⟨0, le_refl _, rfl⟩

namespace WellFormed

variable (h : q.WellFormed)
include h

theorem hasReady_iff : q.hasReady ↔ ∃ k, 0 < k ∧ k ≤ q.buf.occupancy ∧ q.endReady = (q.buf.slot k).val := by
  obtain ⟨k, hk, he⟩ := h.ready
  have hsz := CircularBuffer.occupancy_le q.buf
  have hslot := (q.buf.slot_inj (Nat.zero_le q.buf.sz) (hk.trans hsz))
  constructor
  · intro hr
    refine ⟨k, Nat.pos_of_ne_zero fun hk0 => ?_, hk, he⟩
    subst hk0
    simp only [hasReady, Bool.not_eq_true', decide_eq_false_iff_not] at hr
    exact hr ((q.buf.iterEq_iff q.buf.head.isLt (he ▸ (q.buf.slot 0).isLt)).mpr
      (by rw [he, ← CircularBuffer.head_eq_slot]))
  · rintro ⟨k', hk', hk'le, he'⟩
    simp only [hasReady, Bool.not_eq_true', decide_eq_false_iff_not]
    intro heq
    rw [q.buf.iterEq_iff q.buf.head.isLt (he' ▸ (q.buf.slot k').isLt), he', CircularBuffer.head_eq_slot,
      ← Fin.ext_iff, q.buf.slot_inj (Nat.zero_le _) (hk'le.trans hsz)] at heq
    omega

theorem pushDelayed (hf : q.full = false) (x : α) (d : Int) :
    ∃ q', q.pushDelayed x d = some q' ∧ q'.WellFormed := by
  have hlt := CircularBuffer.occupancy_lt_of_full hf
  have hdf : q.delays.full = false := by
    simp only [CircularBuffer.full, beq_eq_false_iff_ne, h.sz, h.occupancy]
    omega
  obtain ⟨buf, hb⟩ := q.buf.pushBack_some x hf
  obtain ⟨delays, hd⟩ := q.delays.pushBack_some d hdf
  refine ⟨{ q with buf, delays }, by simp [DelayQueue.pushDelayed, hb, hd], ?_⟩
  obtain ⟨k, hk, he⟩ := h.ready
  have hbuf := (CircularBuffer.pushBack_eq_some.mp hb).2
  have hdel := (CircularBuffer.pushBack_eq_some.mp hd).2
  refine ⟨?_, ?_, ⟨k, ?_, ?_⟩⟩
  · rw [hbuf, hdel]
    exact h.sz
  · show delays.occupancy = buf.occupancy
    rw [CircularBuffer.occupancy_pushBack hb, CircularBuffer.occupancy_pushBack hd, h.occupancy]
  · show k ≤ buf.occupancy
    rw [CircularBuffer.occupancy_pushBack hb]
    omega
  · -- the head stays, so the slot of every offset stays
    show q.endReady = (buf.slot k).val
    rw [he, hbuf]
    rfl

theorem popFront (hr : q.hasReady) : ∃ q', q.popFront = some q' ∧ q'.WellFormed := by
  obtain ⟨k, hk, hle, he⟩ := (h.hasReady_iff).mp hr
  have hne : q.buf.isEmpty = false := by
    simp only [CircularBuffer.isEmpty, beq_eq_false_iff_ne]
    omega
  have hdne : q.delays.isEmpty = false := by
    simp only [CircularBuffer.isEmpty, beq_eq_false_iff_ne, h.occupancy]
    omega
  obtain ⟨buf, hb⟩ : ∃ b, q.buf.popFront = some b := ⟨_, CircularBuffer.popFront_eq_some.mpr ⟨hne, rfl⟩⟩
  obtain ⟨delays, hd⟩ : ∃ b, q.delays.popFront = some b :=
    ⟨_, CircularBuffer.popFront_eq_some.mpr ⟨hdne, rfl⟩⟩
  have hbuf := (CircularBuffer.popFront_eq_some.mp hb).2
  have hdel := (CircularBuffer.popFront_eq_some.mp hd).2
  refine ⟨{ q with buf, delays }, by simp [DelayQueue.popFront, hb, hd], ?_, ?_, ⟨k - 1, ?_, ?_⟩⟩
  · rw [hbuf, hdel]
    exact h.sz
  · show delays.occupancy = buf.occupancy
    rw [CircularBuffer.occupancy_popFront hb, CircularBuffer.occupancy_popFront hd, h.occupancy]
  · show k - 1 ≤ buf.occupancy
    rw [CircularBuffer.occupancy_popFront hb]
    omega
  · -- `end_ready()` stays where it is, one offset nearer the new head
    show q.endReady = (buf.slot (k - 1)).val
    rw [CircularBuffer.slot_popFront hb, Nat.sub_add_cancel hk, he]

theorem operate : q.operate.WellFormed := by
  have hsz := CircularBuffer.occupancy_le q.delays
  refine ⟨h.sz, h.occupancy, ?_⟩
  unfold DelayQueue.operate
  dsimp only
  generalize hfound : BinarySearch.partitionPoint _ 0 _ = found
  have hle : found ≤ q.delays.occupancy := by
    rw [← hfound]
    exact (BinarySearch.partitionPoint_le _ 0 _).trans_eq (Nat.zero_add _)
  -- the distance from `begin()` of the delays to the iterator `found` past it is `found`
  have hdist : ∀ D : CircularBuffer Int, found ≤ D.sz → D.iterSub (D.iterAdd D.head found) D.head = found := by
    intro D hD
    have hhead : D.iterAdd D.head ((0 : Nat) : Int) = D.head.val := by
      rw [CircularBuffer.iterAdd_head, Nat.add_zero, Nat.mod_eq_of_lt D.head.isLt]
    have hoff := CircularBuffer.iterSub_offsets D hD (Nat.zero_le D.sz)
    rw [hhead, if_neg fun hc => absurd hc.1 (by have := D.head.isLt; omega)] at hoff
    rw [hoff]
    simp
  refine ⟨found, h.occupancy ▸ hle, ?_⟩
  show q.buf.iterAdd q.buf.head _ = _
  rw [hdist (q.delays.modifyAll (· - 1)) (hle.trans hsz)]
  rfl

end WellFormed

end DelayQueue

end MindPalace.ChampSim
