import Mathlib

/-! # Circular buffers

`champsim::circular_buffer<T>` (`inc/circular_buffer.hpp`): `N + 1` slots, a head and a tail,
and iterators as slot positions. When only the subtrahend has wrapped, `operator-` returns the
distance with the wrong sign.
-/

namespace MindPalace.ChampSim

/-- `circular_buffer::circ_inc`: move `base` by `inc` slots and bring the result back into
`[0, max_size)`. The two adjusting loops of the source compute the Euclidean remainder. -/
def circInc (maxSize : Nat) (base : Nat) (inc : Int) : Nat :=
  ((base + inc) % (maxSize : Int)).toNat

theorem circInc_lt {m : Nat} (hm : 0 < m) (base : Nat) (inc : Int) : circInc m base inc < m := by
  unfold circInc
  have h₁ : 0 ≤ (base + inc) % (m : Int) := Int.emod_nonneg _ (by omega)
  have h₂ : (base + inc) % (m : Int) < m := Int.emod_lt_of_pos _ (by omega)
  omega

@[simp] theorem circInc_nat (m base a : Nat) : circInc m base a = (base + a) % m := by
  unfold circInc
  rw [← Int.natCast_add, ← Int.natCast_emod, Int.toNat_natCast]

@[simp] theorem circInc_one (m base : Nat) : circInc m base 1 = (base + 1) % m :=
  circInc_nat m base 1

theorem circInc_one_neg_one {m t : Nat} (ht : t < m) : circInc m (circInc m t 1) (-1) = t := by
  rw [circInc_one, circInc]
  rcases Nat.lt_or_ge (t + 1) m with h | h
  · rw [Nat.mod_eq_of_lt h, Int.emod_eq_of_lt (by omega) (by omega)]
    omega
  · have hm : (t + 1) % m = 0 := by rw [show t + 1 = m by omega, Nat.mod_self]
    have hneg : (-1 : Int) % (m : Int) = m - 1 := Int.neg_inj.mp rfl
    rw [hm, Nat.cast_zero, zero_add, hneg]
    omega

/-- The slots, head and tail of a `circular_buffer`; `N + 1` slots for capacity `N`. -/
structure CircularBuffer (α : Type) where
  /-- `sz_`, the capacity. -/
  sz : Nat
  /-- `entry_`, one slot more than the capacity. -/
  entry : Fin (sz + 1) → α
  /-- `head_`, the slot of the front element. -/
  head : Fin (sz + 1)
  /-- `tail_`, the slot after the back element. -/
  tail : Fin (sz + 1)

namespace CircularBuffer

variable {α : Type}

/-- `circular_buffer(N)`: default slots, head and tail at slot zero. -/
def empty [Inhabited α] (n : Nat) : CircularBuffer α where
  sz := n
  entry := fun _ => default
  head := 0
  tail := 0

def inc (b : CircularBuffer α) (base : Nat) (n : Int) : Fin (b.sz + 1) :=
  ⟨circInc (b.sz + 1) base n, circInc_lt (Nat.succ_pos _) base n⟩

/-- `circular_buffer_iterator::operator+`: the iterator `n` slots further. -/
def iterAdd (b : CircularBuffer α) (pos : Nat) (n : Int) : Nat :=
  (b.inc pos n).val

/-- `circular_buffer_iterator::operator-`: the difference of two iterators, with the two
corrections for a head that lies between them. -/
def iterSub (b : CircularBuffer α) (pos other : Nat) : Int :=
  let diff : Int := (pos : Int) - other
  if pos < b.head.val ∧ b.head.val ≤ other then ((b.sz + 1 : Nat) : Int) + diff
  else if other < b.head.val ∧ b.head.val ≤ pos then ((b.sz + 1 : Nat) : Int) - diff
  else diff

def iterLt (b : CircularBuffer α) (pos other : Nat) : Prop :=
  0 < b.iterSub other pos

instance (b : CircularBuffer α) (pos other : Nat) : Decidable (b.iterLt pos other) :=
  inferInstanceAs (Decidable (0 < _))

/-- `circular_buffer_iterator::operator==`, written as `<=` and `>=` as the source has it. -/
def iterEq (b : CircularBuffer α) (pos other : Nat) : Prop :=
  ¬ b.iterLt other pos ∧ ¬ b.iterLt pos other

instance (b : CircularBuffer α) (pos other : Nat) : Decidable (b.iterEq pos other) :=
  inferInstanceAs (Decidable (_ ∧ _))

/-- `occupancy()`, the distance from `begin()` to `end()`. -/
def occupancy (b : CircularBuffer α) : Nat :=
  (b.iterSub b.tail b.head).toNat

def full (b : CircularBuffer α) : Bool :=
  b.occupancy == b.sz

def isEmpty (b : CircularBuffer α) : Bool :=
  b.occupancy == 0

def front (b : CircularBuffer α) : α :=
  b.entry b.head

def back (b : CircularBuffer α) : α :=
  b.entry (b.inc b.tail (-1))

def occupied (b : CircularBuffer α) (i : Fin (b.sz + 1)) : Bool :=
  decide ((i.val + (b.sz + 1) - b.head.val) % (b.sz + 1) < b.occupancy)

/-- A range-`for` over `[begin(), end())` that updates each element in place. -/
def modifyAll (b : CircularBuffer α) (f : α → α) : CircularBuffer α :=
  { b with entry := fun i => if b.occupied i then f (b.entry i) else b.entry i }

/-- `push_back`; `none` is the failed `assert(!full())`. -/
def pushBack (b : CircularBuffer α) (x : α) : Option (CircularBuffer α) :=
  if b.full then none
  else some { b with entry := Function.update b.entry b.tail x, tail := b.inc b.tail 1 }

/-- `pop_front`; `none` is the failed `assert(!empty())`. -/
def popFront (b : CircularBuffer α) : Option (CircularBuffer α) :=
  if b.isEmpty then none
  else some { b with head := b.inc b.head 1 }

/-- The buffers reached from `circular_buffer(N)` by `push_back` when not full and
`pop_front` when not empty. -/
inductive Reachable [Inhabited α] (n : Nat) : CircularBuffer α → Prop
  | empty : Reachable n (CircularBuffer.empty n)
  | push_back {b b' : CircularBuffer α} (x : α) :
      Reachable n b → b.pushBack x = some b' → Reachable n b'
  | pop_front {b b' : CircularBuffer α} :
      Reachable n b → b.popFront = some b' → Reachable n b'

/-! ### Iterators at logical offsets -/

theorem iterAdd_head (b : CircularBuffer α) (a : Nat) :
    b.iterAdd b.head a = (b.head.val + a) % (b.sz + 1) := by
  simp [iterAdd, inc]

theorem iterSub_eq (b : CircularBuffer α) (pos other : Nat) :
    b.iterSub pos other =
      if pos < b.head.val ∧ b.head.val ≤ other then ((b.sz + 1 : Nat) : Int) + (pos - other)
      else if other < b.head.val ∧ b.head.val ≤ pos then ((b.sz + 1 : Nat) : Int) - (pos - other)
      else (pos : Int) - other := rfl

theorem offset_val (b : CircularBuffer α) {a : Nat} (ha : a ≤ b.sz) :
    (b.head.val + a) % (b.sz + 1) + (if b.sz + 1 ≤ b.head.val + a then b.sz + 1 else 0) =
      b.head.val + a := by
  have hh := b.head.isLt
  split
  · rw [Nat.mod_eq_sub_mod (by omega), Nat.mod_eq_of_lt (by omega)]
    omega
  · rw [Nat.mod_eq_of_lt (by omega)]
    rfl

theorem iterSub_offsets (b : CircularBuffer α) {a c : Nat} (ha : a ≤ b.sz) (hc : c ≤ b.sz) :
    b.iterSub (b.iterAdd b.head a) (b.iterAdd b.head c) =
      if b.sz + 1 ≤ b.head.val + c ∧ b.head.val + a < b.sz + 1 then (c : Int) - a
      else (a : Int) - c := by
  have hh := b.head.isLt
  have hpa := offset_val b ha
  have hpc := offset_val b hc
  rw [iterSub_eq, iterAdd_head, iterAdd_head]
  generalize (b.head.val + a) % (b.sz + 1) = pa at hpa ⊢
  generalize (b.head.val + c) % (b.sz + 1) = pc at hpc ⊢
  split_ifs at hpa hpc ⊢ <;> omega

theorem occupancy_eq (b : CircularBuffer α) :
    b.occupancy = (b.tail.val + (b.sz + 1) - b.head.val) % (b.sz + 1) := by
  have hh := b.head.isLt
  have ht := b.tail.isLt
  unfold occupancy
  rw [iterSub_eq]
  by_cases hlt : b.tail.val < b.head.val
  · rw [if_pos ⟨hlt, le_refl _⟩, Nat.mod_eq_of_lt (by omega)]
    omega
  · rw [if_neg (by omega), if_neg (by omega), Nat.mod_eq_sub_mod (by omega),
      Nat.mod_eq_of_lt (by omega)]
    omega

theorem occupancy_le (b : CircularBuffer α) : b.occupancy ≤ b.sz := by
  rw [occupancy_eq]
  exact Nat.le_of_lt_succ (Nat.mod_lt _ (Nat.succ_pos _))

theorem iterEq_iff (b : CircularBuffer α) {p q : Nat} (hp : p < b.sz + 1) (hq : q < b.sz + 1) :
    b.iterEq p q ↔ p = q := by
  have hh := b.head.isLt
  simp only [iterEq, iterLt, iterSub_eq]
  split_ifs <;> omega

theorem pushBack_some (b : CircularBuffer α) (x : α) (h : b.full = false) :
    ∃ b', b.pushBack x = some b' :=
  ⟨_, if_neg (by simp [h])⟩

theorem back_pushBack {b b' : CircularBuffer α} {x : α} (h : b.pushBack x = some b') :
    b'.back = x := by
  unfold pushBack at h
  split at h
  · cases h
  · cases h
    show Function.update b.entry b.tail x (b.inc (b.inc b.tail 1) (-1)) = x
    have hslot : b.inc (b.inc b.tail 1) (-1) = b.tail := Fin.ext (circInc_one_neg_one b.tail.isLt)
    rw [hslot, Function.update_self]

/-- The buffer of capacity one after `push_back`, `pop_front`, `push_back` holds one element;
`begin() - (begin() + 1)` is `1` where the logical difference is `-1`, and each of the two
iterators is below the other. -/
theorem iterSub_wrapped_one :
    ((CircularBuffer.empty 1 : CircularBuffer Nat).pushBack 7 >>= popFront >>=
        (pushBack · 8)).map (fun b =>
      (b.occupancy, b.iterSub (b.iterAdd b.head 0) (b.iterAdd b.head 1),
        decide (b.iterLt (b.iterAdd b.head 0) (b.iterAdd b.head 1)),
        decide (b.iterLt (b.iterAdd b.head 1) (b.iterAdd b.head 0)))) =
      some (1, 1, true, true) := by
  decide

end CircularBuffer

end MindPalace.ChampSim
