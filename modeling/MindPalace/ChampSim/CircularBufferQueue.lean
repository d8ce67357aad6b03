import MindPalace.ChampSim.CircularBuffer

/-! # The circular buffer as a FIFO queue

The buffer holds the list read off `begin() + i`; `push_back` appends to it and `pop_front` drops
its head, so along any calls the buffer holds the queue the same calls build on a list.
-/

namespace MindPalace.ChampSim

namespace CircularBuffer

variable {α : Type} {b b' : CircularBuffer α}

def slot (b : CircularBuffer α) (i : Nat) : Fin (b.sz + 1) :=
  b.inc b.head i

/-- The elements from `begin()` up to `end()`, by logical offset. -/
def contents (b : CircularBuffer α) : List α :=
  (List.range b.occupancy).map fun i => b.entry (b.slot i)

/-- A loop `for (it = begin(); it != end(); ++it)` from the iterator at `it`, with the
number of slots as fuel. -/
def visitFrom (b : CircularBuffer α) : Nat → Fin (b.sz + 1) → List α
  | 0, _ => []
  | fuel + 1, it =>
    if b.iterEq it.val b.tail.val then [] else b.entry it :: b.visitFrom fuel (b.inc it.val 1)

/-- The elements the loop from `begin()` to `end()` visits. -/
def elements (b : CircularBuffer α) : List α :=
  b.visitFrom (b.sz + 1) b.head

inductive QueueOp (α : Type)
  | pushBack (x : α)
  | popFront

def QueueOp.apply (q : List α) : QueueOp α → List α
  | .pushBack x => q ++ [x]
  | .popFront => q.tail

def QueueOp.pops : List (QueueOp α) → Nat
  | [] => 0
  | .pushBack _ :: ops => pops ops
  | .popFront :: ops => pops ops + 1

/-- One call; `none` is a failed assertion. -/
def step (b : CircularBuffer α) : QueueOp α → Option (CircularBuffer α)
  | .pushBack x => b.pushBack x
  | .popFront => b.popFront

/-- The calls in order, failing at the first failed assertion. -/
def run (b : CircularBuffer α) : List (QueueOp α) → Option (CircularBuffer α)
  | [] => some b
  | op :: ops => (b.step op).bind fun b => b.run ops

/-! ### Slots at logical offsets -/

@[simp] theorem val_slot (b : CircularBuffer α) (i : Nat) :
    (b.slot i).val = (b.head.val + i) % (b.sz + 1) := by
  simp [slot, inc]

theorem head_eq_slot (b : CircularBuffer α) : b.head = b.slot 0 := by
  ext
  rw [val_slot, Nat.add_zero b.head.val, Nat.mod_eq_of_lt b.head.isLt]

theorem inc_slot (b : CircularBuffer α) (i : Nat) : b.inc (b.slot i).val 1 = b.slot (i + 1) := by
  ext
  simp only [inc, circInc_one, val_slot, Nat.mod_add_mod, Nat.add_assoc]

theorem slot_inj (b : CircularBuffer α) {i j : Nat} (hi : i ≤ b.sz) (hj : j ≤ b.sz) :
    b.slot i = b.slot j ↔ i = j := by
  have hpi := offset_val b hi
  have hpj := offset_val b hj
  rw [Fin.ext_iff, val_slot, val_slot]
  generalize (b.head.val + i) % (b.sz + 1) = pi at hpi ⊢
  generalize (b.head.val + j) % (b.sz + 1) = pj at hpj ⊢
  split_ifs at hpi hpj <;> omega

theorem tail_eq_slot (b : CircularBuffer α) : b.tail = b.slot b.occupancy := by
  have hh := b.head.isLt
  have ht := b.tail.isLt
  ext
  rw [val_slot, occupancy_eq, Nat.add_mod_mod, show b.head.val + (b.tail.val + (b.sz + 1) -
    b.head.val) = b.tail.val + (b.sz + 1) by omega, Nat.add_mod_right, Nat.mod_eq_of_lt ht]

theorem occupancy_of_tail_eq_slot {k : Nat} (h : b.tail = b.slot k) (hk : k ≤ b.sz) :
    b.occupancy = k := by
  have hk' := (b.slot_inj (occupancy_le b) hk).mp
  rw [← tail_eq_slot] at hk'
  exact hk' h

theorem length_contents (b : CircularBuffer α) : b.contents.length = b.occupancy := by
  simp [contents]

/-! ### Push and pop -/

theorem pushBack_eq_some {x : α} :
    b.pushBack x = some b' ↔ b.full = false ∧
      b' = { b with entry := Function.update b.entry b.tail x, tail := b.inc b.tail 1 } := by
  unfold pushBack
  cases hf : b.full
  · simp only [Bool.false_eq_true, if_false, Option.some.injEq, true_and]
    exact eq_comm
  · simp

theorem popFront_eq_some :
    b.popFront = some b' ↔ b.isEmpty = false ∧ b' = { b with head := b.inc b.head 1 } := by
  unfold popFront
  cases he : b.isEmpty
  · simp only [Bool.false_eq_true, if_false, Option.some.injEq, true_and]
    exact eq_comm
  · simp

theorem occupancy_lt_of_full {b : CircularBuffer α} (h : b.full = false) : b.occupancy < b.sz := by
  have hle := occupancy_le b
  simp only [full, beq_eq_false_iff_ne] at h
  omega

theorem occupancy_pos_of_isEmpty {b : CircularBuffer α} (h : b.isEmpty = false) :
    0 < b.occupancy := by
  simp only [isEmpty, beq_eq_false_iff_ne] at h
  omega

theorem occupancy_pushBack {x : α} (h : b.pushBack x = some b') :
    b'.occupancy = b.occupancy + 1 := by
  obtain ⟨hfull, rfl⟩ := pushBack_eq_some.mp h
  have hlt := occupancy_lt_of_full hfull
  have htail : b.inc b.tail 1 = b.slot (b.occupancy + 1) := by
    rw [← inc_slot, ← tail_eq_slot]
  exact occupancy_of_tail_eq_slot htail hlt

theorem entry_pushBack_of_lt {x : α} (h : b.pushBack x = some b') {i : Nat}
    (hi : i < b.occupancy) : b'.entry (b'.slot i) = b.entry (b.slot i) := by
  obtain ⟨hfull, rfl⟩ := pushBack_eq_some.mp h
  have hlt := occupancy_lt_of_full hfull
  have hne : b.slot i ≠ b.tail := by
    rw [tail_eq_slot, Ne, b.slot_inj (by omega) hlt.le]
    omega
  exact Function.update_of_ne hne _ _

theorem entry_pushBack_occupancy {x : α} (h : b.pushBack x = some b') :
    b'.entry (b'.slot b.occupancy) = x := by
  obtain ⟨-, rfl⟩ := pushBack_eq_some.mp h
  show Function.update b.entry b.tail x (b.slot b.occupancy) = x
  rw [← tail_eq_slot, Function.update_self]

theorem contents_pushBack {x : α} (h : b.pushBack x = some b') :
    b'.contents = b.contents ++ [x] := by
  unfold contents
  rw [occupancy_pushBack h, List.range_succ, List.map_append, List.map_singleton,
    entry_pushBack_occupancy h]
  congr 1
  exact List.map_congr_left fun i hi => entry_pushBack_of_lt h (List.mem_range.mp hi)

theorem slot_popFront (h : b.popFront = some b') (i : Nat) :
    (b'.slot i).val = (b.slot (i + 1)).val := by
  obtain ⟨-, rfl⟩ := popFront_eq_some.mp h
  rw [val_slot, val_slot]
  show ((b.inc b.head 1).val + i) % (b.sz + 1) = _
  simp only [inc, circInc_one, Nat.mod_add_mod]
  congr 1
  omega

theorem entry_slot_popFront (h : b.popFront = some b') (i : Nat) :
    b'.entry (b'.slot i) = b.entry (b.slot (i + 1)) := by
  have hval := slot_popFront h i
  obtain ⟨-, rfl⟩ := popFront_eq_some.mp h
  exact congrArg b.entry (Fin.ext hval)

theorem occupancy_popFront (h : b.popFront = some b') : b'.occupancy = b.occupancy - 1 := by
  have hval := slot_popFront h (b.occupancy - 1)
  obtain ⟨hne, rfl⟩ := popFront_eq_some.mp h
  have hpos := occupancy_pos_of_isEmpty hne
  -- the tail stays where it is, one offset closer to the advanced head
  have htail : b.tail = ({ b with head := b.inc b.head 1 } : CircularBuffer α).slot
      (b.occupancy - 1) := by
    ext
    rw [hval, Nat.sub_add_cancel hpos, ← tail_eq_slot]
  exact occupancy_of_tail_eq_slot htail
    (show b.occupancy - 1 ≤ b.sz by have := occupancy_le b; omega)

theorem contents_popFront (h : b.popFront = some b') : b'.contents = b.contents.tail := by
  have hpos := occupancy_pos_of_isEmpty (popFront_eq_some.mp h).1
  obtain ⟨n, hn⟩ : ∃ n, b.occupancy = n + 1 := ⟨b.occupancy - 1, by omega⟩
  unfold contents
  rw [occupancy_popFront h, hn, Nat.add_sub_cancel, List.range_succ_eq_map, List.map_cons,
    List.tail_cons, List.map_map]
  exact List.map_congr_left fun i _ => entry_slot_popFront h i

/-! ### Reading the buffer -/

theorem iterEq_slot_tail (b : CircularBuffer α) {i : Nat} (hi : i ≤ b.occupancy) :
    b.iterEq (b.slot i).val b.tail.val ↔ i = b.occupancy := by
  rw [b.iterEq_iff (b.slot i).isLt b.tail.isLt, ← Fin.ext_iff, tail_eq_slot,
    b.slot_inj (hi.trans (occupancy_le b)) (occupancy_le b)]

theorem visitFrom_slot (b : CircularBuffer α) :
    ∀ (fuel i : Nat), i ≤ b.occupancy → b.occupancy - i < fuel →
      b.visitFrom fuel (b.slot i) =
        (List.range' i (b.occupancy - i)).map fun j => b.entry (b.slot j)
  | 0, _, _, hf => absurd hf (Nat.not_lt_zero _)
  | fuel + 1, i, hi, hf => by
    rw [visitFrom]
    by_cases heq : i = b.occupancy
    · rw [if_pos ((b.iterEq_slot_tail hi).mpr heq), heq, Nat.sub_self]
      rfl
    · have hlt : i < b.occupancy := Nat.lt_of_le_of_ne hi heq
      rw [if_neg (mt (b.iterEq_slot_tail hi).mp heq), inc_slot,
        visitFrom_slot b fuel (i + 1) hlt (by omega),
        show b.occupancy - i = b.occupancy - (i + 1) + 1 by omega, List.range'_succ]
      rfl

theorem elements_eq_contents (b : CircularBuffer α) : b.elements = b.contents := by
  have hle := occupancy_le b
  rw [elements, head_eq_slot, visitFrom_slot b (b.sz + 1) 0 (Nat.zero_le _) (by omega),
    Nat.sub_zero, contents, List.range_eq_range']

theorem getElem?_contents (b : CircularBuffer α) {i : Nat} (hi : i < b.occupancy) :
    b.contents[i]? = some (b.entry (b.slot i)) := by
  rw [contents, List.getElem?_map, List.getElem?_range hi, Option.map_some]

theorem front_eq (b : CircularBuffer α) (h : 0 < b.occupancy) :
    b.contents.head? = some b.front := by
  rw [List.head?_eq_getElem?, getElem?_contents b h, front, ← head_eq_slot]

theorem inc_slot_neg_one (b : CircularBuffer α) (i : Nat) :
    b.inc (b.slot (i + 1)).val (-1) = b.slot i := by
  ext
  rw [← inc_slot]
  exact circInc_one_neg_one (b.slot i).isLt

theorem back_eq (b : CircularBuffer α) (h : 0 < b.occupancy) :
    b.contents.getLast? = some b.back := by
  obtain ⟨n, hn⟩ : ∃ n, b.occupancy = n + 1 := ⟨b.occupancy - 1, by omega⟩
  rw [List.getLast?_eq_getElem?, length_contents, getElem?_contents b (by omega), back,
    tail_eq_slot]
  congr 2
  rw [hn, inc_slot_neg_one, Nat.add_sub_cancel]

/-! ### Runs against the reference queue -/

/-- The queue the calls build on a list, from the empty list. -/
def reference (ops : List (QueueOp α)) : List α :=
  ops.foldl QueueOp.apply []

/-- Offset `j` of `b'` is the slot of offset `i` of `b` and holds the same element: an
iterator at that slot designates the same element in both. -/
def Keeps (b : CircularBuffer α) (i : Nat) (b' : CircularBuffer α) (j : Nat) : Prop :=
  j < b'.occupancy ∧ (b'.slot j).val = (b.slot i).val ∧ b'.entry (b'.slot j) = b.entry (b.slot i)

theorem Keeps.refl {i : Nat} (hi : i < b.occupancy) : b.Keeps i b i :=
  ⟨hi, rfl, rfl⟩

theorem Keeps.trans {b₂ : CircularBuffer α} {i j k : Nat} (h₁ : b.Keeps i b' j)
    (h₂ : b'.Keeps j b₂ k) : b.Keeps i b₂ k :=
  ⟨h₂.1, h₂.2.1.trans h₁.2.1, h₂.2.2.trans h₁.2.2⟩

theorem keeps_pushBack {x : α} (h : b.pushBack x = some b') {i : Nat} (hi : i < b.occupancy) :
    b.Keeps i b' i := by
  refine ⟨by rw [occupancy_pushBack h]; omega, ?_, entry_pushBack_of_lt h hi⟩
  obtain ⟨-, rfl⟩ := pushBack_eq_some.mp h
  rfl

theorem keeps_popFront (h : b.popFront = some b') {i : Nat} (hi : i < b.occupancy) (hpos : 0 < i) :
    b.Keeps i b' (i - 1) := by
  have hslot := slot_popFront h (i - 1)
  have hentry := entry_slot_popFront h (i - 1)
  rw [Nat.sub_add_cancel hpos] at hslot hentry
  exact ⟨by rw [occupancy_popFront h]; omega, hslot, hentry⟩

theorem sz_step {op : QueueOp α} (h : b.step op = some b') : b'.sz = b.sz := by
  cases op with
  | pushBack x =>
    obtain ⟨-, rfl⟩ := pushBack_eq_some.mp h
    rfl
  | popFront =>
    obtain ⟨-, rfl⟩ := popFront_eq_some.mp h
    rfl

theorem contents_step {op : QueueOp α} (h : b.step op = some b') :
    b'.contents = QueueOp.apply b.contents op := by
  cases op with
  | pushBack x => exact contents_pushBack h
  | popFront => exact contents_popFront h

theorem sz_run : ∀ {b b' : CircularBuffer α} (ops : List (QueueOp α)), b.run ops = some b' →
    b'.sz = b.sz
  | _, _, [], h => by cases h; rfl
  | _, _, _ :: ops, h => by
    obtain ⟨b₁, h₁, h₂⟩ := Option.bind_eq_some_iff.mp h
    rw [sz_run ops h₂, sz_step h₁]

theorem contents_run : ∀ {b b' : CircularBuffer α} (ops : List (QueueOp α)), b.run ops = some b' →
    b'.contents = ops.foldl QueueOp.apply b.contents
  | _, _, [], h => by cases h; rfl
  | _, _, _ :: ops, h => by
    obtain ⟨b₁, h₁, h₂⟩ := Option.bind_eq_some_iff.mp h
    rw [contents_run ops h₂, contents_step h₁, List.foldl_cons]

theorem keeps_run : ∀ {b b' : CircularBuffer α} (ops : List (QueueOp α)) {i : Nat},
    b.run ops = some b' → i < b.occupancy → QueueOp.pops ops ≤ i →
      b.Keeps i b' (i - QueueOp.pops ops)
  | _, _, [], _, h, hi, _ => by cases h; exact Keeps.refl hi
  | _, _, op :: ops, i, h, hi, hp => by
    obtain ⟨b₁, h₁, h₂⟩ := Option.bind_eq_some_iff.mp h
    cases op with
    | pushBack x =>
      have hk := keeps_pushBack h₁ hi
      exact hk.trans (keeps_run ops h₂ hk.1 hp)
    | popFront =>
      simp only [QueueOp.pops] at hp
      have hk := keeps_popFront h₁ hi (by omega)
      have hrest := keeps_run ops h₂ hk.1 (by omega)
      rw [Nat.sub_sub, Nat.add_comm 1] at hrest
      exact hk.trans hrest

theorem contents_empty [Inhabited α] (n : Nat) :
    (CircularBuffer.empty n : CircularBuffer α).contents = [] := by
  simp [contents, occupancy_eq, CircularBuffer.empty]

/-- Along any calls that pass their assertions, `circular_buffer(N)` holds the queue the same
calls build on a list: the loop from `begin()` to `end()` visits it, `occupancy()` is its
length and at most `N`, `full()` and `empty()` compare that length, `front()` and `back()` are
its ends, and an iterator keeps designating its element until the element is popped. -/
theorem circularBuffer_fifo [Inhabited α] (N : Nat) (ops : List (QueueOp α))
    {b : CircularBuffer α} (hrun : (CircularBuffer.empty N : CircularBuffer α).run ops = some b) :
    b.elements = reference ops ∧ b.occupancy = (reference ops).length ∧ b.occupancy ≤ N ∧
      (b.full = true ↔ b.occupancy = N) ∧ (b.isEmpty = true ↔ b.occupancy = 0) ∧
      (reference ops ≠ [] →
        (reference ops).head? = some b.front ∧ (reference ops).getLast? = some b.back) ∧
      ∀ (later : List (QueueOp α)) (b' : CircularBuffer α) (i : Nat), i < b.occupancy →
        b.run later = some b' → QueueOp.pops later ≤ i → b.Keeps i b' (i - QueueOp.pops later) := by
  have hsz : b.sz = N := sz_run ops hrun
  have hc : b.contents = reference ops := by
    rw [contents_run ops hrun, contents_empty]
    rfl
  refine ⟨by rw [elements_eq_contents, hc], by rw [← hc, length_contents],
    hsz ▸ occupancy_le b, by simp [full, hsz], by simp [isEmpty], ?_,
    fun later b' i hi h hp => keeps_run later h hi hp⟩
  intro hne
  have hpos : 0 < b.occupancy := by
    rw [← length_contents, hc]
    exact List.length_pos_of_ne_nil hne
  rw [← hc]
  exact ⟨front_eq b hpos, back_eq b hpos⟩

/-- Two pushes, a pop and a push into `circular_buffer(2)`, the last push wrapping round the
three slots: the buffer visits `[2, 3]`. -/
theorem circularBuffer_fifo_wrapped : ∃ b : CircularBuffer Nat,
    (CircularBuffer.empty 2 : CircularBuffer Nat).run
      [.pushBack 1, .pushBack 2, .popFront, .pushBack 3] = some b ∧ b.elements = [2, 3] := by
  obtain ⟨b, hb⟩ := Option.isSome_iff_exists.mp (show ((CircularBuffer.empty 2 :
    CircularBuffer Nat).run [.pushBack 1, .pushBack 2, .popFront, .pushBack 3]).isSome = true by
      decide +kernel)
  exact ⟨b, hb, (circularBuffer_fifo 2 _ hb).1⟩

end CircularBuffer

end MindPalace.ChampSim
