import Mathlib

/-! # Rings of cells

A ring of `len` cells, written and read element by element from any position, each
position taken modulo `len`. Seen from a start position, the whole ring is one list of
`len` elements: a write of at most `len` elements replaces a block of that list, a read is
a block of it, and moving the start rotates it.
-/

namespace Ring

variable {α : Type} {len : Nat} [NeZero len]

def slot (len : Nat) [NeZero len] (i : Nat) : Fin len :=
  Fin.ofNat len i

/-- Write `xs` cell by cell from position `idx`, reducing the position before each write,
and return the position after the last cell written. -/
def writeFrom (buf : Fin len → α) (idx : Nat) : List α → (Fin len → α) × Nat
  | [] => (buf, idx)
  | x :: xs => writeFrom (Function.update buf (slot len idx) x) (idx % len + 1) xs

def readFrom (buf : Fin len → α) (idx n : Nat) : List α :=
  (List.range n).map fun k => buf (slot len (idx + k))

def rot (buf : Fin len → α) (start : Nat) : List α :=
  readFrom buf start len

theorem val_slot (i : Nat) : (slot len i).val = i % len := rfl

theorem slot_eq_slot {i j : Nat} : slot len i = slot len j ↔ i % len = j % len := by
  rw [Fin.ext_iff, val_slot, val_slot]

@[simp] theorem length_readFrom (buf : Fin len → α) (idx n : Nat) :
    (readFrom buf idx n).length = n := by
  simp [readFrom]

@[simp] theorem length_rot (buf : Fin len → α) (start : Nat) : (rot buf start).length = len :=
  length_readFrom ..

theorem getElem_rot (buf : Fin len → α) (start k : Nat) (hk : k < (rot buf start).length) :
    (rot buf start)[k] = buf (slot len (start + k)) := by
  simp [rot, readFrom]

theorem rot_congr {buf : Fin len → α} {s t : Nat} (h : s % len = t % len) :
    rot buf s = rot buf t := by
  apply List.ext_getElem (by simp)
  intro k h₁ h₂
  rw [getElem_rot, getElem_rot]
  exact congrArg buf (slot_eq_slot.mpr (by rw [Nat.add_mod, h, ← Nat.add_mod]))

theorem rot_add (buf : Fin len → α) (start o : Nat) :
    rot buf (start + o) = (rot buf start).rotate o := by
  apply List.ext_getElem (by simp)
  intro k h₁ h₂
  rw [List.getElem_rotate, getElem_rot, getElem_rot, length_rot]
  apply congrArg buf
  rw [slot_eq_slot, Nat.add_mod_mod]
  congr 1
  omega

theorem readFrom_eq {buf : Fin len → α} {start o idx n : Nat}
    (hidx : idx % len = (start + o) % len) (hn : o + n ≤ len) :
    readFrom buf idx n = ((rot buf start).drop o).take n := by
  apply List.ext_getElem (by simp; omega)
  intro k h₁ h₂
  simp only [length_readFrom] at h₁
  rw [List.getElem_take, List.getElem_drop, getElem_rot]
  simp only [readFrom, List.getElem_map, List.getElem_range]
  rw [slot_eq_slot.mpr]
  rw [Nat.add_mod, hidx, ← Nat.add_mod]
  congr 1
  omega

theorem rot_update (buf : Fin len → α) {start o : Nat} (ho : o < len) (x : α) :
    rot (Function.update buf (slot len (start + o)) x) start = (rot buf start).set o x := by
  apply List.ext_getElem (by simp)
  intro k h₁ h₂
  simp only [length_rot] at h₁
  rw [getElem_rot, List.getElem_set, getElem_rot]
  by_cases hk : o = k
  · subst hk
    simp
  · rw [if_neg hk, Function.update_of_ne]
    rw [Ne, slot_eq_slot]
    intro h
    apply hk
    have h' := Nat.ModEq.add_left_cancel' start h
    rw [Nat.ModEq, Nat.mod_eq_of_lt ho, Nat.mod_eq_of_lt h₁] at h'
    exact h'.symm

theorem rot_writeFrom (buf : Fin len → α) {start o idx : Nat} (xs : List α)
    (hidx : idx % len = (start + o) % len) (hn : o + xs.length ≤ len) :
    rot (writeFrom buf idx xs).1 start =
      (rot buf start).take o ++ xs ++ (rot buf start).drop (o + xs.length) := by
  induction xs generalizing buf idx o with
  | nil => simp [writeFrom]
  | cons x xs ih =>
    simp only [List.length_cons] at hn
    have hslot : slot len idx = slot len (start + o) := slot_eq_slot.mpr hidx
    have hnext : (idx % len + 1) % len = (start + (o + 1)) % len := by
      rw [Nat.add_mod, Nat.mod_mod, hidx, ← Nat.add_mod, Nat.add_assoc]
    rw [writeFrom, ih _ hnext (by omega), hslot, rot_update buf (by omega)]
    have ho : o < (rot buf start).length := by simp; omega
    have htake : ((rot buf start).set o x).take (o + 1) = (rot buf start).take o ++ [x] := by
      rw [List.take_succ_eq_append_getElem (by simpa using ho), List.getElem_set_self, List.take_set,
        List.set_eq_of_length_le (by simp)]
    rw [htake, List.drop_set_of_lt (by omega)]
    simp only [List.append_assoc, List.cons_append, List.nil_append, List.length_cons,
      Nat.add_right_comm o 1, Nat.add_assoc]

theorem writeFrom_snd_mod (buf : Fin len → α) (idx : Nat) (xs : List α) :
    (writeFrom buf idx xs).2 % len = (idx + xs.length) % len := by
  induction xs generalizing buf idx with
  | nil => rfl
  | cons x xs ih =>
    rw [writeFrom, ih, List.length_cons, Nat.add_assoc, Nat.add_mod, Nat.mod_mod, ← Nat.add_mod]
    congr 1
    omega

theorem writeFrom_append (buf : Fin len → α) (idx : Nat) (xs ys : List α) :
    writeFrom buf idx (xs ++ ys) = writeFrom (writeFrom buf idx xs).1 (writeFrom buf idx xs).2 ys := by
  induction xs generalizing buf idx with
  | nil => rfl
  | cons x xs ih => exact ih _ _

section Blocks

/-! The ring seen from `start` as three blocks `X ++ Y ++ Z`: a read or a write at the offset of
`Y` is a read or a replacement of `Y`. -/

variable {buf : Fin len → α} {start idx : Nat} {X Y Z : List α}

theorem readFrom_block (hrot : rot buf start = X ++ Y ++ Z)
    (hidx : idx % len = (start + X.length) % len) :
    readFrom buf idx Y.length = Y := by
  have hlen : X.length + (Y.length + Z.length) = len := by
    simpa using congrArg List.length hrot.symm
  rw [readFrom_eq hidx (by omega), hrot, List.append_assoc, List.drop_left, List.take_left]

theorem rot_writeFrom_block (hrot : rot buf start = X ++ Y ++ Z)
    (hidx : idx % len = (start + X.length) % len) (xs : List α) (hxs : xs.length = Y.length) :
    rot (writeFrom buf idx xs).1 start = X ++ xs ++ Z := by
  have hlen : X.length + (Y.length + Z.length) = len := by
    simpa using congrArg List.length hrot.symm
  rw [rot_writeFrom buf xs hidx (by omega), hrot, hxs]
  simp

end Blocks

end Ring
