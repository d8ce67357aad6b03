import Mathlib

/-! # Stacks on a ring of cells

A stack in a ring of `len` cells with a cursor on its top. While it never holds more than `len`
elements, every pop reads the element of the push it matches; a pop of an empty stack loses
nothing.
-/

namespace RingStack

variable {α : Type} {len : Nat}

/-- The cell `k` places before the cursor `top` around a ring of `len` cells. -/
def below (len : Nat) (top : Int) (k : Nat) : Nat :=
  ((top - k) % (len : Int)).toNat

/-- The cells hold the stack `S`, top first, with its top element under the cursor `top`. -/
def Holds (len : Nat) (cells : Nat → α) (top : Int) (S : List α) : Prop :=
  S.length ≤ len ∧ ∀ k (hk : k < S.length), cells (below len top k) = S[k]

theorem below_succ {top top' : Int} (htop : top' % len = (top + 1) % len) (k : Nat) :
    below len top' (k + 1) = below len top k := by
  unfold below
  rw [Int.sub_emod, htop, ← Int.sub_emod]
  congr 2
  omega

theorem below_ne_below_zero {k : Nat} (hk0 : 0 < k) (hk : k < len) (top : Int) :
    below len top k ≠ below len top 0 := by
  unfold below
  intro h
  have hlen : (len : Int) ≠ 0 := by omega
  have h₁ := Int.emod_nonneg (top - k) hlen
  have h₂ := Int.emod_nonneg (top - (0 : Nat)) hlen
  have heq : (top - k) % (len : Int) = (top - (0 : Nat)) % len := by omega
  -- the two places differ by `k`, so `len` would divide `k`
  have hzero : (k : Int) % len = 0 := by
    have hk' : (k : Int) = (top - (0 : Nat)) - (top - k) := by omega
    rw [hk', Int.sub_emod, heq, Int.sub_self, Int.zero_emod]
  have hle := Int.le_of_dvd (by omega) (Int.dvd_of_emod_eq_zero hzero)
  omega

theorem holds_nil (cells : Nat → α) (top : Int) : Holds len cells top [] :=
  ⟨Nat.zero_le _, fun _ hk => absurd hk (Nat.not_lt_zero _)⟩

theorem Holds.congr {cells : Nat → α} {top top' : Int} {S : List α} (h : Holds len cells top S)
    (htop : top' % len = top % len) : Holds len cells top' S := by
  refine ⟨h.1, fun k hk => ?_⟩
  have hcell : below len top' k = below len top k := by
    unfold below
    rw [Int.sub_emod, htop, ← Int.sub_emod]
  rw [hcell]
  exact h.2 k hk

theorem Holds.push {cells : Nat → α} {top : Int} {S : List α} (h : Holds len cells top S)
    (hroom : S.length < len) {top' : Int} (htop : top' % len = (top + 1) % len) (x : α) :
    Holds len (Function.update cells (below len top' 0) x) top' (x :: S) := by
  refine ⟨hroom, fun k hk => ?_⟩
  cases k with
  | zero => simp
  | succ k =>
    -- an element already on the stack: its cell is not the one just written
    have hk' : k < S.length := by simpa using hk
    rw [Function.update_of_ne (below_ne_below_zero (Nat.succ_pos k) (by omega) top'),
      below_succ htop]
    exact h.2 k hk'

theorem Holds.top_eq {cells : Nat → α} {top : Int} {x : α} {S : List α}
    (h : Holds len cells top (x :: S)) : cells (below len top 0) = x :=
  h.2 0 (Nat.succ_pos _)

theorem Holds.pop {cells : Nat → α} {top : Int} {x : α} {S : List α}
    (h : Holds len cells top (x :: S)) {top' : Int} (htop : top' % len = (top - 1) % len)
    (v : α) : Holds len (Function.update cells (below len top 0) v) top' S := by
  have hlen : S.length + 1 ≤ len := h.1
  have hup : top % len = (top' + 1) % len := by
    rw [Int.add_emod, htop, ← Int.add_emod, Int.sub_add_cancel]
  refine ⟨by omega, fun k hk => ?_⟩
  rw [← below_succ hup, Function.update_of_ne (below_ne_below_zero (Nat.succ_pos k) (by omega) top)]
  exact h.2 (k + 1) (by simpa using hk)

end RingStack
