import Mathlib

/-! # Sums of natural numbers under floor division and update

Two facts about finite sums in `ℕ` that counter-based hardware tables lean on: a sum of
floors is at most the floor of the sum, so halving or scaling every counter of a set scales
their total at least as much; and changing one entry of a table changes a sum over the table
by the difference at that entry.
-/

namespace NatSum

variable {ι α : Type}

theorem sum_div_le_div_sum (s : Finset ι) (f : ι → ℕ) (d : ℕ) :
    ∑ i ∈ s, f i / d ≤ (∑ i ∈ s, f i) / d := by
  classical
  induction s using Finset.induction_on with
  | empty => simp
  | insert a s ha ih =>
    rw [Finset.sum_insert ha, Finset.sum_insert ha]
    calc f a / d + ∑ i ∈ s, f i / d
        ≤ f a / d + (∑ i ∈ s, f i) / d := Nat.add_le_add_left ih _
      _ ≤ (f a + ∑ i ∈ s, f i) / d := Nat.div_add_div_le_add_div

theorem sum_comp_update [Fintype ι] [DecidableEq ι] (f : ι → α) (g : α → ℕ) (i : ι) (a : α) :
    ∑ x, g (Function.update f i a x) + g (f i) = ∑ x, g (f x) + g a := by
  have hu : (fun x => g (Function.update f i a x)) = Function.update (fun x => g (f x)) i (g a) :=
    funext fun x => Function.apply_update (fun _ => g) f i a x
  rw [hu, Finset.sum_update_of_mem (Finset.mem_univ i),
    ← Finset.add_sum_erase Finset.univ (fun x => g (f x)) (Finset.mem_univ i),
    Finset.sdiff_singleton_eq_erase]
  omega

end NatSum
