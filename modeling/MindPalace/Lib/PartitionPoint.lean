import Mathlib

/-! # Partition points by binary search

The binary search of the C++ library's `partition_point` over the offsets
`first, first + 1, …, first + len - 1`: it halves the range and moves past the middle
when the predicate holds there. On a predicate that holds exactly below some offset it
finds that offset; on any other predicate it returns wherever the halving ends.
-/

namespace BinarySearch

def partitionPoint (pred : Nat → Bool) (first len : Nat) : Nat :=
  if len = 0 then first
  else if pred (first + len / 2) then
    partitionPoint pred (first + len / 2 + 1) (len - len / 2 - 1)
  else partitionPoint pred first (len / 2)
termination_by len
decreasing_by all_goals omega

theorem partitionPoint_le (pred : Nat → Bool) (first len : Nat) :
    partitionPoint pred first len ≤ first + len := by
  induction first, len using partitionPoint.induct pred with
  | case1 first =>
    rw [partitionPoint, if_pos rfl]
    omega
  | case2 first len hlen hmid ih =>
    rw [partitionPoint, if_neg hlen, if_pos hmid]
    omega
  | case3 first len hlen hmid ih =>
    rw [partitionPoint, if_neg hlen, if_neg hmid]
    omega

end BinarySearch
