import Mathlib

/-! # Recency lists

The elements touched so far, most recent first; touching moves an element to the front. One
counter per element encodes the list by ranks, and the counter update that zeroes the touched
element and bumps those not above it is `touch` on the list.
-/

namespace Recency

variable {ι : Type} [DecidableEq ι] {r : List ι} {w x : ι}

def touch (r : List ι) (w : ι) : List ι :=
  w :: r.erase w

/-- The counter of `x` that encodes `r`: its position if touched, else `base` plus the number
of touched elements. -/
def rank (base : Nat) (r : List ι) (x : ι) : Nat :=
  if x ∈ r then r.idxOf x else base + r.length

/-- The counter update of a touch: zero the touched counter, and bump every other counter
that is not above it. -/
def bump (c : ι → Nat) (w : ι) (x : ι) : Nat :=
  if x = w then 0 else if c x ≤ c w then c x + 1 else c x

theorem mem_touch : x ∈ touch r w ↔ x = w ∨ x ∈ r := by
  by_cases hxw : x = w
  · simp [touch, hxw]
  · simp [touch, hxw, List.mem_erase_of_ne hxw]

theorem nodup_touch (hr : r.Nodup) : (touch r w).Nodup :=
  List.nodup_cons.mpr ⟨hr.not_mem_erase, hr.erase w⟩

theorem length_touch :
    (touch r w).length = if w ∈ r then r.length else r.length + 1 := by
  split
  · next hw =>
    rw [touch, List.length_cons, List.length_erase_of_mem hw]
    have := List.length_pos_of_mem hw
    omega
  · next hw => rw [touch, List.length_cons, List.erase_of_not_mem hw]

theorem idxOf_ne_of_mem (hx : x ∈ r) (hxw : x ≠ w) : r.idxOf x ≠ r.idxOf w := by
  intro h
  have hlt : r.idxOf w < r.length := h ▸ List.idxOf_lt_length_of_mem hx
  apply hxw
  rw [← List.getElem_idxOf (List.idxOf_lt_length_of_mem hx), ← List.getElem_idxOf hlt]
  simp only [h]

theorem idxOf_erase_of_ne (hxw : x ≠ w) : ∀ {r : List ι}, x ∈ r →
    (r.erase w).idxOf x = if r.idxOf x < r.idxOf w then r.idxOf x else r.idxOf x - 1
  | a :: r, hx => by
    by_cases haw : a = w
    · subst haw
      rw [List.erase_cons_head, List.idxOf_cons_self, List.idxOf_cons_ne _ (Ne.symm hxw)]
      simp
    · rw [List.erase_cons_tail (by simpa using haw)]
      by_cases hax : a = x
      · subst hax
        rw [List.idxOf_cons_self, List.idxOf_cons_self, List.idxOf_cons_ne _ haw]
        simp
      · have hx' : x ∈ r := (List.mem_cons.mp hx).resolve_left (Ne.symm hax)
        have hne := idxOf_ne_of_mem hx' hxw
        rw [List.idxOf_cons_ne _ hax, List.idxOf_cons_ne _ hax, List.idxOf_cons_ne _ haw,
          idxOf_erase_of_ne hxw hx']
        split_ifs <;> omega

theorem idxOf_touch_of_ne (hx : x ∈ r) (hxw : x ≠ w) :
    (touch r w).idxOf x = if r.idxOf x < r.idxOf w then r.idxOf x + 1 else r.idxOf x := by
  have hne := idxOf_ne_of_mem hx hxw
  rw [touch, List.idxOf_cons_ne _ (Ne.symm hxw), idxOf_erase_of_ne hxw hx]
  split_ifs <;> omega

theorem rank_of_mem (base : Nat) (hx : x ∈ r) : rank base r x = r.idxOf x :=
  if_pos hx

theorem rank_of_not_mem (base : Nat) (hx : x ∉ r) : rank base r x = base + r.length :=
  if_neg hx

theorem rank_lt_length (base : Nat) (hx : x ∈ r) : rank base r x < r.length := by
  rw [rank_of_mem base hx]
  exact List.idxOf_lt_length_of_mem hx

theorem bump_rank (base : Nat) (r : List ι) (w : ι) :
    bump (rank base r) w = rank base (touch r w) := by
  funext x
  unfold bump
  by_cases hxw : x = w
  · subst hxw
    rw [if_pos rfl, rank_of_mem base (mem_touch.mpr (Or.inl rfl)), touch, List.idxOf_cons_self]
  rw [if_neg hxw]
  by_cases hx : x ∈ r
  · -- a touched counter moves back one place exactly when it was in front of `w`
    have hne := idxOf_ne_of_mem hx hxw
    rw [rank_of_mem base hx, rank_of_mem base (mem_touch.mpr (Or.inr hx)),
      idxOf_touch_of_ne hx hxw]
    by_cases hw : w ∈ r
    · rw [rank_of_mem base hw]
      split_ifs <;> omega
    · have hlt := List.idxOf_lt_length_of_mem hx
      rw [rank_of_not_mem base hw, List.idxOf_eq_length_iff.mpr hw]
      split_ifs <;> omega
  · -- an untouched counter goes up exactly when `w` was untouched too
    have hx' : x ∉ touch r w := fun h => (mem_touch.mp h).elim hxw hx
    rw [rank_of_not_mem base hx, rank_of_not_mem base hx', length_touch]
    by_cases hw : w ∈ r
    · have hlt := List.idxOf_lt_length_of_mem hw
      rw [rank_of_mem base hw, if_pos hw]
      split_ifs <;> omega
    · rw [rank_of_not_mem base hw, if_neg hw, if_pos (Nat.le_refl _), Nat.add_assoc]

theorem eq_getLast_of_rank (base : Nat) (hx : x ∈ r)
    (h : rank base r x = r.length - 1) : x = r.getLast (List.ne_nil_of_mem hx) := by
  rw [List.getLast_eq_getElem]
  rw [rank_of_mem base hx] at h
  conv_lhs => rw [← List.getElem_idxOf (List.idxOf_lt_length_of_mem hx)]
  simp only [h]

theorem rank_getLast (base : Nat) (hr : r.Nodup) (h : r ≠ []) :
    rank base r (r.getLast h) = r.length - 1 := by
  have hlen : r.length - 1 < r.length := by
    have := List.length_pos_of_ne_nil h
    omega
  rw [rank_of_mem base (List.getLast_mem h), List.getLast_eq_getElem, hr.idxOf_getElem _ hlen]

end Recency
