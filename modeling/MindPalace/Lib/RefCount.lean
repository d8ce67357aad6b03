import Mathlib

/-! # Reference counts

A table of objects indexed by `ι`, a list of the indices in use, and for each object a list of
references and a liveness flag. The number of live objects in use that reference `k` is the
count a scoreboard keeps for `k`. The lemmas say how that number, and any count over the
table, changes when one object of the table is replaced.
-/

namespace RefCount

variable {ι α κ : Type} [DecidableEq κ] (live : α → Bool) (refs : α → List κ)

def Holds (a : α) (k : κ) : Bool :=
  live a && decide (k ∈ refs a)

def holders (l : List ι) (t : ι → α) (k : κ) : Nat :=
  l.countP fun i => Holds live refs (t i) k

variable {live refs}

@[simp] theorem holds_iff {a : α} {k : κ} : Holds live refs a k = true ↔ live a = true ∧ k ∈ refs a := by
  simp [Holds]

@[simp] theorem holders_nil (t : ι → α) (k : κ) : holders live refs [] t k = 0 := rfl

theorem holders_cons (i : ι) (l : List ι) (t : ι → α) (k : κ) :
    holders live refs (i :: l) t k =
      holders live refs l t k + if Holds live refs (t i) k then 1 else 0 :=
  List.countP_cons

theorem holders_append (l₁ l₂ : List ι) (t : ι → α) (k : κ) :
    holders live refs (l₁ ++ l₂) t k = holders live refs l₁ t k + holders live refs l₂ t k :=
  List.countP_append

theorem holders_congr {l : List ι} {t t' : ι → α} {k : κ}
    (h : ∀ i ∈ l, Holds live refs (t' i) k = Holds live refs (t i) k) :
    holders live refs l t' k = holders live refs l t k :=
  List.countP_congr fun i hi => by rw [h i hi]

theorem holders_eq_zero_iff {l : List ι} {t : ι → α} {k : κ} :
    holders live refs l t k = 0 ↔ ∀ i ∈ l, ¬ (live (t i) = true ∧ k ∈ refs (t i)) := by
  unfold holders
  rw [List.countP_eq_zero]
  simp

theorem holders_pos {l : List ι} {t : ι → α} {k : κ} {i : ι} (hi : i ∈ l)
    (hl : live (t i) = true) (hk : k ∈ refs (t i)) : 0 < holders live refs l t k :=
  Nat.pos_of_ne_zero fun h => holders_eq_zero_iff.mp h i hi ⟨hl, hk⟩

section Update

variable [DecidableEq ι]

theorem countP_comp_update {l : List ι} {i : ι} (hnd : l.Nodup) (hi : i ∈ l) (t : ι → α)
    (v : α) (p : α → Bool) :
    (l.countP fun j => p (Function.update t i v j)) + (if p (t i) then 1 else 0) =
      (l.countP fun j => p (t j)) + if p v then 1 else 0 := by
  induction l with
  | nil => cases hi
  | cons j l ih =>
    obtain ⟨hj, hnd⟩ := List.nodup_cons.mp hnd
    rw [List.countP_cons, List.countP_cons]
    by_cases hij : i = j
    · subst hij
      have hsame : (l.countP fun j => p (Function.update t i v j)) = l.countP fun j => p (t j) :=
        List.countP_congr fun k hk => by
          have hki : k ≠ i := fun h => hj (h ▸ hk)
          rw [Function.update_of_ne hki]
      rw [hsame, Function.update_self]
      omega
    · have hil : i ∈ l := (List.mem_cons.mp hi).resolve_left hij
      rw [Function.update_of_ne (Ne.symm hij)]
      have := ih hnd hil
      omega

theorem holders_update {l : List ι} {i : ι} (hnd : l.Nodup) (hi : i ∈ l) (t : ι → α) (v : α)
    (k : κ) :
    holders live refs l (Function.update t i v) k + (if Holds live refs (t i) k then 1 else 0) =
      holders live refs l t k + if Holds live refs v k then 1 else 0 :=
  countP_comp_update hnd hi t v fun a => Holds live refs a k

end Update

end RefCount
