import Mathlib

/-! # Standard sequence algorithms on lists

The `<algorithm>` calls of a container-based simulator, on lists: `std::unique`,
`std::inplace_merge`, `std::iter_swap`, `std::max_element`, the stable `std::list::sort`, keys
that stay distinct, `for` loops whose body may stop the program as `List.foldlM` in `Option`, and
a carry pass over the cells of an array.
-/

namespace StdAlgorithm

variable {α : Type}

theorem mem_destutter'_ne [DecidableEq α] {x : α} :
    ∀ (l : List α) (a : α), x ∈ l.destutter' (· ≠ ·) a ↔ x = a ∨ x ∈ l
  | [], a => by simp [List.destutter'_nil]
  | b :: l, a => by
    rw [List.destutter'_cons]
    split
    · next hab =>
      rw [List.mem_cons, mem_destutter'_ne l b, List.mem_cons]
    · next hab =>
      rw [mem_destutter'_ne l a, List.mem_cons]
      have hba : b = a := (not_not.mp hab).symm
      subst hba
      constructor
      · rintro (h | h)
        · exact Or.inl h
        · exact Or.inr (Or.inr h)
      · rintro (h | h | h)
        · exact Or.inl h
        · exact Or.inl h
        · exact Or.inr h

/-- `std::inplace_merge` of the sorted ranges `xs` and `ys`, stable: of two equal elements the
one from `xs` comes first. -/
def inplaceMerge (le : α → α → Bool) : List α → List α → List α
  | [], ys => ys
  | x :: xs, ys =>
    ys.takeWhile (fun y => !le x y) ++ x :: inplaceMerge le xs (ys.dropWhile fun y => !le x y)

theorem inplaceMerge_eq_merge (le : α → α → Bool) :
    ∀ xs ys : List α, inplaceMerge le xs ys = List.merge xs ys le
  | [], ys => by rw [inplaceMerge, List.nil_merge]
  | x :: xs, ys => by
    -- the elements of `ys` that go before `x` are emitted one at a time by `List.merge`
    induction ys with
    | nil =>
      rw [inplaceMerge, List.takeWhile_nil, List.dropWhile_nil, inplaceMerge_eq_merge le xs,
        List.merge_right, List.merge_right, List.nil_append]
    | cons y ys ih =>
      rw [List.cons_merge_cons]
      by_cases hxy : le x y
      · rw [if_pos hxy, inplaceMerge, List.takeWhile_cons_of_neg (by simp [hxy]),
          List.dropWhile_cons_of_neg (by simp [hxy]), List.nil_append, inplaceMerge_eq_merge le xs]
      · rw [if_neg hxy, ← ih, inplaceMerge, inplaceMerge,
          List.takeWhile_cons_of_pos (by simp [hxy]), List.dropWhile_cons_of_pos (by simp [hxy]),
          List.cons_append]

@[simp] theorem mem_inplaceMerge {le : α → α → Bool} {x : α} (xs ys : List α) :
    x ∈ inplaceMerge le xs ys ↔ x ∈ xs ∨ x ∈ ys := by
  rw [inplaceMerge_eq_merge, List.mem_merge]

@[simp] theorem mem_destutter_ne [DecidableEq α] {x : α} (l : List α) :
    x ∈ l.destutter (· ≠ ·) ↔ x ∈ l := by
  cases l with
  | nil => simp
  | cons a l => rw [List.destutter_cons', mem_destutter'_ne, List.mem_cons]

/-- `std::iter_swap` at positions `i` and `j`; a position past the end leaves the list as it
is, where the source would dereference `end()`. -/
def iterSwap (l : List α) (i j : Nat) : List α :=
  match l[i]?, l[j]? with
  | some a, some b => (l.set i b).set j a
  | _, _ => l

theorem iterSwap_perm (l : List α) (i j : Nat) : (iterSwap l i j).Perm l := by
  unfold iterSwap
  split
  · next a b ha hb =>
    obtain ⟨hi, rfl⟩ := List.getElem?_eq_some_iff.mp ha
    obtain ⟨hj, rfl⟩ := List.getElem?_eq_some_iff.mp hb
    exact List.set_set_perm hi hj
  · exact List.Perm.refl l

@[simp] theorem length_iterSwap (l : List α) (i j : Nat) : (iterSwap l i j).length = l.length :=
  (iterSwap_perm l i j).length_eq

theorem filterMap_modify_sublist {β : Type} (g : α → Option β) (f : α → α) :
    ∀ (l : List α) (i : Nat), (∀ x ∈ l[i]?, g (f x) = g x ∨ g (f x) = none) →
      ((l.modify i f).filterMap g).Sublist (l.filterMap g)
  | [], _, _ => by simp
  | x :: l, 0, h => by
    rw [List.modify_zero_cons, List.filterMap_cons, List.filterMap_cons]
    rcases h x rfl with hx | hx
    · rw [hx]
    · rw [hx]
      cases g x with
      | none => exact List.Sublist.refl _
      | some b => exact List.sublist_cons_self _ _
  | x :: l, i + 1, h => by
    rw [List.modify_succ_cons, List.filterMap_cons, List.filterMap_cons]
    have ih := filterMap_modify_sublist g f l i fun y hy => h y hy
    split
    · exact ih
    · exact ih.cons_cons _

theorem length_filter_modify_findIdx (p : α → Bool) (f : α → α)
    (hf : ∀ x, p x = true → p (f x) = false) :
    ∀ l : List α, ((l.modify (l.findIdx p) f).filter p).length = (l.filter p).length - 1
  | [] => by simp
  | a :: l => by
    by_cases ha : p a = true
    · rw [List.findIdx_cons, ha, cond_true, List.modify_zero_cons,
        List.filter_cons_of_neg (by simp [hf a ha]), List.filter_cons_of_pos ha, List.length_cons,
        Nat.add_sub_cancel]
    · have ih := length_filter_modify_findIdx p f hf l
      rw [List.findIdx_cons, Bool.eq_false_iff.mpr ha, cond_false, List.modify_succ_cons,
        List.filter_cons_of_neg ha, List.filter_cons_of_neg ha, ih]

section Keys

variable {β : Type} (g : α → Option β)

theorem nodup_filterMap_concat {l : List α} {x : α} (hl : (l.filterMap g).Nodup)
    (hx : ∀ k ∈ g x, ∀ y ∈ l, g y ≠ some k) : ((l ++ [x]).filterMap g).Nodup := by
  rw [List.filterMap_append]
  cases hgx : g x with
  | none => simpa [hgx] using hl
  | some k =>
    rw [List.filterMap_cons_some hgx, List.filterMap_nil]
    refine List.nodup_append.mpr ⟨hl, List.nodup_singleton k, ?_⟩
    rintro a ha b hb rfl
    obtain ⟨y, hy, hgy⟩ := List.mem_filterMap.mp ha
    rw [List.mem_singleton] at hb
    exact hx k hgx y hy (hb ▸ hgy)

end Keys

section Sorted

variable [Preorder α] [DecidableEq α]

theorem lt_of_mem_takeWhile_ne {d p : α} :
    ∀ {l : List α}, l.Pairwise (· < ·) → d ∈ l → p ∈ l.takeWhile (fun q => decide (q ≠ d)) →
      p < d
  | [], _, hd, _ => absurd hd List.not_mem_nil
  | x :: l, hs, hd, hp => by
    rw [List.takeWhile_cons] at hp
    split at hp
    · next hx =>
      have hdl : d ∈ l := (List.mem_cons.mp hd).resolve_left fun h => by simp [h] at hx
      rcases List.mem_cons.mp hp with rfl | hp
      · exact (List.pairwise_cons.mp hs).1 d hdl
      · exact lt_of_mem_takeWhile_ne (List.pairwise_cons.mp hs).2 hdl hp
    · cases hp

theorem le_of_mem_dropWhile_ne {d p : α} :
    ∀ {l : List α}, l.Pairwise (· < ·) → d ∈ l → p ∈ l.dropWhile (fun q => decide (q ≠ d)) →
      d ≤ p
  | [], _, hd, _ => absurd hd List.not_mem_nil
  | x :: l, hs, hd, hp => by
    rw [List.dropWhile_cons] at hp
    split at hp
    · next hx =>
      have hdl : d ∈ l := (List.mem_cons.mp hd).resolve_left fun h => by simp [h] at hx
      exact le_of_mem_dropWhile_ne (List.pairwise_cons.mp hs).2 hdl hp
    · next hx =>
      have hxd : x = d := by simpa using hx
      subst hxd
      rcases List.mem_cons.mp hp with rfl | hp
      · exact le_refl _
      · exact le_of_lt ((List.pairwise_cons.mp hs).1 p hp)

end Sorted

theorem forall_mem_modify {p : α → Prop} {f : α → α} {l : List α} (hl : ∀ x ∈ l, p x)
    (hf : ∀ x ∈ l, p (f x)) (i : Nat) : ∀ x ∈ l.modify i f, p x := by
  intro x hx
  obtain ⟨j, hj, rfl⟩ := List.getElem_of_mem hx
  have hj' : j < l.length := by simpa using hj
  rw [List.getElem_modify]
  split
  · exact hf _ (List.getElem_mem hj')
  · exact hl _ (List.getElem_mem hj')

/-! ### Elements behind an iterator

A container read through an iterator with a default past the end, `l.getD k d`. -/

theorem getD_set_self_default (l : List α) (k : Nat) (d : α) : (l.set k d).getD k d = d := by
  rw [List.getD_eq_getElem?_getD, List.getElem?_set_self']
  cases l[k]? <;> rfl

theorem getD_set_eq_or (l : List α) (k m : Nat) (a d : α) :
    (l.set k a).getD m d = l.getD m d ∨ (l.set k a).getD m d = a := by
  rw [List.getD_eq_getElem?_getD, List.getD_eq_getElem?_getD, List.getElem?_set]
  split_ifs with hkm hk
  · exact .inr rfl
  · -- past the end nothing is set, and the default is read
    subst hkm
    rw [List.getElem?_eq_none (Nat.le_of_not_lt hk)]
    exact .inl rfl
  · exact .inl rfl

theorem getD_modify_self {l : List α} {k : Nat} (hk : k < l.length) (f : α → α) (d : α) :
    (l.modify k f).getD k d = f (l.getD k d) := by
  rw [List.getD_eq_getElem?_getD, List.getD_eq_getElem?_getD, List.getElem?_modify,
    List.getElem?_eq_getElem hk]
  simp

theorem getD_modify_of_ne (l : List α) (f : α → α) {k m : Nat} (h : k ≠ m) (d : α) :
    (l.modify k f).getD m d = l.getD m d := by
  rw [List.getD_eq_getElem?_getD, List.getD_eq_getElem?_getD, List.getElem?_modify]
  cases l[m]? <;> simp [h]

theorem lt_length_of_getD_ne {l : List α} {k : Nat} {d : α} (h : l.getD k d ≠ d) :
    k < l.length := by
  by_contra hk
  exact h (List.getD_eq_default _ _ (Nat.le_of_not_lt hk))

/-! ### Loops that may fail

A loop whose body can stop the program, `List.foldlM` in `Option`. -/

section Loops

variable {β σ : Type} {f : σ → β → Option σ}

theorem foldlM_rel {R : σ → σ → Prop} (hrefl : ∀ s, R s s)
    (htrans : ∀ {s₁ s₂ s₃}, R s₁ s₂ → R s₂ s₃ → R s₁ s₃)
    (hf : ∀ s b s', f s b = some s' → R s s') :
    ∀ (l : List β) {s s' : σ}, l.foldlM f s = some s' → R s s'
  | [], s, _, h => by
    cases h
    exact hrefl s
  | b :: l, s, _, h => by
    rw [List.foldlM_cons] at h
    obtain ⟨s₁, h₁, h₂⟩ := Option.bind_eq_some_iff.mp h
    exact htrans (hf s b s₁ h₁) (foldlM_rel hrefl htrans hf l h₂)

theorem foldlM_append_cons_eq_some {l₁ l₂ : List β} {b : β} {s s' : σ}
    (h : (l₁ ++ b :: l₂).foldlM f s = some s') :
    ∃ s₁ s₂, l₁.foldlM f s = some s₁ ∧ f s₁ b = some s₂ ∧ l₂.foldlM f s₂ = some s' := by
  rw [List.foldlM_append] at h
  obtain ⟨s₁, h₁, h⟩ := Option.bind_eq_some_iff.mp h
  rw [List.foldlM_cons] at h
  obtain ⟨s₂, h₂, h₃⟩ := Option.bind_eq_some_iff.mp h
  exact ⟨s₁, s₂, h₁, h₂, h₃⟩

theorem foldlM_append_cons_eq_none {l₁ l₂ : List β} {b : β} {s : σ}
    (h : ∀ s₁, l₁.foldlM f s = some s₁ → f s₁ b = none) : (l₁ ++ b :: l₂).foldlM f s = none := by
  rw [List.foldlM_append]
  cases h₁ : l₁.foldlM f s with
  | none => rfl
  | some s₁ =>
    change (f s₁ b).bind (fun s => l₂.foldlM f s) = none
    rw [h s₁ h₁]
    rfl

end Loops

/-! ### A pass that carries a value from cell to cell

A loop `for (i = 0; i < n; i++)` that rewrites `a[i]` from its old value and a carry, and
hands the next cell a new carry: a ripple through a fixed array. Cell `i` is read before the
loop writes it, so the pass is the rewrite of each cell with the carry it receives. -/

section Carry

variable {α γ : Type} {n : Nat} (f : α → γ → α × γ)

def carryStep (p : Vector α n × γ) (i : Fin n) : Vector α n × γ :=
  (p.1.set i (f p.1[i] p.2).1, (f p.1[i] p.2).2)

def carryInto (v : Vector α n) (c : γ) : Nat → γ
  | 0 => c
  | i + 1 => if h : i < n then (f v[i] (carryInto v c i)).2 else carryInto v c i

theorem foldl_carryStep_take (v : Vector α n) (c : γ) :
    ∀ {k : Nat}, k ≤ n → ((List.finRange n).take k).foldl (carryStep f) (v, c) =
      (Vector.ofFn fun i => if i.val < k then (f v[i] (carryInto f v c i)).1 else v[i],
        carryInto f v c k)
  | 0, _ => by
    simp only [List.take_zero, List.foldl_nil, Nat.not_lt_zero, if_false, carryInto]
    congr
    ext i hi
    simp
  | k + 1, hk => by
    have hlt : k < n := hk
    have hget : (List.finRange n)[k]? = some ⟨k, hlt⟩ := by simp [hlt]
    rw [List.take_add_one, hget, Option.toList_some, List.foldl_append,
      foldl_carryStep_take v c hlt.le, List.foldl_cons, List.foldl_nil]
    simp only [carryStep, carryInto, dif_pos hlt, Fin.getElem_fin, Vector.getElem_ofFn,
      lt_irrefl, if_false]
    congr 1
    ext i hi
    -- cell `k` is the one this iteration rewrites; the cells below it were rewritten before
    simp only [Vector.getElem_set, Vector.getElem_ofFn]
    by_cases hki : k = i
    · subst hki; simp
    · simp only [hki, if_false]
      congr 1
      simp only [eq_iff_iff]
      omega

theorem foldl_carryStep (v : Vector α n) (c : γ) :
    (List.finRange n).foldl (carryStep f) (v, c) =
      (Vector.ofFn fun i => (f v[i] (carryInto f v c i)).1, carryInto f v c n) := by
  have h := foldl_carryStep_take f v c (le_refl n)
  rw [List.take_of_length_le (by simp)] at h
  rw [h]
  simp

end Carry

/-- Insert `x` into a sorted range before the first element it compares below, so after the
elements it ties with: the step of a stable insertion sort. -/
def insertSorted (lt : α → α → Bool) (x : α) : List α → List α
  | [] => [x]
  | y :: ys => if lt x y then x :: y :: ys else y :: insertSorted lt x ys

/-- `std::list::sort(comp)`. It is a stable sort, so for a strict weak order its result is the
one of this insertion sort. -/
def listSort (lt : α → α → Bool) (l : List α) : List α :=
  l.foldl (fun sorted x => insertSorted lt x sorted) []

/-- The scan of `std::max_element(first, last, comp)` past its first element: the kept
element `b` at position `best` gives way to each later element it compares below. -/
def maxElementFrom (comp : α → α → Bool) : α → Nat → Nat → List α → Nat
  | _, best, _, [] => best
  | b, best, i, x :: xs =>
    if comp b x then maxElementFrom comp x i (i + 1) xs else maxElementFrom comp b best (i + 1) xs

/-- `std::max_element(first, last, comp)` as a position; the length for an empty range. -/
def maxElement (comp : α → α → Bool) : List α → Nat
  | [] => 0
  | x :: xs => maxElementFrom comp x 0 1 xs

/-- `std::min_element(first, last, comp)` as a position: the scan keeps the first element that
no later one compares below. -/
def minElement (comp : α → α → Bool) (l : List α) : Nat :=
  maxElement (fun smallest x => comp x smallest) l

theorem maxElementFrom_lt (comp : α → α → Bool) :
    ∀ (xs : List α) (b : α) (best i : Nat), best < i → maxElementFrom comp b best i xs < i + xs.length
  | [], _, _, _, h => by simpa [maxElementFrom] using h
  | x :: xs, b, best, i, h => by
    rw [maxElementFrom, List.length_cons]
    split
    · have := maxElementFrom_lt comp xs x i (i + 1) (Nat.lt_succ_self i)
      omega
    · have := maxElementFrom_lt comp xs b best (i + 1) (by omega)
      omega

theorem maxElement_lt (comp : α → α → Bool) {L : List α} (hL : L ≠ []) : maxElement comp L < L.length := by
  cases L with
  | nil => exact absurd rfl hL
  | cons x xs =>
    have := maxElementFrom_lt comp xs x 0 1 Nat.zero_lt_one
    rw [maxElement, List.length_cons]
    omega

section MaxElement

variable {β : Type} [LinearOrder β] (key : α → β) (comp : α → α → Bool)

theorem maxElementFrom_max {L : List α}
    (hcomp : ∀ a ∈ L, ∀ c ∈ L, comp a c = decide (key a < key c)) :
    ∀ (xs pre : List α) (b : α) (best : Nat), pre ++ xs = L → pre[best]? = some b →
      (∀ y ∈ pre, key y ≤ key b) →
        ∃ v, L[maxElementFrom comp b best pre.length xs]? = some v ∧ ∀ y ∈ L, key y ≤ key v
  | [], pre, b, best, hL, hb, hmax => by
    rw [List.append_nil] at hL
    subst hL
    exact ⟨b, hb, hmax⟩
  | x :: xs, pre, b, best, hL, hb, hmax => by
    have hbL : b ∈ L := hL ▸ List.mem_append_left _ (List.mem_of_getElem? hb)
    have hxL : x ∈ L := hL ▸ List.mem_append_right _ (List.mem_cons_self)
    have hL' : (pre ++ [x]) ++ xs = L := by rw [List.append_assoc, List.singleton_append, hL]
    have hlen : (pre ++ [x]).length = pre.length + 1 := List.length_append
    rw [maxElementFrom, hcomp b hbL x hxL]
    by_cases hlt : key b < key x
    · -- the scan moves to `x`, which beats everything passed so far
      rw [if_pos (decide_eq_true hlt)]
      have hx : (pre ++ [x])[pre.length]? = some x := by simp
      have hxmax : ∀ y ∈ pre ++ [x], key y ≤ key x := by
        intro y hy
        rcases List.mem_append.mp hy with hy | hy
        · exact le_of_lt (lt_of_le_of_lt (hmax y hy) hlt)
        · rw [List.mem_singleton.mp hy]
      have := maxElementFrom_max hcomp xs (pre ++ [x]) x pre.length hL' hx hxmax
      rwa [hlen] at this
    · -- the scan keeps `b`, which `x` does not beat
      rw [if_neg (by simpa using hlt)]
      have hbest : best < pre.length := (List.getElem?_eq_some_iff.mp hb).1
      have hb' : (pre ++ [x])[best]? = some b := by rw [List.getElem?_append_left hbest, hb]
      have hbmax : ∀ y ∈ pre ++ [x], key y ≤ key b := by
        intro y hy
        rcases List.mem_append.mp hy with hy | hy
        · exact hmax y hy
        · rw [List.mem_singleton.mp hy]
          exact not_lt.mp hlt
      have := maxElementFrom_max hcomp xs (pre ++ [x]) b best hL' hb' hbmax
      rwa [hlen] at this

theorem maxElement_max {L : List α} (hcomp : ∀ a ∈ L, ∀ c ∈ L, comp a c = decide (key a < key c))
    (hL : L ≠ []) : ∃ v, L[maxElement comp L]? = some v ∧ ∀ y ∈ L, key y ≤ key v := by
  cases L with
  | nil => exact absurd rfl hL
  | cons x xs =>
    have hx : ∀ y ∈ [x], key y ≤ key x := by simp
    exact maxElementFrom_max key comp hcomp xs [x] x 0 rfl rfl hx

end MaxElement

end StdAlgorithm
