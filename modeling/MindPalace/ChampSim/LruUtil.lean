import MindPalace.Lib.StdAlgorithm

/-! # The LRU helpers of `inc/util.h`

`lru_comparator` and `lru_updater` over any `LruEntry`. `std::max_element` with the comparator
picks an invalid entry when there is one and else one of greatest `lru`; `lru_updater(val)`
zeroes every entry whose `lru` equals `val`, not only the touched one.
-/

namespace MindPalace.ChampSim

/-- The members the helpers read and write: `is_valid<T>` and `lru`. -/
class LruEntry (α : Type) where
  valid : α → Bool
  lru : α → UInt32
  setLru : α → UInt32 → α
  valid_setLru : ∀ x v, valid (setLru x v) = valid x
  lru_setLru : ∀ x v, lru (setLru x v) = v

namespace LruEntry

attribute [simp] valid_setLru lru_setLru

variable {α : Type} [LruEntry α]

/-- `lru_comparator<T, U>`, that is `invalid_is_maximal<T, cmp_lru<T, U>>`: an invalid
right-hand side is above everything, and a valid left-hand side is below a greater `lru`. -/
def lruComparator (lhs rhs : α) : Bool :=
  !valid rhs || (valid lhs && decide (lru lhs < lru rhs))

def lruUpdater (val : UInt32) (x : α) : α :=
  if lru x = val then setLru x 0 else setLru x (lru x + 1)

@[simp] theorem valid_lruUpdater (val : UInt32) (x : α) : valid (lruUpdater val x) = valid x := by
  unfold lruUpdater
  split <;> simp

theorem lru_lruUpdater (val : UInt32) (x : α) :
    lru (lruUpdater val x) = if lru x = val then 0 else lru x + 1 := by
  unfold lruUpdater
  split <;> simp

theorem lruComparator_of_valid {a c : α} (ha : valid a = true) (hc : valid c = true) :
    lruComparator a c = decide ((lru a).toNat < (lru c).toNat) := by
  simp [lruComparator, ha, hc, UInt32.lt_iff_toNat_lt]

theorem maxElement_lruComparator_of_valid {L : List α} (hv : ∀ x ∈ L, valid x = true)
    (hL : L ≠ []) : ∃ v, L[StdAlgorithm.maxElement lruComparator L]? = some v ∧
      ∀ y ∈ L, (lru y).toNat ≤ (lru v).toNat :=
  StdAlgorithm.maxElement_max (fun x => (lru x).toNat) lruComparator
    (fun a ha c hc => lruComparator_of_valid (hv a ha) (hv c hc)) hL

theorem maxElementFrom_lruComparator_invalid {L : List α} :
    ∀ (xs pre : List α) (b : α) (best : Nat), pre ++ xs = L → pre[best]? = some b →
      (valid b = false ∨ ∃ x ∈ xs, valid x = false) →
        ∃ v, L[StdAlgorithm.maxElementFrom lruComparator b best pre.length xs]? = some v ∧
          valid v = false
  | [], pre, b, best, hL, hb, hinv => by
    rw [List.append_nil] at hL
    subst hL
    exact ⟨b, hb, hinv.resolve_right (by simp)⟩
  | x :: xs, pre, b, best, hL, hb, hinv => by
    have hL' : (pre ++ [x]) ++ xs = L := by rw [List.append_assoc, List.singleton_append, hL]
    have hlen : (pre ++ [x]).length = pre.length + 1 := List.length_append
    have hbest : best < pre.length := (List.getElem?_eq_some_iff.mp hb).1
    have hb' : (pre ++ [x])[best]? = some b := by rw [List.getElem?_append_left hbest, hb]
    have hx : (pre ++ [x])[pre.length]? = some x := by simp
    rw [StdAlgorithm.maxElementFrom]
    cases hxv : valid x
    · -- an invalid `x` is above everything, so the scan moves to it
      rw [if_pos (by simp [lruComparator, hxv])]
      have := maxElementFrom_lruComparator_invalid xs (pre ++ [x]) x pre.length hL' hx (Or.inl hxv)
      rwa [hlen] at this
    · have hrest : valid b = false ∨ ∃ y ∈ xs, valid y = false := by
        rcases hinv with h | ⟨y, hy, hyv⟩
        · exact Or.inl h
        · rcases List.mem_cons.mp hy with rfl | hy
          · simp [hxv] at hyv
          · exact Or.inr ⟨y, hy, hyv⟩
      split
      · have := maxElementFrom_lruComparator_invalid xs (pre ++ [x]) x pre.length hL' hx
          (hrest.imp (fun h => by simp [lruComparator, h, hxv] at *) id)
        rwa [hlen] at this
      · have := maxElementFrom_lruComparator_invalid xs (pre ++ [x]) b best hL' hb' hrest
        rwa [hlen] at this

theorem lru_map_lruUpdater_of_forall_eq {L : List α} {v : UInt32} (h : ∀ y ∈ L, lru y = v) :
    ∀ y ∈ L.map (lruUpdater v), lru y = 0 := by
  intro y hy
  obtain ⟨x, hx, rfl⟩ := List.mem_map.mp hy
  rw [lru_lruUpdater, if_pos (h x hx)]

end LruEntry

end MindPalace.ChampSim
