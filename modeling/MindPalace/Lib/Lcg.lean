import Mathlib

/-! # Linear congruential generators modulo a power of two

The step `x ↦ a * x + c` on a commutative ring and its `2^k`-th iterates. Where `a ≡ 1 (mod 4)`
and `c` is odd, every residue modulo `2^n` lies on one orbit (`exists_iterate_eq`): the
Hull–Dobell theorem for a power-of-two modulus, carried to 64-bit words by `reduce`.
-/

namespace Lcg

open Function

section Ring

variable {R : Type} [CommRing R] (a c : R)

def affine (x : R) : R := a * x + c

/-- The coefficients of the `2^k`-th iterate of `affine a c`. -/
def doubled : ℕ → R × R
  | 0 => (a, c)
  | k + 1 => ((doubled k).1 * (doubled k).1, ((doubled k).1 + 1) * (doubled k).2)

theorem iterate_two_pow (k : ℕ) (x : R) :
    (affine a c)^[2 ^ k] x = (doubled a c k).1 * x + (doubled a c k).2 := by
  induction k generalizing x with
  | zero => rfl
  | succ k ih =>
    rw [pow_succ, mul_two, iterate_add_apply, ih, ih]
    simp only [doubled]
    ring

variable {a c}

theorem doubled_form {t₀ s₀ : R} (ha : a = 1 + 4 * t₀) (hc : c = 2 * s₀ + 1) (k : ℕ) :
    ∃ t s : R, (doubled a c k).1 = 1 + 2 ^ (k + 2) * t ∧
      (doubled a c k).2 = 2 ^ k * (2 * s + 1) := by
  induction k with
  | zero =>
    refine ⟨t₀, s₀, ?_, ?_⟩
    · simp only [doubled, ha]
      ring
    · simp only [doubled, hc]
      ring
  | succ k ih =>
    obtain ⟨t, s, ht, hs⟩ := ih
    refine ⟨t + 2 ^ (k + 1) * t * t, s + 2 ^ k * t * (2 * s + 1), ?_, ?_⟩
    · simp only [doubled, ht]
      ring
    · simp only [doubled, ht, hs]
      ring

theorem cast_form {a c : ℕ} (ha : a % 4 = 1) (hc : c % 2 = 1) :
    (a : R) = 1 + 4 * ((a / 4 : ℕ) : R) ∧ (c : R) = 2 * ((c / 2 : ℕ) : R) + 1 := by
  constructor
  · calc (a : R) = ((a % 4 + 4 * (a / 4) : ℕ) : R) := by rw [Nat.mod_add_div]
      _ = 1 + 4 * ((a / 4 : ℕ) : R) := by rw [ha]; push_cast; ring
  · calc (c : R) = ((c % 2 + 2 * (c / 2) : ℕ) : R) := by rw [Nat.mod_add_div]
      _ = 2 * ((c / 2 : ℕ) : R) + 1 := by rw [hc]; push_cast; ring

end Ring

/-! ### The period modulo `2^(k+1)` -/

section PowTwo

variable {a c : ℕ}

theorem two_pow_eq_zero (n : ℕ) : (2 : ZMod (2 ^ n)) ^ n = 0 := by
  have h : ((2 ^ n : ℕ) : ZMod (2 ^ n)) = 0 := ZMod.natCast_self _
  exact_mod_cast h

theorem two_pow_ne_zero (k : ℕ) : (2 : ZMod (2 ^ (k + 1))) ^ k ≠ 0 := by
  intro h
  have h' : ((2 ^ k : ℕ) : ZMod (2 ^ (k + 1))) = 0 := by exact_mod_cast h
  rw [ZMod.natCast_eq_zero_iff] at h'
  have hle := Nat.le_of_dvd (Nat.two_pow_pos k) h'
  have hlt := Nat.pow_lt_pow_right (show 1 < 2 by decide) (Nat.lt_succ_self k)
  omega

theorem iterate_two_pow_succ (ha : a % 4 = 1) (hc : c % 2 = 1) (k : ℕ)
    (x : ZMod (2 ^ (k + 1))) : (affine (a : ZMod (2 ^ (k + 1))) c)^[2 ^ (k + 1)] x = x := by
  obtain ⟨ha', hc'⟩ := cast_form (R := ZMod (2 ^ (k + 1))) ha hc
  obtain ⟨t, s, ht, hs⟩ := doubled_form ha' hc' (k + 1)
  rw [iterate_two_pow, ht, hs]
  linear_combination (4 * t * x + 2 * s + 1) * two_pow_eq_zero (k + 1)

theorem iterate_two_pow_half (ha : a % 4 = 1) (hc : c % 2 = 1) (k : ℕ)
    (x : ZMod (2 ^ (k + 1))) : (affine (a : ZMod (2 ^ (k + 1))) c)^[2 ^ k] x = x + 2 ^ k := by
  obtain ⟨ha', hc'⟩ := cast_form (R := ZMod (2 ^ (k + 1))) ha hc
  obtain ⟨t, s, ht, hs⟩ := doubled_form ha' hc' k
  rw [iterate_two_pow, ht, hs]
  linear_combination (2 * t * x + s) * two_pow_eq_zero (k + 1)

theorem minimalPeriod_affine (ha : a % 4 = 1) (hc : c % 2 = 1) (k : ℕ)
    (x : ZMod (2 ^ (k + 1))) :
    minimalPeriod (affine (a : ZMod (2 ^ (k + 1))) c) x = 2 ^ (k + 1) := by
  have : Fact (Nat.Prime 2) := ⟨Nat.prime_two⟩
  apply minimalPeriod_eq_prime_pow
  · intro h
    have h' : x + 2 ^ k = x := (iterate_two_pow_half ha hc k x).symm.trans h
    exact two_pow_ne_zero k (by simpa using h')
  · exact iterate_two_pow_succ ha hc k x

theorem exists_iterate_eq (ha : a % 4 = 1) (hc : c % 2 = 1) (k : ℕ)
    (x y : ZMod (2 ^ (k + 1))) :
    ∃ j < 2 ^ (k + 1), (affine (a : ZMod (2 ^ (k + 1))) c)^[j] x = y := by
  have hinj := iterate_injOn_Iio_minimalPeriod (f := affine (a : ZMod (2 ^ (k + 1))) c) (x := x)
  rw [minimalPeriod_affine ha hc] at hinj
  -- the first `2^(k+1)` points of the orbit are distinct, so they are all the residues
  have hcard : ((Finset.range (2 ^ (k + 1))).image
      fun j => (affine (a : ZMod (2 ^ (k + 1))) c)^[j] x).card =
        Fintype.card (ZMod (2 ^ (k + 1))) := by
    rw [Finset.card_image_of_injOn (by rwa [Finset.coe_range]), Finset.card_range, ZMod.card]
  have hy := Finset.eq_univ_of_card _ hcard ▸ Finset.mem_univ y
  obtain ⟨j, hj, rfl⟩ := Finset.mem_image.mp hy
  exact ⟨j, Finset.mem_range.mp hj, rfl⟩

end PowTwo

/-! ### Words of 64 bits -/

section Word

open scoped UInt64.CommRing

theorem cast_mod_two_pow_64 {N : ℕ} (hN : N ∣ 2 ^ 64) (n : ℕ) :
    ((n % 2 ^ 64 : ℕ) : ZMod N) = n := by
  rw [← ZMod.natCast_mod (n % 2 ^ 64) N, Nat.mod_mod_of_dvd _ hN, ZMod.natCast_mod]

def reduce {N : ℕ} (hN : N ∣ 2 ^ 64) : UInt64 →+* ZMod N where
  toFun u := u.toNat
  map_one' := by simp
  map_mul' u v := by simp only [UInt64.toNat_mul, cast_mod_two_pow_64 hN, Nat.cast_mul]
  map_zero' := by simp
  map_add' u v := by simp only [UInt64.toNat_add, cast_mod_two_pow_64 hN, Nat.cast_add]

theorem reduce_apply {N : ℕ} (hN : N ∣ 2 ^ 64) (u : UInt64) : reduce hN u = u.toNat := rfl

theorem reduce_iterate {N : ℕ} (hN : N ∣ 2 ^ 64) (a c x : UInt64) (j : ℕ) :
    reduce hN ((affine a c)^[j] x) = (affine (reduce hN a) (reduce hN c))^[j] (reduce hN x) := by
  have hstep : Semiconj (reduce hN) (affine a c) (affine (reduce hN a) (reduce hN c)) := by
    intro y
    simp only [affine, map_add, map_mul]
  exact hstep.iterate_right j x

theorem exists_iterate_toNat_mod {a c : UInt64} (ha : a.toNat % 4 = 1) (hc : c.toNat % 2 = 1)
    {n : ℕ} (hn : n < 64) (x : UInt64) {r : ℕ} (hr : r < 2 ^ (n + 1)) :
    ∃ j < 2 ^ (n + 1), ((affine a c)^[j] x).toNat % 2 ^ (n + 1) = r := by
  have hN : 2 ^ (n + 1) ∣ 2 ^ 64 := pow_dvd_pow 2 hn
  obtain ⟨j, hj, hy⟩ := exists_iterate_eq ha hc n (reduce hN x) (r : ZMod (2 ^ (n + 1)))
  refine ⟨j, hj, ?_⟩
  have hval := congrArg ZMod.val ((reduce_iterate hN a c x j).trans hy)
  rwa [reduce_apply, ZMod.val_natCast, ZMod.val_natCast, Nat.mod_eq_of_lt hr] at hval

end Word

end Lcg
