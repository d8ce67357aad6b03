import Mathlib

/-! # Fuelled do-while loops

A `do { body } while (cond)` loop whose body may fail, run for at most `fuel` rounds, with running
out of fuel a failure. It ends within its fuel when a potential below the fuel falls on every round
that goes on: the variant rule of total correctness. A `for` loop whose body may fail is a
`List.foldlM` in `Option`.
-/

namespace DoWhile

variable {σ : Type} (body : σ → Option (σ × Bool))

/-- At most `fuel` rounds of `do { body } while (cond)`. -/
def run : Nat → σ → Option σ
  | 0, _ => none
  | n + 1, s =>
    match body s with
    | none => none
    | some (s', true) => run n s'
    | some (s', false) => some s'

variable {body}

theorem run_succ_of_continue {s s' : σ} (n : Nat) (h : body s = some (s', true)) :
    run body (n + 1) s = run body n s' := by
  simp [run, h]

theorem run_succ_of_stop {s s' : σ} (n : Nat) (h : body s = some (s', false)) :
    run body (n + 1) s = some s' := by
  simp [run, h]

theorem run_of_variant (inv post : σ → Prop) (pot : σ → Nat)
    (hbody : ∀ s, inv s → ∃ s' c, body s = some (s', c) ∧
      (c = true → inv s' ∧ pot s' < pot s) ∧ (c = false → post s')) :
    ∀ n s, inv s → pot s < n → ∃ s', run body n s = some s' ∧ post s' := by
  intro n
  induction n with
  | zero => intro s _ h; omega
  | succ n ih =>
    intro s hs hpot
    obtain ⟨s', c, hstep, hgo, hstop⟩ := hbody s hs
    cases c with
    | true =>
      obtain ⟨hs', hdec⟩ := hgo rfl
      rw [run_succ_of_continue n hstep]
      exact ih s' hs' (by omega)
    | false => exact ⟨s', run_succ_of_stop n hstep, hstop rfl⟩

theorem inv_of_run (inv : σ → Prop)
    (hbody : ∀ s s' c, inv s → body s = some (s', c) → inv s') :
    ∀ n s s', inv s → run body n s = some s' → inv s' := by
  intro n
  induction n with
  | zero => intro s s' _ h; simp [run] at h
  | succ n ih =>
    intro s s' hs h
    cases hb : body s with
    | none => simp [run, hb] at h
    | some p =>
      obtain ⟨t, c⟩ := p
      have ht := hbody s t c hs hb
      cases c with
      | true => exact ih t s' ht (by rwa [run_succ_of_continue n hb] at h)
      | false =>
        rw [run_succ_of_stop n hb] at h
        cases h
        exact ht

theorem foldlM_inv {α β : Type} (f : β → α → Option β) (inv : β → Prop)
    (hf : ∀ b a b', inv b → f b a = some b' → inv b') :
    ∀ (xs : List α) (b b' : β), inv b → xs.foldlM f b = some b' → inv b'
  | [], b, b', hb, h => by
    simp only [List.foldlM_nil, Option.pure_def, Option.some.injEq] at h
    exact h ▸ hb
  | x :: xs, b, b', hb, h => by
    rw [List.foldlM_cons] at h
    cases hx : f b x with
    | none => simp [hx] at h
    | some c =>
      rw [hx, Option.bind_eq_bind, Option.bind_some] at h
      exact foldlM_inv f inv hf xs c b' (hf b x c hb hx) h

theorem foldlM_of_budget {α β : Type} (f : β → α → Option β) (w : α → Nat) (M : Nat)
    (inv : Nat → β → Prop)
    (hf : ∀ t b a, inv t b → t + w a ≤ M → ∃ b', f b a = some b' ∧ inv (t + w a) b') :
    ∀ (xs : List α) (t : Nat) (b : β), inv t b → t + (xs.map w).sum ≤ M →
      ∃ b', xs.foldlM f b = some b' ∧ inv (t + (xs.map w).sum) b'
  | [], t, b, hb, _ => ⟨b, rfl, by simpa using hb⟩
  | x :: xs, t, b, hb, hM => by
    rw [List.map_cons, List.sum_cons] at hM ⊢
    obtain ⟨c, hc, hcinv⟩ := hf t b x hb (by omega)
    obtain ⟨b', hb', hinv⟩ := foldlM_of_budget f w M inv hf xs (t + w x) c hcinv (by omega)
    refine ⟨b', ?_, by rwa [Nat.add_assoc] at hinv⟩
    rw [List.foldlM_cons, hc, Option.bind_eq_bind, Option.bind_some]
    exact hb'

end DoWhile
