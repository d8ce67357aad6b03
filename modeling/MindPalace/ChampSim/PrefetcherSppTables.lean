import MindPalace.ChampSim.PrefetcherSpp
import MindPalace.Lib.NatSum
import MindPalace.Lib.Recency

/-! # The tables of the signature path prefetcher keep their invariants

In each pattern-table set the delta counters sum below the signature counter, which stays at most
`C_SIG_MAX`, so `update_pattern` always finds its victim. The signature table's ages stay the
positions of a recency order of its ways (`Recency.rank`), so `read_and_update_sig` never fails.
-/

namespace MindPalace.ChampSim

namespace Spp

open Lookahead

/-! ### The pattern table -/

namespace PtSet

/-- The counters of a pattern set: untouched, or the delta counters summing below the
signature counter, which is at most `C_SIG_MAX`. -/
def Ok (p : PtSet) : Prop :=
  (p.cSig = 0 ∧ ∀ w, p.cDelta w = 0 ∧ p.delta w = 0) ∨
    (∑ w, p.cDelta w < p.cSig ∧ p.cSig ≤ C_SIG_MAX)

theorem ok_init : ({} : PtSet).Ok :=
  Or.inl ⟨rfl, fun _ => ⟨rfl, rfl⟩⟩

variable {p : PtSet}

theorem Ok.cDelta_lt (h : p.Ok) (w : Fin PT_WAY) : p.cDelta w < C_SIG_MAX := by
  rcases h with ⟨_, h0⟩ | ⟨hs, hc⟩
  · rw [(h0 w).1]; decide
  · have := Finset.single_le_sum (fun w _ => Nat.zero_le (p.cDelta w)) (Finset.mem_univ w)
    omega

theorem ok_halve (hs : ∑ w, p.cDelta w < p.cSig) (hc : p.cSig ≤ C_SIG_MAX + 1) :
    (PatternTable.halve p).Ok := by
  unfold PatternTable.halve
  split
  · next hfull =>
    right
    have hsum := NatSum.sum_div_le_div_sum Finset.univ p.cDelta 2
    simp only [C_SIG_MAX] at hfull hc ⊢
    constructor
    · show ∑ w, p.cDelta w / 2 < p.cSig / 2
      omega
    · show p.cSig / 2 ≤ 15
      omega
  · next hle => exact Or.inr ⟨hs, Nat.le_of_not_lt hle⟩

end PtSet

def PtOk (pt : Fin PT_SET → PtSet) : Prop :=
  ∀ i, (pt i).Ok

theorem ptOk_update {pt : Fin PT_SET → PtSet} (h : PtOk pt) {i : Fin PT_SET} {p : PtSet}
    (hp : p.Ok) : PtOk (Function.update pt i p) := by
  intro j
  rw [Function.update_apply]
  split
  · exact hp
  · exact h j

namespace PatternTable

theorem foldl_victim_lt (p : PtSet) : ∀ (ws : List (Fin PT_WAY)) (acc : Nat × Nat),
    (acc.1 < PT_WAY ∨ ∃ w ∈ ws, p.cDelta w < acc.2) →
      (ws.foldl (fun (acc : Nat × Nat) w =>
        if p.cDelta w < acc.2 then (w.val, p.cDelta w) else acc) acc).1 < PT_WAY
  | [], _, h => by simpa using h
  | w :: ws, acc, h => by
    rw [List.foldl_cons]
    apply foldl_victim_lt p ws
    split
    · exact Or.inl w.isLt
    · next hw =>
      rcases h with h | ⟨v, hv, hlt⟩
      · exact Or.inl h
      · rcases List.mem_cons.mp hv with rfl | hv
        · exact absurd hlt hw
        · exact Or.inr ⟨v, hv, hlt⟩

theorem victimWay_lt {p : PtSet} {w : Fin PT_WAY} (h : p.cDelta w < C_SIG_MAX) :
    victimWay p < PT_WAY :=
  foldl_victim_lt p _ _ (Or.inr ⟨w, List.mem_finRange w, h⟩)

theorem updatePattern_ok {pt : Fin PT_SET → PtSet} (hpt : PtOk pt) (lastSig : Nat) {d : Int}
    (hd : d ≠ 0) : ∃ pt', updatePattern pt lastSig d = some pt' ∧ PtOk pt' := by
  unfold updatePattern
  dsimp only
  set p := pt (setOf lastSig)
  have hp : p.Ok := hpt (setOf lastSig)
  split
  · next w hf =>
    -- a hit: the way holds `d`, so the set was counted before
    have hw : p.delta w = d := by simpa using List.find?_some hf
    rcases hp with ⟨_, h0⟩ | ⟨hs, hc⟩
    · exact absurd ((h0 w).2 ▸ hw).symm hd
    have hsum := NatSum.sum_comp_update p.cDelta id w (p.cDelta w + 1)
    simp only [id] at hsum
    refine ⟨_, rfl, ptOk_update hpt (PtSet.ok_halve ?_ ?_)⟩
    · show ∑ x, Function.update p.cDelta w (p.cDelta w + 1) x < p.cSig + 1
      omega
    · show p.cSig + 1 ≤ C_SIG_MAX + 1
      omega
  · next hf =>
    -- a miss: the least counted way is replaced, which lowers the sum
    have hv : victimWay p < PT_WAY := victimWay_lt (hp.cDelta_lt ⟨0, by decide⟩)
    rw [dif_pos hv]
    have hsum := NatSum.sum_comp_update p.cDelta id ⟨victimWay p, hv⟩ 0
    simp only [id] at hsum
    refine ⟨_, rfl, ptOk_update hpt (PtSet.ok_halve ?_ ?_)⟩
    · show ∑ x, Function.update p.cDelta ⟨victimWay p, hv⟩ 0 x < p.cSig + 1
      rcases hp with ⟨_, h0⟩ | ⟨hs, _⟩
      · have hz : ∑ w, p.cDelta w = 0 := Finset.sum_eq_zero fun w _ => (h0 w).1
        omega
      · omega
    · show p.cSig + 1 ≤ C_SIG_MAX + 1
      rcases hp with ⟨h0, _⟩ | ⟨_, hc⟩
      · rw [h0]; decide
      · omega

end PatternTable

/-! ### The signature table -/

namespace SignatureTable

variable {st st' : Fin ST_WAY → StEntry}

def Ages (st : Fin ST_WAY → StEntry) : Prop :=
  ∃ r : List (Fin ST_WAY), r.Nodup ∧ (∀ w, w ∈ r) ∧ ∀ w, (st w).lru = Recency.rank 0 r w

theorem ages_init : Ages init :=
  ⟨List.finRange ST_WAY, List.nodup_finRange _, List.mem_finRange, fun w => by
    rw [Recency.rank_of_mem 0 (List.mem_finRange w), List.idxOf_finRange]; rfl⟩

theorem Ages.congr (h : Ages st) (hl : ∀ w, (st' w).lru = (st w).lru) : Ages st' := by
  obtain ⟨r, hnd, hall, hr⟩ := h
  exact ⟨r, hnd, hall, fun w => (hl w).trans (hr w)⟩

theorem length_of_complete {r : List (Fin ST_WAY)} (hr : r.Nodup) (hall : ∀ w, w ∈ r) :
    r.length = ST_WAY := by
  have hp : r.Perm (List.finRange ST_WAY) :=
    (List.perm_ext_iff_of_nodup hr (List.nodup_finRange _)).2
      (fun w => iff_of_true (hall w) (List.mem_finRange w))
  rw [hp.length_eq, List.length_finRange]

theorem Ages.lru_lt (h : Ages st) (w : Fin ST_WAY) : (st w).lru < ST_WAY := by
  obtain ⟨r, hnd, hall, hr⟩ := h
  have hlt := Recency.rank_lt_length 0 (hall w)
  rw [length_of_complete hnd hall] at hlt
  rw [hr w]
  exact hlt

theorem Ages.lru_ne (h : Ages st) {v w : Fin ST_WAY} (hvw : v ≠ w) : (st v).lru ≠ (st w).lru := by
  obtain ⟨r, _, hall, hr⟩ := h
  rw [hr v, hr w, Recency.rank_of_mem 0 (hall v), Recency.rank_of_mem 0 (hall w)]
  exact Recency.idxOf_ne_of_mem (hall v) hvw

theorem Ages.exists_oldest (h : Ages st) : ∃ w, (st w).lru = ST_WAY - 1 := by
  obtain ⟨r, hnd, hall, hr⟩ := h
  have hne : r ≠ [] := List.ne_nil_of_mem (hall ⟨0, by decide⟩)
  refine ⟨r.getLast hne, ?_⟩
  rw [hr, Recency.rank_getLast 0 hnd hne, length_of_complete hnd hall]

theorem updateLru_ages (h : Ages st) (m : Fin ST_WAY) :
    ∃ st', updateLru st m = some st' ∧ Ages st' := by
  have hlt := h.lru_lt m
  unfold updateLru
  rw [if_neg]
  · obtain ⟨r, hnd, hall, hr⟩ := h
    refine ⟨_, rfl, Recency.touch r m, Recency.nodup_touch hnd,
      fun w => Recency.mem_touch.mpr (Or.inr (hall w)), fun w => ?_⟩
    rw [← Recency.bump_rank, Recency.bump]
    by_cases hwm : w = m
    · subst hwm
      simp
    · have hne : (st w).lru ≠ (st m).lru := Ages.lru_ne ⟨r, hnd, hall, hr⟩ hwm
      rw [Function.update_of_ne hwm, if_neg hwm, ← hr w, ← hr m]
      by_cases hwl : (st w).lru < (st m).lru
      · rw [if_pos hwl, if_pos (Nat.le_of_lt hwl)]
      · rw [if_neg hwl, if_neg (by omega)]
  · simp only [List.any_eq_true, List.mem_finRange, true_and, Bool.and_eq_true,
      decide_eq_true_eq, not_exists, not_and]
    intro w hw
    have : ST_WAY = 256 := rfl
    omega

theorem lru_lookup {partialPage pageOffset : Nat} {m : Fin ST_WAY} {lastSig currSig : Nat}
    {delta : Int} {hit : Bool}
    (h : lookup st partialPage pageOffset = some (m, st', lastSig, currSig, delta, hit)) :
    ∀ w, (st' w).lru = (st w).lru := by
  intro w
  unfold lookup at h
  split at h
  · dsimp only at h
    split at h <;> cases h
    · rw [Function.update_apply]; split <;> simp_all
    · rfl
  · split at h
    · cases h
      rw [Function.update_apply]; split <;> simp_all
    · split at h
      · cases h
        rw [Function.update_apply]; split <;> simp_all
      · cases h

theorem delta_lookup {partialPage pageOffset : Nat} {m : Fin ST_WAY} {lastSig currSig : Nat}
    {delta : Int} {hit : Bool}
    (h : lookup st partialPage pageOffset = some (m, st', lastSig, currSig, delta, hit))
    (hs : lastSig ≠ 0) : delta ≠ 0 := by
  unfold lookup at h
  split at h
  · dsimp only at h
    split at h
    · next hd => cases h; exact hd
    · cases h; exact absurd rfl hs
  · split at h
    · cases h; exact absurd rfl hs
    · split at h
      · cases h; exact absurd rfl hs
      · cases h

theorem lookup_isSome (h : Ages st) (partialPage pageOffset : Nat) :
    (lookup st partialPage pageOffset).isSome := by
  unfold lookup
  split
  · dsimp only
    split <;> rfl
  · split
    · rfl
    · split
      · rfl
      · next hnone =>
        obtain ⟨w, hw⟩ := h.exists_oldest
        have := List.find?_eq_none.mp hnone w (List.mem_finRange w)
        simp [hw] at this

theorem readAndUpdateSig_ages (h : Ages st) (ghr : GlobalRegister) (page : UInt64)
    (pageOffset : Nat) : ∃ st' lastSig currSig delta,
      readAndUpdateSig st ghr page pageOffset = some (st', lastSig, currSig, delta) ∧
      Ages st' ∧ (lastSig ≠ 0 → delta ≠ 0) := by
  obtain ⟨⟨m, st₁, lastSig, currSig, delta, hit⟩, hl⟩ :=
    Option.isSome_iff_exists.mp (lookup_isSome h (page &&& ST_TAG_MASK).toNat pageOffset)
  have h₁ : Ages st₁ := h.congr (lru_lookup hl)
  -- whatever the global register writes, the ages stay those of the lookup
  have key : ∀ (st₂ : Fin ST_WAY → StEntry) (currSig₂ : Nat), (∀ w, (st₂ w).lru = (st₁ w).lru) →
      ∃ st' lastSig' currSig' delta',
        ((updateLru st₂ m).bind fun a => pure (a, lastSig, currSig₂, delta)) =
          some (st', lastSig', currSig', delta') ∧ Ages st' ∧ (lastSig' ≠ 0 → delta' ≠ 0) := by
    intro st₂ currSig₂ hl₂
    obtain ⟨st', hst', hages⟩ := updateLru_ages (h₁.congr hl₂) m
    exact ⟨st', lastSig, currSig₂, delta, by rw [hst']; rfl, hages, delta_lookup hl⟩
  simp only [readAndUpdateSig, hl, Option.bind_eq_bind, Option.bind_some]
  split
  · split
    · exact key _ _ fun w => by dsimp only; rw [Function.update_apply]; split <;> simp_all
    · exact key _ _ fun _ => rfl
  · exact key _ _ fun _ => rfl

end SignatureTable

namespace State

variable (s : State) (addr : UInt64)

theorem fst_check_l2_of_snd {s : State} {addr : UInt64}
    (h : (s.check addr .sppL2cPrefetch).2 = false) : (s.check addr .sppL2cPrefetch).1 = s := by
  simp only [check] at h ⊢
  split
  · rfl
  · next hn => simp [hn] at h

@[simp] theorem fst_check_llc : (s.check addr .sppLlcPrefetch).1 = s := by
  simp only [check]
  split <;> rfl

end State

/-! ### Training -/

theorem train_spec {s : State} (hst : SignatureTable.Ages s.st) (hpt : PtOk s.pt)
    (addr : UInt64) : ∃ s₁ currSig, s.train addr = some (s₁, currSig) ∧
      SignatureTable.Ages s₁.st ∧ PtOk s₁.pt := by
  obtain ⟨st, lastSig, currSig, delta, hr, hages, hdelta⟩ :=
    SignatureTable.readAndUpdateSig_ages hst { s.ghr with globalAccuracy := s.ghr.accuracy }
      (addr >>> LOG2_PAGE_SIZE.toUInt64)
      ((addr >>> LOG2_BLOCK_SIZE.toUInt64) &&& (PAGE_SIZE / BLOCK_SIZE - 1).toUInt64).toNat
  -- the demand check leaves the two tables; the pattern table is trained only on a signature
  set s₁ : State := { s with
    ghr := { s.ghr with globalAccuracy := s.ghr.accuracy }
    st := st }
  set s₀ : State := (s₁.check addr .l2cDemand).1 with hs₀
  have hpt' : ∃ pt, (if lastSig ≠ 0 then PatternTable.updatePattern s₀.pt lastSig delta
      else some s₀.pt) = some pt ∧ PtOk pt := by
    rw [hs₀, State.pt_check]
    split
    · next hl => exact PatternTable.updatePattern_ok hpt lastSig (hdelta hl)
    · exact ⟨s.pt, rfl, hpt⟩
  obtain ⟨pt, hp, hptok⟩ := hpt'
  refine ⟨{ s₀ with pt := pt }, currSig, ?_, ?_, hptok⟩
  · simp only [State.train, hr, Option.bind_eq_bind, Option.bind_some]
    rw [← hs₀, hp]
    rfl
  · rw [hs₀, State.st_check]; exact hages

/-! ### What the prefetch loop leaves -/

/-- The prefetch loop only reads the two tables and `global_accuracy`. -/
def Keeps (s s' : State) : Prop :=
  s'.st = s.st ∧ s'.pt = s.pt ∧ s'.ghr.globalAccuracy = s.ghr.globalAccuracy

theorem Keeps.refl (s : State) : Keeps s s := ⟨rfl, rfl, rfl⟩

theorem Keeps.trans {s₁ s₂ s₃ : State} (h₁ : Keeps s₁ s₂) (h₂ : Keeps s₂ s₃) : Keeps s₁ s₃ :=
  ⟨h₂.1.trans h₁.1, h₂.2.1.trans h₁.2.1, h₂.2.2.trans h₁.2.2⟩

theorem keeps_check (s : State) (addr : UInt64) (r : FilterRequest) :
    Keeps s (s.check addr r).1 := by
  simp [Keeps]

namespace Lookahead

variable {mshrSize : Nat} {addr : UInt64}

theorem frame_readWay {p : PtSet} {acc acc' : Lookahead × Nat × Nat} {w : Fin PT_WAY}
    (h : readWay mshrSize p acc w = some acc') :
    acc'.1.s = acc.1.s ∧ acc'.1.calls = acc.1.calls := by
  obtain ⟨l, lw, mc⟩ := acc
  simp only [readWay] at h
  split at h
  · split at h
    · cases h; exact ⟨rfl, rfl⟩
    · cases h
  · cases h; exact ⟨rfl, rfl⟩

theorem frame_readPattern {l l' : Lookahead} {w : Nat}
    (h : readPattern mshrSize l = some (l', w)) : l'.s = l.s ∧ l'.calls = l.calls := by
  simp only [readPattern] at h
  split at h
  · simp only [Option.bind_eq_bind, Option.bind_eq_some_iff] at h
    obtain ⟨⟨l₁, lw, mc⟩, hf, hr⟩ := h
    have h₁ : l₁.s = l.s ∧ l₁.calls = l.calls := DoWhile.foldlM_inv (readWay mshrSize _)
      (fun acc => acc.1.s = l.s ∧ acc.1.calls = l.calls)
      (fun _ _ _ hb h => ⟨(frame_readWay h).1.trans hb.1, (frame_readWay h).2.trans hb.2⟩)
      _ _ _ ⟨rfl, rfl⟩ hf
    cases hr
    exact h₁
  · split at h
    · cases h; exact ⟨rfl, rfl⟩
    · cases h

theorem issue_eq_some {l l' : Lookahead} {i : Nat} (h : issue addr l i = some l') :
    l' = { l with s := l'.s, calls := l'.calls, pfQHead := l.pfQHead + 1 } ∧
      ((samePage addr (pfAddrOf l.baseAddr (l.deltaQ i)) = true ∧
          FILL_THRESHOLD ≤ l.confidenceQ i ∧
          (((l.s.check (pfAddrOf l.baseAddr (l.deltaQ i)) .sppL2cPrefetch).2 = true ∧
              l'.s = { (l.s.check (pfAddrOf l.baseAddr (l.deltaQ i)) .sppL2cPrefetch).1 with
                ghr := (l.s.check (pfAddrOf l.baseAddr (l.deltaQ i)) .sppL2cPrefetch).1.ghr.countIssue } ∧
              l'.calls = l.calls ++ [⟨pfAddrOf l.baseAddr (l.deltaQ i), true⟩]) ∨
            ((l.s.check (pfAddrOf l.baseAddr (l.deltaQ i)) .sppL2cPrefetch).2 = false ∧
              l'.s = l.s ∧ l'.calls = l.calls))) ∨
        (samePage addr (pfAddrOf l.baseAddr (l.deltaQ i)) = true ∧
          l.confidenceQ i < FILL_THRESHOLD ∧ l'.s = l.s ∧
          (l'.calls = l.calls ∨ l'.calls = l.calls ++ [⟨pfAddrOf l.baseAddr (l.deltaQ i), false⟩])) ∨
        (samePage addr (pfAddrOf l.baseAddr (l.deltaQ i)) = false ∧ l'.calls = l.calls ∧
          ∃ ghr, l.s.ghr.updateEntry l.currSig (l.confidenceQ i)
              ((pfAddrOf l.baseAddr (l.deltaQ i) >>> LOG2_BLOCK_SIZE.toUInt64) &&& 0x3F).toNat
              (l.deltaQ i) = some ghr ∧ l'.s = { l.s with ghr := ghr })) := by
  by_cases hp : samePage addr (pfAddrOf l.baseAddr (l.deltaQ i)) = true
  · simp only [issue, hp, if_true, Option.bind_eq_bind] at h
    by_cases hf : FILL_THRESHOLD ≤ l.confidenceQ i
    · simp only [hf, decide_true, if_true] at h
      split at h
      · next hok =>
        cases h
        exact ⟨rfl, .inl ⟨hp, hf, .inl ⟨hok, rfl, rfl⟩⟩⟩
      · next hok =>
        cases h
        have hok' : (l.s.check (pfAddrOf l.baseAddr (l.deltaQ i)) .sppL2cPrefetch).2 = false := by
          simpa using hok
        exact ⟨rfl, .inl ⟨hp, hf, .inr ⟨hok', State.fst_check_l2_of_snd hok', rfl⟩⟩⟩
    · -- an LLC prefetch: the filter's answer only decides the call
      simp only [hf, decide_false, Bool.false_eq_true, if_false, State.fst_check_llc] at h
      have hf' : l.confidenceQ i < FILL_THRESHOLD := by omega
      split at h
      · cases h
        exact ⟨rfl, .inr (.inl ⟨hp, hf', rfl, .inr rfl⟩)⟩
      · cases h
        exact ⟨rfl, .inr (.inl ⟨hp, hf', rfl, .inl rfl⟩)⟩
  · simp only [issue, hp, Bool.false_eq_true, if_false, Option.bind_eq_bind] at h
    simp only [Option.bind_eq_some_iff, Option.bind_some, Option.pure_def, Option.some.injEq] at h
    obtain ⟨ghr, hg, rfl⟩ := h
    exact ⟨rfl, .inr (.inr ⟨by simpa using hp, rfl, ghr, hg, rfl⟩)⟩

theorem keeps_issue {l l' : Lookahead} {i : Nat} (h : issue addr l i = some l') :
    Keeps l.s l'.s := by
  obtain ⟨-, ⟨-, -, ⟨-, hs, -⟩ | ⟨-, hs, -⟩⟩ | ⟨-, -, hs, -⟩ | ⟨-, -, ghr, hg, hs⟩⟩ :=
    issue_eq_some h
  · have hk := keeps_check l.s (pfAddrOf l.baseAddr (l.deltaQ i)) .sppL2cPrefetch
    rw [hs]
    exact ⟨hk.1, hk.2.1, by simp⟩
  · rw [hs]; exact Keeps.refl _
  · rw [hs]; exact Keeps.refl _
  · rw [hs]
    exact ⟨rfl, rfl, (GlobalRegister.counters_updateEntry hg).2.2⟩

@[simp] theorem s_advance (l : Lookahead) (w : Nat) : (advance l w).s = l.s := by
  unfold advance
  split <;> rfl

@[simp] theorem calls_advance (l : Lookahead) (w : Nat) : (advance l w).calls = l.calls := by
  unfold advance
  split <;> rfl

section Frame

-- an invariant of the state and the calls made so far, kept by every issued entry
variable (P : State → List PrefetchCall → Prop)
  (hissue : ∀ l l' i, P l.s l.calls → issue addr l i = some l' → P l'.s l'.calls)
include hissue

theorem scanEntry_inv {acc acc' : Lookahead × Bool} {i : Nat}
    (h : scanEntry addr acc i = some acc') (hp : P acc.1.s acc.1.calls) :
    P acc'.1.s acc'.1.calls := by
  simp only [scanEntry] at h
  split at h
  · simp only [Option.bind_eq_bind, Option.bind_eq_some_iff] at h
    obtain ⟨l, hl, hr⟩ := h
    cases hr
    exact hissue _ _ _ hp hl
  · cases h
    exact hp

theorem round_inv {l l' : Lookahead} {go : Bool} (h : round mshrSize addr l = some (l', go))
    (hp : P l.s l.calls) : P l'.s l'.calls := by
  simp only [round, Option.bind_eq_bind, Option.bind_eq_some_iff] at h
  obtain ⟨⟨l₁, w⟩, hrp, ⟨l₂, go₂⟩, hf, hr⟩ := h
  cases hr
  obtain ⟨hs₁, hc₁⟩ := frame_readPattern hrp
  have h₂ : P l₂.s l₂.calls := DoWhile.foldlM_inv (scanEntry addr) (fun acc => P acc.1.s acc.1.calls)
    (fun _ _ _ hb h => scanEntry_inv P hissue h hb) _ _ _ (by rw [hs₁, hc₁]; exact hp) hf
  rw [s_advance, calls_advance]
  exact h₂

theorem run_inv {n : Nat} {l l' : Lookahead}
    (h : DoWhile.run (round mshrSize addr) n l = some l') (hp : P l.s l.calls) :
    P l'.s l'.calls :=
  DoWhile.inv_of_run (fun l => P l.s l.calls) (fun _ _ _ hb h => round_inv P hissue h hb)
    n l l' hp h

end Frame

theorem keeps_run {n : Nat} {l l' : Lookahead}
    (h : DoWhile.run (round mshrSize addr) n l = some l') : Keeps l.s l'.s :=
  run_inv (fun s _ => Keeps l.s s) (fun _ _ _ hb h => hb.trans (keeps_issue h)) h (Keeps.refl _)

end Lookahead

/-! ### The tables over whole runs -/

theorem tables_step {mshrSize : Nat} {s s' : State} {op : Op} {calls : List PrefetchCall}
    (h : step mshrSize s op = some (s', calls)) (hst : SignatureTable.Ages s.st)
    (hpt : PtOk s.pt) : SignatureTable.Ages s'.st ∧ PtOk s'.pt := by
  cases op with
  | operate addr =>
    obtain ⟨-, s₁, currSig, l, ht, hl, rfl, -⟩ := State.operate_eq_some h
    obtain ⟨s₂, currSig₂, ht₂, hst₂, hpt₂⟩ := train_spec hst hpt addr
    rw [ht] at ht₂
    cases ht₂
    have hk := Lookahead.keeps_run hl
    exact ⟨hk.1 ▸ hst₂, hk.2.1 ▸ hpt₂⟩
  | fill evictedAddr =>
    cases h
    exact ⟨by simpa [State.fill] using hst, by simpa [State.fill] using hpt⟩

theorem tables_run {mshrSize : Nat} :
    ∀ (ops : List Op) (s s' : State) (calls : List PrefetchCall),
      run mshrSize s ops = some (s', calls) → SignatureTable.Ages s.st → PtOk s.pt →
        SignatureTable.Ages s'.st ∧ PtOk s'.pt
  | [], s, s', calls, h, hst, hpt => by
    cases h
    exact ⟨hst, hpt⟩
  | op :: ops, s, s', calls, h, hst, hpt => by
    simp only [run, Option.bind_eq_bind, Option.bind_eq_some_iff] at h
    obtain ⟨⟨s₁, c₁⟩, h₁, ⟨s₂, c₂⟩, h₂, hr⟩ := h
    cases hr
    obtain ⟨hst₁, hpt₁⟩ := tables_step h₁ hst hpt
    exact tables_run ops s₁ s₂ c₂ h₂ hst₁ hpt₁

/-- Eight loads of consecutive blocks of one page: they train the signature and pattern tables
until the lookahead prefetches. -/
def streamOps : List Op := (List.range 8).map fun k => .operate (0x10000 + 64 * k.toUInt64)

theorem run_streamOps : ∃ s calls, run 17 State.init streamOps = some (s, calls) ∧
    calls.length = 2 ∧ (∀ i, (s.ghr.entries i).confidence < 100) ∧ s.ghr.globalAccuracy ≤ 100 := by
  have h : (run 17 State.init streamOps).map (fun r => decide (r.2.length = 2 ∧
      (∀ i, (r.1.ghr.entries i).confidence < 100) ∧ r.1.ghr.globalAccuracy ≤ 100)) = some true := by
    decide +kernel
  obtain ⟨⟨s, calls⟩, hr, hp⟩ := Option.map_eq_some_iff.mp h
  exact ⟨s, calls, hr, of_decide_eq_true hp⟩

/-- Over every run from reset, every set of the pattern table keeps its counters consistent,
so `update_pattern` finds its way for every nonzero delta. -/
theorem patternTable_ok_run {mshrSize : Nat} {ops : List Op} {s : State}
    {calls : List PrefetchCall} (h : run mshrSize State.init ops = some (s, calls)) :
    PtOk s.pt ∧ ∀ (lastSig : Nat) (delta : Int), delta ≠ 0 →
      ∃ pt', PatternTable.updatePattern s.pt lastSig delta = some pt' := by
  obtain ⟨-, hpt⟩ :=
    tables_run ops State.init s calls h SignatureTable.ages_init (fun _ => PtSet.ok_init)
  refine ⟨hpt, fun lastSig delta hd => ?_⟩
  obtain ⟨pt', hu, -⟩ := PatternTable.updatePattern_ok hpt lastSig hd
  exact ⟨pt', hu⟩

theorem patternTable_ok_stream :
    ∃ s calls, run 17 State.init streamOps = some (s, calls) ∧ calls.length = 2 ∧
      PtOk s.pt ∧ ∀ (lastSig : Nat) (delta : Int), delta ≠ 0 →
        ∃ pt', PatternTable.updatePattern s.pt lastSig delta = some pt' := by
  obtain ⟨s, calls, h, hlen, -⟩ := run_streamOps
  exact ⟨s, calls, h, hlen, patternTable_ok_run h⟩

/-- Over every run from reset, the ages of the signature table stay the positions of its ways
in a recency order of all of them, so `read_and_update_sig` never fails. -/
theorem signatureTable_ages_run {mshrSize : Nat} {ops : List Op} {s : State}
    {calls : List PrefetchCall} (h : run mshrSize State.init ops = some (s, calls)) :
    SignatureTable.Ages s.st ∧ ∀ (ghr : GlobalRegister) (page : UInt64) (pageOffset : Nat),
      ∃ r, SignatureTable.readAndUpdateSig s.st ghr page pageOffset = some r := by
  obtain ⟨hst, -⟩ :=
    tables_run ops State.init s calls h SignatureTable.ages_init (fun _ => PtSet.ok_init)
  refine ⟨hst, fun ghr page pageOffset => ?_⟩
  obtain ⟨st', lastSig, currSig, delta, hr, -⟩ :=
    SignatureTable.readAndUpdateSig_ages hst ghr page pageOffset
  exact ⟨_, hr⟩

theorem signatureTable_ages_stream :
    ∃ s calls, run 17 State.init streamOps = some (s, calls) ∧ calls.length = 2 ∧
      SignatureTable.Ages s.st ∧ ∀ (ghr : GlobalRegister) (page : UInt64) (pageOffset : Nat),
        ∃ r, SignatureTable.readAndUpdateSig s.st ghr page pageOffset = some r := by
  obtain ⟨s, calls, h, hlen, -⟩ := run_streamOps
  exact ⟨s, calls, h, hlen, signatureTable_ages_run h⟩

end Spp

end MindPalace.ChampSim
