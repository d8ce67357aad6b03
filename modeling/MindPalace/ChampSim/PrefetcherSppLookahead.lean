import MindPalace.ChampSim.PrefetcherSppTables

/-! # The lookahead of the signature path prefetcher stays within its queues

On a consistent pattern set the confidences of one round sum to at most `93 * L / 100` of the
path confidence `L`, and each queued way has at least `PF_THRESHOLD`; so from `100` at most
`17` entries are queued, and the loop ends within its fuel.
-/

namespace MindPalace.ChampSim

namespace Spp

open Lookahead

/-! ### The potential of a path -/

def confCap (L : Nat) : Nat := 93 * L / 100

/-- The iterates of `confCap` from `L` that still reach `PF_THRESHOLD`, with `fuel` at most. -/
def chainLength : Nat → Nat → Nat
  | 0, _ => 0
  | fuel + 1, L => if L < PF_THRESHOLD then 0 else chainLength fuel (confCap L) + 1

def lookaheadSteps (L : Nat) : Nat := chainLength 100 L

theorem confCap_le (L : Nat) : confCap L ≤ L := by
  unfold confCap; omega

theorem confCap_mono {L L' : Nat} (h : L ≤ L') : confCap L ≤ confCap L' :=
  Nat.div_le_div_right (Nat.mul_le_mul_left 93 h)

theorem chainLength_mono : ∀ (fuel : Nat) {L L' : Nat}, L ≤ L' →
    chainLength fuel L ≤ chainLength fuel L'
  | 0, _, _, _ => le_rfl
  | fuel + 1, L, L', h => by
    simp only [chainLength]
    split
    · exact Nat.zero_le _
    · next hL =>
      rw [if_neg (by omega)]
      exact Nat.succ_le_succ (chainLength_mono fuel (confCap_mono h))

theorem lookaheadSteps_mono {L L' : Nat} (h : L ≤ L') : lookaheadSteps L ≤ lookaheadSteps L' :=
  chainLength_mono 100 h

theorem lookaheadSteps_hundred : lookaheadSteps 100 = 17 := by decide

theorem lookaheadSteps_pos {L : Nat} (h : PF_THRESHOLD ≤ L) : 0 < lookaheadSteps L := by
  rw [lookaheadSteps, chainLength, if_neg (Nat.not_lt.mpr h)]
  omega

theorem lookaheadSteps_round_table : ∀ L, L < 101 → ∀ n, n < 4 → 0 < n →
    PF_THRESHOLD * n ≤ confCap L →
      n + lookaheadSteps (confCap L - PF_THRESHOLD * (n - 1)) ≤ lookaheadSteps L := by
  decide +kernel

theorem add_lookaheadSteps_le {L n m : Nat} (hL : L ≤ 100) (hn : 0 < n)
    (hsum : PF_THRESHOLD * n ≤ confCap L) (hm : m ≤ confCap L - PF_THRESHOLD * (n - 1)) :
    n + lookaheadSteps m ≤ lookaheadSteps L := by
  have hcap : confCap L ≤ 93 := le_trans (confCap_mono hL) (by decide)
  have hn4 : n < 4 := by simp only [PF_THRESHOLD] at hsum; omega
  calc n + lookaheadSteps m
      ≤ n + lookaheadSteps (confCap L - PF_THRESHOLD * (n - 1)) :=
        Nat.add_le_add_left (lookaheadSteps_mono hm) n
    _ ≤ lookaheadSteps L := lookaheadSteps_round_table L (by omega) n hn4 hn hsum

theorem le_lookaheadSteps {L n : Nat} (hL : L ≤ 100) (hsum : PF_THRESHOLD * n ≤ confCap L) :
    n ≤ lookaheadSteps L := by
  rcases Nat.eq_zero_or_pos n with rfl | hn
  · exact Nat.zero_le _
  · have := add_lookaheadSteps_le hL hn hsum le_rfl
    omega

/-! ### The confidences of one round -/

theorem pfConf_eq {ga depth lookaheadConf cDelta cSig : Nat}
    (hstart : depth = 0 → lookaheadConf = 100) :
    pfConf ga depth lookaheadConf cDelta cSig =
      (if depth = 0 then 100 else ga) * cDelta / cSig * lookaheadConf / 100 := by
  by_cases hd : depth = 0
  · rw [pfConf, if_neg (not_not.mpr hd), if_pos hd, hstart hd, Nat.mul_div_cancel _ (by decide)]
  · rw [pfConf, if_pos hd, if_neg hd]

theorem sum_share_le {p : PtSet} (hp : p.Ok) (hc : p.cSig ≠ 0) {g : Nat} (hg : g ≤ 100) :
    ∑ w, g * p.cDelta w / p.cSig ≤ 93 := by
  obtain ⟨hs, hcmax⟩ : ∑ w, p.cDelta w < p.cSig ∧ p.cSig ≤ C_SIG_MAX := by
    rcases hp with ⟨h0, _⟩ | h
    · exact absurd h0 hc
    · exact h
  have htable : ∀ c, c < 16 → 0 < c → 100 * (c - 1) / c ≤ 93 := by decide
  calc ∑ w, g * p.cDelta w / p.cSig
      ≤ (∑ w, g * p.cDelta w) / p.cSig := NatSum.sum_div_le_div_sum _ _ _
    _ = g * (∑ w, p.cDelta w) / p.cSig := by rw [Finset.mul_sum]
    _ ≤ 100 * (p.cSig - 1) / p.cSig :=
        Nat.div_le_div_right (Nat.mul_le_mul hg (by omega))
    _ ≤ 93 := htable _ (by simp only [C_SIG_MAX] at hcmax; omega) (by omega)

theorem sum_pfConf_le {p : PtSet} (hp : p.Ok) (hc : p.cSig ≠ 0) {ga depth L : Nat}
    (hga : ga ≤ 100) (hstart : depth = 0 → L = 100) :
    ∑ w, pfConf ga depth L (p.cDelta w) p.cSig ≤ confCap L := by
  have hg : (if depth = 0 then 100 else ga) ≤ 100 := by split <;> omega
  simp only [pfConf_eq hstart]
  calc ∑ w, (if depth = 0 then 100 else ga) * p.cDelta w / p.cSig * L / 100
      ≤ (∑ w, (if depth = 0 then 100 else ga) * p.cDelta w / p.cSig * L) / 100 :=
        NatSum.sum_div_le_div_sum _ _ _
    _ = (∑ w, (if depth = 0 then 100 else ga) * p.cDelta w / p.cSig) * L / 100 := by
        rw [Finset.sum_mul]
    _ ≤ 93 * L / 100 :=
        Nat.div_le_div_right (Nat.mul_le_mul_right L (sum_share_le hp hc hg))

/-! ### The global register's confidences -/

def GhrConfOk (g : GlobalRegister) : Prop :=
  ∀ i, (g.entries i).confidence < 100

namespace GlobalRegister

theorem foldl_victim_lt (g : GlobalRegister) : ∀ (xs : List (Fin MAX_GHR_ENTRY)) (acc : Nat × Nat),
    (acc.2 < MAX_GHR_ENTRY ∨ ∃ i ∈ xs, (g.entries i).confidence < acc.1) →
      (xs.foldl (fun (acc : Nat × Nat) i =>
        if (g.entries i).confidence < acc.1 then ((g.entries i).confidence, i.val) else acc)
        acc).2 < MAX_GHR_ENTRY
  | [], _, h => by simpa using h
  | i :: xs, acc, h => by
    rw [List.foldl_cons]
    apply foldl_victim_lt g xs
    split
    · exact Or.inl i.isLt
    · next hi =>
      rcases h with h | ⟨j, hj, hlt⟩
      · exact Or.inl h
      · rcases List.mem_cons.mp hj with rfl | hj
        · exact absurd hlt hi
        · exact Or.inr ⟨j, hj, hlt⟩

theorem victimWay_lt {g : GlobalRegister} (h : GhrConfOk g) : g.victimWay < MAX_GHR_ENTRY :=
  foldl_victim_lt g _ _ (Or.inr ⟨⟨0, by decide⟩, List.mem_finRange _, h _⟩)

theorem updateEntry_ghrConfOk {g : GlobalRegister} (h : GhrConfOk g) (pfSig : Nat)
    {pfConfidence : Nat} (hc : pfConfidence < 100) (pfOffset : Nat) (pfDelta : Int) :
    ∃ g', g.updateEntry pfSig pfConfidence pfOffset pfDelta = some g' ∧ GhrConfOk g' := by
  unfold updateEntry
  split
  · next i _ =>
    refine ⟨_, rfl, fun j => ?_⟩
    simp only [Function.update_apply]
    split
    · exact hc
    · exact h j
  · rw [dif_pos (victimWay_lt h)]
    refine ⟨_, rfl, fun j => ?_⟩
    simp only [Function.update_apply]
    split
    · exact hc
    · exact h j

end GlobalRegister

/-! ### One round of `read_pattern` -/

namespace Lookahead

@[simp] theorem pfQHead_advance (l : Lookahead) (w : Nat) : (advance l w).pfQHead = l.pfQHead := by
  unfold advance; split <;> rfl

@[simp] theorem pfQTail_advance (l : Lookahead) (w : Nat) : (advance l w).pfQTail = l.pfQTail := by
  unfold advance; split <;> rfl

@[simp] theorem depth_advance (l : Lookahead) (w : Nat) : (advance l w).depth = l.depth := by
  unfold advance; split <;> rfl

@[simp] theorem lookaheadConf_advance (l : Lookahead) (w : Nat) :
    (advance l w).lookaheadConf = l.lookaheadConf := by
  unfold advance; split <;> rfl

/-- What the loop of `read_pattern` has built from the locals `l` after ways whose confidences
sum to `t`: confident ways queued from `pf_q_tail`, each at most the best one, which with
`PF_THRESHOLD` for every other queued way is within `t`. -/
structure ReadInv (l : Lookahead) (t : Nat) (acc : Lookahead × Nat × Nat) : Prop where
  s : acc.1.s = l.s
  depth : acc.1.depth = l.depth
  lookaheadConf : acc.1.lookaheadConf = l.lookaheadConf
  pfQHead : acc.1.pfQHead = l.pfQHead
  calls : acc.1.calls = l.calls
  tail_le : l.pfQTail ≤ acc.1.pfQTail
  queued : PF_THRESHOLD * (acc.1.pfQTail - l.pfQTail) ≤ t
  best : acc.2.2 + PF_THRESHOLD * (acc.1.pfQTail - l.pfQTail - 1) ≤ t
  none_queued : acc.1.pfQTail = l.pfQTail → acc.2.2 = 0
  some_queued : l.pfQTail < acc.1.pfQTail → PF_THRESHOLD ≤ acc.2.2
  entries : ∀ j, l.pfQTail ≤ j → j < acc.1.pfQTail →
    PF_THRESHOLD ≤ acc.1.confidenceQ j ∧ acc.1.confidenceQ j ≤ acc.2.2

theorem readInv_start (l : Lookahead) : ReadInv l 0 (l, PT_WAY, 0) where
  s := rfl
  depth := rfl
  lookaheadConf := rfl
  pfQHead := rfl
  calls := rfl
  tail_le := le_rfl
  queued := by simp
  best := by simp
  none_queued := fun _ => rfl
  some_queued := fun h => absurd h (lt_irrefl _)
  entries := fun _ h₁ h₂ => absurd (lt_of_le_of_lt h₁ h₂) (lt_irrefl _)

variable {mshrSize : Nat} {l : Lookahead} {p : PtSet}

theorem readWay_readInv {t : Nat} {acc : Lookahead × Nat × Nat} (hinv : ReadInv l t acc)
    (w : Fin PT_WAY)
    (hroom : PF_THRESHOLD * (acc.1.pfQTail - l.pfQTail + 1) ≤
        t + pfConf l.s.ghr.globalAccuracy l.depth l.lookaheadConf (p.cDelta w) p.cSig →
      acc.1.pfQTail < mshrSize) :
    ∃ acc', readWay mshrSize p acc w = some acc' ∧
      ReadInv l (t + pfConf l.s.ghr.globalAccuracy l.depth l.lookaheadConf (p.cDelta w) p.cSig)
        acc' := by
  obtain ⟨l₁, lw, mc⟩ := acc
  obtain ⟨hs, hd, hc, hh, hcl, htl, hq, hb, hn, hsq, he⟩ := hinv
  dsimp only at hs hd hc hh hcl htl hq hb hn hsq he hroom
  set conf := pfConf l.s.ghr.globalAccuracy l.depth l.lookaheadConf (p.cDelta w) p.cSig
  have hconf : pfConf l₁.s.ghr.globalAccuracy l₁.depth l₁.lookaheadConf (p.cDelta w) p.cSig =
      conf := by rw [hs, hd, hc]
  simp only [readWay, hconf]
  by_cases hf : PF_THRESHOLD ≤ conf
  · -- a confident way is queued at the tail and may become the best
    have hroom' : l₁.pfQTail < mshrSize := hroom (by simp only [PF_THRESHOLD] at hq hf ⊢; omega)
    rw [if_pos hf, if_pos hroom']
    refine ⟨_, rfl, ⟨hs, hd, hc, hh, hcl, ?_, ?_, ?_, ?_, ?_, ?_⟩⟩ <;> dsimp only
    · omega
    · simp only [PF_THRESHOLD] at hq hf ⊢; omega
    · simp only [PF_THRESHOLD] at hq hb hn hf ⊢
      split <;> omega
    · omega
    · intro _
      split <;> omega
    · intro j hj₁ hj₂
      rw [Function.update_apply]
      split
      · next hj => split <;> omega
      · next hj =>
        obtain ⟨h₁, h₂⟩ := he j hj₁ (by omega)
        exact ⟨h₁, by split <;> omega⟩
  · -- a way below the threshold is passed over
    rw [if_neg hf]
    exact ⟨_, rfl, ⟨hs, hd, hc, hh, hcl, htl, hq.trans (Nat.le_add_right t conf),
      hb.trans (Nat.le_add_right t conf), hn, hsq, he⟩⟩

theorem readPattern_spec (hm : 17 ≤ mshrSize) (hpt : PtOk l.s.pt)
    (hga : l.s.ghr.globalAccuracy ≤ 100) (hstart : l.depth = 0 → l.lookaheadConf = 100)
    (hL : l.lookaheadConf ≤ 100) (hL25 : PF_THRESHOLD ≤ l.lookaheadConf)
    (hbudget : l.pfQTail + lookaheadSteps l.lookaheadConf ≤ 17) :
    ∃ l₁ lw, readPattern mshrSize l = some (l₁, lw) ∧ l₁.s = l.s ∧ l₁.pfQHead = l.pfQHead ∧
      l₁.calls = l.calls ∧ l.pfQTail ≤ l₁.pfQTail ∧
      (∀ j, l.pfQTail ≤ j → j < l₁.pfQTail →
        PF_THRESHOLD ≤ l₁.confidenceQ j ∧ l₁.confidenceQ j < 100) ∧
      (l.pfQTail < l₁.pfQTail → l₁.depth ≠ 0 ∧ PF_THRESHOLD ≤ l₁.lookaheadConf ∧
        l₁.lookaheadConf ≤ 100 ∧
        l₁.pfQTail + lookaheadSteps l₁.lookaheadConf ≤
          l.pfQTail + lookaheadSteps l.lookaheadConf) := by
  have hpos := lookaheadSteps_pos hL25
  unfold readPattern
  by_cases hc : (l.s.pt (PatternTable.setOf l.currSig)).cSig ≠ 0
  · rw [if_pos hc]
    set p := l.s.pt (PatternTable.setOf l.currSig)
    set conf := fun w : Fin PT_WAY =>
      pfConf l.s.ghr.globalAccuracy l.depth l.lookaheadConf (p.cDelta w) p.cSig
    have hsum : ((List.finRange PT_WAY).map conf).sum ≤ confCap l.lookaheadConf := by
      rw [← Fin.sum_univ_def]
      exact sum_pfConf_le (hpt _) hc hga hstart
    -- the loop over the ways spends the confidences of the set, within `confCap`
    obtain ⟨⟨l₂, lw, mc⟩, hfold, hinv⟩ := DoWhile.foldlM_of_budget (readWay mshrSize p) conf
      (confCap l.lookaheadConf) (ReadInv l)
      (fun t acc w hinv hle => readWay_readInv hinv w (fun h25 => by
        have hk := le_lookaheadSteps hL (le_trans h25 hle)
        have := hinv.tail_le
        omega))
      (List.finRange PT_WAY) 0 (l, PT_WAY, 0) (readInv_start l) (by simpa using hsum)
    rw [Nat.zero_add] at hinv
    obtain ⟨hs, -, -, hh, hcl, htl, hq, hb, -, hsq, he⟩ := hinv
    dsimp only at hs hh hcl htl hq hb hsq he
    have hcap : confCap l.lookaheadConf ≤ 93 := le_trans (confCap_mono hL) (by decide)
    simp only [hfold, Option.bind_eq_bind, Option.bind_some, Option.pure_def]
    refine ⟨_, lw, rfl, hs, hh, hcl, htl, fun j hj₁ hj₂ => ?_, fun hlt => ?_⟩
    · dsimp only at hj₂ ⊢
      obtain ⟨h₁, h₂⟩ := he j hj₁ hj₂
      exact ⟨h₁, by simp only [PF_THRESHOLD] at hb; omega⟩
    · -- a round that queued its ways follows the best of them
      dsimp only at hlt ⊢
      have hmc := hsq hlt
      rw [if_pos hmc]
      have hk := add_lookaheadSteps_le hL (Nat.sub_pos_of_lt hlt)
        (le_trans hq hsum)
        (show mc ≤ confCap l.lookaheadConf - PF_THRESHOLD * (l₂.pfQTail - l.pfQTail - 1) by omega)
      have hle := confCap_le l.lookaheadConf
      exact ⟨Nat.succ_ne_zero _, hmc, by omega, by omega⟩
  · -- a set never trained: `confidence_q[pf_q_tail] = 0`, nothing queued
    rw [if_neg hc, if_pos (by omega)]
    exact ⟨_, PT_WAY, rfl, rfl, rfl, rfl, le_rfl, fun _ h₁ h₂ => absurd (lt_of_le_of_lt h₁ h₂) (lt_irrefl _),
      fun h => absurd h (lt_irrefl _)⟩

/-! ### The prefetches of one round -/

variable {addr : UInt64}

theorem issue_spec (addr : UInt64) {i : Nat} (hg : GhrConfOk l.s.ghr) (hc : l.confidenceQ i < 100) :
    ∃ l', issue addr l i = some l' ∧
      l' = { l with s := l'.s, calls := l'.calls, pfQHead := l.pfQHead + 1 } ∧
      Keeps l.s l'.s ∧ GhrConfOk l'.s.ghr ∧ l'.calls.length ≤ l.calls.length + 1 := by
  obtain ⟨g', hg', hok⟩ := GlobalRegister.updateEntry_ghrConfOk hg l.currSig hc
    ((pfAddrOf l.baseAddr (l.deltaQ i) >>> LOG2_BLOCK_SIZE.toUInt64) &&& 0x3F).toNat (l.deltaQ i)
  obtain ⟨l', hl'⟩ : ∃ l', issue addr l i = some l' := by
    by_cases hp : samePage addr (pfAddrOf l.baseAddr (l.deltaQ i)) = true
    · simp only [issue, hp, if_true, Option.bind_eq_bind]
      split <;> split <;> exact ⟨_, rfl⟩
    · simp only [issue, hp, Bool.false_eq_true, if_false, Option.bind_eq_bind, hg',
        Option.bind_some]
      exact ⟨_, rfl⟩
  obtain ⟨heq, hcases⟩ := issue_eq_some hl'
  refine ⟨l', hl', heq, keeps_issue hl', ?_, ?_⟩
  · rcases hcases with ⟨-, -, ⟨-, hs, -⟩ | ⟨-, hs, -⟩⟩ | ⟨-, -, hs, -⟩ | ⟨-, -, g, hu, hs⟩
    · intro j
      rw [hs, GlobalRegister.entries_countIssue, State.entries_check]
      exact hg j
    · rw [hs]; exact hg
    · rw [hs]; exact hg
    · rw [hg'] at hu
      cases hu
      rw [hs]
      exact hok
  · rcases hcases with ⟨-, -, ⟨-, -, hcl⟩ | ⟨-, -, hcl⟩⟩ | ⟨-, -, -, hcl | hcl⟩ | ⟨-, hcl, -⟩ <;>
      simp [hcl]

theorem scan_spec (addr : UInt64) : ∀ (n a : Nat) (l : Lookahead) (go : Bool), l.pfQHead = a →
    (∀ j, a ≤ j → j < a + n → PF_THRESHOLD ≤ l.confidenceQ j ∧ l.confidenceQ j < 100) →
    GhrConfOk l.s.ghr → l.calls.length ≤ l.pfQHead →
    ∃ l', (List.range' a n).foldlM (scanEntry addr) (l, go) = some (l', go || decide (0 < n)) ∧
      l'.pfQHead = a + n ∧ l'.pfQTail = l.pfQTail ∧ l'.depth = l.depth ∧
      l'.lookaheadConf = l.lookaheadConf ∧ Keeps l.s l'.s ∧ GhrConfOk l'.s.ghr ∧
      l'.calls.length ≤ l'.pfQHead
  | 0, a, l, go, hh, _, hg, hc =>
    ⟨l, by simp, by simp [hh], rfl, rfl, rfl, Keeps.refl _, hg, hc⟩
  | n + 1, a, l, go, hh, he, hg, hc => by
    obtain ⟨h25, h100⟩ := he a le_rfl (by omega)
    obtain ⟨l₁, hi, heq, hk, hg₁, hc₁⟩ := issue_spec addr hg h100
    have hh₁ : l₁.pfQHead = l.pfQHead + 1 := congrArg Lookahead.pfQHead heq
    have hq₁ : l₁.confidenceQ = l.confidenceQ := by rw [heq]
    have hscan : scanEntry addr (l, go) a = some (l₁, true) := by
      simp only [scanEntry, if_pos h25, hi, Option.bind_eq_bind, Option.bind_some, Option.pure_def]
    -- the rest of the entries, from the next head
    obtain ⟨l', hf, hh', ht', hd', hc', hk', hg', hcl'⟩ := scan_spec addr n (a + 1) l₁ true
      (by omega) (fun j hj₁ hj₂ => hq₁ ▸ he j (by omega) (by omega)) hg₁ (by omega)
    refine ⟨l', ?_, by omega, ?_, ?_, ?_, hk.trans hk', hg', hcl'⟩
    · rw [List.range'_succ, List.foldlM_cons, hscan, Option.bind_eq_bind, Option.bind_some, hf]
      simp
    · rw [ht', heq]
    · rw [hd', heq]
    · rw [hc', heq]

/-! ### The whole loop -/

/-- The locals between two rounds of a lookahead started on `s₀`: the tables and the accuracy
as they were, the queue drained, a path confidence from `PF_THRESHOLD` to `100` (`100` at
depth `0`), and room in the queue for every entry the path can still queue. -/
structure LoopInv (s₀ : State) (l : Lookahead) : Prop where
  keeps : Keeps s₀ l.s
  ghr : GhrConfOk l.s.ghr
  head : l.pfQHead = l.pfQTail
  calls : l.calls.length ≤ l.pfQHead
  start : l.depth = 0 → l.lookaheadConf = 100
  conf_le : l.lookaheadConf ≤ 100
  conf_ge : PF_THRESHOLD ≤ l.lookaheadConf
  budget : l.pfQTail + lookaheadSteps l.lookaheadConf ≤ 17

theorem loopInv_start {s : State} (hg : GhrConfOk s.ghr) (currSig : Nat) :
    LoopInv s (start s addr currSig) where
  keeps := Keeps.refl s
  ghr := hg
  head := rfl
  calls := le_rfl
  start := fun _ => rfl
  conf_le := le_rfl
  conf_ge := show PF_THRESHOLD ≤ 100 by decide
  budget := by
    show 0 + lookaheadSteps 100 ≤ 17
    rw [lookaheadSteps_hundred]

variable {s₀ : State}

theorem round_spec (hm : 17 ≤ mshrSize) (hpt : PtOk s₀.pt) (hga : s₀.ghr.globalAccuracy ≤ 100)
    (hinv : LoopInv s₀ l) :
    ∃ l' go, round mshrSize addr l = some (l', go) ∧
      (go = true → LoopInv s₀ l' ∧
        lookaheadSteps l'.lookaheadConf < lookaheadSteps l.lookaheadConf) ∧
      (go = false → Keeps s₀ l'.s ∧ GhrConfOk l'.s.ghr ∧ l'.pfQTail ≤ 17 ∧
        l'.calls.length ≤ 17) := by
  obtain ⟨hk, hg, hh, hcl, hst, hle, hge, hb⟩ := hinv
  obtain ⟨l₁, lw, hrp, hs₁, hh₁, hcl₁, ht₁, he₁, hdeep⟩ :=
    readPattern_spec hm (by rw [hk.2.1]; exact hpt) (by rw [hk.2.2]; exact hga) hst hle hge hb
  -- the queue holds exactly the entries `read_pattern` queued
  obtain ⟨l₂, hscan, hh₂, ht₂, hd₂, hc₂, hk₂, hg₂, hcl₂⟩ :=
    scan_spec addr (l₁.pfQTail - l₁.pfQHead) l₁.pfQHead l₁ false rfl
      (fun j hj₁ hj₂ => he₁ j (by omega) (by omega)) (by rw [hs₁]; exact hg)
      (by rw [hcl₁, hh₁]; exact hcl)
  have hk₂' : Keeps s₀ l₂.s := hk.trans (hs₁ ▸ hk₂)
  refine ⟨advance l₂ lw, false || decide (0 < l₁.pfQTail - l₁.pfQHead), ?_, fun hgo => ?_,
    fun hstop => ?_⟩
  · simp only [round, hrp, hscan, Option.bind_eq_bind, Option.bind_some, Option.pure_def]
  · have hlt : l.pfQTail < l₁.pfQTail := by
      simp only [Bool.false_or, decide_eq_true_eq] at hgo
      omega
    obtain ⟨hd, hge₁, hle₁, hb₁⟩ := hdeep hlt
    refine ⟨⟨?_, ?_, ?_, ?_, ?_, ?_, ?_, ?_⟩, ?_⟩ <;>
      simp only [s_advance, pfQHead_advance, pfQTail_advance, depth_advance,
        lookaheadConf_advance, calls_advance, hh₂, ht₂, hd₂, hc₂]
    · exact hk₂'
    · exact hg₂
    · omega
    · rw [← hh₂]; exact hcl₂
    · intro h; exact absurd h hd
    · exact hle₁
    · exact hge₁
    · omega
    · omega
  · have hnil : l₁.pfQTail = l.pfQTail := by
      simp only [Bool.false_or, decide_eq_false_iff_not] at hstop
      omega
    simp only [s_advance, pfQTail_advance, calls_advance, ht₂]
    exact ⟨hk₂', hg₂, by omega, by omega⟩

/-- The lookahead on a consistent pattern table, with an accuracy of at most `100` and a global
register below full confidence, ends within its fuel for every demand and signature: every
write of `read_pattern` is within an MSHR of `17` entries, the queues hold at most `17`, and as
many prefetches are made at most; the tables stay and the global register stays below full
confidence. -/
theorem lookahead_bounded (hm : 17 ≤ mshrSize) {s : State} (hpt : PtOk s.pt)
    (hg : GhrConfOk s.ghr) (hga : s.ghr.globalAccuracy ≤ 100) (addr : UInt64) (currSig : Nat) :
    ∃ l, DoWhile.run (round mshrSize addr) (mshrSize + 1) (start s addr currSig) = some l ∧
      Keeps s l.s ∧ GhrConfOk l.s.ghr ∧ l.pfQTail ≤ 17 ∧ l.calls.length ≤ 17 :=
  DoWhile.run_of_variant (LoopInv s)
    (fun l => Keeps s l.s ∧ GhrConfOk l.s.ghr ∧ l.pfQTail ≤ 17 ∧ l.calls.length ≤ 17)
    (fun l => lookaheadSteps l.lookaheadConf) (fun _ hl => round_spec hm hpt hga hl)
    (mshrSize + 1) _ (loopInv_start hg currSig)
    (by show lookaheadSteps 100 < mshrSize + 1; rw [lookaheadSteps_hundred]; omega)

/-- From the next block of the trained page the lookahead on signature `585` makes one
prefetch. -/
example : (run 17 State.init streamOps).bind (fun r =>
    (DoWhile.run (round 17 0x10200) 18 (start r.1 0x10200 585)).map (·.calls.length)) = some 1 := by
  decide +kernel

theorem lookahead_bounded_stream :
    ∃ s calls, run 17 State.init streamOps = some (s, calls) ∧
      ∃ l, DoWhile.run (round 17 0x10200) (17 + 1) (start s 0x10200 585) = some l ∧
        Keeps s l.s ∧ GhrConfOk l.s.ghr ∧ l.pfQTail ≤ 17 ∧ l.calls.length ≤ 17 := by
  obtain ⟨s, calls, h, -, hg, hga⟩ := run_streamOps
  have hpt := (tables_run streamOps State.init s calls h SignatureTable.ages_init
    (fun _ => PtSet.ok_init)).2
  exact ⟨s, calls, h, lookahead_bounded (by decide) hpt hg hga 0x10200 585⟩

end Lookahead

end Spp

end MindPalace.ChampSim
