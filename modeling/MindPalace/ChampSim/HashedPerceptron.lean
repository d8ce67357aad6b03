import MindPalace.Lib.StdAlgorithm
import MindPalace.ChampSim.InitInstruction

/-! # The hashed perceptron

`branch/hashed_perceptron/hashed_perceptron.cc` sums one weight from each of `NTABLES` tables,
indexed by hashes of the `pc` and the history words. The history update is a carry pass over
twelve-bit words (`StdAlgorithm.carryStep`) that keeps bit `j` of word `i` the outcome
`12 * i + j` branches back (`HoldsHistory`), and the training keeps every weight and `theta` in
range.
-/

namespace MindPalace.ChampSim

def NTABLES : Nat := 16

def MAXHIST : Nat := 232

def SPEED : Int := 18

def historyLengths : Vector Nat NTABLES :=
  #v[0, 3, 4, 6, 8, 10, 14, 19, 26, 36, 49, 67, 91, 125, 170, MAXHIST]

def LOG_TABLE_SIZE : Nat := 12

def TABLE_SIZE : Nat := 1 <<< LOG_TABLE_SIZE

def NGHIST_WORDS : Nat := MAXHIST / LOG_TABLE_SIZE + 1

/-- The predictor's arrays for one core: `tables[cpu]`, `ghist_words[cpu]`, `indices[cpu]`,
`theta[cpu]`, `tc[cpu]` and `yout[cpu]`. An index is kept below `TABLE_SIZE`, as
`predict_branch` cuts it. -/
structure HashedPerceptron where
  tables : Vector (Vector Int TABLE_SIZE) NTABLES
  ghistWords : Vector UInt32 NGHIST_WORDS
  indices : Vector (Fin TABLE_SIZE) NTABLES
  theta : Int
  tc : Int
  yout : Int

namespace HashedPerceptron

theorem historyLengths_le (i : Fin NTABLES) : historyLengths[i] ≤ MAXHIST := by
  revert i
  decide

theorem mostWords_lt (i : Fin NTABLES) : historyLengths[i] / LOG_TABLE_SIZE < NGHIST_WORDS := by
  have h := historyLengths_le i
  unfold MAXHIST at h
  unfold NGHIST_WORDS MAXHIST LOG_TABLE_SIZE
  omega

theorem and_tableMask_lt (x : UInt32) : (x &&& (TABLE_SIZE.toUInt32 - 1)).toNat < TABLE_SIZE := by
  rw [UInt32.toNat_and]
  exact Nat.lt_of_le_of_lt Nat.and_le_right (by decide)

/-- The index `predict_branch` computes for table `i`: with `n = history_lengths[i]`, the XOR
of the words below word `n / 12`, the bits of that word below `n % 12`, and the `pc`, cut to
the table size. -/
def hashIndex (g : Vector UInt32 NGHIST_WORDS) (pc : UInt64) (i : Fin NTABLES) :
    Fin TABLE_SIZE :=
  let n := historyLengths[i]
  let mostWords : Fin NGHIST_WORDS := ⟨n / LOG_TABLE_SIZE, mostWords_lt i⟩
  let lastWord := n % LOG_TABLE_SIZE
  let x := ((List.finRange NGHIST_WORDS).take mostWords).foldl (fun x j => x ^^^ g[j])
    (0 : UInt32)
  let x := x ^^^ (g[mostWords] &&& ((1 <<< lastWord.toUInt32) - 1))
  -- `x ^= pc` computes in 64 bits and keeps the low 32
  let x := (x.toUInt64 ^^^ pc).toUInt32
  ⟨(x &&& (TABLE_SIZE.toUInt32 - 1)).toNat, and_tableMask_lt x⟩

/-- One iteration of the loop of `predict_branch`: table `i`'s index is remembered and its
weight added to the sum. -/
def addTable (pc : UInt64) (s : HashedPerceptron) (i : Fin NTABLES) : HashedPerceptron :=
  let x := hashIndex s.ghistWords pc i
  { s with indices := s.indices.set i x, yout := s.yout + s.tables[i][x] }

def predictBranch (s : HashedPerceptron) (pc : UInt64) : UInt8 × HashedPerceptron :=
  let s := (List.finRange NTABLES).foldl (addTable pc) { s with yout := 0 }
  (if s.yout ≥ 1 then 1 else 0, s)

/-- One iteration of the history loop of `last_branch_result`: `b` is shifted into the low
bit of the word, and the bit shifted out of its twelve is the next `b`. -/
def shiftWord (w : UInt32) (b : Bool) : UInt32 × Bool :=
  let w := (w <<< 1) ||| (if b then 1 else 0)
  let b := w &&& TABLE_SIZE.toUInt32 != 0
  (w &&& (TABLE_SIZE.toUInt32 - 1), b)

/-- The history loop of `last_branch_result`, word 0 first, with `taken` shifted into it. -/
def insertOutcome (g : Vector UInt32 NGHIST_WORDS) (taken : Bool) :
    Vector UInt32 NGHIST_WORDS :=
  ((List.finRange NGHIST_WORDS).foldl (StdAlgorithm.carryStep shiftWord) (g, taken)).1

/-- The perceptron learning rule on one weight: up if taken and down if not, saturating at
`127` and `-128`. -/
def trainWeight (taken : Bool) (c : Int) : Int :=
  if taken then (if c < 127 then c + 1 else c) else (if c > -128 then c - 1 else c)

/-- The training loop of `last_branch_result`: the weight of each table that the prediction
used moves towards the outcome. -/
def trainTables (tables : Vector (Vector Int TABLE_SIZE) NTABLES)
    (indices : Vector (Fin TABLE_SIZE) NTABLES) (taken : Bool) :
    Vector (Vector Int TABLE_SIZE) NTABLES :=
  (List.finRange NTABLES).foldl
    (fun t (i : Fin NTABLES) => t.set i (t[i].set indices[i] (trainWeight taken t[i][indices[i]]))) tables

def lastBranchResult (s : HashedPerceptron) (taken : Bool) : HashedPerceptron :=
  let correct := taken == decide (s.yout ≥ 1)
  let s := { s with ghistWords := insertOutcome s.ghistWords taken }
  let a := if s.yout < 0 then -s.yout else s.yout
  -- train on a misprediction or a weak correct prediction
  if !correct || decide (a < s.theta) then
    let s := { s with tables := trainTables s.tables s.indices taken }
    -- the dynamic threshold: `theta` moves after `SPEED` mispredictions or weak hits
    if !correct then
      let s := { s with tc := s.tc + 1 }
      if s.tc ≥ SPEED then { s with theta := s.theta + 1, tc := 0 } else s
    else if a < s.theta then
      let s := { s with tc := s.tc - 1 }
      if s.tc ≤ -SPEED then { s with theta := s.theta - 1, tc := 0 } else s
    else s
  else s

def initializeBranchPredictor : HashedPerceptron where
  tables := Vector.replicate NTABLES (Vector.replicate TABLE_SIZE 0)
  ghistWords := Vector.replicate NGHIST_WORDS 0
  indices := Vector.replicate NTABLES ⟨0, by decide⟩
  theta := 10
  tc := 0
  yout := 0

inductive PerceptronOp where
  | predictBranch (pc : UInt64)
  | lastBranchResult (taken : Bool)

def step (s : HashedPerceptron) : PerceptronOp → HashedPerceptron
  | .predictBranch pc => (s.predictBranch pc).2
  | .lastBranchResult taken => s.lastBranchResult taken

/-- The predictor after the calls `ops`, from its initialization. -/
def run (ops : List PerceptronOp) : HashedPerceptron :=
  ops.foldl step initializeBranchPredictor

/-- The outcomes passed to `last_branch_result` in `ops`, in order. -/
def outcomes (ops : List PerceptronOp) : List Bool :=
  ops.filterMap fun
    | .lastBranchResult taken => some taken
    | .predictBranch _ => none

/-! ### The history words as a shift register -/

/-- The words hold the outcome list `hist`, latest first: bit `j` of word `i` is outcome
`12 * i + j`, `false` past the end of the list, and the bits above the twelve are clear. -/
def HoldsHistory (g : Vector UInt32 NGHIST_WORDS) (hist : List Bool) : Prop :=
  ∀ (i : Fin NGHIST_WORDS) (j : Nat),
    g[i].toBitVec.getLsbD j =
      (decide (j < LOG_TABLE_SIZE) && hist.getD (LOG_TABLE_SIZE * i + j) false)

theorem getLsbD_tableMask (j : Nat) :
    (TABLE_SIZE.toUInt32 - 1).toBitVec.getLsbD j = decide (j < LOG_TABLE_SIZE) := by
  rw [show (TABLE_SIZE.toUInt32 - 1).toBitVec = BitVec.ofNat 32 (2 ^ 12 - 1) from rfl,
    BitVec.getLsbD_ofNat, Nat.testBit_two_pow_sub_one]
  by_cases h : j < 12
  · simp [LOG_TABLE_SIZE, h, show j < 32 by omega]
  · simp [LOG_TABLE_SIZE, h]

theorem getLsbD_shiftWord_fst (w : UInt32) (b : Bool) (j : Nat) :
    (shiftWord w b).1.toBitVec.getLsbD j =
      (decide (j < LOG_TABLE_SIZE) && if j = 0 then b else w.toBitVec.getLsbD (j - 1)) := by
  unfold shiftWord
  simp only [UInt32.toBitVec_and, UInt32.toBitVec_or, UInt32.toBitVec_shiftLeft,
    BitVec.getLsbD_and, BitVec.getLsbD_or, getLsbD_tableMask]
  cases j with
  | zero => cases b <;> simp [LOG_TABLE_SIZE]
  | succ j =>
    -- bit `j + 1` comes from bit `j` below it
    by_cases hj : j + 1 < 12
    · cases b <;> simp [LOG_TABLE_SIZE, hj, show j + 1 < 32 by omega,
        BitVec.getLsbD_eq_getElem (show j < 32 by omega)]
    · cases b <;> simp [LOG_TABLE_SIZE, hj]

theorem shiftWord_snd (w : UInt32) (b : Bool) : (shiftWord w b).2 = w.toBitVec.getLsbD 11 := by
  have hbit : ((w <<< 1 ||| if b then 1 else 0) : UInt32).toBitVec.getLsbD 12 =
      w.toBitVec.getLsbD 11 := by
    cases b <;> simp
  -- `& TABLE_SIZE` keeps bit 12 alone
  have hand : ((w <<< 1 ||| if b then 1 else 0) &&& TABLE_SIZE.toUInt32 : UInt32) =
      if w.toBitVec.getLsbD 11 then TABLE_SIZE.toUInt32 else 0 := by
    rw [← UInt32.toBitVec_inj, UInt32.toBitVec_and,
      show TABLE_SIZE.toUInt32.toBitVec = BitVec.twoPow 32 12 from rfl, BitVec.and_twoPow, hbit]
    cases w.toBitVec.getLsbD 11 <;> rfl
  unfold shiftWord
  dsimp only
  rw [hand]
  cases w.toBitVec.getLsbD 11 <;> decide

variable {g : Vector UInt32 NGHIST_WORDS} {hist : List Bool}

theorem HoldsHistory.carryInto (h : HoldsHistory g hist) (taken : Bool) {i : Nat}
    (hi : i < NGHIST_WORDS) :
    StdAlgorithm.carryInto shiftWord g taken i = (taken :: hist).getD (LOG_TABLE_SIZE * i) false := by
  cases i with
  | zero => simp [StdAlgorithm.carryInto]
  | succ i =>
    have hlt : i < NGHIST_WORDS := by omega
    rw [StdAlgorithm.carryInto, dif_pos hlt, shiftWord_snd, ← Fin.getElem_fin g ⟨i, hlt⟩,
      h ⟨i, hlt⟩ 11]
    simp [LOG_TABLE_SIZE, Nat.mul_succ]

theorem HoldsHistory.insertOutcome (h : HoldsHistory g hist) (taken : Bool) :
    HoldsHistory (HashedPerceptron.insertOutcome g taken) (taken :: hist) := by
  intro i j
  unfold HashedPerceptron.insertOutcome
  rw [StdAlgorithm.foldl_carryStep, Fin.getElem_fin, Vector.getElem_ofFn, getLsbD_shiftWord_fst,
    h.carryInto taken i.isLt, Fin.eta]
  cases j with
  | zero => simp
  | succ j =>
    -- bit `j + 1` of the new word is bit `j` of the old one
    rw [if_neg (Nat.succ_ne_zero j), Nat.add_sub_cancel, h i j, ← Nat.add_assoc,
      List.getD_cons_succ]
    by_cases hj : j + 1 < LOG_TABLE_SIZE
    · simp [hj, show j < LOG_TABLE_SIZE by omega]
    · simp [hj]

/-- Taken, not taken, taken: the low bits of word 0 read `101`, latest at the bottom. -/
example : (HashedPerceptron.insertOutcome (HashedPerceptron.insertOutcome
    (HashedPerceptron.insertOutcome (Vector.replicate NGHIST_WORDS 0) true) false) true)[0] = 5 := by
  decide

theorem holdsHistory_init : HoldsHistory initializeBranchPredictor.ghistWords [] := by
  intro i j
  simp [initializeBranchPredictor]

/-! ### What the calls do to the history -/

theorem ghistWords_foldl_addTable (pc : UInt64) :
    ∀ (l : List (Fin NTABLES)) (s : HashedPerceptron),
      (l.foldl (addTable pc) s).ghistWords = s.ghistWords
  | [], _ => rfl
  | i :: l, s => by
    rw [List.foldl_cons, ghistWords_foldl_addTable pc l]
    rfl

theorem indices_foldl_addTable (pc : UInt64) (i : Fin NTABLES) :
    ∀ (l : List (Fin NTABLES)) (s : HashedPerceptron),
      (l.foldl (addTable pc) s).indices[i] =
        if i ∈ l then hashIndex s.ghistWords pc i else s.indices[i]
  | [], _ => by simp
  | k :: l, s => by
    rw [List.foldl_cons, indices_foldl_addTable pc i l]
    by_cases hik : i = k
    · subst hik
      simp [addTable]
    · have hne : k.val ≠ i.val := fun h => hik (Fin.ext h).symm
      simp [addTable, hik, hne]

@[simp] theorem ghistWords_predictBranch (s : HashedPerceptron) (pc : UInt64) :
    (s.predictBranch pc).2.ghistWords = s.ghistWords :=
  ghistWords_foldl_addTable pc _ _

theorem indices_predictBranch (s : HashedPerceptron) (pc : UInt64) (i : Fin NTABLES) :
    (s.predictBranch pc).2.indices[i] = hashIndex s.ghistWords pc i := by
  simp only [predictBranch]
  rw [indices_foldl_addTable, if_pos (List.mem_finRange i)]

@[simp] theorem ghistWords_lastBranchResult (s : HashedPerceptron) (taken : Bool) :
    (s.lastBranchResult taken).ghistWords = HashedPerceptron.insertOutcome s.ghistWords taken := by
  unfold lastBranchResult
  dsimp only
  split_ifs <;> rfl

theorem HoldsHistory.step (s : HashedPerceptron) (h : HoldsHistory s.ghistWords hist) :
    ∀ op : PerceptronOp, HoldsHistory (s.step op).ghistWords ((outcomes [op]).reverse ++ hist)
  | .predictBranch pc => by simpa [HashedPerceptron.step, outcomes] using h
  | .lastBranchResult taken => by
    simpa [HashedPerceptron.step, outcomes] using h.insertOutcome taken

theorem HoldsHistory.foldl_step :
    ∀ (ops : List PerceptronOp) (s : HashedPerceptron) (hist : List Bool),
      HoldsHistory s.ghistWords hist →
      HoldsHistory (ops.foldl HashedPerceptron.step s).ghistWords ((outcomes ops).reverse ++ hist)
  | [], _, _, h => h
  | op :: ops, s, hist, h => by
    have hop := h.step s op
    have hrun := HoldsHistory.foldl_step ops (s.step op) _ hop
    have houts : outcomes (op :: ops) = outcomes [op] ++ outcomes ops := by
      cases op <;> rfl
    rw [List.foldl_cons, houts, List.reverse_append, List.append_assoc]
    exact hrun

theorem holdsHistory_run (ops : List PerceptronOp) :
    HoldsHistory (run ops).ghistWords (outcomes ops).reverse := by
  have h := HoldsHistory.foldl_step ops _ _ holdsHistory_init
  rwa [List.append_nil] at h

/-! ### The hash reads only the last `history_lengths[i]` outcomes -/

theorem toNat_lowMask {lw : Nat} (h : lw < 32) :
    ((1 : UInt32) <<< lw.toUInt32 - 1).toNat = 2 ^ lw - 1 := by
  have hpow : 2 ^ lw < 4294967296 := (Nat.pow_lt_pow_right (by decide) h).trans_eq rfl
  have hshift : ((1 : UInt32) <<< lw.toUInt32).toNat = 2 ^ lw := by
    rw [UInt32.toNat_shiftLeft, UInt32.toNat_ofNat']
    simp [Nat.shiftLeft_eq, Nat.mod_eq_of_lt h, Nat.mod_eq_of_lt hpow]
  rw [UInt32.toNat_sub_of_le, hshift]
  · rfl
  · rw [UInt32.le_iff_toNat_le, hshift]
    exact Nat.one_le_two_pow

theorem getLsbD_lowMask {lw : Nat} (h : lw < 32) (b : Nat) :
    ((1 : UInt32) <<< lw.toUInt32 - 1).toBitVec.getLsbD b = decide (b < lw) := by
  rw [← BitVec.testBit_toNat, UInt32.toNat_toBitVec, toNat_lowMask h, Nat.testBit_two_pow_sub_one]

theorem lt_of_mem_take_finRange {n m : Nat} {j : Fin n} (h : j ∈ (List.finRange n).take m) :
    j.val < m := by
  obtain ⟨k, hk, rfl⟩ := List.getElem_of_mem h
  simp only [List.length_take, List.length_finRange] at hk
  simp only [List.getElem_take, List.getElem_finRange, Fin.val_cast]
  omega

variable {g' : Vector UInt32 NGHIST_WORDS} {hist' : List Bool}

theorem HoldsHistory.getLsbD_congr (h : HoldsHistory g hist) (h' : HoldsHistory g' hist')
    {n : Nat} (hagree : ∀ k < n, hist.getD k false = hist'.getD k false)
    (w : Fin NGHIST_WORDS) {b : Nat} (hb : LOG_TABLE_SIZE * w + b < n) :
    g[w].toBitVec.getLsbD b = g'[w].toBitVec.getLsbD b := by
  rw [h w b, h' w b, hagree _ hb]

theorem HoldsHistory.hashIndex_congr (h : HoldsHistory g hist) (h' : HoldsHistory g' hist')
    (pc : UInt64) (i : Fin NTABLES)
    (hagree : ∀ k < historyLengths[i], hist.getD k false = hist'.getD k false) :
    hashIndex g pc i = hashIndex g' pc i := by
  have hdiv := Nat.div_add_mod historyLengths[i] LOG_TABLE_SIZE
  have hmod := Nat.mod_lt historyLengths[i] (show 0 < LOG_TABLE_SIZE by decide)
  -- the words below word `n / 12` lie wholly below the history length
  have hfull : ∀ w : Fin NGHIST_WORDS, w.val < historyLengths[i] / LOG_TABLE_SIZE →
      g[w] = g'[w] := by
    intro w hw
    rw [← UInt32.toBitVec_inj]
    apply BitVec.eq_of_getLsbD_eq
    intro b _
    by_cases hb : b < LOG_TABLE_SIZE
    · have hlt : LOG_TABLE_SIZE * w + b < historyLengths[i] := by
        have := Nat.mul_le_mul_left LOG_TABLE_SIZE hw
        rw [Nat.mul_succ] at this
        omega
      exact h.getLsbD_congr h' hagree w hlt
    · rw [h w b, h' w b]
      simp [hb]
  -- of word `n / 12` only the bits below `n % 12` are kept
  have hlast : ∀ w : Fin NGHIST_WORDS, w.val = historyLengths[i] / LOG_TABLE_SIZE →
      (g[w] &&& (((1 : UInt32) <<< (historyLengths[i] % LOG_TABLE_SIZE).toUInt32) - 1)) =
        (g'[w] &&& (((1 : UInt32) <<< (historyLengths[i] % LOG_TABLE_SIZE).toUInt32) - 1)) := by
    intro w hw
    rw [← UInt32.toBitVec_inj]
    apply BitVec.eq_of_getLsbD_eq
    intro b _
    have hlw : historyLengths[i] % LOG_TABLE_SIZE < 32 := by
      unfold LOG_TABLE_SIZE at hmod ⊢
      omega
    simp only [UInt32.toBitVec_and, BitVec.getLsbD_and, getLsbD_lowMask hlw]
    by_cases hb : b < historyLengths[i] % LOG_TABLE_SIZE
    · rw [h.getLsbD_congr h' hagree w (by rw [hw]; omega)]
    · simp only [Fin.getElem_fin] at hb
      simp [hb]
  have hxor : ((List.finRange NGHIST_WORDS).take (historyLengths[i] / LOG_TABLE_SIZE)).foldl
        (fun x j => x ^^^ g[j]) (0 : UInt32) =
      ((List.finRange NGHIST_WORDS).take (historyLengths[i] / LOG_TABLE_SIZE)).foldl
        (fun x j => x ^^^ g'[j]) (0 : UInt32) := by
    apply List.foldl_ext
    intro x j hj
    rw [hfull j (lt_of_mem_take_finRange hj)]
  unfold hashIndex
  dsimp only
  rw [hxor, hlast ⟨historyLengths[i] / LOG_TABLE_SIZE, mostWords_lt i⟩ rfl]

/-- After any run, bit `j` of history word `i` is the outcome `12 * i + j` branches back
(`false` before the first), and the index `predict_branch` computes for table `i` depends only
on the last `history_lengths[i]` outcomes and the `pc`. -/
theorem ghist_shiftRegister (ops : List PerceptronOp) :
    (∀ (i : Fin NGHIST_WORDS) (j : Nat), j < LOG_TABLE_SIZE →
      (run ops).ghistWords[i].toBitVec.getLsbD j =
        (outcomes ops).reverse.getD (LOG_TABLE_SIZE * i + j) false) ∧
    ∀ (ops' : List PerceptronOp) (pc : UInt64) (i : Fin NTABLES),
      (∀ k < historyLengths[i],
        (outcomes ops).reverse.getD k false = (outcomes ops').reverse.getD k false) →
      ((run ops).predictBranch pc).2.indices[i] = ((run ops').predictBranch pc).2.indices[i] := by
  refine ⟨fun i j hj => ?_, fun ops' pc i hagree => ?_⟩
  · rw [holdsHistory_run ops i j]
    simp [hj]
  · rw [indices_predictBranch, indices_predictBranch]
    exact (holdsHistory_run ops).hashIndex_congr (holdsHistory_run ops') pc i hagree

/-! ### The counters stay in range

The training rule saturates each weight at `127` and `-128`, so the weights fit a signed byte
and the sum of sixteen of them that `predict_branch` forms stays far inside an `int`. The
threshold moves by one after `SPEED` mispredictions or weak hits, and it never falls below
zero: it falls only after a correct prediction whose magnitude is below it. -/

structure InRange (s : HashedPerceptron) : Prop where
  weights : ∀ (i : Fin NTABLES) (j : Fin TABLE_SIZE), -128 ≤ s.tables[i][j] ∧ s.tables[i][j] ≤ 127
  yout : -128 * (NTABLES : Int) ≤ s.yout ∧ s.yout ≤ 127 * (NTABLES : Int)
  theta : 0 ≤ s.theta
  tc : -SPEED < s.tc ∧ s.tc < SPEED

theorem trainWeight_range {c : Int} (h : -128 ≤ c ∧ c ≤ 127) (taken : Bool) :
    -128 ≤ trainWeight taken c ∧ trainWeight taken c ≤ 127 := by
  unfold trainWeight
  split_ifs <;> omega

theorem weights_trainTables {tables : Vector (Vector Int TABLE_SIZE) NTABLES}
    (h : ∀ (i : Fin NTABLES) (j : Fin TABLE_SIZE), -128 ≤ tables[i][j] ∧ tables[i][j] ≤ 127)
    (indices : Vector (Fin TABLE_SIZE) NTABLES) (taken : Bool) (i : Fin NTABLES) (j : Fin TABLE_SIZE) :
    -128 ≤ (trainTables tables indices taken)[i][j] ∧ (trainTables tables indices taken)[i][j] ≤ 127 := by
  unfold trainTables
  -- each iteration rewrites one weight by the saturating rule
  induction (List.finRange NTABLES) generalizing tables with
  | nil => exact h i j
  | cons k l ih =>
    refine ih (fun i' j' => ?_)
    rw [Fin.getElem_fin, Fin.getElem_fin, Vector.getElem_set]
    split_ifs with hk
    · rw [Vector.getElem_set]
      split_ifs with hj
      · exact trainWeight_range (h k indices[k]) taken
      · exact h k j'
    · exact h i' j'

theorem frame_foldl_addTable (pc : UInt64) :
    ∀ (l : List (Fin NTABLES)) (s : HashedPerceptron), (l.foldl (addTable pc) s).tables = s.tables ∧
      (l.foldl (addTable pc) s).theta = s.theta ∧ (l.foldl (addTable pc) s).tc = s.tc
  | [], _ => ⟨rfl, rfl, rfl⟩
  | i :: l, s => by
    rw [List.foldl_cons]
    exact frame_foldl_addTable pc l _

theorem yout_foldl_addTable (pc : UInt64) {s : HashedPerceptron}
    (hw : ∀ (i : Fin NTABLES) (j : Fin TABLE_SIZE), -128 ≤ s.tables[i][j] ∧ s.tables[i][j] ≤ 127) :
    ∀ (l : List (Fin NTABLES)) (t : HashedPerceptron), t.tables = s.tables →
      -128 * (l.length : Int) + t.yout ≤ (l.foldl (addTable pc) t).yout ∧
        (l.foldl (addTable pc) t).yout ≤ 127 * (l.length : Int) + t.yout
  | [], _, _ => by simp
  | i :: l, t, ht => by
    have hi := hw i (hashIndex t.ghistWords pc i)
    have hy : (addTable pc t i).yout = t.yout + s.tables[i][hashIndex t.ghistWords pc i] := by
      rw [← ht]
      rfl
    have ih := yout_foldl_addTable pc hw l (addTable pc t i) ht
    rw [List.foldl_cons, List.length_cons]
    push_cast
    omega

theorem InRange.predictBranch {s : HashedPerceptron} (h : InRange s) (pc : UInt64) :
    InRange (s.predictBranch pc).2 := by
  have hy := yout_foldl_addTable pc h.weights (List.finRange NTABLES) { s with yout := 0 } rfl
  rw [List.length_finRange, add_zero] at hy
  obtain ⟨htab, hth, htc⟩ := frame_foldl_addTable pc (List.finRange NTABLES) { s with yout := 0 }
  refine ⟨fun i j => ?_, hy, ?_, ?_⟩
  · rw [HashedPerceptron.predictBranch, htab]
    exact h.weights i j
  · rw [HashedPerceptron.predictBranch, hth]
    exact h.theta
  · rw [HashedPerceptron.predictBranch, htc]
    exact h.tc

theorem InRange.lastBranchResult {s : HashedPerceptron} (h : InRange s) (taken : Bool) :
    InRange (s.lastBranchResult taken) := by
  have ha : 0 ≤ (if s.yout < 0 then -s.yout else s.yout) := by split <;> omega
  have hw := weights_trainTables h.weights s.indices taken
  have hS : SPEED = 18 := rfl
  have ht := h.theta
  have hc := h.tc
  unfold HashedPerceptron.lastBranchResult
  dsimp only
  generalize (if s.yout < 0 then -s.yout else s.yout) = a at ha ⊢
  -- on training, the weights move; the threshold counter moves on a misprediction or a weak hit
  split_ifs with htrain hwrong hup hweak hdown
  · exact ⟨hw, h.yout, by dsimp only; omega, by dsimp only; omega⟩
  · exact ⟨hw, h.yout, ht, by dsimp only; omega⟩
  · exact ⟨hw, h.yout, by dsimp only; omega, by dsimp only; omega⟩
  · exact ⟨hw, h.yout, ht, by dsimp only; omega⟩
  · exact ⟨hw, h.yout, ht, hc⟩
  · exact ⟨h.weights, h.yout, ht, hc⟩

theorem InRange.step {s : HashedPerceptron} (h : InRange s) : ∀ op : PerceptronOp, InRange (s.step op)
  | .predictBranch pc => h.predictBranch pc
  | .lastBranchResult taken => h.lastBranchResult taken

theorem InRange.foldl_step :
    ∀ (ops : List PerceptronOp) (s : HashedPerceptron), InRange s → InRange (ops.foldl HashedPerceptron.step s)
  | [], _, h => h
  | op :: ops, s, h => InRange.foldl_step ops (s.step op) (h.step op)

theorem inRange_init : InRange initializeBranchPredictor where
  weights i j := by simp [initializeBranchPredictor]
  yout := by simp [initializeBranchPredictor, NTABLES]
  theta := by simp [initializeBranchPredictor]
  tc := by simp [initializeBranchPredictor, SPEED]

/-- `SPEED * theta + tc`, which a call to `last_branch_result` raises by at most one: the
threshold goes up only when its counter reaches `SPEED` and is reset. -/
def potential (s : HashedPerceptron) : Int := SPEED * s.theta + s.tc

theorem potential_predictBranch (s : HashedPerceptron) (pc : UInt64) :
    (s.predictBranch pc).2.potential = s.potential := by
  obtain ⟨-, hth, htc⟩ := frame_foldl_addTable pc (List.finRange NTABLES) { s with yout := 0 }
  rw [potential, HashedPerceptron.predictBranch, hth, htc]
  rfl

theorem potential_lastBranchResult {s : HashedPerceptron} (h : InRange s) (taken : Bool) :
    (s.lastBranchResult taken).potential ≤ s.potential + 1 := by
  have hc := h.tc
  unfold HashedPerceptron.lastBranchResult potential at *
  unfold SPEED at *
  dsimp only
  generalize (if s.yout < 0 then -s.yout else s.yout) = a
  split_ifs <;> dsimp only <;> omega

theorem potential_foldl_step :
    ∀ (ops : List PerceptronOp) (s : HashedPerceptron), InRange s →
      (ops.foldl HashedPerceptron.step s).potential ≤ s.potential + (outcomes ops).length
  | [], s, _ => by
    rw [List.foldl_nil]
    exact Int.le_add_of_nonneg_right (Int.natCast_nonneg _)
  | .predictBranch pc :: ops, s, h => by
    have ih := potential_foldl_step ops _ (h.predictBranch pc)
    have hst : s.step (.predictBranch pc) = (s.predictBranch pc).2 := rfl
    have hlen : outcomes (.predictBranch pc :: ops) = outcomes ops := rfl
    rw [potential_predictBranch] at ih
    rw [List.foldl_cons, hst, hlen]
    exact ih
  | .lastBranchResult taken :: ops, s, h => by
    have ih := potential_foldl_step ops _ (h.lastBranchResult taken)
    have hstep := potential_lastBranchResult h taken
    have hst : s.step (.lastBranchResult taken) = s.lastBranchResult taken := rfl
    have hlen : (outcomes (.lastBranchResult taken :: ops)).length = (outcomes ops).length + 1 := rfl
    rw [List.foldl_cons, hst, hlen]
    push_cast
    omega

/-- Along any run of the predictor, every weight fits a signed byte, the perceptron sum stays
within sixteen of them, the threshold stays non-negative and its counter strictly between
`-SPEED` and `SPEED`, and after `n` calls to `last_branch_result` the threshold is at most
`11 + n / SPEED`: the source's `int theta` does not overflow on a run of fewer than
`SPEED * (2 ^ 31 - 12)` branches. -/
theorem counters_inRange_run (ops : List PerceptronOp) :
    InRange (run ops) ∧ (run ops).theta ≤ 11 + ((outcomes ops).length : Int) / SPEED := by
  have hr := InRange.foldl_step ops _ inRange_init
  have hp := potential_foldl_step ops _ inRange_init
  have hc := hr.tc
  refine ⟨hr, ?_⟩
  unfold run
  unfold potential SPEED at *
  have h0 : initializeBranchPredictor.theta = 10 ∧ initializeBranchPredictor.tc = 0 := ⟨rfl, rfl⟩
  omega

end HashedPerceptron

/-! ### The perceptron in the core -/

/-- The core's predictor modules with the hashed perceptron as the direction predictor,
beside the other modules of `bp` on their own state. -/
def BranchPredictor.withHashedPerceptron {σ : Type} (bp : BranchPredictor σ) :
    BranchPredictor (HashedPerceptron × σ) where
  btbPrediction p ip branchType :=
    let r := bp.btbPrediction p.2 ip branchType
    (r.1, (p.1, r.2))
  predictBranch p ip _ _ _ :=
    let r := p.1.predictBranch ip.toUInt64
    (r.1, (r.2, p.2))
  prefetcherBranchOperate p ip branchType target :=
    (p.1, bp.prefetcherBranchOperate p.2 ip branchType target)
  updateBtb p ip target taken branchType :=
    (p.1, bp.updateBtb p.2 ip target taken branchType)
  lastBranchResult p _ _ taken _ :=
    (p.1.lastBranchResult taken, p.2)

theorem HashedPerceptron.HoldsHistory.predictStep {σ : Type} (bp : BranchPredictor σ)
    {cpu cpu' : O3Cpu (HashedPerceptron × σ)} {instr instr' : OooModelInstr} {hist : List Bool}
    (hg : HashedPerceptron.HoldsHistory cpu.predictor.1.ghistWords hist)
    (h : O3Cpu.predictStep bp.withHashedPerceptron cpu instr = some (cpu', instr')) :
    HashedPerceptron.HoldsHistory cpu'.predictor.1.ghistWords (instr.branchTaken :: hist) := by
  rw [O3Cpu.predictor_predictStep h]
  simpa [BranchPredictor.withHashedPerceptron] using hg.insertOutcome instr.branchTaken

end MindPalace.ChampSim
