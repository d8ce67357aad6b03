import MindPalace.ChampSim.BackendScheduling

/-! # Completion, and the invariant over every run

`do_complete_execution` releases each dependent of the completed entry once, and
`complete_inflight_instruction` pushes those that became ready. Both keep `DepInv`, and so does
every run in which the front end hands on fresh instructions in the order of their ids.
-/

namespace MindPalace.ChampSim

namespace O3Backend

variable {cfg : BackendConfig} {c c' : O3Backend}

/-- The entry that `releaseDependent` leaves: one dependence fewer, and scheduled once none is
left. -/
def releaseEntry (e : OooModelInstr) : OooModelInstr :=
  let e := { e with numRegDependent := e.numRegDependent - 1 }
  if e.numRegDependent = 0 then
    if e.isMemory then { e with scheduled := INFLIGHT } else { e with scheduled := COMPLETED }
  else e

@[simp] theorem executed_releaseEntry (e : OooModelInstr) :
    (releaseEntry e).executed = e.executed := by
  dsimp only [releaseEntry]
  split_ifs <;> rfl

@[simp] theorem isMemory_releaseEntry (e : OooModelInstr) :
    (releaseEntry e).isMemory = e.isMemory := by
  dsimp only [releaseEntry]
  split_ifs <;> rfl

@[simp] theorem dependents_releaseEntry (e : OooModelInstr) :
    (releaseEntry e).registersInstrsDependOnMe = e.registersInstrsDependOnMe := by
  dsimp only [releaseEntry]
  split_ifs <;> rfl

@[simp] theorem numRegDependent_releaseEntry (e : OooModelInstr) :
    (releaseEntry e).numRegDependent = e.numRegDependent - 1 := by
  dsimp only [releaseEntry]
  split_ifs <;> rfl

@[simp] theorem sourceRegisters_releaseEntry (e : OooModelInstr) :
    (releaseEntry e).sourceRegisters = e.sourceRegisters := by
  dsimp only [releaseEntry]
  split_ifs <;> rfl

@[simp] theorem destinationRegisters_releaseEntry (e : OooModelInstr) :
    (releaseEntry e).destinationRegisters = e.destinationRegisters := by
  dsimp only [releaseEntry]
  split_ifs <;> rfl

theorem scheduled_releaseEntry (e : OooModelInstr) :
    (releaseEntry e).scheduled = if e.numRegDependent - 1 = 0 then
      (if e.isMemory then INFLIGHT else COMPLETED) else e.scheduled := by
  dsimp only [releaseEntry]
  split_ifs <;> rfl

theorem updateEntry_updateEntry_self (c : O3Backend) (id : Nat)
    (f g : OooModelInstr → OooModelInstr) :
    updateEntry (updateEntry c id f) id g = updateEntry c id (g ∘ f) := by
  simp only [updateEntry, Function.update_self, Function.update_idem]
  rfl

theorem updateEntry_congr (c : O3Backend) {id : Nat} {f g : OooModelInstr → OooModelInstr}
    (h : f (c.robEntry id) = g (c.robEntry id)) : updateEntry c id f = updateEntry c id g := by
  unfold updateEntry
  rw [h]

theorem releaseDependent_eq {q : Nat} (h : 1 ≤ (c.robEntry q).numRegDependent) :
    releaseDependent c q = some (updateEntry c q releaseEntry) := by
  unfold releaseDependent
  simp only [robEntry_updateEntry_self]
  rw [if_neg (by omega)]
  split
  · next h0 =>
    rw [updateEntry_updateEntry_self]
    exact congrArg some (updateEntry_congr c (by simp [releaseEntry, h0]))
  · next h0 =>
    exact congrArg some (updateEntry_congr c (by simp [releaseEntry, h0]))

theorem foldlM_releaseDependent : ∀ (D : List Nat) (c : O3Backend), D.Nodup →
    (∀ q ∈ D, 1 ≤ (c.robEntry q).numRegDependent) →
    D.foldlM releaseDependent c = some
      { c with robEntry := fun q => if q ∈ D then releaseEntry (c.robEntry q) else c.robEntry q }
  | [], c, _, _ => rfl
  | q :: D, c, hnd, hpos => by
    obtain ⟨hq, hnd⟩ := List.nodup_cons.mp hnd
    have hrest : ∀ x ∈ D, 1 ≤ ((updateEntry c q releaseEntry).robEntry x).numRegDependent :=
      fun x hx => by
        have hxq : x ≠ q := fun h => hq (h ▸ hx)
        rw [robEntry_updateEntry_of_ne _ hxq]
        exact hpos x (List.mem_cons_of_mem q hx)
    rw [List.foldlM_cons, releaseDependent_eq (hpos q List.mem_cons_self)]
    refine (foldlM_releaseDependent D _ hnd hrest).trans (congrArg some ?_)
    unfold updateEntry
    congr 1
    funext x
    by_cases hx : x = q
    · subst hx
      simp [hq]
    · simp [hx]

/-- The state `do_complete_execution` of `id` leaves, against the state `c` before it: `id` has
completed, each of its dependents is released once, and the counter of its kind is one less. -/
structure Completed (c : O3Backend) (id : Nat) (c' : O3Backend) : Prop where
  rob : c'.ROB = c.ROB
  counter : c'.inflightRegExecutions =
    if (c.robEntry id).isMemory then c.inflightRegExecutions else c.inflightRegExecutions - 1
  executed : ∀ q, (c'.robEntry q).executed =
    if q = id then COMPLETED else (c.robEntry q).executed
  isMemory : ∀ q, (c'.robEntry q).isMemory = (c.robEntry q).isMemory
  dependents : ∀ q, (c'.robEntry q).registersInstrsDependOnMe =
    (c.robEntry q).registersInstrsDependOnMe
  count : ∀ q, (c'.robEntry q).numRegDependent =
    if q ∈ (c.robEntry id).registersInstrsDependOnMe then (c.robEntry q).numRegDependent - 1
    else (c.robEntry q).numRegDependent
  scheduled : ∀ q, (c'.robEntry q).scheduled =
    if q ∈ (c.robEntry id).registersInstrsDependOnMe ∧ (c.robEntry q).numRegDependent - 1 = 0 then
      (if (c.robEntry q).isMemory then INFLIGHT else COMPLETED)
    else (c.robEntry q).scheduled
  sources : ∀ q, (c'.robEntry q).sourceRegisters = (c.robEntry q).sourceRegisters
  destinations : ∀ q, (c'.robEntry q).destinationRegisters = (c.robEntry q).destinationRegisters

theorem Completed.of_entries {c' : O3Backend} {id : Nat}
    (hidD : id ∉ (c.robEntry id).registersInstrsDependOnMe) (hrob : c'.ROB = c.ROB)
    (hcnt : c'.inflightRegExecutions =
      if (c.robEntry id).isMemory then c.inflightRegExecutions else c.inflightRegExecutions - 1)
    (hent : ∀ q, c'.robEntry q =
      let e := Function.update c.robEntry id { c.robEntry id with executed := COMPLETED } q
      if q ∈ (c.robEntry id).registersInstrsDependOnMe then releaseEntry e else e) :
    Completed c id c' where
  rob := hrob
  counter := hcnt
  executed q := by
    rw [hent, Function.update_apply]
    split_ifs <;> simp
  isMemory q := by
    rw [hent, Function.update_apply]
    split_ifs <;> simp_all
  dependents q := by
    rw [hent, Function.update_apply]
    split_ifs <;> simp_all
  count q := by
    rw [hent, Function.update_apply]
    split_ifs <;> simp_all
  scheduled q := by
    rw [hent, Function.update_apply]
    split_ifs <;> simp_all [scheduled_releaseEntry]
  sources q := by
    rw [hent, Function.update_apply]
    split_ifs <;> simp_all
  destinations q := by
    rw [hent, Function.update_apply]
    split_ifs <;> simp_all

theorem DepInv.one_le_count (hi : DepInv cfg c) {p q : Nat} (hp : p ∈ c.ROB)
    (hflight : inFlight (c.robEntry p) = true) (hq : q ∈ (c.robEntry p).registersInstrsDependOnMe) :
    1 ≤ (c.robEntry q).numRegDependent := by
  rw [hi.count_eq q (hi.dependent_younger p hp q hq).2]
  exact_mod_cast RefCount.holders_pos hp hflight hq

theorem inFlight_of_executed_eq_inflight {e : OooModelInstr} (h : e.executed = INFLIGHT) :
    inFlight e = true := by
  simp [inFlight, h, INFLIGHT, COMPLETED]

theorem DepInv.doCompleteExecution (hi : DepInv cfg c) {id : Nat} (hid : id ∈ c.ROB)
    (hex : (c.robEntry id).executed = INFLIGHT) :
    ∃ c', doCompleteExecution cfg c id = some c' ∧ Completed c id c' ∧
      c'.readyToExecute = c.readyToExecute := by
  have hyoung := hi.dependent_younger id hid
  have hidD : id ∉ (c.robEntry id).registersInstrsDependOnMe :=
    fun h => Nat.lt_irrefl id (hyoung id h).1
  have hpos : ∀ q ∈ (c.robEntry id).registersInstrsDependOnMe,
      1 ≤ (c.robEntry q).numRegDependent :=
    fun q hq => hi.one_le_count hid (inFlight_of_executed_eq_inflight hex) hq
  have hnd := hi.dependents_nodup id hid
  unfold O3Backend.doCompleteExecution
  dsimp only
  -- the two counter updates and the branch penalty leave the entries and the queue alone
  split
  all_goals
    rw [foldlM_releaseDependent _ _ hnd]
    · refine ⟨_, rfl, Completed.of_entries hidD (by split <;> rfl) ?_ (fun q => by split <;> rfl),
        by split <;> rfl⟩
      split <;> simp [*]
    · intro q hq
      have hqid : q ≠ id := fun h => hidD (h ▸ hq)
      rw [robEntry_updateEntry_of_ne _ hqid]
      exact hpos q hq

section Completing

variable {id : Nat}

theorem Completed.producers_add (hi : DepInv cfg c) (hid : id ∈ c.ROB)
    (hex : (c.robEntry id).executed = INFLIGHT) (hc : Completed c id c') (q : Nat) :
    producers c' q + (if q ∈ (c.robEntry id).registersInstrsDependOnMe then 1 else 0) =
      producers c q := by
  let v := { c.robEntry id with executed := COMPLETED }
  have hupd : producers c' q = producers (updateEntry c id fun r => { r with executed := COMPLETED }) q := by
    refine producers_congr (hc.rob.trans (ROB_updateEntry c id _).symm) (fun p _ => ⟨?_, ?_⟩) q
    · rw [inFlight, inFlight, hc.executed, robEntry_updateEntry]
      split_ifs <;> rfl
    · rw [hc.dependents, robEntry_updateEntry]
      split_ifs with h
      · rw [h]
      · rfl
  have hu : producers (updateEntry c id fun r => { r with executed := COMPLETED }) q =
      RefCount.holders inFlight (·.registersInstrsDependOnMe) c.ROB
        (Function.update c.robEntry id v) q := rfl
  have h : RefCount.holders inFlight (·.registersInstrsDependOnMe) c.ROB
        (Function.update c.robEntry id v) q +
      (if RefCount.Holds inFlight (·.registersInstrsDependOnMe) (c.robEntry id) q then 1 else 0) =
      producers c q + if RefCount.Holds inFlight (·.registersInstrsDependOnMe) v q then 1 else 0 :=
    RefCount.holders_update hi.nodup hid c.robEntry v q
  have hold : RefCount.Holds inFlight (·.registersInstrsDependOnMe) (c.robEntry id) q =
      decide (q ∈ (c.robEntry id).registersInstrsDependOnMe) := by
    simp [RefCount.Holds, inFlight_of_executed_eq_inflight hex]
  have hv : RefCount.Holds inFlight (·.registersInstrsDependOnMe) v q = false := by
    simp [v, RefCount.Holds, inFlight, COMPLETED]
  rw [hold, hv] at h
  rw [hupd, hu]
  by_cases hq : q ∈ (c.robEntry id).registersInstrsDependOnMe <;> simp_all

theorem Completed.listed_iff (hc : Completed c id c') (q : Nat) : Listed c' q ↔ Listed c q := by
  unfold Listed
  rw [hc.rob]
  exact exists_congr fun p => and_congr_right fun _ => by rw [hc.dependents]

theorem Completed.inflightRegCount_add (hi : DepInv cfg c) (hid : id ∈ c.ROB)
    (hex : (c.robEntry id).executed = INFLIGHT) (hc : Completed c id c') :
    inflightRegCount c' + (if (c.robEntry id).isMemory then 0 else 1) = inflightRegCount c := by
  let v := { c.robEntry id with executed := COMPLETED }
  have hupd : inflightRegCount c' =
      c.ROB.countP fun j => (fun e : OooModelInstr => !e.isMemory && e.executed == INFLIGHT)
        (Function.update c.robEntry id v j) := by
    unfold inflightRegCount
    rw [hc.rob]
    refine List.countP_congr fun p _ => ?_
    rw [hc.isMemory, hc.executed, Function.update_apply]
    split_ifs with h
    · subst h
      rfl
    · rfl
  have h := RefCount.countP_comp_update hi.nodup hid c.robEntry v
    fun e => !e.isMemory && e.executed == INFLIGHT
  have hv : (!v.isMemory && v.executed == INFLIGHT) = false := by
    simp [v, COMPLETED, INFLIGHT]
  have hold : (!(c.robEntry id).isMemory && (c.robEntry id).executed == INFLIGHT) =
      !(c.robEntry id).isMemory := by
    simp [hex]
  rw [hv, hold] at h
  rw [hupd]
  unfold inflightRegCount
  cases hm : (c.robEntry id).isMemory <;> simp only [hm, Bool.not_false, Bool.not_true,
    if_true, if_false, Bool.false_eq_true] at h ⊢ <;> omega

theorem foldlM_pushReady : ∀ (D : List Nat) (c : O3Backend),
    (c.readyToExecute ++ D.filter (isReady c)).Nodup →
    (∀ q ∈ c.readyToExecute ++ D, q ∈ c.ROB) →
    D.foldlM (fun c dependent => if isReady c dependent then pushReady c dependent else some c) c =
      some { c with readyToExecute := c.readyToExecute ++ D.filter (isReady c) }
  | [], c, _, _ => by simp
  | q :: D, c, hnd, hsub => by
    rw [List.foldlM_cons]
    by_cases hq : isReady c q = true
    · rw [List.filter_cons_of_pos hq] at hnd
      have hroom : c.readyToExecute.length < c.ROB.length := by
        have hnd' : (q :: c.readyToExecute).Nodup := by
          have := (List.nodup_append.mp hnd)
          refine List.nodup_cons.mpr ⟨fun h => this.2.2 _ h _ List.mem_cons_self rfl, this.1⟩
        refine Nat.lt_of_succ_le (List.subperm_of_subset hnd' fun x hx => ?_).length_le
        rcases List.mem_cons.mp hx with rfl | hx
        · exact hsub x (List.mem_append_right _ List.mem_cons_self)
        · exact hsub x (List.mem_append_left _ hx)
      rw [if_pos hq, pushReady, if_pos hroom]
      have ih := foldlM_pushReady D { c with readyToExecute := c.readyToExecute ++ [q] }
        (by rw [List.append_assoc]; exact hnd) (fun x hx => by
          rcases List.mem_append.mp hx with hx | hx
          · rcases List.mem_append.mp hx with hx | hx
            · exact hsub x (List.mem_append_left _ hx)
            · rw [List.mem_singleton.mp hx]
              exact hsub q (List.mem_append_right _ List.mem_cons_self)
          · exact hsub x (List.mem_append_right _ (List.mem_cons_of_mem q hx)))
      refine ih.trans ?_
      rw [List.filter_cons_of_pos hq, List.append_assoc]
      rfl
    · rw [if_neg hq]
      rw [List.filter_cons_of_neg hq] at hnd ⊢
      exact foldlM_pushReady D c hnd fun x hx => by
        rcases List.mem_append.mp hx with hx | hx
        · exact hsub x (List.mem_append_left _ hx)
        · exact hsub x (List.mem_append_right _ (List.mem_cons_of_mem q hx))

theorem pushReadyDependents_eq {c : O3Backend} {id : Nat}
    (hnd : (c.readyToExecute ++ (c.robEntry id).registersInstrsDependOnMe.filter (isReady c)).Nodup)
    (hsub : ∀ q ∈ c.readyToExecute ++ (c.robEntry id).registersInstrsDependOnMe, q ∈ c.ROB) :
    pushReadyDependents c id = some { c with readyToExecute :=
      c.readyToExecute ++ (c.robEntry id).registersInstrsDependOnMe.filter (isReady c) } :=
  foldlM_pushReady _ c hnd hsub

theorem DepInv.complete (hi : DepInv cfg c) (hid : id ∈ c.ROB)
    (hex : (c.robEntry id).executed = INFLIGHT) (hc : Completed c id c')
    (hready : c'.readyToExecute = c.readyToExecute ++
      (c.robEntry id).registersInstrsDependOnMe.filter (isReady c')) : DepInv cfg c' := by
  set D := (c.robEntry id).registersInstrsDependOnMe with hD
  have hyoung := hi.dependent_younger id hid
  have hidD : id ∉ D := fun h => Nat.lt_irrefl id (hyoung id h).1
  have hn0 : (c.robEntry id).numRegDependent = 0 :=
    hi.started id hid (by rw [hex]; decide)
  have hpos : ∀ q ∈ D, 1 ≤ (c.robEntry q).numRegDependent :=
    fun q hq => hi.one_le_count hid (inFlight_of_executed_eq_inflight hex) hq
  -- an entry counting a dependence has not started
  have hwait : ∀ q ∈ D, (c.robEntry q).executed = 0 := fun q hq => by
    by_contra he
    have := hi.started q (hyoung q hq).2 he
    have := hpos q hq
    omega
  have hexe : ∀ q, q ≠ id → (c'.robEntry q).executed = (c.robEntry q).executed := fun q hq => by
    rw [hc.executed, if_neg hq]
  have hother : ∀ q, q ∉ D → (c'.robEntry q).numRegDependent = (c.robEntry q).numRegDependent ∧
      (c'.robEntry q).scheduled = (c.robEntry q).scheduled := fun q hq => by
    rw [hc.count, hc.scheduled, if_neg hq, if_neg (fun h => hq h.1)]
    exact ⟨rfl, rfl⟩
  have hnr : ∀ q ∈ c.readyToExecute, q ≠ id ∧ q ∉ D := fun q hq => by
    obtain ⟨-, -, -, hn, he⟩ := hi.ready q hq
    refine ⟨fun h => ?_, fun h => ?_⟩
    · rw [h, hex] at he
      cases he
    · have := hpos q h
      omega
  constructor
  · rw [hc.rob]
    exact hi.sorted
  · rw [hc.rob]
    exact hi.length_le
  · intro p hp q hq
    rw [hc.rob] at hp ⊢
    rw [hc.dependents] at hq
    exact hi.dependent_younger p hp q hq
  · intro p hp
    rw [hc.rob] at hp
    rw [hc.dependents]
    exact hi.dependents_nodup p hp
  · intro q hq
    rw [hc.rob] at hq
    have hp := hc.producers_add hi hid hex q
    have hcq := hi.count_eq q hq
    rw [hc.count]
    split_ifs at hp ⊢ with hqD
    · have := hpos q hqD
      omega
    · omega
  · intro q hq hs
    rw [hc.rob] at hq
    rw [hc.scheduled] at hs
    split_ifs at hs with hrel hm
    · exact absurd hs (by decide)
    · exact absurd hs (by decide)
    obtain ⟨he, hnl⟩ := hi.unscheduled q hq hs
    have hqid : q ≠ id := fun h => by
      rw [h, hex] at he
      cases he
    exact ⟨by rw [hexe q hqid]; exact he, fun hl => hnl ((hc.listed_iff q).mp hl)⟩
  · intro q hq he
    rw [hc.rob] at hq
    by_cases hqid : q = id
    · rw [hqid, (hother id hidD).1]
      exact hn0
    rw [hexe q hqid] at he
    have hc0 := hi.started q hq he
    have hqD : q ∉ D := fun h => by
      have := hpos q h
      omega
    rw [(hother q hqD).1]
    exact hc0
  · intro q hq
    rw [hready, List.mem_append] at hq
    rcases hq with hq | hq
    · obtain ⟨hqid, hqD⟩ := hnr q hq
      obtain ⟨hqrob, hm, hs, hn, he⟩ := hi.ready q hq
      rw [hc.rob, hc.isMemory, (hother q hqD).1, (hother q hqD).2, hexe q hqid]
      exact ⟨hqrob, hm, hs, hn, he⟩
    · -- a dependent released to zero: `release` scheduled it by its kind
      obtain ⟨hqD, hr⟩ := List.mem_filter.mp hq
      have hqid : q ≠ id := fun h => hidD (h ▸ hqD)
      simp only [isReady, Bool.and_eq_true, beq_iff_eq] at hr
      obtain ⟨hs, hn⟩ := hr
      have hn' := hn
      rw [hc.count, if_pos hqD] at hn'
      rw [hc.scheduled, if_pos ⟨hqD, hn'⟩] at hs
      refine ⟨hc.rob ▸ (hyoung q hqD).2, ?_, ?_, hn, by rw [hexe q hqid]; exact hwait q hqD⟩
      · rw [hc.isMemory]
        cases hm : (c.robEntry q).isMemory
        · rfl
        · rw [hm, if_pos rfl] at hs
          cases hs
      · rw [hc.scheduled, if_pos ⟨hqD, hn'⟩]
        split at hs
        · cases hs
        · rw [if_neg ‹_›]
  · rw [hready]
    refine List.nodup_append.mpr ⟨hi.ready_nodup, (hi.dependents_nodup id hid).filter _, ?_⟩
    rintro a ha b hb rfl
    exact (hnr a ha).2 (List.mem_filter.mp hb).1
  · intro q hq hm hs hn
    rw [hc.rob] at hq
    rw [hready, List.mem_append]
    by_cases hqid : q = id
    · right
      rw [hqid, hc.executed, if_pos rfl]
      decide
    by_cases hqD : q ∈ D
    · left
      right
      refine List.mem_filter.mpr ⟨hqD, ?_⟩
      simp only [isReady, Bool.and_eq_true, beq_iff_eq]
      exact ⟨hs, hn⟩
    · rw [hc.isMemory] at hm
      rw [(hother q hqD).2] at hs
      rw [(hother q hqD).1] at hn
      rw [hexe q hqid]
      rcases hi.awake q hq hm hs hn with h | h
      · exact Or.inl (Or.inl h)
      · exact Or.inr h
  · have hcount := hc.inflightRegCount_add hi hid hex
    have hle : inflightRegCount c ≤ cfg.ROB_SIZE :=
      Nat.le_trans (inflightRegCount_le c) hi.length_le
    rw [hc.counter]
    split_ifs at hcount ⊢ with hm
    · rw [hi.inflight_eq]
      omega
    · -- the entry was counted, so the counter is at least one
      have hpos : 1 ≤ c.inflightRegExecutions.toNat := by
        rw [hi.inflight_eq]
        omega
      have h1 : (1 : UInt32) ≤ c.inflightRegExecutions := UInt32.le_iff_toNat_le.mpr hpos
      rw [UInt32.toNat_sub_of_le _ _ h1, hi.inflight_eq]
      simp only [UInt32.reduceToNat]
      omega


theorem DepInv.completeEntry (hi : DepInv cfg c) (hid : id ∈ c.ROB)
    (hex : (c.robEntry id).executed = INFLIGHT) :
    ∃ c₁ c₂, O3Backend.doCompleteExecution cfg c id = some c₁ ∧ pushReadyDependents c₁ id = some c₂ ∧
      DepInv cfg c₂ ∧ c₂.ROB = c.ROB := by
  obtain ⟨c₁, h₁, hc₁, hq₁⟩ := hi.doCompleteExecution hid hex
  have hdeps := hc₁.dependents id
  let c₂ := { c₁ with readyToExecute :=
    c₁.readyToExecute ++ (c₁.robEntry id).registersInstrsDependOnMe.filter (isReady c₁) }
  have hc₂ : Completed c id c₂ :=
    ⟨hc₁.rob, hc₁.counter, hc₁.executed, hc₁.isMemory, hc₁.dependents, hc₁.count, hc₁.scheduled,
      hc₁.sources, hc₁.destinations⟩
  have hi₂ : DepInv cfg c₂ := hi.complete hid hex hc₂ (by
    show c₁.readyToExecute ++ _ = _
    rw [hq₁, hdeps]
    rfl)
  have hsub : ∀ q ∈ c₁.readyToExecute ++ (c₁.robEntry id).registersInstrsDependOnMe,
      q ∈ c₁.ROB := fun q hq => by
    rw [hc₁.rob]
    rcases List.mem_append.mp hq with hq | hq
    · rw [hq₁] at hq
      exact (hi.ready q hq).1
    · rw [hdeps] at hq
      exact (hi.dependent_younger id hid q hq).2
  exact ⟨c₁, c₂, h₁, pushReadyDependents_eq hi₂.ready_nodup hsub, hi₂, hc₁.rob⟩

theorem DepInv.completeLoop :
    ∀ (ids : List Nat) (completeBw : Nat) {c : O3Backend}, (∀ id ∈ ids, id ∈ c.ROB) →
      DepInv cfg c → ∃ c', O3Backend.completeLoop cfg ids completeBw c = some c' ∧ DepInv cfg c' ∧
        c'.ROB = c.ROB
  | [], _, c, _, hi => ⟨c, rfl, hi, rfl⟩
  | id :: ids, completeBw, c, hids, hi => by
    unfold O3Backend.completeLoop
    have hid : id ∈ c.ROB := hids id List.mem_cons_self
    have hrest : ∀ id' ∈ ids, id' ∈ c.ROB := fun id' h => hids id' (List.mem_cons_of_mem id h)
    split
    · exact ⟨c, rfl, hi, rfl⟩
    dsimp only
    split
    · next hcond =>
      obtain ⟨c₁, c₂, h₁, h₂, hi₂, hrob₂⟩ := hi.completeEntry hid hcond.1
      obtain ⟨c₃, h₃, hi₃, hrob₃⟩ :=
        DepInv.completeLoop ids (completeBw - 1) (fun id' h => hrob₂ ▸ hrest id' h) hi₂
      refine ⟨c₃, ?_, hi₃, hrob₃.trans hrob₂⟩
      rw [h₁]
      show pushReadyDependents c₁ id >>= _ = _
      rw [h₂]
      exact h₃
    · exact DepInv.completeLoop ids completeBw hrest hi

theorem DepInv.completeInflightInstruction (hi : DepInv cfg c) :
    ∃ c', O3Backend.completeInflightInstruction cfg c = some c' ∧ DepInv cfg c' ∧
      c'.ROB = c.ROB := by
  unfold O3Backend.completeInflightInstruction
  split
  · exact hi.completeLoop c.ROB cfg.EXEC_WIDTH (fun _ h => h)
  · exact ⟨c, rfl, hi, rfl⟩


end Completing


section Runs

theorem ROB_executeLoop : ∀ (fuel : Nat) (c : O3Backend), (executeLoop cfg fuel c).ROB = c.ROB
  | 0, _ => rfl
  | fuel + 1, c => by
    unfold O3Backend.executeLoop
    split
    · rfl
    · exact ROB_executeLoop fuel _

theorem mem_ROB_retireLoop (storeAccepted : Nat → Bool) :
    ∀ (fuel : Nat) (c : O3Backend) {p : Nat}, p ∈ (retireLoop storeAccepted fuel c).ROB → p ∈ c.ROB
  | 0, _, _, h => h
  | fuel + 1, c, p, h => by
    unfold O3Backend.retireLoop at h
    split at h
    · exact h
    · next id rest hrob =>
      dsimp only at h
      split at h
      · exact h
      split at h
      · exact h
      have := mem_ROB_retireLoop storeAccepted fuel _ h
      rw [hrob]
      exact List.mem_cons_of_mem id this

theorem ROB_of_memoryReturn {id : Nat} (h : memoryReturn c id = some c') : c'.ROB = c.ROB := by
  unfold memoryReturn at h
  split at h
  · cases h
  dsimp only at h
  split at h
  · cases h
  split at h
  · cases h
    rfl
  · cases h
    rfl

def dispatched : List BackendOp → List OooModelInstr
  | [] => []
  | .dispatch instr :: ops => instr :: dispatched ops
  | _ :: ops => dispatched ops

/-- The front end hands on instructions as `init_instruction` builds them, numbered by the
increasing `instr_unique_id`. -/
structure Admissible (ops : List BackendOp) : Prop where
  fresh : ∀ instr ∈ dispatched ops, Fresh instr
  increasing : (dispatched ops).Pairwise (·.instrId < ·.instrId)

theorem Admissible.tail {op : BackendOp} {ops : List BackendOp} (h : Admissible (op :: ops)) :
    Admissible ops := by
  cases op
  case dispatch instr =>
    exact ⟨fun i hi => h.fresh i (List.mem_cons_of_mem _ hi), (List.pairwise_cons.mp h.increasing).2⟩
  all_goals exact ⟨h.fresh, h.increasing⟩

theorem mem_dispatched_cons {op : BackendOp} {ops : List BackendOp} {instr : OooModelInstr}
    (h : instr ∈ dispatched ops) : instr ∈ dispatched (op :: ops) := by
  cases op
  case dispatch i => exact List.mem_cons_of_mem i h
  all_goals exact h

theorem DepInv.init : DepInv cfg init where
  sorted := List.Pairwise.nil
  length_le := Nat.zero_le _
  dependent_younger _ h := absurd h List.not_mem_nil
  dependents_nodup _ h := absurd h List.not_mem_nil
  count_eq _ h := absurd h List.not_mem_nil
  unscheduled _ h := absurd h List.not_mem_nil
  started _ h := absurd h List.not_mem_nil
  ready _ h := absurd h List.not_mem_nil
  ready_nodup := List.nodup_nil
  awake _ h := absurd h List.not_mem_nil
  inflight_eq := rfl

theorem DepInv.producers_eq_older (hi : DepInv cfg c) {d : Nat} (hd : d ∈ c.ROB) :
    producers c d = (olderThan c d).countP fun p =>
      inFlight (c.robEntry p) && decide (d ∈ (c.robEntry p).registersInstrsDependOnMe) := by
  have hnone : ((c.ROB.dropWhile fun q => decide (q ≠ d)).countP fun p =>
      RefCount.Holds inFlight (·.registersInstrsDependOnMe) (c.robEntry p) d) = 0 := by
    rw [List.countP_eq_zero]
    intro p hp hholds
    have hle := StdAlgorithm.le_of_mem_dropWhile_ne hi.sorted hd hp
    have hdp := ((RefCount.holds_iff).mp hholds).2
    have hp' : p ∈ c.ROB := (List.dropWhile_sublist _).subset hp
    exact Nat.lt_irrefl d (Nat.lt_of_le_of_lt hle (hi.dependent_younger p hp' d hdp).1)
  have hsplit : c.ROB.takeWhile (fun q => decide (q ≠ d)) ++
      c.ROB.dropWhile (fun q => decide (q ≠ d)) = c.ROB := List.takeWhile_append_dropWhile
  unfold producers RefCount.holders olderThan
  nth_rewrite 1 [← hsplit]
  rw [List.countP_append, hnone, Nat.add_zero, List.countP_reverse]
  rfl

variable (hsize : cfg.ROB_SIZE < 2 ^ 32)
include hsize

theorem DepInv.step (hi : DepInv cfg c) {op : BackendOp}
    (hdispatch : ∀ instr, op = .dispatch instr → Fresh instr ∧ ∀ p ∈ c.ROB, p < instr.instrId)
    (h : step cfg c op = some c') :
    DepInv cfg c' ∧ ∀ p ∈ c'.ROB, p ∈ c.ROB ∨ ∃ instr, op = .dispatch instr ∧ p = instr.instrId := by
  cases op with
  | dispatch instr =>
    cases h
    obtain ⟨hfresh, hyoung⟩ := hdispatch instr rfl
    refine ⟨hi.dispatch hfresh hyoung, fun p hp => ?_⟩
    unfold O3Backend.dispatch at hp
    split at hp
    · rcases List.mem_append.mp hp with hp | hp
      · exact Or.inl hp
      · exact Or.inr ⟨instr, rfl, List.mem_singleton.mp hp⟩
    · exact Or.inl hp
  | scheduleInstruction =>
    obtain ⟨c₁, h₁, hi₁, hrob₁⟩ := hi.scheduleLoop c.ROB cfg.SCHEDULER_SIZE (fun _ h => h)
    have : c' = c₁ := Option.some.inj (h.symm.trans h₁)
    subst this
    exact ⟨hi₁, fun p hp => Or.inl (hrob₁ ▸ hp)⟩
  | executeInstruction =>
    cases h
    exact ⟨hi.executeLoop hsize _, fun p hp => Or.inl ((ROB_executeLoop _ _) ▸ hp)⟩
  | scheduleMemoryInstruction lsqRoom =>
    cases h
    obtain ⟨hi₁, hrob₁⟩ := DepInv.scheduleMemoryLoop lsqRoom c.ROB cfg.SCHEDULER_SIZE
      (fun _ h => h) hi
    exact ⟨hi₁, fun p hp => Or.inl (hrob₁ ▸ hp)⟩
  | memoryReturn id =>
    exact ⟨DepInv.of_memoryReturn h hi, fun p hp => Or.inl ((ROB_of_memoryReturn h) ▸ hp)⟩
  | completeInflightInstruction =>
    obtain ⟨c₁, h₁, hi₁, hrob₁⟩ := hi.completeInflightInstruction
    have : c' = c₁ := Option.some.inj (h.symm.trans h₁)
    subst this
    exact ⟨hi₁, fun p hp => Or.inl (hrob₁ ▸ hp)⟩
  | retireRob storeAccepted =>
    cases h
    exact ⟨hi.retireLoop storeAccepted _, fun p hp => Or.inl (mem_ROB_retireLoop _ _ _ hp)⟩
  | tick =>
    cases h
    exact ⟨hi.tick, fun p hp => Or.inl hp⟩
  | completeWarmup =>
    cases h
    exact ⟨hi.completeWarmup, fun p hp => Or.inl hp⟩


theorem DepInv.run_induction (P : O3Backend → Prop)
    (hstep : ∀ {c c' : O3Backend} {op : BackendOp}, DepInv cfg c → P c →
      (∀ instr, op = .dispatch instr → Fresh instr ∧ ∀ p ∈ c.ROB, p < instr.instrId) →
      O3Backend.step cfg c op = some c' → P c') :
    ∀ (ops : List BackendOp) {c c' : O3Backend}, DepInv cfg c → P c → Admissible ops →
      (∀ p ∈ c.ROB, ∀ instr ∈ dispatched ops, p < instr.instrId) →
      O3Backend.run cfg c ops = some c' → DepInv cfg c' ∧ P c'
  | [], c, c', hi, hp, _, _, h => by
    cases h
    exact ⟨hi, hp⟩
  | op :: ops, c, c', hi, hp, hadm, hold, h => by
    rw [run_cons] at h
    obtain ⟨c₁, h₁, h⟩ := Option.bind_eq_some_iff.mp h
    have hd : ∀ instr, op = .dispatch instr → Fresh instr ∧ ∀ p ∈ c.ROB, p < instr.instrId := by
      rintro instr rfl
      exact ⟨hadm.fresh instr List.mem_cons_self, fun p hp => hold p hp instr List.mem_cons_self⟩
    obtain ⟨hi₁, hrob₁⟩ := hi.step hsize hd h₁
    refine DepInv.run_induction P hstep ops hi₁ (hstep hi hp hd h₁) hadm.tail (fun p hp i hin => ?_) h
    rcases hrob₁ p hp with hp | ⟨instr, rfl, rfl⟩
    · exact hold p hp i (mem_dispatched_cons hin)
    · exact (List.pairwise_cons.mp hadm.increasing).1 i hin

theorem DepInv.of_run {ops : List BackendOp} (hadm : Admissible ops)
    (h : O3Backend.run cfg O3Backend.init ops = some c) : DepInv cfg c :=
  (DepInv.run_induction hsize (fun _ => True) (fun _ _ _ _ => trivial) ops DepInv.init trivial hadm
    (fun _ h => absurd h List.not_mem_nil) h).1

end Runs

end O3Backend

end MindPalace.ChampSim
