import MindPalace.ChampSim.BackendInvariant
import MindPalace.Lib.StdAlgorithm

/-! # Scheduling keeps the dependences

While `do_scheduling` runs, the state is a `Marking` of the one it started from: only the count
of `rob_it` and the dependents of older entries in flight change, each by `rob_it` appended
once. From it `DepInv.schedule` gets the invariant after the scheduling and its push.
-/

namespace MindPalace.ChampSim

namespace O3Backend

variable {cfg : BackendConfig} {c c' c₀ : O3Backend}

theorem mem_of_mem_olderThan {d p : Nat} (hp : p ∈ olderThan c d) : p ∈ c.ROB ∧ p ≠ d := by
  unfold olderThan at hp
  rw [List.mem_reverse] at hp
  exact ⟨(List.takeWhile_sublist _).subset hp, by simpa using List.mem_takeWhile_imp hp⟩

theorem lt_of_mem_olderThan (hsorted : c.ROB.Pairwise (· < ·)) {d p : Nat} (hd : d ∈ c.ROB)
    (hp : p ∈ olderThan c d) : p < d := by
  unfold olderThan at hp
  rw [List.mem_reverse] at hp
  exact StdAlgorithm.lt_of_mem_takeWhile_ne hsorted hd hp

theorem producers_updateEntry_of_same {id : Nat} {f : OooModelInstr → OooModelInstr}
    (hf : inFlight (f (c.robEntry id)) = inFlight (c.robEntry id) ∧
      (f (c.robEntry id)).registersInstrsDependOnMe = (c.robEntry id).registersInstrsDependOnMe)
    (x : Nat) : producers (updateEntry c id f) x = producers c x := by
  refine producers_congr ?_ (fun p _ => ?_) x
  · rfl
  rw [robEntry_updateEntry]
  split
  · next h =>
    subst h
    exact hf
  · exact ⟨rfl, rfl⟩

theorem producers_addDependent (hnd : c.ROB.Nodup) {p d : Nat} (hp : p ∈ c.ROB)
    (hflight : inFlight (c.robEntry p) = true)
    (hnot : d ∉ (c.robEntry p).registersInstrsDependOnMe) (x : Nat) :
    producers (updateEntry c p fun e =>
        { e with registersInstrsDependOnMe := e.registersInstrsDependOnMe ++ [d] }) x =
      producers c x + if x = d then 1 else 0 := by
  have h : producers (updateEntry c p fun e =>
        { e with registersInstrsDependOnMe := e.registersInstrsDependOnMe ++ [d] }) x +
      (if RefCount.Holds inFlight (·.registersInstrsDependOnMe) (c.robEntry p) x then 1 else 0) =
      producers c x + if RefCount.Holds inFlight (·.registersInstrsDependOnMe)
        { c.robEntry p with
          registersInstrsDependOnMe := (c.robEntry p).registersInstrsDependOnMe ++ [d] } x
        then 1 else 0 :=
    RefCount.holders_update hnd hp c.robEntry _ x
  by_cases hx : x = d
  · subst hx
    have hold : RefCount.Holds inFlight (·.registersInstrsDependOnMe) (c.robEntry p) x = false := by
      simp [RefCount.Holds, hnot]
    have hnew : RefCount.Holds inFlight (·.registersInstrsDependOnMe)
        { c.robEntry p with
          registersInstrsDependOnMe := (c.robEntry p).registersInstrsDependOnMe ++ [x] } x = true := by
      simp only [RefCount.holds_iff, List.mem_append, List.mem_singleton, or_true, and_true]
      exact hflight
    rw [hold, hnew] at h
    simpa using h
  · have hsame : RefCount.Holds inFlight (·.registersInstrsDependOnMe)
        { c.robEntry p with
          registersInstrsDependOnMe := (c.robEntry p).registersInstrsDependOnMe ++ [d] } x =
        RefCount.Holds inFlight (·.registersInstrsDependOnMe) (c.robEntry p) x := by
      simp [RefCount.Holds, inFlight, hx]
    rw [hsame] at h
    simp only [hx, if_false]
    omega

/-- The state while `do_scheduling` of `d` records its dependences, against the state `c₀` it
started from: only `d`'s count and the dependents of older entries in flight have changed,
each of these by `d` appended once, and `d` is the last dependent of any entry that has it. -/
structure Marking (c₀ : O3Backend) (d : Nat) (c : O3Backend) : Prop where
  rob : c.ROB = c₀.ROB
  ready : c.readyToExecute = c₀.readyToExecute
  counter : c.inflightRegExecutions = c₀.inflightRegExecutions
  executed : ∀ q, (c.robEntry q).executed = (c₀.robEntry q).executed
  scheduled : ∀ q, (c.robEntry q).scheduled = (c₀.robEntry q).scheduled
  isMemory : ∀ q, (c.robEntry q).isMemory = (c₀.robEntry q).isMemory
  count_other : ∀ q, q ≠ d → (c.robEntry q).numRegDependent = (c₀.robEntry q).numRegDependent
  dependents : ∀ q, (c.robEntry q).registersInstrsDependOnMe =
      (c₀.robEntry q).registersInstrsDependOnMe ∨
    ((c.robEntry q).registersInstrsDependOnMe = (c₀.robEntry q).registersInstrsDependOnMe ++ [d] ∧
      q ∈ olderThan c₀ d ∧ inFlight (c₀.robEntry q) = true)
  count : (c.robEntry d).numRegDependent = producers c d
  last : ∀ q ∈ c₀.ROB, d ∈ (c.robEntry q).registersInstrsDependOnMe →
    (c.robEntry q).registersInstrsDependOnMe.getLast? = some d

theorem Marking.start (hi : DepInv cfg c) {d : Nat} (hd : d ∈ c.ROB) (hnl : ¬ Listed c d) :
    Marking c d c where
  rob := rfl
  ready := rfl
  counter := rfl
  executed _ := rfl
  scheduled _ := rfl
  isMemory _ := rfl
  count_other _ _ := rfl
  dependents _ := Or.inl rfl
  count := hi.count_eq d hd
  last q hq h := absurd ⟨q, hq, h⟩ hnl

theorem Marking.olderThan_eq {c₀ : O3Backend} {d : Nat} (hm : Marking c₀ d c) :
    olderThan c d = olderThan c₀ d := by
  unfold olderThan
  rw [hm.rob]

theorem Marking.mark (hi : DepInv cfg c₀) {d : Nat} (hm : Marking c₀ d c) (reg : UInt8) :
    Marking c₀ d (markRegDependence c d reg) := by
  unfold markRegDependence
  split
  · exact hm
  split
  · exact hm
  next p hfind =>
  split
  · exact hm
  next hlast =>
  dsimp only
  have hpold : p ∈ olderThan c₀ d := hm.olderThan_eq ▸ List.mem_of_find?_eq_some hfind
  have hprob : p ∈ c₀.ROB := (mem_of_mem_olderThan hpold).1
  have hpd : p ≠ d := (mem_of_mem_olderThan hpold).2
  have hpflight : inFlight (c.robEntry p) = true := by
    have := List.find?_some hfind
    simp only [instrRegWillProduce, Bool.and_eq_true] at this
    exact this.1
  have hnot : d ∉ (c.robEntry p).registersInstrsDependOnMe :=
    fun h => hlast (hm.last p hprob h)
  -- the entries after the two updates
  have hent : ∀ q, (updateEntry (updateEntry c p fun e =>
        { e with registersInstrsDependOnMe := e.registersInstrsDependOnMe ++ [d] }) d fun r =>
        { r with numRegDependent := r.numRegDependent + 1 }).robEntry q =
      if q = d then { c.robEntry d with numRegDependent := (c.robEntry d).numRegDependent + 1 }
      else if q = p then
        { c.robEntry p with
          registersInstrsDependOnMe := (c.robEntry p).registersInstrsDependOnMe ++ [d] }
      else c.robEntry q := by
    intro q
    rw [robEntry_updateEntry, robEntry_updateEntry_of_ne _ (Ne.symm hpd), robEntry_updateEntry]
  constructor
  · exact hm.rob
  · exact hm.ready
  · exact hm.counter
  · intro q
    rw [hent]
    split_ifs <;> subst_vars <;> simp [hm.executed]
  · intro q
    rw [hent]
    split_ifs <;> subst_vars <;> simp [hm.scheduled]
  · intro q
    rw [hent]
    split_ifs <;> subst_vars <;> simp [hm.isMemory]
  · intro q hq
    rw [hent, if_neg hq]
    split_ifs <;> subst_vars <;> simp [hm.count_other _ hq]
  · intro q
    rw [hent]
    split_ifs with hqd hqp
    · subst hqd
      exact hm.dependents q
    · subst hqp
      -- `p` had not been given `d` yet
      rcases hm.dependents q with h | ⟨h, -⟩
      · right
        refine ⟨by rw [h], hpold, ?_⟩
        unfold inFlight at hpflight ⊢
        rw [← hm.executed q]
        exact hpflight
      · exact absurd (h ▸ List.mem_append_right _ (List.mem_singleton_self d)) hnot
    · exact hm.dependents q
  · rw [hent, if_pos rfl]
    have hprod := producers_addDependent (hm.rob ▸ hi.nodup) (hm.rob ▸ hprob) hpflight hnot d
    rw [if_pos rfl] at hprod
    rw [producers_updateEntry_of_same ⟨rfl, rfl⟩, hprod, hm.count]
    push_cast
    rfl
  · intro q hq hdq
    rw [hent] at hdq ⊢
    split_ifs with hqd hqp
    · subst hqd
      rw [if_pos rfl] at hdq
      exact hm.last q hq hdq
    · rw [if_neg hqd, if_pos hqp] at hdq
      simp
    · rw [if_neg hqd, if_neg hqp] at hdq
      exact hm.last q hq hdq

theorem Marking.foldl (hi : DepInv cfg c₀) {d : Nat} :
    ∀ (regs : List UInt8) {c : O3Backend}, Marking c₀ d c →
      Marking c₀ d (regs.foldl (markRegDependence · d ·) c)
  | [], _, hm => hm
  | reg :: regs, _, hm => Marking.foldl hi regs (hm.mark hi reg)

theorem Marking.mem_dependents_of_ne {c₀ : O3Backend} {d : Nat} (hm : Marking c₀ d c)
    (p : Nat) {q : Nat} (hq : q ≠ d) :
    q ∈ (c.robEntry p).registersInstrsDependOnMe ↔ q ∈ (c₀.robEntry p).registersInstrsDependOnMe := by
  rcases hm.dependents p with h | ⟨h, -⟩
  · rw [h]
  · rw [h, List.mem_append, List.mem_singleton, or_iff_left hq]

theorem Marking.producers_of_ne {c₀ : O3Backend} {d : Nat} (hm : Marking c₀ d c) {q : Nat}
    (hq : q ≠ d) : producers c q = producers c₀ q := by
  unfold producers
  rw [hm.rob]
  apply RefCount.holders_congr
  intro p _
  simp only [RefCount.Holds, inFlight, hm.executed, hm.mem_dependents_of_ne p hq]

theorem Marking.dependents_ok (hi : DepInv cfg c₀) {d : Nat} (hd : d ∈ c₀.ROB)
    (hnl : ¬ Listed c₀ d) (hm : Marking c₀ d c) {p : Nat} (hp : p ∈ c₀.ROB) :
    (∀ q ∈ (c.robEntry p).registersInstrsDependOnMe, p < q ∧ q ∈ c₀.ROB) ∧
      (c.robEntry p).registersInstrsDependOnMe.Nodup := by
  rcases hm.dependents p with h | ⟨h, hold, -⟩
  · rw [h]
    exact ⟨hi.dependent_younger p hp, hi.dependents_nodup p hp⟩
  · rw [h]
    refine ⟨fun q hq => ?_, ?_⟩
    · rcases List.mem_append.mp hq with hq | hq
      · exact hi.dependent_younger p hp q hq
      · rw [List.mem_singleton.mp hq]
        exact ⟨lt_of_mem_olderThan hi.sorted hd hold, hd⟩
    · -- `d` was no entry's dependent before its scheduling
      refine List.nodup_append.mpr ⟨hi.dependents_nodup p hp, List.nodup_singleton d, ?_⟩
      rintro a ha b hb rfl
      rw [List.mem_singleton.mp hb] at ha
      exact hnl ⟨p, hp, ha⟩

theorem DepInv.length_ready_lt (hi : DepInv cfg c) {d : Nat} (hd : d ∈ c.ROB)
    (hnr : d ∉ c.readyToExecute) : c.readyToExecute.length < c.ROB.length := by
  have hsub : (d :: c.readyToExecute).Subperm c.ROB := by
    refine List.subperm_of_subset (List.nodup_cons.mpr ⟨hnr, hi.ready_nodup⟩) fun q hq => ?_
    rcases List.mem_cons.mp hq with rfl | hq
    · exact hd
    · exact (hi.ready q hq).1
  exact hsub.length_le

theorem DepInv.scheduled (hi : DepInv cfg c₀) {d : Nat} (hd : d ∈ c₀.ROB)
    (hs : (c₀.robEntry d).scheduled = 0) (hm : Marking c₀ d c) {v : OooModelInstr}
    (hrob : c'.ROB = c₀.ROB) (hent : c'.robEntry = Function.update c.robEntry d v)
    (hready : c'.readyToExecute = c₀.readyToExecute ++
      if v.scheduled == COMPLETED && v.numRegDependent == 0 then [d] else [])
    (hcnt : c'.inflightRegExecutions = c₀.inflightRegExecutions)
    (hvs : v.scheduled = if v.isMemory then INFLIGHT else COMPLETED)
    (hve : v.executed = (c.robEntry d).executed) (hvn : v.numRegDependent = (c.robEntry d).numRegDependent)
    (hvm : v.isMemory = (c.robEntry d).isMemory)
    (hvd : v.registersInstrsDependOnMe = (c.robEntry d).registersInstrsDependOnMe) :
    DepInv cfg c' := by
  obtain ⟨hex0, hnl⟩ := hi.unscheduled d hd hs
  have hself : c'.robEntry d = v := by rw [hent, Function.update_self]
  have hother : ∀ q, q ≠ d → c'.robEntry q = c.robEntry q := fun q hq => by
    rw [hent, Function.update_of_ne hq]
  have hexe : ∀ q, (c'.robEntry q).executed = (c₀.robEntry q).executed := fun q =>
    (field_update_of_eq OooModelInstr.executed hent hve q).trans (hm.executed q)
  have hmem : ∀ q, (c'.robEntry q).isMemory = (c₀.robEntry q).isMemory := fun q =>
    (field_update_of_eq OooModelInstr.isMemory hent hvm q).trans (hm.isMemory q)
  have hdep := field_update_of_eq OooModelInstr.registersInstrsDependOnMe hent hvd
  have hprod : ∀ q, producers c' q = producers c q :=
    producers_congr (hrob.trans hm.rob.symm) fun p _ =>
      ⟨by rw [inFlight, inFlight, hexe, hm.executed], hdep p⟩
  have hsd : (c'.robEntry d).scheduled ≠ 0 := by
    rw [hself, hvs]
    split <;> decide
  have hnr : d ∉ c₀.readyToExecute := fun h => by
    have := (hi.ready d h).2.2.1
    rw [hs] at this
    cases this
  -- the entries other than `d` keep the fields that the queue and the counts read
  have hsame : ∀ q, q ≠ d → (c'.robEntry q).scheduled = (c₀.robEntry q).scheduled ∧
      (c'.robEntry q).numRegDependent = (c₀.robEntry q).numRegDependent := fun q hq => by
    rw [hother q hq]
    exact ⟨hm.scheduled q, hm.count_other q hq⟩
  constructor
  · rw [hrob]
    exact hi.sorted
  · rw [hrob]
    exact hi.length_le
  · intro p hp q hq
    rw [hrob] at hp ⊢
    rw [hdep] at hq
    exact (hm.dependents_ok hi hd hnl hp).1 q hq
  · intro p hp
    rw [hrob] at hp
    rw [hdep]
    exact (hm.dependents_ok hi hd hnl hp).2
  · intro q hq
    rw [hrob] at hq
    rw [hprod]
    by_cases hqd : q = d
    · rw [hqd, hself, hvn]
      exact hm.count
    · rw [(hsame q hqd).2, hm.producers_of_ne hqd]
      exact hi.count_eq q hq
  · intro q hq hsq
    rw [hrob] at hq
    have hqd : q ≠ d := fun h => hsd (h ▸ hsq)
    rw [(hsame q hqd).1] at hsq
    obtain ⟨he, hnlq⟩ := hi.unscheduled q hq hsq
    refine ⟨by rw [hexe]; exact he, fun hl => hnlq ?_⟩
    unfold Listed at hl ⊢
    rw [hrob] at hl
    obtain ⟨p, hp, hqp⟩ := hl
    rw [hdep, hm.mem_dependents_of_ne p hqd] at hqp
    exact ⟨p, hp, hqp⟩
  · intro q hq he
    rw [hrob] at hq
    rw [hexe] at he
    have hqd : q ≠ d := fun h => he (h ▸ hex0)
    rw [(hsame q hqd).2]
    exact hi.started q hq he
  · intro q hq
    rw [hready, List.mem_append] at hq
    rcases hq with hq | hq
    · have hqd : q ≠ d := fun h => hnr (h ▸ hq)
      rw [hrob, hmem, (hsame q hqd).1, (hsame q hqd).2, hexe]
      exact hi.ready q hq
    · split at hq
      · next hr =>
        rw [List.mem_singleton.mp hq]
        simp only [Bool.and_eq_true, beq_iff_eq] at hr
        refine ⟨hrob ▸ hd, ?_, hself ▸ hr.1, hself ▸ hr.2, by rw [hexe]; exact hex0⟩
        -- a memory entry is marked `INFLIGHT` for the memory scheduler
        have h := hr.1
        rw [hvs] at h
        rw [hself]
        cases hv : v.isMemory
        · rfl
        · rw [hv, if_pos rfl] at h
          cases h
      · cases hq
  · rw [hready]
    split
    · exact List.nodup_append.mpr ⟨hi.ready_nodup, List.nodup_singleton d,
        fun a ha b hb hab => hnr (List.mem_singleton.mp hb ▸ hab ▸ ha)⟩
    · rw [List.append_nil]
      exact hi.ready_nodup
  · intro q hq hmq hsq hnq
    rw [hrob] at hq
    rw [hready, List.mem_append]
    by_cases hqd : q = d
    · -- `d` is ready now, so it was queued
      subst hqd
      rw [hself] at hsq hnq
      rw [if_pos (by simp [hsq, hnq])]
      exact Or.inl (Or.inr (List.mem_singleton_self q))
    · rw [hmem] at hmq
      rw [(hsame q hqd).1] at hsq
      rw [(hsame q hqd).2] at hnq
      rw [hexe]
      rcases hi.awake q hq hmq hsq hnq with h | h
      · exact Or.inl (Or.inl h)
      · exact Or.inr h
  · rw [hcnt, inflightRegCount_congr hrob fun p _ => ⟨hexe p, hmem p⟩]
    exact hi.inflight_eq

theorem DepInv.schedule (hi : DepInv cfg c₀) {d : Nat} (hd : d ∈ c₀.ROB) :
    ∃ c', scheduleEntry cfg c₀ d = some c' ∧ DepInv cfg c' ∧ c'.ROB = c₀.ROB := by
  unfold scheduleEntry
  split
  case isFalse => exact ⟨c₀, rfl, hi, rfl⟩
  next hs =>
  have hm := Marking.foldl hi (c₀.robEntry d).sourceRegisters.toList
    (Marking.start hi hd (hi.unscheduled d hd hs).2)
  have hnr : d ∉ c₀.readyToExecute := fun h => by
    have := (hi.ready d h).2.2.1
    rw [hs] at this
    cases this
  dsimp only
  unfold doScheduling
  generalize (c₀.robEntry d).sourceRegisters.toList.foldl (markRegDependence · d ·) c₀ = c at hm ⊢
  have hvs : ∀ r : OooModelInstr, ∀ t : Nat,
      (if r.isMemory then { r with scheduled := INFLIGHT }
        else { r with scheduled := COMPLETED, eventCycle := t }).scheduled =
      if (if r.isMemory then { r with scheduled := INFLIGHT }
        else { r with scheduled := COMPLETED, eventCycle := t }).isMemory then INFLIGHT
      else COMPLETED := by
    intro r t
    split <;> simp [*]
  have hsame : ∀ r : OooModelInstr, ∀ t : Nat,
      let v := if r.isMemory then { r with scheduled := INFLIGHT }
        else { r with scheduled := COMPLETED, eventCycle := t }
      v.executed = r.executed ∧ v.numRegDependent = r.numRegDependent ∧
        v.isMemory = r.isMemory ∧ v.registersInstrsDependOnMe = r.registersInstrsDependOnMe := by
    intro r t
    split <;> exact ⟨rfl, rfl, rfl, rfl⟩
  split
  · next hr =>
    have hr' := hr
    simp only [isReady, robEntry_updateEntry_self] at hr'
    have hroom : c.readyToExecute.length < c.ROB.length := by
      rw [hm.ready, hm.rob]
      exact hi.length_ready_lt hd hnr
    rw [pushReady, readyToExecute_updateEntry, ROB_updateEntry, if_pos hroom]
    obtain ⟨hve, hvn, hvm, hvd⟩ := hsame (c.robEntry d) _
    refine ⟨_, rfl, hi.scheduled hd hs hm hm.rob rfl ?_ hm.counter (hvs _ _) hve hvn hvm hvd,
      hm.rob⟩
    dsimp only
    rw [if_pos hr', hm.ready]
  · next hr =>
    have hr' := hr
    simp only [isReady, robEntry_updateEntry_self] at hr'
    obtain ⟨hve, hvn, hvm, hvd⟩ := hsame (c.robEntry d) _
    refine ⟨_, rfl, hi.scheduled hd hs hm hm.rob rfl ?_ hm.counter (hvs _ _) hve hvn hvm hvd,
      hm.rob⟩
    rw [if_neg hr', List.append_nil, readyToExecute_updateEntry, hm.ready]

theorem DepInv.scheduleLoop :
    ∀ (ids : List Nat) (searchBw : Nat) {c : O3Backend}, (∀ id ∈ ids, id ∈ c.ROB) →
      DepInv cfg c → ∃ c', scheduleLoop cfg ids searchBw c = some c' ∧ DepInv cfg c' ∧
        c'.ROB = c.ROB
  | [], _, c, _, hi => ⟨c, rfl, hi, rfl⟩
  | id :: ids, searchBw, c, hids, hi => by
    unfold O3Backend.scheduleLoop
    split
    · exact ⟨c, rfl, hi, rfl⟩
    obtain ⟨c₁, h₁, hi₁, hrob₁⟩ := hi.schedule (hids id List.mem_cons_self)
    rw [h₁]
    obtain ⟨c₂, h₂, hi₂, hrob₂⟩ := DepInv.scheduleLoop ids
      (if (c₁.robEntry id).executed = 0 then searchBw - 1 else searchBw)
      (fun id' hid' => hrob₁ ▸ hids id' (List.mem_cons_of_mem id hid')) hi₁
    exact ⟨c₂, h₂, hi₂, hrob₂.trans hrob₁⟩

theorem DepInv.scheduleInstruction (hi : DepInv cfg c) :
    ∃ c', scheduleInstruction cfg c = some c' ∧ DepInv cfg c' :=
  let ⟨c', h, hi', _⟩ := hi.scheduleLoop c.ROB cfg.SCHEDULER_SIZE (fun _ h => h)
  ⟨c', h, hi'⟩

end O3Backend

end MindPalace.ChampSim
