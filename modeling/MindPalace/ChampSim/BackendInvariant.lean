import MindPalace.ChampSim.OooBackend
import MindPalace.Lib.RefCount

/-! # The invariant of the register dependences

`DepInv` states how `registers_instrs_depend_on_me`, `num_reg_dependent`, `ready_to_execute`
and `inflight_reg_executions` agree with the ROB. Here dispatch, retirement, execution, memory
scheduling and a memory return keep it; scheduling and completion follow in later modules.
-/

namespace MindPalace.ChampSim

namespace O3Backend

/-- An instruction whose execution has not completed. -/
def inFlight (e : OooModelInstr) : Bool :=
  e.executed != COMPLETED

def producers (c : O3Backend) (id : Nat) : Nat :=
  RefCount.holders inFlight (·.registersInstrsDependOnMe) c.ROB c.robEntry id

/-- The non-memory entries executing, the count `inflight_reg_executions` keeps. -/
def inflightRegCount (c : O3Backend) : Nat :=
  c.ROB.countP fun p => !(c.robEntry p).isMemory && (c.robEntry p).executed == INFLIGHT

def Listed (c : O3Backend) (id : Nat) : Prop :=
  ∃ p ∈ c.ROB, id ∈ (c.robEntry p).registersInstrsDependOnMe

variable (cfg : BackendConfig)

/-- The invariant of the back end's register dependences. -/
structure DepInv (c : O3Backend) : Prop where
  sorted : c.ROB.Pairwise (· < ·)
  length_le : c.ROB.length ≤ cfg.ROB_SIZE
  dependent_younger : ∀ p ∈ c.ROB, ∀ d ∈ (c.robEntry p).registersInstrsDependOnMe, p < d ∧ d ∈ c.ROB
  dependents_nodup : ∀ p ∈ c.ROB, (c.robEntry p).registersInstrsDependOnMe.Nodup
  count_eq : ∀ d ∈ c.ROB, (c.robEntry d).numRegDependent = producers c d
  unscheduled : ∀ d ∈ c.ROB, (c.robEntry d).scheduled = 0 →
    (c.robEntry d).executed = 0 ∧ ¬ Listed c d
  started : ∀ d ∈ c.ROB, (c.robEntry d).executed ≠ 0 → (c.robEntry d).numRegDependent = 0
  ready : ∀ d ∈ c.readyToExecute, d ∈ c.ROB ∧ (c.robEntry d).isMemory = false ∧
    (c.robEntry d).scheduled = COMPLETED ∧ (c.robEntry d).numRegDependent = 0 ∧
    (c.robEntry d).executed = 0
  ready_nodup : c.readyToExecute.Nodup
  awake : ∀ d ∈ c.ROB, (c.robEntry d).isMemory = false → (c.robEntry d).scheduled = COMPLETED →
    (c.robEntry d).numRegDependent = 0 → d ∈ c.readyToExecute ∨ (c.robEntry d).executed ≠ 0
  inflight_eq : c.inflightRegExecutions.toNat = inflightRegCount c

section Entries

@[simp] theorem ROB_updateEntry (c : O3Backend) (id : Nat) (f : OooModelInstr → OooModelInstr) :
    (updateEntry c id f).ROB = c.ROB := rfl

@[simp] theorem readyToExecute_updateEntry (c : O3Backend) (id : Nat)
    (f : OooModelInstr → OooModelInstr) :
    (updateEntry c id f).readyToExecute = c.readyToExecute := rfl

@[simp] theorem inflightRegExecutions_updateEntry (c : O3Backend) (id : Nat)
    (f : OooModelInstr → OooModelInstr) :
    (updateEntry c id f).inflightRegExecutions = c.inflightRegExecutions := rfl

@[simp] theorem currentCycle_updateEntry (c : O3Backend) (id : Nat)
    (f : OooModelInstr → OooModelInstr) :
    (updateEntry c id f).currentCycle = c.currentCycle := rfl

@[simp] theorem warmupComplete_updateEntry (c : O3Backend) (id : Nat)
    (f : OooModelInstr → OooModelInstr) :
    (updateEntry c id f).warmupComplete = c.warmupComplete := rfl

theorem robEntry_updateEntry (c : O3Backend) (id : Nat) (f : OooModelInstr → OooModelInstr)
    (q : Nat) :
    (updateEntry c id f).robEntry q = if q = id then f (c.robEntry id) else c.robEntry q :=
  Function.update_apply _ _ _ _

@[simp] theorem robEntry_updateEntry_self (c : O3Backend) (id : Nat)
    (f : OooModelInstr → OooModelInstr) : (updateEntry c id f).robEntry id = f (c.robEntry id) :=
  Function.update_self _ _ _

theorem robEntry_updateEntry_of_ne (c : O3Backend) {id q : Nat} (h : q ≠ id)
    (f : OooModelInstr → OooModelInstr) : (updateEntry c id f).robEntry q = c.robEntry q :=
  Function.update_of_ne h _ _

/-- A field that the written entry keeps is kept by every entry. -/
theorem field_update_of_eq {α : Type} (g : OooModelInstr → α) {e e' : Nat → OooModelInstr}
    {id : Nat} {v : OooModelInstr} (hent : e' = Function.update e id v) (hv : g v = g (e id))
    (q : Nat) : g (e' q) = g (e q) := by
  rw [hent]
  by_cases hq : q = id
  · rw [hq, Function.update_self, hv]
  · rw [Function.update_of_ne hq]

end Entries

structure SameDeps (e e' : OooModelInstr) : Prop where
  executed : e'.executed = e.executed
  scheduled : e'.scheduled = e.scheduled
  numRegDependent : e'.numRegDependent = e.numRegDependent
  isMemory : e'.isMemory = e.isMemory
  dependents : e'.registersInstrsDependOnMe = e.registersInstrsDependOnMe

theorem SameDeps.refl (e : OooModelInstr) : SameDeps e e := ⟨rfl, rfl, rfl, rfl, rfl⟩

variable {cfg} {c c' : O3Backend}

theorem producers_congr (hrob : c'.ROB = c.ROB)
    (h : ∀ p ∈ c.ROB, inFlight (c'.robEntry p) = inFlight (c.robEntry p) ∧
      (c'.robEntry p).registersInstrsDependOnMe = (c.robEntry p).registersInstrsDependOnMe)
    (d : Nat) : producers c' d = producers c d := by
  unfold producers
  rw [hrob]
  apply RefCount.holders_congr
  intro p hp
  obtain ⟨he, hd⟩ := h p hp
  simp only [RefCount.Holds, he, hd]

theorem inflightRegCount_congr (hrob : c'.ROB = c.ROB)
    (h : ∀ p ∈ c.ROB, (c'.robEntry p).executed = (c.robEntry p).executed ∧
      (c'.robEntry p).isMemory = (c.robEntry p).isMemory) :
    inflightRegCount c' = inflightRegCount c := by
  unfold inflightRegCount
  rw [hrob]
  apply List.countP_congr
  intro p hp
  obtain ⟨he, hm⟩ := h p hp
  simp only [he, hm]

theorem DepInv.of_sameDeps (hi : DepInv cfg c) (hrob : c'.ROB = c.ROB)
    (hready : c'.readyToExecute = c.readyToExecute)
    (hcount : c'.inflightRegExecutions = c.inflightRegExecutions)
    (hsame : ∀ p, SameDeps (c.robEntry p) (c'.robEntry p)) : DepInv cfg c' := by
  have hprod : ∀ d, producers c' d = producers c d :=
    producers_congr hrob fun p _ => ⟨by rw [inFlight, inFlight, (hsame p).executed],
      (hsame p).dependents⟩
  have hlisted : ∀ d, Listed c' d ↔ Listed c d := by
    intro d
    simp only [Listed, hrob, (hsame _).dependents]
  constructor
  · rw [hrob]; exact hi.sorted
  · rw [hrob]; exact hi.length_le
  · intro p hp d hd
    rw [hrob] at hp ⊢
    rw [(hsame p).dependents] at hd
    exact hi.dependent_younger p hp d hd
  · intro p hp
    rw [hrob] at hp
    rw [(hsame p).dependents]
    exact hi.dependents_nodup p hp
  · intro d hd
    rw [hrob] at hd
    rw [(hsame d).numRegDependent, hprod]
    exact hi.count_eq d hd
  · intro d hd hs
    rw [hrob] at hd
    rw [(hsame d).scheduled] at hs
    rw [(hsame d).executed, hlisted]
    exact hi.unscheduled d hd hs
  · intro d hd he
    rw [hrob] at hd
    rw [(hsame d).executed] at he
    rw [(hsame d).numRegDependent]
    exact hi.started d hd he
  · intro d hd
    rw [hready] at hd
    rw [hrob, (hsame d).isMemory, (hsame d).scheduled, (hsame d).numRegDependent,
      (hsame d).executed]
    exact hi.ready d hd
  · rw [hready]; exact hi.ready_nodup
  · intro d hd hm hs hn
    rw [hrob] at hd
    rw [(hsame d).isMemory] at hm
    rw [(hsame d).scheduled] at hs
    rw [(hsame d).numRegDependent] at hn
    rw [hready, (hsame d).executed]
    exact hi.awake d hd hm hs hn
  · rw [hcount, inflightRegCount_congr hrob fun p _ => ⟨(hsame p).executed, (hsame p).isMemory⟩]
    exact hi.inflight_eq

theorem sameDeps_updateEntry {id : Nat} {f : OooModelInstr → OooModelInstr}
    (hf : SameDeps (c.robEntry id) (f (c.robEntry id))) (q : Nat) :
    SameDeps (c.robEntry q) ((updateEntry c id f).robEntry q) := by
  rw [robEntry_updateEntry]
  split
  · next h =>
    subst h
    exact hf
  · exact SameDeps.refl _

theorem DepInv.tick (hi : DepInv cfg c) :
    DepInv cfg { c with currentCycle := c.currentCycle + 1 } :=
  hi.of_sameDeps rfl rfl rfl fun _ => SameDeps.refl _

theorem DepInv.completeWarmup (hi : DepInv cfg c) : DepInv cfg { c with warmupComplete := true } :=
  hi.of_sameDeps rfl rfl rfl fun _ => SameDeps.refl _

theorem DepInv.of_memoryReturn {id : Nat} (h : memoryReturn c id = some c') (hi : DepInv cfg c) :
    DepInv cfg c' := by
  unfold memoryReturn at h
  split at h
  · cases h
  dsimp only at h
  have hup : DepInv cfg (updateEntry c id fun r =>
      { r with numMemOps := r.numMemOps - 1, eventCycle := c.currentCycle }) :=
    hi.of_sameDeps rfl rfl rfl (sameDeps_updateEntry ⟨rfl, rfl, rfl, rfl, rfl⟩)
  split at h
  · cases h
  split at h
  · cases h
    exact hup.of_sameDeps rfl rfl rfl fun _ => SameDeps.refl _
  · cases h
    exact hup

/-- An instruction as `init_instruction` hands it on: not yet scheduled or executed, and with
no dependences. -/
structure Fresh (instr : OooModelInstr) : Prop where
  scheduled : instr.scheduled = 0
  executed : instr.executed = 0
  numRegDependent : instr.numRegDependent = 0
  dependents : instr.registersInstrsDependOnMe = []

theorem not_listed_of_not_mem (hi : DepInv cfg c) {d : Nat} (hd : d ∉ c.ROB) : ¬ Listed c d := by
  rintro ⟨p, hp, hdp⟩
  exact hd (hi.dependent_younger p hp d hdp).2

theorem dispatch_of_room {instr : OooModelInstr} (hroom : c.ROB.length < cfg.ROB_SIZE) :
    dispatch cfg c instr =
      { c with
        ROB := c.ROB ++ [instr.instrId]
        robEntry := Function.update c.robEntry instr.instrId instr } :=
  if_pos hroom

theorem DepInv.dispatch (hi : DepInv cfg c) {instr : OooModelInstr} (hfresh : Fresh instr)
    (hyoung : ∀ p ∈ c.ROB, p < instr.instrId) : DepInv cfg (dispatch cfg c instr) := by
  by_cases hroom : c.ROB.length < cfg.ROB_SIZE
  case neg =>
    rw [O3Backend.dispatch, if_neg hroom]
    exact hi
  set x := instr.instrId
  set c' := O3Backend.dispatch cfg c instr with hc'
  rw [dispatch_of_room hroom] at hc'
  have hrob : c'.ROB = c.ROB ++ [x] := by rw [hc']
  have hq : c'.readyToExecute = c.readyToExecute := by rw [hc']
  have hcnt : c'.inflightRegExecutions = c.inflightRegExecutions := by rw [hc']
  have hx : x ∉ c.ROB := fun h => Nat.lt_irrefl x (hyoung x h)
  have hold : ∀ p ∈ c.ROB, c'.robEntry p = c.robEntry p := fun p hp => by
    have hpx : p ≠ x := fun h => hx (h ▸ hp)
    rw [hc']
    exact Function.update_of_ne hpx _ _
  have hnew : c'.robEntry x = instr := by
    rw [hc']
    exact Function.update_self _ _ _
  have hmem : ∀ {p}, p ∈ c'.ROB ↔ p ∈ c.ROB ∨ p = x := by simp [hrob]
  -- the new entry lists no dependent and is listed by none
  have hprod : ∀ d, producers c' d = producers c d := by
    intro d
    unfold producers
    rw [hrob, RefCount.holders_append]
    have hpre : RefCount.holders inFlight (·.registersInstrsDependOnMe) c.ROB c'.robEntry d =
        RefCount.holders inFlight (·.registersInstrsDependOnMe) c.ROB c.robEntry d :=
      RefCount.holders_congr fun p hp => by rw [hold p hp]
    rw [hpre]
    simp [RefCount.holders, RefCount.Holds, hnew, hfresh.dependents]
  have hprodx : producers c x = 0 :=
    RefCount.holders_eq_zero_iff.mpr fun p hp h => hx (hi.dependent_younger p hp x h.2).2
  have hlisted : ∀ d, Listed c' d → Listed c d := by
    rintro d ⟨p, hp, hdp⟩
    rcases hmem.mp hp with hp | rfl
    · rw [hold p hp] at hdp
      exact ⟨p, hp, hdp⟩
    · simp [hnew, hfresh.dependents] at hdp
  constructor
  · rw [hrob]
    refine List.pairwise_append.mpr ⟨hi.sorted, List.pairwise_singleton _ _, ?_⟩
    intro a ha b hb
    rw [List.mem_singleton] at hb
    exact hb ▸ hyoung a ha
  · rw [hrob, List.length_append, List.length_singleton]
    omega
  · intro p hp d hd
    rcases hmem.mp hp with hp | rfl
    · rw [hold p hp] at hd
      obtain ⟨hlt, hd⟩ := hi.dependent_younger p hp d hd
      exact ⟨hlt, hmem.mpr (Or.inl hd)⟩
    · simp [hnew, hfresh.dependents] at hd
  · intro p hp
    rcases hmem.mp hp with hp | rfl
    · rw [hold p hp]
      exact hi.dependents_nodup p hp
    · simp [hnew, hfresh.dependents]
  · intro d hd
    rw [hprod]
    rcases hmem.mp hd with hd | rfl
    · rw [hold d hd]
      exact hi.count_eq d hd
    · rw [hnew, hfresh.numRegDependent, hprodx]
      rfl
  · intro d hd hs
    rcases hmem.mp hd with hd | rfl
    · rw [hold d hd] at hs ⊢
      obtain ⟨he, hnot⟩ := hi.unscheduled d hd hs
      exact ⟨he, fun hl => hnot (hlisted d hl)⟩
    · rw [hnew]
      exact ⟨hfresh.executed, fun hl => not_listed_of_not_mem hi hx (hlisted _ hl)⟩
  · intro d hd he
    rcases hmem.mp hd with hd | rfl
    · rw [hold d hd] at he ⊢
      exact hi.started d hd he
    · rw [hnew] at he
      exact absurd hfresh.executed he
  · intro d hd
    rw [hq] at hd
    obtain ⟨hdrob, hrest⟩ := hi.ready d hd
    rw [hold d hdrob]
    exact ⟨hmem.mpr (Or.inl hdrob), hrest⟩
  · rw [hq]
    exact hi.ready_nodup
  · intro d hd hm hs hn
    rw [hq]
    rcases hmem.mp hd with hd | rfl
    · rw [hold d hd] at hm hs hn ⊢
      exact hi.awake d hd hm hs hn
    · rw [hnew, hfresh.scheduled] at hs
      cases hs
  · have hcount : inflightRegCount c' = inflightRegCount c := by
      unfold inflightRegCount
      rw [hrob, List.countP_append]
      have hpre : (c.ROB.countP fun p => !(c'.robEntry p).isMemory &&
          (c'.robEntry p).executed == INFLIGHT) =
          c.ROB.countP fun p => !(c.robEntry p).isMemory && (c.robEntry p).executed == INFLIGHT :=
        List.countP_congr fun p hp => by rw [hold p hp]
      rw [hpre]
      simp [hnew, hfresh.executed, INFLIGHT]
    rw [hcount, hcnt]
    exact hi.inflight_eq

theorem DepInv.popFront (hi : DepInv cfg c) {id : Nat} {rest : List Nat} (hrob : c.ROB = id :: rest)
    (hdone : (c.robEntry id).executed = COMPLETED) : DepInv cfg { c with ROB := rest } := by
  have hsorted := hi.sorted
  rw [hrob, List.pairwise_cons] at hsorted
  have hsub : ∀ {p}, p ∈ rest → p ∈ c.ROB := fun hp => hrob ▸ List.mem_cons_of_mem id hp
  have hprod : ∀ d, producers { c with ROB := rest } d = producers c d := by
    intro d
    unfold producers
    simp only [hrob, RefCount.holders_cons, RefCount.Holds, inFlight, hdone]
    simp
  constructor
  · exact hsorted.2
  · have := hi.length_le
    rw [hrob, List.length_cons] at this
    exact Nat.le_of_succ_le this
  · intro p hp d hd
    obtain ⟨hlt, hdrob⟩ := hi.dependent_younger p (hsub hp) d hd
    rw [hrob] at hdrob
    rcases List.mem_cons.mp hdrob with rfl | hd
    · exact absurd (hsorted.1 p hp) (Nat.lt_asymm hlt)
    · exact ⟨hlt, hd⟩
  · exact fun p hp => hi.dependents_nodup p (hsub hp)
  · intro d hd
    rw [hprod]
    exact hi.count_eq d (hsub hd)
  · intro d hd hs
    obtain ⟨he, hnot⟩ := hi.unscheduled d (hsub hd) hs
    refine ⟨he, ?_⟩
    rintro ⟨p, hp, hdp⟩
    exact hnot ⟨p, hsub hp, hdp⟩
  · exact fun d hd => hi.started d (hsub hd)
  · intro d hd
    obtain ⟨hdrob, hrest⟩ := hi.ready d hd
    rw [hrob] at hdrob
    rcases List.mem_cons.mp hdrob with rfl | hd
    · rw [hrest.2.2.2] at hdone
      cases hdone
    · exact ⟨hd, hrest⟩
  · exact hi.ready_nodup
  · exact fun d hd => hi.awake d (hsub hd)
  · have hcount : inflightRegCount { c with ROB := rest } = inflightRegCount c := by
      unfold inflightRegCount
      simp [hrob, hdone, COMPLETED, INFLIGHT]
    rw [hcount]
    exact hi.inflight_eq

theorem DepInv.retireLoop (storeAccepted : Nat → Bool) :
    ∀ (fuel : Nat) {c : O3Backend}, DepInv cfg c → DepInv cfg (retireLoop storeAccepted fuel c)
  | 0, c, hi => hi
  | fuel + 1, c, hi => by
    unfold O3Backend.retireLoop
    split
    · exact hi
    · next id rest hrob =>
      dsimp only
      split
      · exact hi
      · next hdone =>
        split
        · exact hi
        · exact DepInv.retireLoop storeAccepted fuel (hi.popFront hrob (not_not.mp hdone))

theorem inflightRegCount_le (c : O3Backend) : inflightRegCount c ≤ c.ROB.length :=
  List.countP_le_length

theorem DepInv.nodup (hi : DepInv cfg c) : c.ROB.Nodup :=
  hi.sorted.imp Nat.ne_of_lt

section Bounded

-- the counters are `uint32_t`: a ROB that fits in them keeps them from wrapping
variable (hsize : cfg.ROB_SIZE < 2 ^ 32)
include hsize

theorem DepInv.execute (hi : DepInv cfg c) {id : Nat} {rest : List Nat} {v : OooModelInstr}
    (hq : c.readyToExecute = id :: rest)
    (hrob : c'.ROB = c.ROB) (hent : c'.robEntry = Function.update c.robEntry id v)
    (hready : c'.readyToExecute = rest)
    (hcnt : c'.inflightRegExecutions = c.inflightRegExecutions + 1)
    (hexec : v.executed = INFLIGHT) (hvs : v.scheduled = (c.robEntry id).scheduled)
    (hvn : v.numRegDependent = (c.robEntry id).numRegDependent)
    (hvm : v.isMemory = (c.robEntry id).isMemory)
    (hvd : v.registersInstrsDependOnMe = (c.robEntry id).registersInstrsDependOnMe) :
    DepInv cfg c' := by
  obtain ⟨hid, hmem, hsch, hn, hex⟩ := hi.ready id (hq ▸ List.mem_cons_self)
  have hnd := hi.ready_nodup
  rw [hq, List.nodup_cons] at hnd
  have hother : ∀ q, q ≠ id → c'.robEntry q = c.robEntry q := fun q hq => by
    rw [hent, Function.update_of_ne hq]
  have hself : c'.robEntry id = v := by rw [hent, Function.update_self]
  -- only `executed` changes, from `0` to `INFLIGHT`, and the entry stays in flight
  have hdep := field_update_of_eq OooModelInstr.registersInstrsDependOnMe hent hvd
  have hcount := field_update_of_eq OooModelInstr.numRegDependent hent hvn
  have hsched := field_update_of_eq OooModelInstr.scheduled hent hvs
  have hflight := field_update_of_eq inFlight hent
    (by simp [inFlight, hexec, hex, INFLIGHT, COMPLETED])
  have hprod : ∀ d, producers c' d = producers c d :=
    producers_congr hrob fun p _ => ⟨hflight p, hdep p⟩
  have hlisted : ∀ d, Listed c' d ↔ Listed c d := fun d => by
    simp only [Listed, hrob, hdep]
  constructor
  · rw [hrob]
    exact hi.sorted
  · rw [hrob]
    exact hi.length_le
  · intro p hp d hd
    rw [hrob] at hp ⊢
    rw [hdep] at hd
    exact hi.dependent_younger p hp d hd
  · intro p hp
    rw [hrob] at hp
    rw [hdep]
    exact hi.dependents_nodup p hp
  · intro d hd
    rw [hrob] at hd
    rw [hprod, hcount]
    exact hi.count_eq d hd
  · intro d hd hs
    rw [hrob] at hd
    rw [hsched] at hs
    have hdid : d ≠ id := fun h => by
      rw [h, hsch] at hs
      cases hs
    rw [hother d hdid, hlisted]
    exact hi.unscheduled d hd hs
  · intro d hd he
    rw [hrob] at hd
    rw [hcount]
    by_cases hdid : d = id
    · rw [hdid]
      exact hn
    · rw [hother d hdid] at he
      exact hi.started d hd he
  · intro d hd
    rw [hready] at hd
    have hdid : d ≠ id := fun h => hnd.1 (h ▸ hd)
    rw [hother d hdid, hrob]
    exact hi.ready d (hq ▸ List.mem_cons_of_mem id hd)
  · rw [hready]
    exact hnd.2
  · intro d hd hm hs hn'
    rw [hrob] at hd
    by_cases hdid : d = id
    · subst hdid
      right
      rw [hself, hexec]
      decide
    · rw [hother d hdid] at hm hs hn' ⊢
      rw [hready]
      rcases hi.awake d hd hm hs hn' with hr | he
      · rw [hq] at hr
        exact Or.inl ((List.mem_cons.mp hr).resolve_left hdid)
      · exact Or.inr he
  · -- the entry starts executing: one more non-memory entry in flight
    have hcount : inflightRegCount c' = inflightRegCount c + 1 := by
      have h := RefCount.countP_comp_update hi.nodup hid c.robEntry v
        fun e => !e.isMemory && e.executed == INFLIGHT
      simp only [hvm, hexec, hmem, hex] at h
      unfold inflightRegCount
      rw [hrob, hent]
      simp only [INFLIGHT] at h ⊢
      simpa using h
    have hle : inflightRegCount c' ≤ cfg.ROB_SIZE := by
      have := inflightRegCount_le c'
      rw [hrob] at this
      exact Nat.le_trans this hi.length_le
    rw [hcnt, hcount, UInt32.toNat_add, hi.inflight_eq]
    simp only [UInt32.reduceToNat]
    omega

theorem DepInv.executeLoop : ∀ (fuel : Nat) {c : O3Backend}, DepInv cfg c →
    DepInv cfg (executeLoop cfg fuel c)
  | 0, c, hi => hi
  | fuel + 1, c, hi => by
    unfold O3Backend.executeLoop
    split
    · exact hi
    · next id rest hq =>
      exact DepInv.executeLoop fuel (hi.execute hsize hq rfl rfl rfl rfl rfl rfl rfl rfl rfl)

end Bounded

theorem DepInv.memorySchedule (hi : DepInv cfg c) {id : Nat} {v : OooModelInstr}
    (hid : id ∈ c.ROB) (hm : (c.robEntry id).isMemory = true)
    (hn : (c.robEntry id).numRegDependent = 0)
    (hrob : c'.ROB = c.ROB) (hent : c'.robEntry = Function.update c.robEntry id v)
    (hready : c'.readyToExecute = c.readyToExecute)
    (hcnt : c'.inflightRegExecutions = c.inflightRegExecutions)
    (hvs : v.scheduled = COMPLETED)
    (hve : v.executed =
      if (c.robEntry id).executed = 0 then INFLIGHT else (c.robEntry id).executed)
    (hvn : v.numRegDependent = (c.robEntry id).numRegDependent)
    (hvm : v.isMemory = (c.robEntry id).isMemory)
    (hvd : v.registersInstrsDependOnMe = (c.robEntry id).registersInstrsDependOnMe) :
    DepInv cfg c' := by
  have hother : ∀ q, q ≠ id → c'.robEntry q = c.robEntry q := fun q hq => by
    rw [hent, Function.update_of_ne hq]
  have hself : c'.robEntry id = v := by rw [hent, Function.update_self]
  have hflight : inFlight v = inFlight (c.robEntry id) := by
    unfold inFlight
    rw [hve]
    split
    · next h => rw [h]; decide
    · rfl
  have hdep := field_update_of_eq OooModelInstr.registersInstrsDependOnMe hent hvd
  have hcount := field_update_of_eq OooModelInstr.numRegDependent hent hvn
  have hprod : ∀ d, producers c' d = producers c d :=
    producers_congr hrob fun p _ => ⟨field_update_of_eq inFlight hent hflight p, hdep p⟩
  have hlisted : ∀ d, Listed c' d ↔ Listed c d := fun d => by
    simp only [Listed, hrob, hdep]
  -- the queue holds no memory entry, so not this one
  have hnq : id ∉ c.readyToExecute := fun h => by
    rw [(hi.ready id h).2.1] at hm
    cases hm
  constructor
  · rw [hrob]
    exact hi.sorted
  · rw [hrob]
    exact hi.length_le
  · intro p hp d hd
    rw [hrob] at hp ⊢
    rw [hdep] at hd
    exact hi.dependent_younger p hp d hd
  · intro p hp
    rw [hrob] at hp
    rw [hdep]
    exact hi.dependents_nodup p hp
  · intro d hd
    rw [hrob] at hd
    rw [hprod, hcount]
    exact hi.count_eq d hd
  · intro d hd hs
    rw [hrob] at hd
    by_cases hdid : d = id
    · subst hdid
      rw [hself, hvs] at hs
      cases hs
    · rw [hother d hdid] at hs ⊢
      rw [hlisted]
      exact hi.unscheduled d hd hs
  · intro d hd he
    rw [hrob] at hd
    rw [hcount]
    by_cases hdid : d = id
    · rw [hdid]
      exact hn
    · rw [hother d hdid] at he
      exact hi.started d hd he
  · intro d hd
    rw [hready] at hd
    have hdid : d ≠ id := fun h => hnq (h ▸ hd)
    rw [hother d hdid, hrob]
    exact hi.ready d hd
  · rw [hready]
    exact hi.ready_nodup
  · intro d hd hm' hs hn'
    rw [hrob] at hd
    by_cases hdid : d = id
    · subst hdid
      rw [hself, hvm, hm] at hm'
      cases hm'
    · rw [hother d hdid] at hm' hs hn' ⊢
      rw [hready]
      exact hi.awake d hd hm' hs hn'
  · have hcount : inflightRegCount c' = inflightRegCount c := by
      unfold inflightRegCount
      rw [hrob]
      refine List.countP_congr fun p _ => ?_
      by_cases hp : p = id
      · subst hp
        rw [hself, hvm, hm]
        simp
      · rw [hother p hp]
    rw [hcount, hcnt]
    exact hi.inflight_eq

theorem DepInv.scheduleMemoryLoop (lsqRoom : Nat → Bool) :
    ∀ (ids : List Nat) (searchBw : Nat) {c : O3Backend}, (∀ id ∈ ids, id ∈ c.ROB) →
      DepInv cfg c → DepInv cfg (scheduleMemoryLoop lsqRoom ids searchBw c) ∧
        (scheduleMemoryLoop lsqRoom ids searchBw c).ROB = c.ROB
  | [], _, c, _, hi => ⟨hi, rfl⟩
  | id :: ids, searchBw, c, hids, hi => by
    unfold O3Backend.scheduleMemoryLoop
    split
    · exact ⟨hi, rfl⟩
    dsimp only
    have hid : id ∈ c.ROB := hids id List.mem_cons_self
    -- one iteration keeps the invariant and the ROB
    have hstep : ∀ c₁ : O3Backend, c₁ = (if (c.robEntry id).isMemory = true ∧
        (c.robEntry id).numRegDependent = 0 ∧ (c.robEntry id).scheduled = INFLIGHT then
          doMemoryScheduling c (lsqRoom id) id else c) → DepInv cfg c₁ ∧ c₁.ROB = c.ROB := by
      rintro c₁ rfl
      split
      · next hcond =>
        unfold doMemoryScheduling
        split
        · exact ⟨hi.memorySchedule hid hcond.1 hcond.2.1 rfl rfl rfl rfl rfl rfl rfl rfl rfl, rfl⟩
        · exact ⟨hi, rfl⟩
      · exact ⟨hi, rfl⟩
    obtain ⟨hi₁, hrob₁⟩ := hstep _ rfl
    obtain ⟨hi₂, hrob₂⟩ := DepInv.scheduleMemoryLoop lsqRoom ids _
      (fun id' hid' => hrob₁ ▸ hids id' (List.mem_cons_of_mem id hid')) hi₁
    exact ⟨hi₂, hrob₂.trans hrob₁⟩

end O3Backend

end MindPalace.ChampSim
