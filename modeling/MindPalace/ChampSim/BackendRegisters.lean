import Mathlib
import MindPalace.ChampSim.BackendCompletion

/-! # Source registers wait for their producers

An instruction reads a register from the youngest older entry that writes it (`lastWriter`).
While that entry is in flight, `do_scheduling` finds it and lists the reader among its
dependents (`RegInv`), and a reader with a dependence left does not start: no instruction starts
before the producers of its source registers have completed.
-/

namespace MindPalace.ChampSim

namespace O3Backend

variable {cfg : BackendConfig} {c c' : O3Backend}

def lastWriter (c : O3Backend) (id : Nat) (reg : UInt8) : Option Nat :=
  (olderThan c id).find? fun p => (c.robEntry p).destinationRegisters.contains reg

/-- `id` waits for the producer of `reg`: that producer has completed or lists `id`. -/
def WaitsOn (c : O3Backend) (id : Nat) (reg : UInt8) : Prop :=
  reg ≠ 0 → ∀ w, lastWriter c id reg = some w →
    (c.robEntry w).executed = COMPLETED ∨ id ∈ (c.robEntry w).registersInstrsDependOnMe

def RegInv (c : O3Backend) : Prop :=
  ∀ d ∈ c.ROB, (c.robEntry d).scheduled ≠ 0 → ∀ reg ∈ (c.robEntry d).sourceRegisters.toList, WaitsOn c d reg

/-- An entry that keeps its registers, stays completed once it has completed, and only gains
dependents. -/
structure EntryGrows (e e' : OooModelInstr) : Prop where
  sources : e'.sourceRegisters = e.sourceRegisters
  destinations : e'.destinationRegisters = e.destinationRegisters
  completed : e.executed = COMPLETED → e'.executed = COMPLETED
  dependents : e.registersInstrsDependOnMe ⊆ e'.registersInstrsDependOnMe

theorem EntryGrows.refl (e : OooModelInstr) : EntryGrows e e :=
  ⟨rfl, rfl, fun h => h, List.Subset.refl _⟩

theorem EntryGrows.trans {e₁ e₂ e₃ : OooModelInstr} (h₁ : EntryGrows e₁ e₂) (h₂ : EntryGrows e₂ e₃) :
    EntryGrows e₁ e₃ :=
  ⟨h₂.sources.trans h₁.sources, h₂.destinations.trans h₁.destinations, h₂.completed ∘ h₁.completed,
    List.Subset.trans h₁.dependents h₂.dependents⟩

theorem entryGrows_updateEntry {id : Nat} {f : OooModelInstr → OooModelInstr}
    (hf : EntryGrows (c.robEntry id) (f (c.robEntry id))) (p : Nat) :
    EntryGrows (c.robEntry p) ((updateEntry c id f).robEntry p) := by
  by_cases hp : p = id
  · subst hp
    rw [robEntry_updateEntry_self]
    exact hf
  · rw [robEntry_updateEntry_of_ne _ hp]
    exact EntryGrows.refl _

theorem scheduled_updateEntry_of_eq {id : Nat} {f : OooModelInstr → OooModelInstr}
    (hf : (f (c.robEntry id)).scheduled = (c.robEntry id).scheduled) (p : Nat) :
    ((updateEntry c id f).robEntry p).scheduled = (c.robEntry p).scheduled := by
  rw [robEntry_updateEntry]
  split
  · next hp =>
    subst hp
    exact hf
  · rfl

theorem lastWriter_congr (hrob : c'.ROB = c.ROB)
    (h : ∀ p, (c'.robEntry p).destinationRegisters = (c.robEntry p).destinationRegisters)
    (id : Nat) (reg : UInt8) : lastWriter c' id reg = lastWriter c id reg := by
  unfold lastWriter olderThan
  rw [hrob]
  exact List.find?_congr fun p _ => by rw [h]

theorem WaitsOn.mono {id : Nat} {reg : UInt8} (hw : WaitsOn c id reg) (hrob : c'.ROB = c.ROB)
    (h : ∀ p, EntryGrows (c.robEntry p) (c'.robEntry p)) : WaitsOn c' id reg := by
  intro hreg w hlw
  rw [lastWriter_congr hrob (fun p => (h p).destinations)] at hlw
  rcases hw hreg w hlw with hc | hl
  · exact .inl ((h w).completed hc)
  · exact .inr ((h w).dependents hl)

theorem RegInv.mono (hr : RegInv c) (hrob : c'.ROB = c.ROB)
    (h : ∀ p, EntryGrows (c.robEntry p) (c'.robEntry p))
    (hs : ∀ d, (c'.robEntry d).scheduled ≠ 0 → (c.robEntry d).scheduled ≠ 0) : RegInv c' := by
  intro d hd hsch reg hreg
  rw [hrob] at hd
  rw [(h d).sources] at hreg
  exact (hr d hd (hs d hsch) reg hreg).mono hrob h

theorem RegInv.of_update (hr : RegInv c) {id : Nat} {v : OooModelInstr} (hrob : c'.ROB = c.ROB)
    (hent : c'.robEntry = Function.update c.robEntry id v) (hg : EntryGrows (c.robEntry id) v)
    (hs : v.scheduled ≠ 0 → (c.robEntry id).scheduled ≠ 0) : RegInv c' := by
  refine hr.mono hrob (fun p => ?_) (fun p => ?_) <;> rw [hent, Function.update_apply] <;> split
  · next hp =>
    subst hp
    exact hg
  · exact EntryGrows.refl _
  · next hp =>
    subst hp
    exact hs
  · exact fun h => h

section Scheduling

theorem mem_olderThan_of_lastWriter {id w : Nat} {reg : UInt8} (h : lastWriter c id reg = some w) :
    w ∈ olderThan c id :=
  List.mem_of_find?_eq_some h

theorem find?_willProduce {id w : Nat} {reg : UInt8} (h : lastWriter c id reg = some w)
    (hw : (c.robEntry w).executed ≠ COMPLETED) :
    (olderThan c id).find? (fun p => instrRegWillProduce reg (c.robEntry p)) = some w := by
  obtain ⟨hwr, as, bs, heq, has⟩ := List.find?_eq_some_iff_append.mp h
  refine List.find?_eq_some_iff_append.mpr ⟨?_, as, bs, heq, fun a ha => ?_⟩
  · rw [instrRegWillProduce, hwr, Bool.and_true, bne_iff_ne]
    exact hw
  · have hna := has a ha
    rw [Bool.not_eq_true'] at hna
    rw [instrRegWillProduce, hna, Bool.and_false]
    rfl

theorem markRegDependence_grows (c : O3Backend) (id : Nat) (reg : UInt8) :
    (markRegDependence c id reg).ROB = c.ROB ∧
      (∀ p, EntryGrows (c.robEntry p) ((markRegDependence c id reg).robEntry p)) ∧
      ∀ p, ((markRegDependence c id reg).robEntry p).scheduled = (c.robEntry p).scheduled := by
  unfold markRegDependence
  split
  · exact ⟨rfl, fun p => EntryGrows.refl _, fun _ => rfl⟩
  split
  · exact ⟨rfl, fun p => EntryGrows.refl _, fun _ => rfl⟩
  · next prior _ =>
    split
    · exact ⟨rfl, fun p => EntryGrows.refl _, fun _ => rfl⟩
    · dsimp only
      refine ⟨rfl, fun p => ?_, fun p => ?_⟩
      · refine (entryGrows_updateEntry ?_ p).trans (entryGrows_updateEntry ?_ p)
        · exact ⟨rfl, rfl, fun h => h, List.subset_append_left _ _⟩
        · exact ⟨rfl, rfl, fun h => h, List.Subset.refl _⟩
      · refine (scheduled_updateEntry_of_eq ?_ p).trans (scheduled_updateEntry_of_eq ?_ p) <;> rfl

theorem waitsOn_markRegDependence (c : O3Backend) (id : Nat) (reg : UInt8) :
    WaitsOn (markRegDependence c id reg) id reg := by
  obtain ⟨hrob, hgrow, -⟩ := markRegDependence_grows c id reg
  intro hreg w hlw
  rw [lastWriter_congr hrob (fun p => (hgrow p).destinations)] at hlw
  by_cases hw : (c.robEntry w).executed = COMPLETED
  · exact .inl ((hgrow w).completed hw)
  right
  have hwid : w ≠ id := (mem_of_mem_olderThan (mem_olderThan_of_lastWriter hlw)).2
  unfold markRegDependence
  rw [if_neg hreg, find?_willProduce hlw hw]
  dsimp only
  split
  · next hlast =>
    obtain ⟨ys, hys⟩ := List.getLast?_eq_some_iff.mp hlast
    rw [hys]
    exact List.mem_append_right _ (List.mem_singleton_self _)
  · rw [robEntry_updateEntry_of_ne _ hwid, robEntry_updateEntry_self]
    exact List.mem_append_right _ (List.mem_singleton_self _)

theorem markRegDependences_grows (id : Nat) : ∀ (regs : List UInt8) (c : O3Backend),
    (regs.foldl (markRegDependence · id ·) c).ROB = c.ROB ∧
      (∀ p, EntryGrows (c.robEntry p) ((regs.foldl (markRegDependence · id ·) c).robEntry p)) ∧
      (∀ p, ((regs.foldl (markRegDependence · id ·) c).robEntry p).scheduled = (c.robEntry p).scheduled) ∧
      ∀ reg ∈ regs, WaitsOn (regs.foldl (markRegDependence · id ·) c) id reg
  | [], c => ⟨rfl, fun _ => EntryGrows.refl _, fun _ => rfl, fun _ h => nomatch h⟩
  | reg :: regs, c => by
    obtain ⟨hrob₁, hgrow₁, hs₁⟩ := markRegDependence_grows c id reg
    obtain ⟨hrob, hgrow, hs, hwait⟩ := markRegDependences_grows id regs (markRegDependence c id reg)
    refine ⟨hrob.trans hrob₁, fun p => (hgrow₁ p).trans (hgrow p), fun p => (hs p).trans (hs₁ p),
      fun r hr => ?_⟩
    rcases List.mem_cons.mp hr with rfl | hr
    · exact (waitsOn_markRegDependence c id r).mono hrob hgrow
    · exact hwait r hr

theorem pushReady_eq_some {id : Nat} (h : pushReady c id = some c') :
    c' = { c with readyToExecute := c.readyToExecute ++ [id] } := by
  unfold pushReady at h
  split at h
  · exact (Option.some.inj h).symm
  · cases h

theorem RegInv.scheduleEntry (hr : RegInv c) {id : Nat} (h : scheduleEntry cfg c id = some c') :
    RegInv c' ∧ c'.ROB = c.ROB := by
  unfold O3Backend.scheduleEntry at h
  split at h
  · dsimp only at h
    obtain ⟨hrob₁, hgrow₁, hs₁, hwait⟩ :=
      markRegDependences_grows id (c.robEntry id).sourceRegisters.toList c
    set c₁ := (c.robEntry id).sourceRegisters.toList.foldl (markRegDependence · id ·) c
    -- the entry marked as scheduled, then perhaps queued: no entry's dependents change
    have hupd : ∀ p, EntryGrows (c₁.robEntry p) ((doScheduling cfg c id).robEntry p) := by
      unfold doScheduling
      dsimp only
      refine entryGrows_updateEntry ?_
      split <;> exact ⟨rfl, rfl, fun h => h, List.Subset.refl _⟩
    -- the entry marked as scheduled, then perhaps queued: no entry's dependents change
    have hent : ∀ p, c'.robEntry p = (doScheduling cfg c id).robEntry p ∧ c'.ROB = c₁.ROB := by
      split at h
      · rw [pushReady_eq_some h]
        exact fun _ => ⟨rfl, rfl⟩
      · cases h
        exact fun _ => ⟨rfl, rfl⟩
    have hgrow : ∀ p, EntryGrows (c₁.robEntry p) (c'.robEntry p) := fun p => by
      rw [(hent p).1]
      exact hupd p
    have hrob : c'.ROB = c.ROB := ((hent 0).2).trans hrob₁
    refine ⟨fun d hd hsch reg hreg => ?_, hrob⟩
    rw [hrob] at hd
    rw [hgrow d |>.sources, (hgrow₁ d).sources] at hreg
    by_cases hdid : d = id
    · subst hdid
      exact (hwait reg hreg).mono ((hent 0).2) hgrow
    · -- another entry keeps its scheduling, and grows
      have hsame : c'.robEntry d = c₁.robEntry d := by
        rw [(hent d).1]
        unfold doScheduling
        exact robEntry_updateEntry_of_ne _ hdid _
      have hsd : (c.robEntry d).scheduled ≠ 0 := by
        rwa [hsame, hs₁ d] at hsch
      exact (hr d hd hsd reg hreg).mono hrob fun p => (hgrow₁ p).trans (hgrow p)
  · cases h
    exact ⟨hr, rfl⟩

theorem RegInv.scheduleLoop : ∀ (ids : List Nat) (searchBw : Nat) {c c' : O3Backend}, RegInv c →
    O3Backend.scheduleLoop cfg ids searchBw c = some c' → RegInv c'
  | [], _, c, c', hr, h => by
    cases h
    exact hr
  | id :: ids, searchBw, c, c', hr, h => by
    unfold O3Backend.scheduleLoop at h
    split at h
    · cases h
      exact hr
    · obtain ⟨c₁, h₁, h⟩ := Option.bind_eq_some_iff.mp h
      exact RegInv.scheduleLoop ids _ (hr.scheduleEntry h₁).1 h

end Scheduling

theorem RegInv.congr (hr : RegInv c) (hrob : c'.ROB = c.ROB) (hent : c'.robEntry = c.robEntry) :
    RegInv c' :=
  hr.mono hrob (fun p => by rw [hent]; exact EntryGrows.refl _) (fun d => by rw [hent]; exact fun h => h)

theorem RegInv.scheduleMemoryLoop (lsqRoom : Nat → Bool) :
    ∀ (ids : List Nat) (searchBw : Nat) {c : O3Backend}, RegInv c →
      RegInv (scheduleMemoryLoop lsqRoom ids searchBw c)
  | [], _, c, hr => hr
  | id :: ids, searchBw, c, hr => by
    unfold O3Backend.scheduleMemoryLoop
    split
    · exact hr
    dsimp only
    refine RegInv.scheduleMemoryLoop lsqRoom ids _ ?_
    split
    · next hcond =>
      unfold doMemoryScheduling
      split
      · -- the entry was scheduled for the memory scheduler, and a completion stays
        refine hr.of_update rfl rfl ⟨rfl, rfl, fun h => ?_, List.Subset.refl _⟩ fun _ => ?_
        · simp [h, COMPLETED]
        · rw [hcond.2.2]
          decide
      · exact hr
    · exact hr

theorem RegInv.of_memoryReturn {id : Nat} (h : memoryReturn c id = some c') (hr : RegInv c) :
    RegInv c' := by
  unfold memoryReturn at h
  split at h
  · cases h
  dsimp only at h
  have hup : RegInv (updateEntry c id fun r =>
      { r with numMemOps := r.numMemOps - 1, eventCycle := c.currentCycle }) :=
    hr.of_update rfl rfl ⟨rfl, rfl, fun h => h, List.Subset.refl _⟩ fun h => h
  split at h
  · cases h
  split at h
  · cases h
    exact hup.congr rfl rfl
  · cases h
    exact hup

theorem foldlM_pushReady_entries : ∀ (D : List Nat) {c c' : O3Backend},
    D.foldlM (fun c dependent => if isReady c dependent then pushReady c dependent else some c) c =
      some c' → c'.ROB = c.ROB ∧ c'.robEntry = c.robEntry
  | [], c, c', h => by
    cases h
    exact ⟨rfl, rfl⟩
  | q :: D, c, c', h => by
    rw [List.foldlM_cons] at h
    obtain ⟨c₁, h₁, h⟩ := Option.bind_eq_some_iff.mp h
    obtain ⟨hrob, hent⟩ := foldlM_pushReady_entries D h
    have h₁' : c₁.ROB = c.ROB ∧ c₁.robEntry = c.robEntry := by
      split at h₁
      · rw [pushReady_eq_some h₁]
        exact ⟨rfl, rfl⟩
      · cases h₁
        exact ⟨rfl, rfl⟩
    exact ⟨hrob.trans h₁'.1, hent.trans h₁'.2⟩

theorem RegInv.complete (hi : DepInv cfg c) (hr : RegInv c) {id : Nat} (hid : id ∈ c.ROB)
    (hc : Completed c id c') : RegInv c' := by
  refine hr.mono hc.rob (fun p => ⟨hc.sources p, hc.destinations p, fun h => ?_, ?_⟩) (fun p hs => ?_)
  · rw [hc.executed]
    split
    · rfl
    · exact h
  · rw [hc.dependents]
    exact List.Subset.refl _
  · rw [hc.scheduled] at hs
    split at hs
    · next hq =>
      intro h0
      exact (hi.unscheduled p (hi.dependent_younger id hid p hq.1).2 h0).2 ⟨id, hid, hq.1⟩
    · exact hs

theorem RegInv.popFront (hi : DepInv cfg c) (hr : RegInv c) {id : Nat} {rest : List Nat}
    (hrob : c.ROB = id :: rest) : RegInv { c with ROB := rest } := by
  intro d hd hs reg hreg hreg0 w hw
  have hnd := hi.nodup
  rw [hrob, List.nodup_cons] at hnd
  have hdid : id ≠ d := fun h => hnd.1 (h ▸ hd)
  have hold : olderThan c d = olderThan { c with ROB := rest } d ++ [id] := by
    simp only [olderThan, hrob]
    rw [List.takeWhile_cons_of_pos (p := fun x => decide (x ≠ d)) (decide_eq_true hdid), List.reverse_cons]
  have hw₁ : (olderThan { c with ROB := rest } d).find?
      (fun p => (c.robEntry p).destinationRegisters.contains reg) = some w := hw
  have hw' : lastWriter c d reg = some w := by
    unfold lastWriter
    rw [hold, List.find?_append, hw₁]
    rfl
  exact hr d (hrob ▸ List.mem_cons_of_mem id hd) hs reg hreg hreg0 w hw'

theorem RegInv.retireLoop (storeAccepted : Nat → Bool) :
    ∀ (fuel : Nat) {c : O3Backend}, DepInv cfg c → RegInv c → RegInv (retireLoop storeAccepted fuel c)
  | 0, c, _, hr => hr
  | fuel + 1, c, hi, hr => by
    unfold O3Backend.retireLoop
    split
    · exact hr
    · next id rest hrob =>
      dsimp only
      split
      · exact hr
      · next hdone =>
        split
        · exact hr
        · exact RegInv.retireLoop storeAccepted fuel (hi.popFront hrob (not_not.mp hdone))
            (hr.popFront hi hrob)

theorem takeWhile_ne_append {l : List Nat} {d : Nat} (hd : d ∈ l) (m : List Nat) :
    (l ++ m).takeWhile (fun q => decide (q ≠ d)) = l.takeWhile (fun q => decide (q ≠ d)) := by
  induction l with
  | nil => cases hd
  | cons a l ih =>
    by_cases had : a = d
    · subst had
      simp
    · have hdl : d ∈ l := (List.mem_cons.mp hd).resolve_left fun h => had h.symm
      rw [List.cons_append, List.takeWhile_cons_of_pos (p := fun q => decide (q ≠ d)) (decide_eq_true had),
        List.takeWhile_cons_of_pos (p := fun q => decide (q ≠ d)) (decide_eq_true had), ih hdl]

theorem RegInv.dispatch (hr : RegInv c) {instr : OooModelInstr} (hfresh : Fresh instr)
    (hyoung : ∀ p ∈ c.ROB, p < instr.instrId) : RegInv (dispatch cfg c instr) := by
  by_cases hroom : c.ROB.length < cfg.ROB_SIZE
  case neg =>
    rw [O3Backend.dispatch, if_neg hroom]
    exact hr
  rw [dispatch_of_room hroom]
  have hx : instr.instrId ∉ c.ROB := fun h => Nat.lt_irrefl _ (hyoung _ h)
  have hold : ∀ p ∈ c.ROB, Function.update c.robEntry instr.instrId instr p = c.robEntry p :=
    fun p hp => Function.update_of_ne (show p ≠ instr.instrId from fun h => hx (h ▸ hp)) _ _
  intro d hd hs reg hreg hreg0 w hw
  dsimp only at hd hs hreg hw ⊢
  rcases List.mem_append.mp hd with hd | hd
  · have hw' : lastWriter c d reg = some w := by
      unfold lastWriter olderThan at hw ⊢
      dsimp only at hw
      rw [takeWhile_ne_append hd] at hw
      rw [← hw]
      refine List.find?_congr fun p hp => ?_
      rw [hold p ((List.takeWhile_sublist _).subset (List.mem_reverse.mp hp))]
    have hwrob := (mem_of_mem_olderThan (mem_olderThan_of_lastWriter hw')).1
    rw [hold d hd] at hs hreg
    rw [hold w hwrob]
    exact hr d hd hs reg hreg hreg0 w hw'
  · rw [List.mem_singleton.mp hd, Function.update_self] at hs
    exact absurd hfresh.scheduled hs

theorem RegInv.completeLoop : ∀ (ids : List Nat) (completeBw : Nat) {c c' : O3Backend},
    (∀ id ∈ ids, id ∈ c.ROB) → DepInv cfg c → RegInv c →
      O3Backend.completeLoop cfg ids completeBw c = some c' → RegInv c'
  | [], _, c, c', _, _, hr, h => by
    cases h
    exact hr
  | id :: ids, completeBw, c, c', hids, hi, hr, h => by
    unfold O3Backend.completeLoop at h
    have hid : id ∈ c.ROB := hids id List.mem_cons_self
    have hrest : ∀ id' ∈ ids, id' ∈ c.ROB := fun id' h => hids id' (List.mem_cons_of_mem id h)
    split at h
    · cases h
      exact hr
    dsimp only at h
    split at h
    · next hcond =>
      obtain ⟨c₁, h₁, h⟩ := Option.bind_eq_some_iff.mp h
      obtain ⟨c₂, h₂, h⟩ := Option.bind_eq_some_iff.mp h
      -- the completion, then the pushes of the dependents made ready
      obtain ⟨c₁', c₂', h₁', h₂', hi₂, hrob₂⟩ := hi.completeEntry hid hcond.1
      obtain ⟨c₁'', h₁'', hc, -⟩ := hi.doCompleteExecution hid hcond.1
      cases h₁.symm.trans h₁'
      cases h₁.symm.trans h₁''
      cases h₂.symm.trans h₂'
      obtain ⟨hrobq, hentq⟩ := foldlM_pushReady_entries _ h₂
      have hr₂ : RegInv c₂ := (hr.complete hi hid hc).congr hrobq hentq
      exact RegInv.completeLoop ids (completeBw - 1) (fun id' h => hrob₂ ▸ hrest id' h) hi₂ hr₂ h
    · exact RegInv.completeLoop ids completeBw hrest hi hr h

theorem RegInv.completeInflightInstruction (hi : DepInv cfg c) (hr : RegInv c)
    (h : O3Backend.completeInflightInstruction cfg c = some c') : RegInv c' := by
  unfold O3Backend.completeInflightInstruction at h
  split at h
  · exact RegInv.completeLoop c.ROB cfg.EXEC_WIDTH (fun _ h => h) hi hr h
  · cases h
    exact hr

theorem RegInv.init : RegInv init := fun _ h => absurd h List.not_mem_nil

section Starting

variable (hsize : cfg.ROB_SIZE < 2 ^ 32)
include hsize

theorem RegInv.executeLoop : ∀ (fuel : Nat) {c : O3Backend}, DepInv cfg c → RegInv c →
    RegInv (executeLoop cfg fuel c)
  | 0, c, _, hr => hr
  | fuel + 1, c, hi, hr => by
    unfold O3Backend.executeLoop
    split
    · exact hr
    · next id rest hq =>
      have hex := (hi.ready id (hq ▸ List.mem_cons_self)).2.2.2.2
      refine RegInv.executeLoop fuel (hi.execute hsize hq rfl rfl rfl rfl rfl rfl rfl rfl rfl) ?_
      refine hr.of_update rfl rfl ?_ (fun h => h)
      exact ⟨rfl, rfl, fun h => absurd (hex.symm.trans h) (by decide), List.Subset.refl _⟩

theorem RegInv.step (hi : DepInv cfg c) (hr : RegInv c) {op : BackendOp}
    (hdispatch : ∀ instr, op = .dispatch instr → Fresh instr ∧ ∀ p ∈ c.ROB, p < instr.instrId)
    (h : O3Backend.step cfg c op = some c') : RegInv c' := by
  cases op with
  | dispatch instr =>
    cases h
    obtain ⟨hfresh, hyoung⟩ := hdispatch instr rfl
    exact hr.dispatch hfresh hyoung
  | scheduleInstruction => exact hr.scheduleLoop c.ROB cfg.SCHEDULER_SIZE h
  | executeInstruction =>
    cases h
    exact RegInv.executeLoop hsize _ hi hr
  | scheduleMemoryInstruction lsqRoom =>
    cases h
    exact RegInv.scheduleMemoryLoop lsqRoom _ _ hr
  | memoryReturn id => exact RegInv.of_memoryReturn h hr
  | completeInflightInstruction => exact RegInv.completeInflightInstruction hi hr h
  | retireRob storeAccepted =>
    cases h
    exact RegInv.retireLoop storeAccepted _ hi hr
  | tick =>
    cases h
    exact hr
  | completeWarmup =>
    cases h
    exact hr

theorem RegInv.of_run {ops : List BackendOp} (hadm : Admissible ops)
    (h : O3Backend.run cfg O3Backend.init ops = some c) : DepInv cfg c ∧ RegInv c :=
  DepInv.run_induction hsize RegInv (fun hi hr hd h => hr.step hsize hi hd h) ops DepInv.init RegInv.init
    hadm (fun _ h => absurd h List.not_mem_nil) h

end Starting

theorem DepInv.not_listed_of_started (hi : DepInv cfg c) {d : Nat} (hd : d ∈ c.ROB)
    (he : (c.robEntry d).executed ≠ 0) {p : Nat} (hp : p ∈ olderThan c d)
    (hflight : inFlight (c.robEntry p) = true) : d ∉ (c.robEntry p).registersInstrsDependOnMe := by
  intro hdp
  have hzero := hi.started d hd he
  rw [hi.count_eq d hd] at hzero
  have hpos : 0 < producers c d := RefCount.holders_pos (mem_of_mem_olderThan hp).1 hflight hdp
  omega

/-- The register dependences of a state: each count is the number of older entries in flight
that list the entry, and no list repeats an entry; the queue holds, once each, entries that are
scheduled, not memory, free of dependences and not started, and every such entry is queued
unless it has started; a started entry is listed by no producer in flight, and the producers of
its source registers have completed; and the counter of register executions counts the
non-memory entries executing. -/
structure RegisterDependences (c : O3Backend) : Prop where
  count : ∀ d ∈ c.ROB, (c.robEntry d).numRegDependent = ((olderThan c d).countP fun p =>
    inFlight (c.robEntry p) && decide (d ∈ (c.robEntry p).registersInstrsDependOnMe) : Nat)
  dependents_nodup : ∀ d ∈ c.ROB, (c.robEntry d).registersInstrsDependOnMe.Nodup
  ready : ∀ d ∈ c.readyToExecute, (c.robEntry d).isMemory = false ∧
    (c.robEntry d).scheduled = COMPLETED ∧ (c.robEntry d).numRegDependent = 0 ∧
    (c.robEntry d).executed = 0
  ready_nodup : c.readyToExecute.Nodup
  awake : ∀ d ∈ c.ROB, (c.robEntry d).isMemory = false → (c.robEntry d).scheduled = COMPLETED →
    (c.robEntry d).numRegDependent = 0 → d ∈ c.readyToExecute ∨ (c.robEntry d).executed ≠ 0
  not_listed : ∀ d ∈ c.ROB, (c.robEntry d).executed ≠ 0 → ∀ p ∈ olderThan c d,
    inFlight (c.robEntry p) = true → d ∉ (c.robEntry p).registersInstrsDependOnMe
  producers_completed : ∀ d ∈ c.ROB, (c.robEntry d).executed ≠ 0 →
    ∀ reg ∈ (c.robEntry d).sourceRegisters.toList, reg ≠ 0 → ∀ w, lastWriter c d reg = some w →
      (c.robEntry w).executed = COMPLETED
  inflight : c.inflightRegExecutions.toNat = inflightRegCount c

def smallBackend : BackendConfig where
  ROB_SIZE := 4
  SCHEDULER_SIZE := 4
  EXEC_WIDTH := 2
  RETIRE_WIDTH := 2
  BRANCH_MISPREDICT_PENALTY := 1
  SCHEDULING_LATENCY := 0
  EXEC_LATENCY := 0

def producerConsumer : List BackendOp :=
  [.dispatch { instrId := 1,
                destinationRegisters :=
                  (Vector.replicate _ 0).set 0 5 NUM_INSTR_DESTINATIONS_SPARC_pos },
   .dispatch { instrId := 2, sourceRegisters := (Vector.replicate _ 0).set 0 5 NUM_INSTR_SOURCES_pos },
   .scheduleInstruction, .executeInstruction, .tick, .completeInflightInstruction,
   .scheduleInstruction, .executeInstruction]

/-- The reader of register 5 starts after its producer, instruction 1, has completed. -/
example : (O3Backend.run smallBackend O3Backend.init producerConsumer).map
    (fun c => ((c.robEntry 2).executed, lastWriter c 2 5, (c.robEntry 1).executed)) =
      some (INFLIGHT, some 1, COMPLETED) := by
  decide +kernel

end O3Backend

end MindPalace.ChampSim
