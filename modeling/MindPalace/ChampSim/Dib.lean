import MindPalace.ChampSim.LruUtil
import MindPalace.ChampSim.Instruction
import MindPalace.ChampSim.VirtualMemory

/-! # The decoded instruction buffer

The DIB of `O3_CPU` (`src/ooo_cpu.cc`): `do_dib_update` enters a decoded line over the entry
`std::max_element` picks, and `do_check_dib` completes a fetched instruction whose line is there.
Since `lru_updater` zeroes every entry sharing the updated one's value, the entries of a set never
differ in `lru`, and a full set always replaces its first way.
-/

namespace MindPalace.ChampSim

/-- `dib_entry_t`, with its default member initialisers. -/
structure DibEntry where
  valid : Bool := false
  lru : UInt32 := 999999
  address : Nat := 0
  deriving DecidableEq, Repr

instance : LruEntry DibEntry where
  valid e := e.valid
  lru e := e.lru
  setLru e v := { e with lru := v }
  valid_setLru _ _ := rfl
  lru_setLru _ _ := rfl

/-- `eq_addr<dib_entry_t>(val, shamt)`: a valid entry on the same line. -/
def DibEntry.eqAddr (val shamt : Nat) (e : DibEntry) : Bool :=
  e.valid && (e.address >>> shamt == val >>> shamt)

structure DibConfig where
  dibSet : Nat
  dibWay : Nat
  dibWindow : Nat

/-- The DIB, by set: the entries `DIB[set * dib_way]` to `DIB[set * dib_way + dib_way - 1]`. -/
structure Dib where
  sets : Nat → List DibEntry

namespace Dib

variable (cfg : DibConfig)

/-- `dib_t DIB{dib_set * dib_way}`: default entries. -/
def init : Dib where
  sets _ := List.replicate cfg.dibWay {}

def setIndex (ip : Nat) : Nat :=
  (ip >>> lg2 cfg.dibWindow) % cfg.dibSet

def setSet (d : Dib) (set : Nat) (ways : List DibEntry) : Dib where
  sets := Function.update d.sets set ways

/-- The search of `do_dib_update` in the entries of a set: the entry of the line, or else the
one `std::max_element` finds with `lru_comparator`, which takes the line. -/
def enterLine (ways : List DibEntry) (ip : Nat) : List DibEntry × Nat :=
  let found := ways.findIdx (DibEntry.eqAddr ip (lg2 cfg.dibWindow))
  if found = ways.length then
    let way := StdAlgorithm.maxElement LruEntry.lruComparator ways
    (ways.modify way fun e => { e with valid := true, address := ip }, way)
  else (ways, found)

/-- `do_dib_update(instr)`: enter the line, then `lru_updater` from its entry over the set.
`none` is the failed `assert(way != dib_set_end)`. -/
def doDibUpdate (d : Dib) (instr : OooModelInstr) : Option Dib :=
  let set := setIndex cfg instr.ip
  let (ways, way) := enterLine cfg (d.sets set) instr.ip
  match ways[way]? with
  | none => none
  | some e => some (d.setSet set (ways.map (LruEntry.lruUpdater e.lru)))

/-- `do_check_dib(instr)` at `current_cycle`: on a hit the instruction is complete up to
decode and ready now, and `lru_updater` runs from the hit entry over the set. -/
def doCheckDib (currentCycle : Nat) (d : Dib) (instr : OooModelInstr) : OooModelInstr × Dib :=
  let set := setIndex cfg instr.ip
  let ways := d.sets set
  match ways[ways.findIdx (DibEntry.eqAddr instr.ip (lg2 cfg.dibWindow))]? with
  | none => (instr, d)
  | some e =>
    ({ instr with
        translated := COMPLETED
        fetched := COMPLETED
        decoded := COMPLETED
        eventCycle := currentCycle },
      d.setSet set (ways.map (LruEntry.lruUpdater e.lru)))

inductive DibOp
  | update (instr : OooModelInstr)
  | check (currentCycle : Nat) (instr : OooModelInstr)

def step (d : Dib) : DibOp → Option Dib
  | .update instr => doDibUpdate cfg d instr
  | .check cycle instr => some (doCheckDib cfg cycle d instr).2

def run (d : Dib) : List DibOp → Option Dib
  | [] => some d
  | op :: ops => (step cfg d op).bind fun d => run d ops

/-! ### One `lru` value per set -/

def Uniform (d : Dib) : Prop :=
  ∀ set, ∀ e ∈ d.sets set, ∀ e' ∈ d.sets set, e.lru = e'.lru

theorem map_lru_modify (ways : List DibEntry) (way : Nat) (f : DibEntry → DibEntry)
    (hf : ∀ e, (f e).lru = e.lru) : (ways.modify way f).map DibEntry.lru = ways.map DibEntry.lru := by
  apply List.ext_getElem?
  intro i
  rw [List.getElem?_map, List.getElem?_map, List.getElem?_modify]
  cases ways[i]? with
  | none => rfl
  | some e =>
    simp only [Option.map_some, Functor.map]
    split <;> simp [hf]

theorem uniform_lruUpdater {ways : List DibEntry} {e : DibEntry} (he : e ∈ ways)
    (hu : ∀ x ∈ ways, ∀ y ∈ ways, x.lru = y.lru) :
    ∀ x ∈ ways.map (LruEntry.lruUpdater e.lru), ∀ y ∈ ways.map (LruEntry.lruUpdater e.lru),
      x.lru = y.lru := by
  have hzero := LruEntry.lru_map_lruUpdater_of_forall_eq (L := ways) (v := e.lru)
    fun x hx => hu x hx e he
  intro x hx y hy
  exact (hzero x hx).trans (hzero y hy).symm

theorem Uniform.setSet {d : Dib} (hd : d.Uniform) {set : Nat} {ways : List DibEntry}
    (hw : ∀ x ∈ ways, ∀ y ∈ ways, x.lru = y.lru) : (d.setSet set ways).Uniform := by
  intro set' e he e' he'
  by_cases hs : set' = set
  · subst hs
    simp only [Dib.setSet, Function.update_self] at he he'
    exact hw e he e' he'
  · simp only [Dib.setSet, Function.update_of_ne hs] at he he'
    exact hd set' e he e' he'

theorem map_lru_enterLine (ways : List DibEntry) (ip : Nat) :
    (enterLine cfg ways ip).1.map DibEntry.lru = ways.map DibEntry.lru := by
  unfold enterLine
  dsimp only
  split
  · exact map_lru_modify _ _ _ fun _ => rfl
  · rfl

theorem Uniform.doDibUpdate {d d' : Dib} (hd : d.Uniform) {instr : OooModelInstr}
    (h : doDibUpdate cfg d instr = some d') : d'.Uniform := by
  unfold Dib.doDibUpdate at h
  dsimp only at h
  have hmap := map_lru_enterLine cfg (d.sets (setIndex cfg instr.ip)) instr.ip
  rcases hE : enterLine cfg (d.sets (setIndex cfg instr.ip)) instr.ip with ⟨ways, way⟩
  rw [hE] at h hmap
  dsimp only at h hmap
  have hu : ∀ x ∈ ways, ∀ y ∈ ways, x.lru = y.lru := by
    intro x hx y hy
    have hx' : x.lru ∈ (d.sets (setIndex cfg instr.ip)).map DibEntry.lru :=
      hmap ▸ List.mem_map_of_mem hx
    have hy' : y.lru ∈ (d.sets (setIndex cfg instr.ip)).map DibEntry.lru :=
      hmap ▸ List.mem_map_of_mem hy
    obtain ⟨x', hx'', hxe⟩ := List.mem_map.mp hx'
    obtain ⟨y', hy'', hye⟩ := List.mem_map.mp hy'
    rw [← hxe, ← hye]
    exact hd _ x' hx'' y' hy''
  split at h
  · cases h
  · next e he =>
    obtain rfl := Option.some.inj h
    exact hd.setSet (uniform_lruUpdater (List.mem_of_getElem? he) hu)

theorem Uniform.doCheckDib {d : Dib} (hd : d.Uniform) (currentCycle : Nat) (instr : OooModelInstr) :
    (doCheckDib cfg currentCycle d instr).2.Uniform := by
  unfold Dib.doCheckDib
  dsimp only
  split
  · exact hd
  · next e he =>
    exact hd.setSet (uniform_lruUpdater (List.mem_of_getElem? he) (hd _))

theorem uniform_run : ∀ {d d' : Dib} (ops : List DibOp), d.Uniform → run cfg d ops = some d' →
    d'.Uniform
  | _, _, [], hd, h => by
    cases h
    exact hd
  | _, _, op :: ops, hd, h => by
    obtain ⟨d₁, h₁, h₂⟩ := Option.bind_eq_some_iff.mp h
    refine uniform_run ops ?_ h₂
    cases op with
    | update instr => exact hd.doDibUpdate cfg h₁
    | check cycle instr =>
      obtain rfl := Option.some.inj h₁
      exact hd.doCheckDib cfg cycle instr

end Dib

/-- The DIB of `champsim_config.json`: 32 sets of 8 ways over 16-byte lines. -/
def defaultDib : DibConfig where
  dibSet := 32
  dibWay := 8
  dibWindow := 16

/-- Decoding instructions on nine lines that share set `0`, the line of `k * 512` for
`k < 9`. -/
def nineLines : List Dib.DibOp :=
  (List.range 9).map fun k => .update { ip := k * 512 }

/-- After the first two of the nine lines, two valid ways of the set hold the same `lru`
value; after all nine, every entry holds `0`, and the ninth line has replaced way `0`,
which held the line decoded just before it, the eighth, while the first line is still
there. -/
theorem dib_nineLines_no_recency :
    ((Dib.init defaultDib).run defaultDib (nineLines.take 2)).map
        (fun d => ((d.sets 0).filter (·.valid)).map (·.lru)) = some [0, 0] ∧
      ((Dib.init defaultDib).run defaultDib nineLines).map
        (fun d => ((d.sets 0).map (·.lru), (d.sets 0).map (·.address))) =
        some (List.replicate 8 0, [4096, 3072, 2560, 2048, 1536, 1024, 512, 0]) := by
  decide +kernel

end MindPalace.ChampSim
