import Mathlib

/-! # Virtual memory

`VirtualMemory` (`src/vmem.cc`) hands out frames from a shuffled free list, and page-table pages
from a bump pointer `next_pte_page`. Its refill test lacks a negation, so with one-frame PTE pages
the pointer never refills and walks into frames still on the free list.
-/

namespace MindPalace.ChampSim

def lg2 (n : Nat) : Nat :=
  if n < 2 then 0 else 1 + lg2 (n / 2)
decreasing_by omega

def bitmask (width : Nat) : Nat :=
  2 ^ width - 1

/-- `splice_bits(upper, lower, bits)`: the bits of `upper` above `bits`, those of `lower` below. -/
def spliceBits (upper lower bits : Nat) : Nat :=
  upper / 2 ^ bits * 2 ^ bits + lower % 2 ^ bits

theorem spliceBits_spliceBits (upper lower lower' bits : Nat) :
    spliceBits (spliceBits upper lower bits) lower' bits = spliceBits upper lower' bits := by
  have hpos : 0 < 2 ^ bits := Nat.two_pow_pos bits
  have hupper : (upper / 2 ^ bits * 2 ^ bits + lower % 2 ^ bits) / 2 ^ bits = upper / 2 ^ bits := by
    rw [Nat.add_comm, Nat.add_mul_div_right _ _ hpos, Nat.div_eq_of_lt (Nat.mod_lt _ hpos), Nat.zero_add]
  unfold spliceBits
  rw [hupper]

/-- `VMEM_RESERVE_CAPACITY`: the first megabyte is never handed out. -/
def VMEM_RESERVE_CAPACITY : Nat := 1048576

def PTE_BYTES : Nat := 8

/-- `PAGE_SIZE` as configured (`page_size` of `champsim_config.json`). -/
def PAGE_SIZE : Nat := 4096

def LOG2_PAGE_SIZE : Nat := 12

/-- `std::map::insert`: the value already stored under the key and `false`, or the new
value, `true` and the extended map. -/
def mapInsert {κ ν : Type} [BEq κ] (m : List (κ × ν)) (k : κ) (v : ν) : (ν × Bool) × List (κ × ν) :=
  match m.lookup k with
  | some v' => ((v', false), m)
  | none => ((v, true), (k, v) :: m)

theorem lookup_mapInsert_of_lookup {κ ν : Type} [BEq κ] [LawfulBEq κ] {m : List (κ × ν)}
    {k k' : κ} {v v' : ν} (h : m.lookup k' = some v') : (mapInsert m k v).2.lookup k' = some v' := by
  unfold mapInsert
  cases hk : m.lookup k with
  | some _ => exact h
  | none =>
    -- the new key is not `k'`, which `m` already maps
    have hne : (k' == k) = false := by
      rw [beq_eq_false_iff_ne]
      rintro rfl
      rw [hk] at h
      cases h
    simp [List.lookup, hne, h]

theorem lookup_mapInsert_self {κ ν : Type} [BEq κ] [LawfulBEq κ] (m : List (κ × ν)) (k : κ) (v : ν) :
    (mapInsert m k v).2.lookup k = some (mapInsert m k v).1.1 := by
  unfold mapInsert
  cases hk : m.lookup k with
  | some v' => exact hk
  | none => simp [List.lookup]

structure VirtualMemory where
  /-- `vpage_to_ppage_map`, keyed by cpu and virtual page. -/
  vpageToPpageMap : List ((Nat × Nat) × Nat)
  /-- `page_table`, keyed by cpu, address prefix and level. -/
  pageTable : List ((Nat × Nat × Nat) × Nat)
  /-- `next_pte_page`. -/
  nextPtePage : Nat
  /-- `page_size`, the size of a PTE page. -/
  pageSize : Nat
  /-- `ppage_free_list`. -/
  ppageFreeList : List Nat

namespace VirtualMemory

/-- The free list before shuffling: `(capacity - VMEM_RESERVE_CAPACITY) / PAGE_SIZE` frames
from `VMEM_RESERVE_CAPACITY` on, as the `partial_sum` over `PAGE_SIZE` copies builds it. -/
def initialFrames (capacity : Nat) : List Nat :=
  (List.range ((capacity - VMEM_RESERVE_CAPACITY) / PAGE_SIZE)).map
    fun i => VMEM_RESERVE_CAPACITY + i * PAGE_SIZE

/-- The constructor. `shuffle` stands for `std::shuffle` with `mt19937_64{random_seed}`;
`none` is a failed assertion or a `front()` of an empty free list. -/
def new (shuffle : List Nat → List Nat) (capacity pgSize : Nat) : Option VirtualMemory :=
  if capacity % PAGE_SIZE = 0 ∧ pgSize = 2 ^ lg2 pgSize ∧ 1024 < pgSize then
    match shuffle (initialFrames capacity) with
    | [] => none
    | front :: rest =>
      some { vpageToPpageMap := [], pageTable := [], nextPtePage := front, pageSize := pgSize,
             ppageFreeList := rest }
  else none

def shamt (vm : VirtualMemory) (level : Nat) : Nat :=
  LOG2_PAGE_SIZE + lg2 (vm.pageSize / PTE_BYTES) * level

def getOffset (vm : VirtualMemory) (vaddr level : Nat) : Nat :=
  (vaddr >>> vm.shamt level) &&& bitmask (lg2 (vm.pageSize / PTE_BYTES))

/-- `va_to_pa(cpu, vaddr)`: the physical address and whether the page was new. The free
list's `front()` is read before the insertion, hit or not. -/
def vaToPa (vm : VirtualMemory) (cpu vaddr : Nat) : Option ((Nat × Bool) × VirtualMemory) :=
  match vm.ppageFreeList with
  | [] => none
  | front :: rest =>
    let ((ppage, fault), m) := mapInsert vm.vpageToPpageMap (cpu, vaddr >>> LOG2_PAGE_SIZE) front
    some ((spliceBits ppage vaddr LOG2_PAGE_SIZE, fault),
      { vm with vpageToPpageMap := m, ppageFreeList := if fault then rest else front :: rest })

/-- `get_pte_pa(cpu, vaddr, level)`: the address of the PTE and whether its page was new.
On a new page the bump pointer advances, and takes a frame from the free list when the
advanced pointer is not frame aligned. -/
def getPtePa (vm : VirtualMemory) (cpu vaddr level : Nat) :
    Option ((Nat × Bool) × VirtualMemory) := do
  let ((ppage, fault), pt) :=
    mapInsert vm.pageTable (cpu, vaddr >>> vm.shamt (level + 1), level) vm.nextPtePage
  let vm' ← if fault then
      let next := vm.nextPtePage + vm.pageSize
      if next % PAGE_SIZE ≠ 0 then
        match vm.ppageFreeList with
        | [] => none
        | front :: rest => some { vm with pageTable := pt, nextPtePage := front, ppageFreeList := rest }
      else some { vm with pageTable := pt, nextPtePage := next }
    else some { vm with pageTable := pt }
  pure ((spliceBits ppage (vm.getOffset vaddr level * PTE_BYTES) (lg2 vm.pageSize), fault), vm')

def twoFrameRun (shuffle : List Nat → List Nat) : Option (Nat × Nat × Nat) := do
  let vm ← new shuffle (VMEM_RESERVE_CAPACITY + 2 * PAGE_SIZE) (2 ^ 12)
  let ((pte₁, _), vm) ← vm.getPtePa 0 0 0
  let ((pte₂, _), vm) ← vm.getPtePa 0 0 1
  let ((data, _), _) ← vm.vaToPa 0 0
  pure (pte₁ / PAGE_SIZE, pte₂ / PAGE_SIZE, data / PAGE_SIZE)

/-- On a memory of two frames, in whichever order the shuffle leaves them, the second PTE
page is either the frame that `va_to_pa` then hands out as a data page or the frame just
past the end of memory. -/
theorem twoFrameRun_overlaps (shuffle : List Nat → List Nat)
    (hs : ∀ l, (shuffle l).Perm l) :
    ∃ pte₁ pte₂ data, twoFrameRun shuffle = some (pte₁, pte₂, data) ∧
      (pte₂ = data ∨ (VMEM_RESERVE_CAPACITY + 2 * PAGE_SIZE) / PAGE_SIZE ≤ pte₂) := by
  have hp : (shuffle (initialFrames (VMEM_RESERVE_CAPACITY + 2 * PAGE_SIZE))).Perm
      [VMEM_RESERVE_CAPACITY, VMEM_RESERVE_CAPACITY + PAGE_SIZE] := by
    have h := hs (initialFrames (VMEM_RESERVE_CAPACITY + 2 * PAGE_SIZE))
    rwa [show initialFrames (VMEM_RESERVE_CAPACITY + 2 * PAGE_SIZE) =
      [VMEM_RESERVE_CAPACITY, VMEM_RESERVE_CAPACITY + PAGE_SIZE] by decide] at h
  rcases List.perm_pair.mp hp with h | h
  · exact ⟨256, 257, 257, by simp only [twoFrameRun, new, h]; decide +kernel, .inl rfl⟩
  · exact ⟨257, 258, 256, by simp only [twoFrameRun, new, h]; decide +kernel, .inr (by decide)⟩

/-- With `std::shuffle` leaving the frames in place. -/
theorem twoFrameRun_overlaps_unshuffled :
    ∃ pte₁ pte₂ data, twoFrameRun id = some (pte₁, pte₂, data) ∧
      (pte₂ = data ∨ (VMEM_RESERVE_CAPACITY + 2 * PAGE_SIZE) / PAGE_SIZE ≤ pte₂) :=
  twoFrameRun_overlaps id (fun l => List.Perm.refl l)

/-! ### The page table only grows

`std::map::insert` never overwrites, so a page-table page that `get_pte_pa` has mapped stays
mapped to the same frame through every later `get_pte_pa` and `va_to_pa`, and asking for the
PTE of such a page again changes nothing. -/

/-- The address of the PTE of `vaddr` at `level`, if its page-table page is mapped. -/
def mappedPte (vm : VirtualMemory) (cpu vaddr level : Nat) : Option Nat :=
  (vm.pageTable.lookup (cpu, vaddr >>> vm.shamt (level + 1), level)).map fun ppage =>
    spliceBits ppage (vm.getOffset vaddr level * PTE_BYTES) (lg2 vm.pageSize)

/-- `vm'` maps every page-table page that `vm` maps, to the same frame, with the same
page size. -/
structure Extends (vm vm' : VirtualMemory) : Prop where
  pageSize_eq : vm'.pageSize = vm.pageSize
  lookup_eq : ∀ key ppage, vm.pageTable.lookup key = some ppage → vm'.pageTable.lookup key = some ppage

theorem Extends.refl (vm : VirtualMemory) : Extends vm vm :=
  ⟨rfl, fun _ _ h => h⟩

theorem Extends.trans {vm₁ vm₂ vm₃ : VirtualMemory} (h₁ : Extends vm₁ vm₂) (h₂ : Extends vm₂ vm₃) :
    Extends vm₁ vm₃ :=
  ⟨h₂.pageSize_eq.trans h₁.pageSize_eq, fun key ppage h => h₂.lookup_eq key ppage (h₁.lookup_eq key ppage h)⟩

theorem Extends.shamt_eq {vm vm' : VirtualMemory} (h : Extends vm vm') : vm'.shamt = vm.shamt := by
  funext level
  rw [shamt, shamt, h.pageSize_eq]

theorem Extends.getOffset_eq {vm vm' : VirtualMemory} (h : Extends vm vm') :
    vm'.getOffset = vm.getOffset := by
  funext vaddr level
  rw [getOffset, getOffset, h.shamt_eq, h.pageSize_eq]

theorem Extends.mappedPte {vm vm' : VirtualMemory} (h : Extends vm vm') {cpu vaddr level a : Nat}
    (hm : vm.mappedPte cpu vaddr level = some a) : vm'.mappedPte cpu vaddr level = some a := by
  obtain ⟨ppage, hl, rfl⟩ := Option.map_eq_some_iff.mp hm
  rw [VirtualMemory.mappedPte, h.shamt_eq, h.getOffset_eq, h.pageSize_eq, h.lookup_eq _ _ hl]
  rfl

theorem getPtePa_spec {vm vm' : VirtualMemory} {cpu vaddr level : Nat} {r : Nat × Bool}
    (h : vm.getPtePa cpu vaddr level = some (r, vm')) :
    vm'.pageTable = (mapInsert vm.pageTable (cpu, vaddr >>> vm.shamt (level + 1), level) vm.nextPtePage).2 ∧
      vm'.pageSize = vm.pageSize ∧
      r.1 = spliceBits (mapInsert vm.pageTable (cpu, vaddr >>> vm.shamt (level + 1), level) vm.nextPtePage).1.1
        (vm.getOffset vaddr level * PTE_BYTES) (lg2 vm.pageSize) := by
  unfold getPtePa at h
  rcases hins : mapInsert vm.pageTable (cpu, vaddr >>> vm.shamt (level + 1), level) vm.nextPtePage
    with ⟨⟨ppage, fault⟩, pt⟩
  simp only [hins] at h
  dsimp only
  -- every branch that returns stores the extended map and keeps the page size
  repeat' split at h
  all_goals first
    | (cases h; done)
    | (obtain ⟨rfl, rfl⟩ := Prod.mk.inj (Option.some.inj h); exact ⟨rfl, rfl, rfl⟩)

theorem extends_getPtePa {vm vm' : VirtualMemory} {cpu vaddr level : Nat} {r : Nat × Bool}
    (h : vm.getPtePa cpu vaddr level = some (r, vm')) : Extends vm vm' := by
  obtain ⟨hpt, hps, -⟩ := getPtePa_spec h
  exact ⟨hps, fun key ppage hl => hpt ▸ lookup_mapInsert_of_lookup hl⟩

theorem mappedPte_getPtePa {vm vm' : VirtualMemory} {cpu vaddr level : Nat} {r : Nat × Bool}
    (h : vm.getPtePa cpu vaddr level = some (r, vm')) : vm'.mappedPte cpu vaddr level = some r.1 := by
  obtain ⟨hpt, hps, hr⟩ := getPtePa_spec h
  have hext := extends_getPtePa h
  rw [VirtualMemory.mappedPte, hext.shamt_eq, hext.getOffset_eq, hps, hpt, lookup_mapInsert_self, hr]
  rfl

theorem getPtePa_of_mappedPte {vm : VirtualMemory} {cpu vaddr level a : Nat}
    (h : vm.mappedPte cpu vaddr level = some a) : vm.getPtePa cpu vaddr level = some ((a, false), vm) := by
  obtain ⟨ppage, hl, rfl⟩ := Option.map_eq_some_iff.mp h
  simp [getPtePa, mapInsert, hl]

theorem extends_vaToPa {vm vm' : VirtualMemory} {cpu vaddr : Nat} {r : Nat × Bool}
    (h : vm.vaToPa cpu vaddr = some (r, vm')) : Extends vm vm' := by
  unfold vaToPa at h
  split at h
  · cases h
  · -- only the data-page map and the free list change
    obtain ⟨-, rfl⟩ := Prod.mk.inj (Option.some.inj h)
    exact ⟨rfl, fun _ _ hl => hl⟩

end VirtualMemory

end MindPalace.ChampSim
