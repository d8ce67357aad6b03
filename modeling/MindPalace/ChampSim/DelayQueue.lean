import MindPalace.ChampSim.CircularBuffer
import MindPalace.Lib.PartitionPoint

/-! # Delay queues

`champsim::delay_queue<T>` (`inc/delay_queue.hpp`) pairs elements with remaining delays, and
`operate` binary-searches the delays for `end_ready`. An element pushed ready behind a waiting
one breaks the search's order, and the waiting element can then be released early.
-/

namespace MindPalace.ChampSim

/-- The members of a `delay_queue`: `sz`, `_buf`, `_delays`, `_latency` and `_end_ready`. -/
structure DelayQueue (α : Type) where
  sz : Nat
  buf : CircularBuffer α
  delays : CircularBuffer Int
  latency : Int
  endReady : Nat

namespace DelayQueue

open BinarySearch

variable {α : Type}

/-- `delay_queue(size, latency)`, with `_end_ready` initialised to `_buf.end()`. -/
def new [Inhabited α] (size latency : Nat) : DelayQueue α where
  sz := size
  buf := .empty size
  delays := .empty size
  latency := latency
  endReady := ((CircularBuffer.empty size : CircularBuffer α).tail : Nat)

def hasReady (q : DelayQueue α) : Bool :=
  !decide (q.buf.iterEq q.buf.head q.endReady)

def front (q : DelayQueue α) : α :=
  q.buf.front

def pushBack (q : DelayQueue α) (x : α) : Option (DelayQueue α) := do
  let buf ← q.buf.pushBack x
  let delays ← q.delays.pushBack q.latency
  pure { q with buf, delays }

def pushBackReady (q : DelayQueue α) (x : α) : Option (DelayQueue α) := do
  let buf ← q.buf.pushBack x
  let delays ← q.delays.pushBack 0
  pure { q with buf, delays }

/-- `pop_front`, with no check that the front is ready. -/
def popFront (q : DelayQueue α) : Option (DelayQueue α) := do
  let buf ← q.buf.popFront
  let delays ← q.delays.popFront
  pure { q with buf, delays }

/-- `operate()`: count every delay down, then binary-search `[begin(), end())` of the delays
for the first delay above zero and put `_end_ready` at the same distance into `_buf`. -/
def operate (q : DelayQueue α) : DelayQueue α :=
  let delays := q.delays.modifyAll (· - 1)
  let len := (delays.iterSub delays.tail delays.head).toNat
  let found := partitionPoint (fun o => decide (delays.entry (delays.inc delays.head o) ≤ 0)) 0 len
  let delayIt := delays.iterAdd delays.head found
  { q with delays, endReady := q.buf.iterAdd q.buf.head (delays.iterSub delayIt delays.head) }

def readyCount (q : DelayQueue α) : Int :=
  q.buf.iterSub q.endReady q.buf.head

def full (q : DelayQueue α) : Bool :=
  q.buf.full

def occupancy (q : DelayQueue α) : Nat :=
  q.buf.occupancy

def elems (q : DelayQueue α) : List α :=
  (List.range q.buf.occupancy).map fun k : Nat => q.buf.entry (q.buf.inc q.buf.head k)

/-- `std::find_if(begin(), end(), pred)`: the first element in `[begin(), end())` that
satisfies `pred`. The iterator walks the slots from `begin()` one `circ_inc` at a time and
stops at `end()`, so it visits the elements in the order of `elems`. -/
def findIf (q : DelayQueue α) (pred : α → Bool) : Option α :=
  q.elems.find? pred

/-- An update in place through the iterator `std::find_if` returned: the element at
`begin() + findIdx`. -/
def modifyFirst (q : DelayQueue α) (pred : α → Bool) (f : α → α) : DelayQueue α :=
  let slot := q.buf.inc q.buf.head ((q.elems.findIdx pred : Nat) : Int)
  { q with buf := { q.buf with entry := Function.update q.buf.entry slot (f (q.buf.entry slot)) } }

/-- With latency two, an element pushed ready behind a waiting one makes the first `operate`
release both: `end_ready()` is two past `begin()`, `has_ready()` holds, and the front still
has one cycle of its delay to wait. -/
theorem operate_releases_waiting :
    ((new 2 2 : DelayQueue Nat).pushBack 5 >>= (pushBackReady · 6)).map (fun q =>
      let q' := q.operate
      (q'.readyCount, q'.hasReady, q'.front, q'.delays.front)) = some (2, true, 5, 1) := by
  decide +kernel

end DelayQueue

end MindPalace.ChampSim
