/-!
Accounts of the memory that a process takes from its system. The counts are words of 64 bits and
wrap around. A block that is resized is released and taken anew.
-/

namespace Telemetry

structure AllocationCounts where
  mallocs : UInt64
  frees : UInt64
  live : UInt64
  total : UInt64
  peak : UInt64
deriving DecidableEq, Repr

namespace AllocationCounts

def zero : AllocationCounts := ⟨0, 0, 0, 0, 0⟩

def taken (counts : AllocationCounts) (size : UInt64) : AllocationCounts :=
  let live := counts.live + size
  { counts with
    mallocs := counts.mallocs + 1
    total := counts.total + size
    live
    peak := max counts.peak live }

def released (counts : AllocationCounts) (size : UInt64) : AllocationCounts :=
  { counts with frees := counts.frees + 1, live := counts.live - size }

def resized (counts : AllocationCounts) (old new : UInt64) : AllocationCounts :=
  (counts.released old).taken new

end AllocationCounts

/-- The blocks that are live, under names, with the counts. -/
structure Heap where
  blocks : List (String × UInt64)
  counts : AllocationCounts
deriving DecidableEq, Repr

inductive HeapCall where
  /-- A new block, whether or not it is to be filled with zeros: both kinds are counted alike. -/
  | allocate (id : String) (size : UInt64)
  | resize (id : String) (size : UInt64)
  | release (id : String)
deriving DecidableEq, Repr

namespace Heap

def empty : Heap := ⟨[], .zero⟩

def size? (heap : Heap) (id : String) : Option UInt64 := heap.blocks.lookup id

def without (heap : Heap) (id : String) : List (String × UInt64) :=
  heap.blocks.filter fun block => block.1 != id

/-- A call, of which the system grants the new size or not. A call on a block that is not live does
nothing. -/
def call (heap : Heap) (grants : UInt64 → Bool) : HeapCall → Heap
  | .allocate id size =>
    if grants size then ⟨(id, size) :: heap.blocks, heap.counts.taken size⟩ else heap
  | .resize id size =>
    match heap.size? id with
    | some old =>
      if grants size then ⟨(id, size) :: heap.without id, heap.counts.resized old size⟩ else heap
    | none => heap
  | .release id =>
    match heap.size? id with
    | some old => ⟨heap.without id, heap.counts.released old⟩
    | none => heap

end Heap

end Telemetry
