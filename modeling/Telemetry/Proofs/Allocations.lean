import Mathlib.Data.List.Nodup
import Telemetry.Host.Gauges
/-!
Histories of a heap. A call that the system does not grant records nothing, and a block that is
resized is recorded as released and taken anew, so that the five counts stay in balance with the
blocks that are live and with the sizes that were recorded (`Heap.Balanced`). After every history
they say what they are meant to say, the peak is the highest level between any two calls, and the
gauges that split the memory of the process add up (`Heap.accounts_of_orderly`).
-/

namespace Telemetry

/-- A call, and whether the system grants what it asks for. -/
structure HeapAttempt where
  call : HeapCall
  granted : Bool

namespace HeapAttempt

/-- The size that an attempt records as taken. -/
def recorded? (attempt : HeapAttempt) : Option UInt64 :=
  match attempt.call with
  | .allocate _ size | .resize _ size => if attempt.granted then some size else none
  | .release _ => none

/-- All sizes that attempts record as taken. -/
def recorded (attempts : List HeapAttempt) : List UInt64 := attempts.filterMap recorded?

end HeapAttempt

namespace Heap

/-- The sum of sizes, as a number that may be as large as it likes. -/
def total (sizes : List UInt64) : Nat := sizes.foldr (fun size sum => size.toNat + sum) 0

/-- The octets in all live blocks. -/
def octets (blocks : List (String × UInt64)) : Nat := total (blocks.map Prod.snd)

/-- A new block has a name of its own, and any other call is about a block that is live. -/
def Knows (heap : Heap) : HeapCall → Prop
  | .allocate id _ => heap.size? id = none
  | .resize id _ | .release id => (heap.size? id).isSome = true

def step (heap : Heap) (attempt : HeapAttempt) : Heap :=
  heap.call (fun _size => attempt.granted) attempt.call

def run (heap : Heap) (attempts : List HeapAttempt) : Heap := attempts.foldl step heap

/-- The heap before the first attempt, between any two, and after the last. -/
def points (heap : Heap) : List HeapAttempt → List Heap
  | [] => [heap]
  | attempt :: rest => heap :: (heap.step attempt).points rest

def Orderly (heap : Heap) : List HeapAttempt → Prop
  | [] => True
  | attempt :: rest => heap.Knows attempt.call ∧ (heap.step attempt).Orderly rest

theorem total_cons (size : UInt64) (sizes : List UInt64) :
    total (size :: sizes) = size.toNat + total sizes :=
  rfl

theorem total_append (first second : List UInt64) :
    total (first ++ second) = total first + total second := by
  induction first with
  | nil => exact (Nat.zero_add _).symm
  | cons size rest ih => rw [List.cons_append, total_cons, total_cons, ih, Nat.add_assoc]

theorem length_le_total {sizes : List UInt64} (filled : ∀ size ∈ sizes, size ≠ 0) :
    sizes.length ≤ total sizes := by
  induction sizes with
  | nil => exact Nat.le_refl 0
  | cons size rest ih =>
    have shorter := ih fun other member => filled other (List.mem_cons_of_mem _ member)
    have positive : size.toNat ≠ 0 := by
      intro zero
      exact filled size List.mem_cons_self (UInt64.toNat_inj.mp zero)
    rw [total_cons, List.length_cons]
    omega

theorem octets_cons (id : String) (size : UInt64) (blocks : List (String × UInt64)) :
    octets ((id, size) :: blocks) = size.toNat + octets blocks :=
  total_cons size _

theorem octets_perm {left right : List (String × UInt64)} (same : left.Perm right) :
    octets left = octets right := by
  induction same with
  | nil => rfl
  | cons block _same ih => exact congrArg (block.2.toNat + ·) ih
  | swap first second rest => exact Nat.add_left_comm _ _ _
  | trans _first _second ihFirst ihSecond => exact ihFirst.trans ihSecond

/-! ### Blocks -/

section Blocks

variable {heap : Heap} {id : String} {size : UInt64}

/-- A live block and the others are all blocks. -/
theorem perm_without (names : (heap.blocks.map Prod.fst).Nodup) (live : heap.size? id = some size) :
    heap.blocks.Perm ((id, size) :: heap.without id) := by
  obtain ⟨before, after, split, _others⟩ := List.lookup_eq_some_iff.mp live
  have moved : heap.blocks.Perm ((id, size) :: (before ++ after)) := by
    rw [split]
    exact List.perm_middle
  have distinct := (moved.map Prod.fst).nodup_iff.mp names
  have absent : id ∉ (before ++ after).map Prod.fst := (List.nodup_cons.mp distinct).1
  have rest : heap.without id = before ++ after := by
    have kept : (before ++ after).filter (fun block => block.1 != id) = before ++ after := by
      rw [List.filter_eq_self]
      intro block member
      rw [bne_iff_ne]
      rintro rfl
      exact absent (List.mem_map_of_mem member)
    rw [without, split, ← kept]
    simp
  rw [rest]
  exact moved

theorem not_mem_of_size? (fresh : heap.size? id = none) : id ∉ heap.blocks.map Prod.fst := by
  intro member
  obtain ⟨block, inside, rfl⟩ := List.mem_map.mp member
  have differs := List.lookup_eq_none_iff.mp fresh block inside
  simp at differs

end Blocks

/-! ### What an attempt does -/

/-- Everything that an attempt can do to a heap that knows the block it is about, with the size that
is recorded as taken. -/
inductive Moves (heap : Heap) : Option UInt64 → Heap → Prop
  | kept : Moves heap none heap
  | took {id : String} {size : UInt64} (fresh : id ∉ heap.blocks.map Prod.fst) :
      Moves heap (some size) ⟨(id, size) :: heap.blocks, heap.counts.taken size⟩
  | resized {id : String} {old size : UInt64} (live : heap.size? id = some old) :
      Moves heap (some size) ⟨(id, size) :: heap.without id, heap.counts.resized old size⟩
  | released {id : String} {old : UInt64} (live : heap.size? id = some old) :
      Moves heap none ⟨heap.without id, heap.counts.released old⟩

theorem moves_of_knows {heap : Heap} {attempt : HeapAttempt} (knows : heap.Knows attempt.call) :
    Moves heap attempt.recorded? (heap.step attempt) := by
  obtain ⟨call, granted⟩ := attempt
  cases call with
  | allocate id size =>
    cases granted with
    | false => exact .kept
    | true => exact .took (not_mem_of_size? knows)
  | resize id size =>
    obtain ⟨old, live⟩ := Option.isSome_iff_exists.mp knows
    simp only [step, Heap.call, live]
    cases granted with
    | false => exact .kept
    | true => exact .resized live
  | release id =>
    obtain ⟨old, live⟩ := Option.isSome_iff_exists.mp knows
    simp only [step, Heap.call, live]
    exact .released live

theorem max_cases (left right : UInt64) :
    left ≤ max left right ∧ (max left right = left ∨ max left right = right) := by
  rw [UInt64.le_iff_toNat_le, ← UInt64.toNat_inj, ← UInt64.toNat_inj, UInt64.toNat_max]
  omega

/-- The peak is never lowered; it stays or is lifted to the level that is reached. -/
theorem Moves.peak_cases {heap next : Heap} {recorded : Option UInt64}
    (moves : Moves heap recorded next) :
    heap.counts.peak ≤ next.counts.peak ∧
      (next.counts.peak = heap.counts.peak ∨ next.counts.peak = next.counts.live) := by
  cases moves with
  | kept => exact ⟨UInt64.le_refl _, .inl rfl⟩
  | took _fresh => exact max_cases _ _
  | resized _live => exact max_cases _ _
  | released _live => exact ⟨UInt64.le_refl _, .inl rfl⟩

/-! ### The counts in balance -/

/-- The counts of a heap, where the given sizes have been recorded so far. What the words cannot
hold is excluded by the sum of these sizes alone. -/
structure Balanced (recorded : List UInt64) (heap : Heap) : Prop where
  names : (heap.blocks.map Prod.fst).Nodup
  live_eq : heap.counts.live.toNat = octets heap.blocks
  total_eq : heap.counts.total.toNat = total recorded
  mallocs_eq : heap.counts.mallocs = UInt64.ofNat recorded.length
  frees_eq : heap.counts.frees = UInt64.ofNat (recorded.length - heap.blocks.length)
  fewer : heap.blocks.length ≤ recorded.length
  live_le_peak : heap.counts.live ≤ heap.counts.peak
  peak_le_total : heap.counts.peak ≤ heap.counts.total
  octets_le : octets heap.blocks ≤ total recorded

namespace Balanced

variable {heap : Heap} {recorded : List UInt64} {id : String} {size : UInt64}

theorem start : Balanced [] empty where
  names := List.nodup_nil
  live_eq := rfl
  total_eq := rfl
  mallocs_eq := rfl
  frees_eq := rfl
  fewer := Nat.le_refl 0
  live_le_peak := UInt64.le_refl 0
  peak_le_total := UInt64.le_refl 0
  octets_le := Nat.le_refl 0

variable (balanced : Balanced recorded heap)

include balanced

/-- A block that is taken under a name of its own. -/
theorem taken (fresh : id ∉ heap.blocks.map Prod.fst)
    (fits : total (recorded ++ [size]) < UInt64.size) :
    Balanced (recorded ++ [size]) ⟨(id, size) :: heap.blocks, heap.counts.taken size⟩ := by
  have sum : total (recorded ++ [size]) = total recorded + size.toNat := by
    rw [total_append, total_cons]
    rfl
  have live : (heap.counts.live + size).toNat = octets heap.blocks + size.toNat := by
    rw [UInt64.toNat_add, balanced.live_eq, Nat.mod_eq_of_lt]
    have within := balanced.octets_le
    change _ < UInt64.size
    omega
  have all : (heap.counts.total + size).toNat = total recorded + size.toNat := by
    rw [UInt64.toNat_add, balanced.total_eq, Nat.mod_eq_of_lt]
    change _ < UInt64.size
    omega
  have highest := UInt64.le_iff_toNat_le.mp balanced.peak_le_total
  have within := balanced.octets_le
  refine ⟨?_, ?_, ?_, ?_, ?_, ?_, ?_, ?_, ?_⟩
  · exact List.nodup_cons.mpr ⟨fresh, balanced.names⟩
  · rw [octets_cons, Nat.add_comm]
    exact live
  · rw [sum]
    exact all
  · rw [List.length_append, List.length_singleton, UInt64.ofNat_add, ← balanced.mallocs_eq]
    rfl
  · rw [List.length_append, List.length_singleton, List.length_cons, Nat.add_sub_add_right]
    exact balanced.frees_eq
  · rw [List.length_append, List.length_singleton, List.length_cons]
    exact Nat.succ_le_succ balanced.fewer
  · rw [UInt64.le_iff_toNat_le]
    change (heap.counts.live + size).toNat ≤ (max heap.counts.peak (heap.counts.live + size)).toNat
    rw [UInt64.toNat_max]
    exact Nat.le_max_right _ _
  · rw [UInt64.le_iff_toNat_le]
    change (max heap.counts.peak (heap.counts.live + size)).toNat ≤ (heap.counts.total + size).toNat
    rw [balanced.total_eq] at highest
    rw [UInt64.toNat_max, live, all]
    omega
  · rw [octets_cons, sum]
    omega

/-- A live block is never larger than what is live. -/
theorem size_le_live (live : heap.size? id = some size) : size ≤ heap.counts.live := by
  have split := octets_perm (perm_without balanced.names live)
  rw [octets_cons] at split
  rw [UInt64.le_iff_toNat_le, balanced.live_eq]
  omega

/-- A live block that is released, so that the subtraction does not go below zero. -/
theorem released (live : heap.size? id = some size) :
    Balanced recorded ⟨heap.without id, heap.counts.released size⟩ := by
  have blocks := perm_without balanced.names live
  have split := octets_perm blocks
  rw [octets_cons] at split
  have count : heap.blocks.length = (heap.without id).length + 1 := blocks.length_eq
  have below := balanced.size_le_live live
  have left : (heap.counts.live - size).toNat = octets (heap.without id) := by
    rw [UInt64.toNat_sub_of_le _ _ below, balanced.live_eq, split, Nat.add_sub_cancel_left]
  have fewer := balanced.fewer
  have within := balanced.octets_le
  have lower := UInt64.le_iff_toNat_le.mp balanced.live_le_peak
  refine ⟨?_, left, balanced.total_eq, balanced.mallocs_eq, ?_, ?_, ?_, balanced.peak_le_total, ?_⟩
  · exact (List.nodup_cons.mp ((blocks.map Prod.fst).nodup_iff.mp balanced.names)).2
  · have one : recorded.length - (heap.without id).length =
        recorded.length - heap.blocks.length + 1 := by omega
    change heap.counts.frees + 1 = UInt64.ofNat (recorded.length - (heap.without id).length)
    rw [one, UInt64.ofNat_add, balanced.frees_eq]
    rfl
  · change (heap.without id).length ≤ recorded.length
    omega
  · rw [UInt64.le_iff_toNat_le]
    change (heap.counts.live - size).toNat ≤ heap.counts.peak.toNat
    rw [balanced.live_eq] at lower
    omega
  · change octets (heap.without id) ≤ total recorded
    omega

/-- Whatever happens, the size that is recorded of it comes to those recorded before. -/
theorem of_moves {next : Heap} {added : Option UInt64} (moves : Moves heap added next)
    (fits : total (recorded ++ added.toList) < UInt64.size) :
    Balanced (recorded ++ added.toList) next := by
  cases moves with
  | kept =>
    rw [Option.toList_none, List.append_nil]
    exact balanced
  | took fresh => exact balanced.taken fresh fits
  | @resized id old size live =>
    -- The name of the block is free between the release and the new block.
    have distinct := ((perm_without balanced.names live).map Prod.fst).nodup_iff.mp balanced.names
    exact (balanced.released live).taken (List.nodup_cons.mp distinct).1 fits
  | released live =>
    rw [Option.toList_none, List.append_nil]
    exact balanced.released live

end Balanced

/-! ### Histories -/

theorem recorded_cons (recorded : List UInt64) (attempt : HeapAttempt) (rest : List HeapAttempt) :
    recorded ++ HeapAttempt.recorded (attempt :: rest) =
      (recorded ++ attempt.recorded?.toList) ++ HeapAttempt.recorded rest := by
  rw [List.append_assoc, HeapAttempt.recorded, HeapAttempt.recorded, List.filterMap_cons]
  cases attempt.recorded? <;> rfl

theorem mem_points (heap : Heap) (attempts : List HeapAttempt) : heap ∈ heap.points attempts := by
  cases attempts with
  | nil => exact List.mem_singleton_self heap
  | cons attempt rest => exact List.mem_cons_self

/-- A heap after a history: in balance, with a peak that no point exceeds and that is the old one or
the level of a point. -/
structure Follows (recorded : List UInt64) (points : List Heap) (first last : Heap) : Prop where
  balanced : Balanced recorded last
  lifted : first.counts.peak ≤ last.counts.peak
  above : ∀ point ∈ points, point.counts.live ≤ last.counts.peak
  reached : last.counts.peak = first.counts.peak ∨
    ∃ point ∈ points, point.counts.live = last.counts.peak

theorem Balanced.follows {heap : Heap} {recorded : List UInt64} (balanced : Balanced recorded heap)
    {attempts : List HeapAttempt} (orderly : heap.Orderly attempts)
    (fits : total (recorded ++ HeapAttempt.recorded attempts) < UInt64.size) :
    Follows (recorded ++ HeapAttempt.recorded attempts) (heap.points attempts) heap
      (heap.run attempts) := by
  induction attempts generalizing heap recorded with
  | nil =>
    have nothing : recorded ++ HeapAttempt.recorded [] = recorded := List.append_nil recorded
    rw [nothing]
    refine ⟨balanced, UInt64.le_refl _, ?_, .inl rfl⟩
    intro point member
    rw [List.mem_singleton.mp member]
    exact balanced.live_le_peak
  | cons attempt rest ih =>
    obtain ⟨knows, later⟩ := orderly
    rw [recorded_cons] at fits ⊢
    have now : total (recorded ++ attempt.recorded?.toList) < UInt64.size := by
      rw [total_append] at fits
      omega
    have moves := moves_of_knows knows
    have follows := ih (balanced.of_moves moves now) later fits
    obtain ⟨higher, lifting⟩ := moves.peak_cases
    refine ⟨follows.balanced, UInt64.le_trans higher follows.lifted, ?_, ?_⟩
    · intro point member
      rcases List.mem_cons.mp member with rfl | inside
      · exact UInt64.le_trans balanced.live_le_peak (UInt64.le_trans higher follows.lifted)
      · exact follows.above point inside
    · rcases follows.reached with same | ⟨point, inside, level⟩
      · rcases lifting with kept | lifted
        · exact .inl (same.trans kept)
        · refine .inr ⟨heap.step attempt, List.mem_cons_of_mem _ (mem_points _ rest), ?_⟩
          exact (same.trans lifted).symm
      · exact .inr ⟨point, List.mem_cons_of_mem _ inside, level⟩

/-! ### What the counts say -/

/-- The highest level of all points: none is above it, and one is at it. -/
structure Highest (level : UInt64) (points : List Heap) : Prop where
  above : ∀ point ∈ points, point.counts.live ≤ level
  reached : ∃ point ∈ points, point.counts.live = level

end Heap

/-- The collected gauges that split the memory of a process add up, and no difference in them is cut
at zero. -/
structure Host.Splits (counts : AllocationCounts) (resident : UInt64) : Prop where
  collected : ∀ drawn, ∀ name ∈ runtimeNames,
    Metric.gauge name (.ofInt (runtimeLevel counts resident name).toNat) ∈
      runtimeSamples counts resident drawn
  idle : counts.live ≤ counts.peak
  heap : (runtimeLevel counts resident "HeapInuse").toNat +
    (runtimeLevel counts resident "HeapIdle").toNat = (runtimeLevel counts resident "HeapSys").toNat
  other : counts.peak ≤ allMemory counts resident
  process : (runtimeLevel counts resident "HeapSys").toNat +
    (runtimeLevel counts resident "OtherSys").toNat = (runtimeLevel counts resident "Sys").toNat

theorem Host.toNat_less {left right : UInt64} (below : right ≤ left) :
    right.toNat + (less left right).toNat = left.toNat := by
  rw [less, if_pos below, UInt64.toNat_sub_of_le _ _ below]
  exact Nat.add_sub_cancel' (UInt64.le_iff_toNat_le.mp below)

theorem Host.splits {counts : AllocationCounts} (ordered : counts.live ≤ counts.peak)
    (resident : UInt64) : Splits counts resident := by
  have other : counts.peak ≤ allMemory counts resident := by
    rw [allMemory, UInt64.le_iff_toNat_le, UInt64.toNat_max]
    exact Nat.le_max_right _ _
  refine ⟨?_, ordered, toNat_less ordered, other, toNat_less other⟩
  intro drawn name known
  exact List.mem_append_left _ (List.mem_map_of_mem known)

namespace Heap

/-- What the counts of a heap say of the blocks that are live, of all points of its history and of
all sizes that were recorded. -/
structure Accounts (recorded : List UInt64) (points : List Heap) (heap : Heap) : Prop where
  live : heap.counts.live.toNat = octets heap.blocks
  /-- Whichever block is released next, the subtraction does not go below zero. -/
  releasable : ∀ id size, heap.size? id = some size → size ≤ heap.counts.live
  blocks : heap.counts.mallocs - heap.counts.frees = UInt64.ofNat heap.blocks.length
  /-- No word has wrapped around while the blocks taken are no more than one can count. -/
  objects : recorded.length < UInt64.size →
    heap.counts.frees.toNat + heap.blocks.length = heap.counts.mallocs.toNat ∧
      ∀ resident, (Host.runtimeLevel heap.counts resident "HeapObjects").toNat = heap.blocks.length
  /-- They are no more if none of them is empty. -/
  countable : (∀ size ∈ recorded, size ≠ 0) → recorded.length < UInt64.size
  total : heap.counts.total.toNat = Heap.total recorded
  peak : Highest heap.counts.peak points
  live_le_peak : heap.counts.live ≤ heap.counts.peak
  peak_le_total : heap.counts.peak ≤ heap.counts.total
  gauges : ∀ resident, Host.Splits heap.counts resident

theorem Balanced.blocks_eq {recorded : List UInt64} {heap : Heap}
    (balanced : Balanced recorded heap) :
    heap.counts.mallocs - heap.counts.frees = UInt64.ofNat heap.blocks.length := by
  have fewer := balanced.fewer
  rw [balanced.mallocs_eq, balanced.frees_eq, ← UInt64.ofNat_sub (Nat.sub_le _ _)]
  congr 1
  omega

theorem Balanced.objects_eq {recorded : List UInt64} {heap : Heap}
    (balanced : Balanced recorded heap) (short : recorded.length < UInt64.size) :
    heap.counts.frees.toNat + heap.blocks.length = heap.counts.mallocs.toNat := by
  have fewer := balanced.fewer
  have left : recorded.length - heap.blocks.length < UInt64.size :=
    Nat.lt_of_le_of_lt (Nat.sub_le _ _) short
  rw [balanced.mallocs_eq, balanced.frees_eq, UInt64.toNat_ofNat', UInt64.toNat_ofNat',
    Nat.mod_eq_of_lt short, Nat.mod_eq_of_lt left]
  omega

theorem toNat_objects {heap : Heap}
    (counted : heap.counts.frees.toNat + heap.blocks.length = heap.counts.mallocs.toNat)
    (resident : UInt64) :
    (Host.runtimeLevel heap.counts resident "HeapObjects").toNat = heap.blocks.length := by
  have below : heap.counts.frees ≤ heap.counts.mallocs := by
    rw [UInt64.le_iff_toNat_le]
    omega
  have exactly : heap.counts.frees.toNat +
      (Host.runtimeLevel heap.counts resident "HeapObjects").toNat = heap.counts.mallocs.toNat :=
    Host.toNat_less below
  omega

/-- After every history of calls on blocks that are live, the sizes of which come to what a word can
hold, the counts say what they are meant to say. -/
theorem accounts_of_orderly (attempts : List HeapAttempt) (orderly : empty.Orderly attempts)
    (fits : total (HeapAttempt.recorded attempts) < UInt64.size) :
    Accounts (HeapAttempt.recorded attempts) (empty.points attempts) (empty.run attempts) := by
  have follows : Follows (HeapAttempt.recorded attempts) (empty.points attempts) empty
      (empty.run attempts) := Balanced.start.follows orderly fits
  have balanced := follows.balanced
  refine ⟨balanced.live_eq, ?_, balanced.blocks_eq, ?_, ?_, balanced.total_eq,
    ⟨follows.above, ?_⟩, balanced.live_le_peak, balanced.peak_le_total, ?_⟩
  · intro id size live
    exact balanced.size_le_live live
  · intro short
    have counted := balanced.objects_eq short
    exact ⟨counted, toNat_objects counted⟩
  · intro filled
    exact Nat.lt_of_le_of_lt (length_le_total filled) fits
  · rcases follows.reached with same | reached
    · exact ⟨empty, mem_points empty attempts, same.symm⟩
    · exact reached
  · intro resident
    exact Host.splits balanced.live_le_peak resident

/-- A block that grows in its second attempt, one that is released, and one that is too large. -/
def sampleAttempts : List HeapAttempt :=
  [⟨.allocate "a" 64, true⟩, ⟨.allocate "b" 8, true⟩, ⟨.resize "a" 4096, false⟩,
    ⟨.resize "a" 200, true⟩, ⟨.release "b", true⟩, ⟨.allocate "c" 0x4000000000000000, false⟩]

theorem accounts_of_orderly_sampleAttempts :
    empty.Orderly sampleAttempts ∧ total (HeapAttempt.recorded sampleAttempts) < UInt64.size ∧
      (empty.run sampleAttempts).blocks = [("a", 200)] ∧
      (empty.run sampleAttempts).counts.live.toNat = 200 ∧
      (empty.run sampleAttempts).counts.total.toNat = 272 ∧
      Highest 208 (empty.points sampleAttempts) := by
  have orderly : empty.Orderly sampleAttempts :=
    ⟨rfl, rfl, rfl, rfl, rfl, rfl, trivial⟩
  have fits : total (HeapAttempt.recorded sampleAttempts) < UInt64.size := by decide
  have accounts := accounts_of_orderly sampleAttempts orderly fits
  have peak : (empty.run sampleAttempts).counts.peak = 208 := by decide
  exact ⟨orderly, fits, by decide, accounts.live, accounts.total, peak ▸ accounts.peak⟩

end Heap

end Telemetry
