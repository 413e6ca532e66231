import Telemetry.Proofs.Synchrony
/-!
Requests that overlap on a server that saves its store after each write. A request takes three
steps: it merges its metrics into the store, it reads the store for the file, and it writes what it
has read. Each step is done as one, but the steps of several requests may come in any order. Of a
request alone they make what the service does (`Overlap.run_alone`).

What is in the file once all requests are answered is what one of them has read
(`Overlap.file_is_capture`). It restores the store as it was then, which lacks what was merged
since; nothing is missing if nobody has read the store later. Otherwise something can be missing:
an older reading may be written last (`Overlap.file_left_stale`).
-/

namespace Telemetry

/-- A store in memory with its file and the requests that are under way. -/
structure Overlap where
  store : MemoryStore
  file : SnapshotFile
  /-- How many requests have merged something so far. -/
  begun : Nat
  /-- The requests that have merged their metrics and have not read the store since. -/
  merged : List Nat
  /-- The requests that have read the store, with what they will write. -/
  captured : List (Nat × Bytes)

namespace Overlap

inductive Step where
  /-- A request merges what is accepted of it. Without that it is answered at once. -/
  | merge (call : Service.Call)
  | capture (number : Nat)
  | write (number : Nat)

def start (store : MemoryStore) (file : SnapshotFile) : Overlap := ⟨store, file, 0, [], []⟩

/-- A step of a request, where each write to the file succeeds. -/
def step (overlap : Overlap) : Step → Option Overlap
  | .merge call =>
    if call.accepted.isEmpty then some overlap
    else some { overlap with
      store := overlap.store.merge call.accepted
      begun := overlap.begun + 1
      merged := overlap.merged ++ [overlap.begun] }
  | .capture number =>
    if number ∈ overlap.merged then some { overlap with
      merged := overlap.merged.filter (· != number)
      captured := overlap.captured ++ [(number, overlap.store.snapshot.write)] }
    else none
  | .write number =>
    match overlap.captured.find? fun request => request.1 == number with
    | none => none
    | some (_, octets) =>
      match overlap.file.write octets with
      | .error _ => none
      | .ok file => some { overlap with
          file, captured := overlap.captured.filter fun request => request.1 != number }

def run (overlap : Overlap) (steps : List Step) : Option Overlap := steps.foldlM step overlap

/-- All requests that have begun are answered. -/
def IsQuiet (overlap : Overlap) : Prop := overlap.merged = [] ∧ overlap.captured = []

def Step.accepted : Step → List Metric
  | .merge call => call.accepted
  | _ => []

variable {overlap next last origin : Overlap} {steps history : List Step}

/-! ### One step -/

/-- Everything that a step can do, with the conditions under which it does. -/
inductive Moves (overlap : Overlap) : Step → Overlap → Prop
  | answered {call : Service.Call} (nothing : call.accepted = []) :
      Moves overlap (.merge call) overlap
  | merged {call : Service.Call} (something : call.accepted ≠ []) :
      Moves overlap (.merge call) { overlap with
        store := overlap.store.merge call.accepted
        begun := overlap.begun + 1
        merged := overlap.merged ++ [overlap.begun] }
  | captured {number : Nat} (member : number ∈ overlap.merged) :
      Moves overlap (.capture number) { overlap with
        merged := overlap.merged.filter (· != number)
        captured := overlap.captured ++ [(number, overlap.store.snapshot.write)] }
  | written {number : Nat} {octets : Bytes} {file : SnapshotFile}
      (member : (number, octets) ∈ overlap.captured)
      (done : overlap.file.write octets = .ok file) :
      Moves overlap (.write number) { overlap with
        file, captured := overlap.captured.filter fun request => request.1 != number }

theorem moves_of_step {step : Step} (stepped : overlap.step step = some next) :
    Moves overlap step next := by
  cases step with
  | merge call =>
    rw [Overlap.step] at stepped
    by_cases nothing : call.accepted = []
    · rw [if_pos (List.isEmpty_iff.mpr nothing)] at stepped
      cases stepped
      exact .answered nothing
    · rw [if_neg fun empty => nothing (List.isEmpty_iff.mp empty)] at stepped
      cases stepped
      exact .merged nothing
  | capture number =>
    rw [Overlap.step] at stepped
    by_cases member : number ∈ overlap.merged
    · rw [if_pos member] at stepped
      cases stepped
      exact .captured member
    · rw [if_neg member] at stepped
      cases stepped
  | write number =>
    simp only [Overlap.step] at stepped
    split at stepped
    · cases stepped
    · rename_i other octets found
      have matched := List.find?_some found
      obtain rfl : other = number := beq_iff_eq.mp matched
      split at stepped
      · cases stepped
      · rename_i file done
        cases stepped
        exact .written (List.mem_of_find?_eq_some found) done

theorem run_cons {step : Step} (ran : overlap.run (step :: steps) = some last) :
    ∃ next, Moves overlap step next ∧ overlap.step step = some next ∧
      next.run steps = some last := by
  rw [run, List.foldlM_cons] at ran
  obtain ⟨next, stepped, ranRest⟩ := Option.bind_eq_some_iff.mp ran
  exact ⟨next, moves_of_step stepped, stepped, ranRest⟩

theorem run_append {first second : List Step}
    (ran : overlap.run (first ++ second) = some last) :
    ∃ middle, overlap.run first = some middle ∧ middle.run second = some last := by
  rw [run, List.foldlM_append] at ran
  exact Option.bind_eq_some_iff.mp ran

/-- A request that nobody comes between does what a write of the service does. -/
theorem run_alone (store : MemoryStore) {file : SnapshotFile} (writable : file.isWritable = true)
    (begun : Nat) {call : Service.Call} (something : call.accepted ≠ []) :
    ∃ saved, (Overlap.mk store file begun [] []).run
        [.merge call, .capture begun, .write begun] =
          some ⟨store.merge call.accepted, saved, begun + 1, [], []⟩ ∧
      (FiledStore.mk store (some file)).written true call.accepted =
        ⟨store.merge call.accepted, some saved⟩ := by
  have filled : call.accepted.isEmpty = false := List.isEmpty_eq_false_iff.mpr something
  have done := SnapshotFile.write_of_isWritable file.path writable
    (store.merge call.accepted).snapshot.write
  refine ⟨⟨file.path, .content (store.merge call.accepted).snapshot.write⟩, ?_, ?_⟩
  · simp [run, step, filled, done]
  · rw [FiledStore.written, filled]
    exact congrArg Prod.snd (FiledStore.save_eq (store.merge call.accepted) writable)

/-! ### The store -/

theorem Moves.store_eq {step : Step} (moves : Moves overlap step next) :
    next.store = overlap.store.merge step.accepted := by
  cases moves with
  | answered nothing =>
    rw [Step.accepted, nothing]
    rfl
  | merged something => rfl
  | captured member => rfl
  | written member done => rfl

/-- The store holds all that was merged, whatever became of the file. -/
theorem store_of_run (ran : overlap.run steps = some last) :
    last.store = overlap.store.merge (steps.flatMap Step.accepted) := by
  induction steps generalizing overlap with
  | nil =>
    cases ran
    rfl
  | cons step rest ih =>
    obtain ⟨next, moves, _stepped, ranRest⟩ := run_cons ran
    rw [ih ranRest, moves.store_eq, List.flatMap_cons, MemoryStore.merge_append]

/-- Nobody who has merged something is answered before somebody reads the store. -/
theorem merged_of_run (ran : overlap.run steps = some last)
    (unread : ∀ number, Step.capture number ∉ steps) :
    overlap.merged ⊆ last.merged ∧
      (last.merged = [] → steps.flatMap Step.accepted = []) := by
  -- Without a reading the requests that wait for one can only become more.
  induction steps generalizing overlap with
  | nil =>
    cases ran
    exact ⟨List.Subset.refl _, fun _ => rfl⟩
  | cons step rest ih =>
    obtain ⟨next, moves, _stepped, ranRest⟩ := run_cons ran
    obtain ⟨kept, nothing⟩ := ih ranRest fun number member =>
      unread number (List.mem_cons_of_mem _ member)
    cases moves with
    | answered empty =>
      refine ⟨kept, fun quiet => ?_⟩
      rw [List.flatMap_cons, Step.accepted, empty, nothing quiet]
      rfl
    | merged something =>
      refine ⟨fun number member => kept (List.mem_append_left _ member), fun quiet => ?_⟩
      have waiting := kept (List.mem_append_right _ (List.mem_singleton.mpr rfl))
      rw [quiet] at waiting
      cases waiting
    | captured member => exact absurd List.mem_cons_self (unread _)
    | written member done => exact ⟨kept, fun quiet => nothing quiet⟩

/-- Nobody who has read the store is answered before somebody writes the file. -/
theorem captured_of_run (ran : overlap.run steps = some last)
    (unwritten : ∀ number, Step.write number ∉ steps) :
    overlap.captured ⊆ last.captured ∧
      (last.captured = [] → ∀ number, Step.capture number ∉ steps) := by
  induction steps generalizing overlap with
  | nil =>
    cases ran
    exact ⟨List.Subset.refl _, fun _ _ => List.not_mem_nil⟩
  | cons step rest ih =>
    obtain ⟨next, moves, _stepped, ranRest⟩ := run_cons ran
    obtain ⟨kept, nothing⟩ := ih ranRest fun number member =>
      unwritten number (List.mem_cons_of_mem _ member)
    have others : last.captured = [] → (∀ number, step ≠ .capture number) →
        ∀ number, Step.capture number ∉ step :: rest := by
      intro quiet different number member
      rcases List.mem_cons.mp member with same | later
      · exact different number same.symm
      · exact nothing quiet number later
    cases moves with
    | answered empty => exact ⟨kept, fun quiet => others quiet nofun⟩
    | merged something => exact ⟨kept, fun quiet => others quiet nofun⟩
    | @captured number member =>
      refine ⟨fun request inside => kept (List.mem_append_left _ inside), fun quiet => ?_⟩
      have waiting := kept (List.mem_append_right _ (List.mem_singleton.mpr rfl))
      rw [quiet] at waiting
      cases waiting
    | written member done => exact absurd List.mem_cons_self (unwritten _)

/-! ### The file -/

/-- A request read the store for the file at some moment of a run, and these octets came of it. -/
def Captured (origin : Overlap) (steps : List Step) (request : Nat × Bytes) : Prop :=
  ∃ before after middle, steps = before ++ .capture request.1 :: after ∧
    origin.run before = some middle ∧ request.2 = middle.store.snapshot.write

theorem Captured.append {request : Nat × Bytes} (captured : Captured origin history request)
    (steps : List Step) : Captured origin (history ++ steps) request := by
  obtain ⟨before, after, middle, rfl, ran, same⟩ := captured
  exact ⟨before, after ++ steps, middle, by simp, ran, same⟩

/-- The last write of a run was that of a request, which had read these octets before. -/
def Written (origin : Overlap) (steps : List Step) (request : Nat × Bytes) : Prop :=
  ∃ upTo rest, steps = upTo ++ .write request.1 :: rest ∧ (∀ other, Step.write other ∉ rest) ∧
    Captured origin upTo request

theorem unwritten_append {step : Step} (unwritten : ∀ number, Step.write number ∉ steps)
    (different : ∀ number, step ≠ .write number) :
    ∀ number, Step.write number ∉ steps ++ [step] := by
  intro number member
  rcases List.mem_append.mp member with before | now
  · exact unwritten number before
  · exact different number (List.mem_singleton.mp now).symm

theorem Written.append {request : Nat × Bytes} (written : Written origin history request)
    {step : Step} (different : ∀ number, step ≠ .write number) :
    Written origin (history ++ [step]) request := by
  obtain ⟨upTo, rest, rfl, unwritten, captured⟩ := written
  exact ⟨upTo, rest ++ [step], by simp, unwritten_append unwritten different, captured⟩

/-- What was read of the store and what is in the file, after a run. -/
structure Traced (origin : Overlap) (history : List Step) (overlap : Overlap) : Prop where
  ran : origin.run history = some overlap
  path_eq : overlap.file.path = origin.file.path
  writable : overlap.file.isWritable = true
  read : ∀ request ∈ overlap.captured, Captured origin history request
  filed : (∀ number, Step.write number ∉ history) ∧ overlap.file = origin.file ∨
    ∃ request, Written origin history request ∧
      overlap.file = ⟨origin.file.path, .content request.2⟩

namespace Traced

variable (traced : Traced origin history overlap)

include traced

/-- A step that does not write leaves the file to the request that wrote last. -/
theorem filed_append {step : Step} (different : ∀ number, step ≠ .write number) :
    (∀ number, Step.write number ∉ history ++ [step]) ∧ overlap.file = origin.file ∨
      ∃ request, Written origin (history ++ [step]) request ∧
        overlap.file = ⟨origin.file.path, .content request.2⟩ := by
  rcases traced.filed with ⟨unwritten, same⟩ | ⟨request, written, same⟩
  · exact .inl ⟨unwritten_append unwritten different, same⟩
  · exact .inr ⟨request, written.append different, same⟩

theorem of_step {step : Step} (stepped : overlap.step step = some next) :
    Traced origin (history ++ [step]) next := by
  have ran : origin.run (history ++ [step]) = some next := by
    rw [run, List.foldlM_append, ← run, traced.ran]
    simpa using stepped
  cases moves_of_step stepped with
  | answered nothing =>
    exact ⟨ran, traced.path_eq, traced.writable,
      fun request member => (traced.read request member).append _, traced.filed_append nofun⟩
  | merged something =>
    exact ⟨ran, traced.path_eq, traced.writable,
      fun request member => (traced.read request member).append _, traced.filed_append nofun⟩
  | captured member =>
    refine ⟨ran, traced.path_eq, traced.writable, ?_, traced.filed_append nofun⟩
    intro request inside
    rcases List.mem_append.mp inside with before | now
    · exact (traced.read request before).append _
    · rw [List.mem_singleton.mp now]
      exact ⟨history, [], overlap, rfl, traced.ran, rfl⟩
  | @written number octets file member done =>
    have content : file = ⟨origin.file.path, .content octets⟩ := by
      have whole := SnapshotFile.write_of_isWritable overlap.file.path traced.writable octets
      rw [← traced.path_eq]
      exact Except.ok.inj (done.symm.trans whole)
    subst content
    refine ⟨ran, rfl, rfl, ?_, .inr ⟨(number, octets), ?_, rfl⟩⟩
    · intro request inside
      exact (traced.read request (List.mem_filter.mp inside).1).append _
    · exact ⟨history, [], rfl, fun _ => List.not_mem_nil, traced.read _ member⟩

theorem of_run (ran : overlap.run steps = some last) : Traced origin (history ++ steps) last := by
  induction steps generalizing overlap history with
  | nil =>
    cases ran
    rw [List.append_nil]
    exact traced
  | cons step rest ih =>
    obtain ⟨next, _moves, stepped, ranRest⟩ := run_cons ran
    have later := ih (traced.of_step stepped) ranRest
    rwa [List.append_assoc] at later

end Traced

theorem traced_start {store : MemoryStore} {file : SnapshotFile}
    (writable : file.isWritable = true) : Traced (start store file) [] (start store file) :=
  ⟨rfl, rfl, writable, nofun, .inl ⟨fun _ => List.not_mem_nil, rfl⟩⟩

theorem readsBack_of_run {store : MemoryStore} {file : SnapshotFile} (finite : store.IsFinite)
    (reads : ∀ entry ∈ store.gauges.entries, entry.2.ReadsBack)
    (readsAccepted : ∀ metric ∈ steps.flatMap Step.accepted, ∀ level,
      metric.sample = .gauge level → level.ReadsBack)
    (ran : (start store file).run steps = some last) : last.store.ReadsBack := by
  have kept : store.ReadsBack := fun entry member => ⟨finite entry member, reads entry member⟩
  rw [store_of_run ran]
  apply kept.merge
  intro metric member level stated
  obtain ⟨step, _taken, inside⟩ := List.mem_flatMap.mp member
  have acceptable : metric.isAcceptable = true := by
    cases step with
    | merge call => exact call.allAcceptable_accepted metric inside
    | capture number => cases inside
    | write number => cases inside
  rw [Metric.isAcceptable, Bool.and_eq_true, stated] at acceptable
  exact ⟨acceptable.2, readsAccepted metric member level stated⟩

/-! ### Quiet moments -/

/-- Once all requests are answered, either nothing was merged, or the file restores the store as it
was when the request that wrote last had read it. All that it lacks was merged since, and it lacks
nothing if nobody has read the store since. -/
theorem file_is_capture (store : MemoryStore) (file : SnapshotFile) (restores : file.Restores store)
    (steps : List Step) (last : Overlap) (ran : (start store file).run steps = some last)
    (quiet : last.IsQuiet) (reads : ∀ entry ∈ store.gauges.entries, entry.2.ReadsBack)
    (readsAccepted : ∀ metric ∈ steps.flatMap Step.accepted, ∀ level,
      metric.sample = .gauge level → level.ReadsBack) :
    steps.flatMap Step.accepted = [] ∧ last.file = file ∨
      ∃ before number between rest middle,
        steps = before ++ .capture number :: (between ++ .write number :: rest) ∧
        (∀ other, Step.write other ∉ rest) ∧ (start store file).run before = some middle ∧
        (∀ prior : MemoryStore, prior.restore last.file = (.ok (), middle.store)) ∧
        last.store = middle.store.merge ((between ++ .write number :: rest).flatMap Step.accepted) ∧
        ((∀ other, Step.capture other ∉ between ++ .write number :: rest) →
          last.store = middle.store) := by
  -- The last write says whose reading is in the file, and splits the run where that was done.
  have traced := (traced_start restores.writable).of_run ran
  rw [List.nil_append] at traced
  rcases traced.filed with ⟨unwritten, same⟩ | ⟨⟨number, octets⟩, written, same⟩
  · have unread := (captured_of_run ran unwritten).2 quiet.2
    exact .inl ⟨(merged_of_run ran unread).2 quiet.1, same⟩
  · obtain ⟨upTo, rest, rfl, unwritten, before, between, middle, rfl, begun, rfl⟩ := written
    rw [List.append_assoc, List.cons_append] at ran readsAccepted
    obtain ⟨found, again, onward⟩ := run_append ran
    obtain rfl : middle = found := Option.some.inj (begun.symm.trans again)
    obtain ⟨next, moves, _stepped, ending⟩ := run_cons onward
    have lacking := store_of_run ending
    rw [moves.store_eq] at lacking
    have kept : middle.store.ReadsBack :=
      readsBack_of_run (MemoryStore.isFinite_of_ofFile restores.read) reads
        (fun metric member => readsAccepted metric (by
          rw [List.flatMap_append]
          exact List.mem_append_left _ member)) begun
    have content : last.file.Restores middle.store := by
      rw [same]
      exact ⟨MemoryStore.ofFile_write kept file.path, rfl⟩
    refine .inr ⟨before, number, between, rest, middle, by simp, unwritten, begun,
      content.restore_eq, lacking, ?_⟩
    intro unread
    rw [(merged_of_run ending unread).2 quiet.1] at lacking
    exact lacking

/-- A request that brings a hit. -/
def hit : Service.Call := .updateOne (Envelope.ofMetric (.counter "Hits" 1))

/-- Two requests, of which the first one to read the store is the last one to write the file. -/
def staleSteps : List Step :=
  [.merge hit, .capture 0, .merge hit, .capture 1, .write 1, .write 0]

theorem file_is_capture_staleSteps :
    ∃ last kept lost, (start .empty ⟨"metrics.json", .missing⟩).run staleSteps = some last ∧
      last.IsQuiet ∧ (∀ prior : MemoryStore, prior.restore last.file = (.ok (), kept)) ∧
      last.store = kept.merge lost := by
  have accepted : staleSteps.flatMap Step.accepted = [.counter "Hits" 1, .counter "Hits" 1] := by
    decide
  have readsAccepted : ∀ metric ∈ staleSteps.flatMap Step.accepted, ∀ level,
      metric.sample = .gauge level → level.ReadsBack := by
    rw [accepted]
    intro metric member level stated
    simp only [List.mem_cons, List.not_mem_nil, or_false] at member
    rcases member with rfl | rfl
    · cases stated
    · cases stated
  rcases file_is_capture .empty ⟨"metrics.json", .missing⟩ ⟨rfl, rfl⟩ staleSteps _ rfl ⟨rfl, rfl⟩
    nofun readsAccepted with ⟨nothing, _⟩ | ⟨_, _, _, _, middle, _, _, _, back, lacking, _⟩
  · rw [accepted] at nothing
    cases nothing
  · exact ⟨_, middle.store, _, rfl, ⟨rfl, rfl⟩, back, lacking⟩

/-- Both requests are answered, and one of the hits is not in the file. -/
theorem file_left_stale :
    ∃ last restored, (start .empty ⟨"metrics.json", .missing⟩).run staleSteps = some last ∧
      last.IsQuiet ∧ last.store.counters.find? "Hits" = some 2 ∧
      (∀ prior : MemoryStore, prior.restore last.file = (.ok (), restored)) ∧
      restored.counters.find? "Hits" = some 1 := by
  have kept : (MemoryStore.empty.merge [.counter "Hits" 1]).ReadsBack := nofun
  have content : MemoryStore.ofFile ⟨"metrics.json",
      .content (MemoryStore.empty.merge [.counter "Hits" 1]).snapshot.write⟩ = _ :=
    MemoryStore.ofFile_write kept "metrics.json"
  exact ⟨_, MemoryStore.empty.merge [.counter "Hits" 1], rfl, ⟨rfl, rfl⟩, rfl,
    SnapshotFile.Restores.restore_eq ⟨content, rfl⟩, rfl⟩

end Overlap

end Telemetry
