import Telemetry.Proofs.Schedules
import Telemetry.Service.Basic
import Telemetry.Store.Scripted
/-!
Stores that fail. A script says which calls of a store fail and how, so that what holds for every
script holds however the calls fail before they have done anything.

A call that is repeated is made at the instants of the schedule and takes one entry of the script
each time, up to the entry that settles the matter; the store behind the script is reached in the
last attempt or not at all (`ScriptedStore.asked_retryFrom`). So a service merges what it was sent
once, or it fails and has merged nothing, however often it asked (`Service.merges_once`).
-/

namespace Telemetry

open Backoff (passes settling timeUntil retryFrom)

namespace ScriptedStore

variable {σ α : Type} {call : StoreCall} {operation : StoreOperation σ α}

/-- What an entry of a script does to a call, before the store is reached. -/
def verdict (script : List (Option StorageError)) (number : Nat) : Except StorageError Unit :=
  match script[number]?.join with
  | some fault => .error fault
  | none => .ok ()

/-- Calls at the first instants of a schedule, the latest first. -/
def callsUntil (call : StoreCall) (delays : List Nat) (start waits : Nat) :
    List (StoreCall × Nat) :=
  ((List.range (waits + 1)).map fun number => (call, start + timeUntil delays number)).reverse

/-- A call that was repeated after some waits: each attempt has taken an entry of the script, and
the last entry has decided whether the store behind it was reached. -/
structure Asked (call : StoreCall) (operation : StoreOperation σ α) (delays : List Nat)
    (start waits : Nat) (store : ScriptedStore σ)
    (outcome : Backoff.Outcome StorageError α (ScriptedStore σ)) : Prop where
  calls : outcome.state.calls = callsUntil call delays start waits ++ store.calls
  script : outcome.state.script = store.script.drop (waits + 1)
  finished : outcome.finished = start + timeUntil delays waits
  answered : (outcome.result, outcome.state.inner) =
    match verdict store.script waits with
    | .error fault => (.error fault, store.inner)
    | .ok () => operation (start + timeUntil delays waits) store.inner

theorem callsUntil_cons (delay : Nat) (rest : List Nat) (start waits : Nat) :
    callsUntil call (delay :: rest) start (waits + 1) =
      callsUntil call rest (start + delay) waits ++ [(call, start)] := by
  rw [callsUntil, List.range_succ_eq_map, List.map_cons, List.map_map, List.reverse_cons,
    callsUntil]
  simp [Function.comp_def, Backoff.timeUntil_cons, Backoff.timeUntil_zero, Nat.add_assoc]

theorem verdict_tail (script : List (Option StorageError)) (number : Nat) :
    verdict script.tail number = verdict script (number + 1) := by
  rw [verdict, verdict, List.getElem?_tail]

theorem guarded_eq (now : Nat) (store : ScriptedStore σ) :
    guarded call operation now store =
      match verdict store.script 0 with
      | .error fault =>
        (.error fault, ⟨store.inner, store.script.tail, (call, now) :: store.calls⟩)
      | .ok () =>
        ((operation now store.inner).1,
          ⟨(operation now store.inner).2, store.script.tail, (call, now) :: store.calls⟩) := by
  rw [verdict, ← List.head?_eq_getElem?, guarded]
  cases store.script.head?.join <;> rfl

theorem asked_once (delays : List Nat) (start : Nat) (store : ScriptedStore σ) :
    Asked call operation delays start 0 store
      ⟨(guarded call operation start store).1, (guarded call operation start store).2, start,
        []⟩ := by
  rw [guarded_eq]
  cases first : verdict store.script 0 with
  | error fault => exact ⟨rfl, List.drop_one.symm, rfl, by rw [first]⟩
  | ok passed => exact ⟨rfl, List.drop_one.symm, rfl, by rw [first]; rfl⟩

/-- An attempt that fails, with the wait after it, goes before those that come later. -/
theorem Asked.waited {delay start waits : Nat} {rest : List Nat} {store : ScriptedStore σ}
    {outcome : Backoff.Outcome StorageError α (ScriptedStore σ)}
    (later : Asked call operation rest (start + delay) waits
      ⟨store.inner, store.script.tail, (call, start) :: store.calls⟩ outcome)
    (events : List Log.Event) :
    Asked call operation (delay :: rest) start (waits + 1) store { outcome with events } where
  calls := by
    rw [later.calls, callsUntil_cons, List.append_assoc]
    rfl
  script := by
    rw [later.script, List.drop_tail]
  finished := by
    rw [later.finished, Backoff.timeUntil_cons, Nat.add_assoc]
  answered := by
    have answered := later.answered
    rw [verdict_tail, Nat.add_assoc, ← Backoff.timeUntil_cons] at answered
    exact answered

/-- A call of which the store behind the script settles every attempt that reaches it. -/
theorem asked_retryFrom
    (settles : ∀ now state, passes (operation now state).1 = false) (attempt start : Nat)
    (delays : List Nat) (store : ScriptedStore σ) :
    Asked call operation delays start (settling delays (verdict store.script)) store
      (retryFrom none (guarded call operation) attempt delays start store) := by
  induction delays generalizing attempt start store with
  | nil =>
    rw [Backoff.retryFrom_settled rfl (.inl rfl), Backoff.settling_nil]
    exact asked_once [] start store
  | cons delay rest ih =>
    rw [Backoff.settling_cons]
    cases first : verdict store.script 0 with
    | ok passed =>
      have settled : passes (guarded call operation start store).1 = false := by
        rw [guarded_eq, first]
        exact settles start store.inner
      rw [Backoff.retryFrom_settled rfl (.inr settled), passes, if_neg (by decide)]
      exact asked_once (delay :: rest) start store
    | error fault =>
      have tried : guarded call operation start store =
          (.error fault, ⟨store.inner, store.script.tail, (call, start) :: store.calls⟩) := by
        rw [guarded_eq, first]
      cases transient : Failure.isTransient fault with
      | false =>
        have settled : passes (guarded call operation start store).1 = false := by
          rw [tried]
          exact transient
        rw [Backoff.retryFrom_settled rfl (.inr settled), passes, transient, if_neg (by decide)]
        exact asked_once (delay :: rest) start store
      | true =>
        rw [Backoff.retryFrom_waited tried transient rfl, passes, transient, if_pos rfl]
        have later := ih (attempt + 1) (start + delay)
          ⟨store.inner, store.script.tail, (call, start) :: store.calls⟩
        simp only [funext (verdict_tail store.script)] at later
        exact later.waited _

end ScriptedStore

namespace Service

open ScriptedStore (Asked verdict callsUntil asked_retryFrom)

variable {σ α : Type}

/-- What a service makes of a call that cannot fail once it reaches the store: it asks at the
instants of its schedule until the script settles the matter after some waits, and it passes on what
the store answers to the last attempt, or the fault that kept that attempt from the store. -/
structure Persists (service : Service (ScriptedStore σ)) (call : StoreCall)
    (reach : σ → α × σ) (session : Session (ScriptedStore σ)) (waits : Nat)
    (ended : Except ServiceError α × Session (ScriptedStore σ)) : Prop where
  calls : ended.2.store.calls =
    callsUntil call service.backoff.delays session.now waits ++ session.store.calls
  reached : verdict session.store.script waits = .ok () →
    ended.1 = .ok (reach session.store.inner).1 ∧
      ended.2.store.inner = (reach session.store.inner).2
  failed : ∀ fault, verdict session.store.script waits = .error fault →
    ended.1 = .error (.ofStorage fault) ∧ ended.2.store.inner = session.store.inner

/-- The waits after which the script of a store settles a call that a service repeats. -/
def waitsFor (service : Service (ScriptedStore σ)) (session : Session (ScriptedStore σ)) : Nat :=
  settling service.backoff.delays (verdict session.store.script)

theorem persists_of_reaches (service : Service (ScriptedStore σ)) (call : StoreCall)
    {operation : StoreOperation σ α} {reach : σ → α × σ}
    (reaches : ∀ now state, operation now state = (.ok (reach state).1, (reach state).2))
    (session : Session (ScriptedStore σ)) :
    service.Persists call reach session (service.waitsFor session)
      ((service.attempt (ScriptedStore.guarded call operation)).run session) := by
  have settles : ∀ now state, passes (operation now state).1 = false := by
    intro now state
    rw [reaches]
    rfl
  have asked : Asked call operation service.backoff.delays session.now
      (service.waitsFor session) session.store
      (service.backoff.retry none (ScriptedStore.guarded call operation) session.now
        session.store) :=
    asked_retryFrom settles 1 session.now service.backoff.delays session.store
  have answered := asked.answered
  refine ⟨asked.calls, ?_, ?_⟩
  · intro passed
    rw [passed, reaches] at answered
    obtain ⟨result, inner⟩ := Prod.mk.inj answered
    exact ⟨congrArg (Except.mapError ServiceError.ofStorage) result, inner⟩
  · intro fault refused
    rw [refused] at answered
    obtain ⟨result, inner⟩ := Prod.mk.inj answered
    exact ⟨congrArg (Except.mapError ServiceError.ofStorage) result, inner⟩

/-- However the calls of a store in memory fail, what a service was sent is merged once or not at
all, and the answer tells which. -/
theorem merges_once {service : Service (ScriptedStore FiledStore)}
    (scripted : service.backend = Backend.memory.scripted)
    (session : Session (ScriptedStore FiledStore)) :
    (∀ metric, service.Persists .update
        (fun host => ((host.store.update metric).1,
          { host with store := (host.store.update metric).2 }))
        session (service.waitsFor session)
        ((service.attempt (service.backend.update metric)).run session)) ∧
      ∀ metrics, service.Persists .updateAll
        (fun host => ((), { host with store := host.store.updateAll metrics }))
        session (service.waitsFor session)
        ((service.attempt (service.backend.updateAll metrics)).run session) := by
  rw [scripted]
  exact ⟨fun metric => service.persists_of_reaches .update (fun _now _host => rfl) session,
    fun metrics => service.persists_of_reaches .updateAll (fun _now _host => rfl) session⟩

end Service
end Telemetry
