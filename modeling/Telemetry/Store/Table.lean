import Telemetry.Store.Error
/-!
The store in a database: one table of kinds and one of metrics, whose values are all kept as
binary floating point numbers. No rule of the tables makes the pair of name and kind unique; the
operations do.

A total is rounded to the nearest number when it is written and cut to the range of totals when
it is read. What an update answers is the total before it was rounded.

Updates run in transactions. Their statements work on a copy of the tables: a commit puts the copy
in the place of the tables, and a transaction that is dropped is rolled back.
-/

namespace Telemetry

structure KindRow where
  id : Nat
  name : String
deriving DecidableEq, Repr

structure MetricRow where
  id : Nat
  name : String
  kindId : Nat
  value : Binary64
deriving DecidableEq, Repr

structure Database where
  /-- Whether the tables have been made and the kinds written. -/
  isPrepared : Bool
  kinds : List KindRow
  rows : List MetricRow
  /-- The names of which a rule refuses new rows. -/
  refused : List String
deriving DecidableEq, Repr

namespace Database

def blank : Database := ⟨false, [], [], []⟩

def prepare (database : Database) : Database :=
  if database.isPrepared then database
  else { database with isPrepared := true, kinds := [⟨1, Kind.gauge.word⟩, ⟨2, Kind.counter.word⟩] }

def kindId? (database : Database) (kind : Kind) : Option Nat :=
  (database.kinds.find? fun row => row.name == kind.word).map KindRow.id

def nextRowId (database : Database) : Nat :=
  database.rows.foldl (fun next row => max next (row.id + 1)) 1

def nextKindId (database : Database) : Nat :=
  database.kinds.foldl (fun next row => max next (row.id + 1)) 1

/-- The value as the column keeps it: there is one zero, and what is no number is no value. -/
def kept? (value : Binary64) : Option Binary64 :=
  if value.isNaN then none
  else if value.magnitude = 0 then some .zero
  else some value

def find? (database : Database) (name : String) (kindId : Nat) : Option MetricRow :=
  database.rows.find? fun row => row.name == name && row.kindId == kindId

def insertRow (database : Database) (name : String) (kindId : Nat) (value : Binary64) :
    Except StorageError Database :=
  match kept? value with
  | none => .error (.table .missingValue)
  | some kept =>
    if database.refused.contains name then .error (.table .refusedRow)
    else if database.kinds.all fun row => row.id != kindId then .error (.table .unknownKind)
    else
      .ok { database with rows := database.rows ++ [⟨database.nextRowId, name, kindId, kept⟩] }

def setValue (database : Database) (id : Nat) (value : Binary64) : Except StorageError Database :=
  match kept? value with
  | none => .error (.table .missingValue)
  | some kept =>
    .ok { database with
      rows := database.rows.map fun row => if row.id = id then { row with value := kept } else row }

/-- The tables after another program has removed a kind, which works only when no metric has it. -/
def removeKind? (database : Database) (kind : Kind) : Option Database :=
  let gone := database.kinds.filter fun row => row.name == kind.word
  if database.rows.any fun row => gone.any fun kindRow => kindRow.id == row.kindId then none
  else some { database with kinds := database.kinds.filter fun row => row.name != kind.word }

/-- The tables after another program has added a kind of its own and a metric of it. -/
def addForeign (database : Database) (kind name : String) (value : Binary64) : Database :=
  { database with
    kinds := database.kinds ++ [⟨database.nextKindId, kind⟩]
    rows := database.rows ++ [⟨database.nextRowId, name, database.nextKindId, value⟩] }

end Database

/-- A connection to a database, with the numbers under which it found the two kinds. -/
structure TableStore where
  database : Database
  gaugeId : Nat
  counterId : Nat
  isOpen : Bool
deriving DecidableEq, Repr

namespace TableStore

def backend : String := "relational"

/-- Prepares a database and looks up the kinds, both of which have to be there. -/
def connect (database : Database) : Except StorageError TableStore :=
  let prepared := database.prepare
  match prepared.kindId? .gauge, prepared.kindId? .counter with
  | some gaugeId, some counterId => .ok ⟨prepared, gaugeId, counterId, true⟩
  | none, _ => .error (.table (.notSeeded .gauge))
  | _, none => .error (.table (.notSeeded .counter))

def kindId (store : TableStore) : Kind → Nat
  | .gauge => store.gaugeId
  | .counter => store.counterId

def kindOf? (store : TableStore) (row : MetricRow) : Option Kind :=
  if row.kindId = store.gaugeId then some .gauge
  else if row.kindId = store.counterId then some .counter
  else none

def sampleOf (kind : Kind) (value : Binary64) : Sample :=
  match kind with
  | .gauge => .gauge value
  | .counter => .counter value.toInt64

def columnOf : Sample → Binary64
  | .gauge level => level
  | .counter total => .ofInt total.toInt

/-- Reads the row of a metric and then changes or adds it. -/
def upsert (store : TableStore) (metric : Metric) : Except StorageError (Metric × TableStore) :=
  match store.database.find? metric.name (store.kindId metric.kind) with
  | some row =>
    match (Metric.mk row.name (sampleOf metric.kind row.value)).update metric with
    | .error error => .error (.metric error)
    | .ok merged =>
      (store.database.setValue row.id (columnOf merged.sample)).map fun database =>
        (merged, { store with database })
  | none =>
    (store.database.insertRow metric.name (store.kindId metric.kind)
      (columnOf metric.sample)).map fun database => (metric, { store with database })

def whenOpen (store : TableStore) (operation : Except StorageError α) : Except StorageError α :=
  if store.isOpen then operation else .error (.connection "the pool is closed")

end TableStore

structure Transaction where
  /-- The tables as they were when the transaction began. -/
  begun : Database
  /-- The connection whose tables the statements have changed so far. -/
  working : TableStore

namespace Transaction

def commit (transaction : Transaction) : TableStore := transaction.working

def rollback (transaction : Transaction) : TableStore :=
  { transaction.working with database := transaction.begun }

/-- Merges a metric. A statement that fails leaves what those before it have done. -/
def upsert (transaction : Transaction) (metric : Metric) :
    Except StorageError Metric × Transaction :=
  match transaction.working.upsert metric with
  | .ok (stored, working) => (.ok stored, { transaction with working })
  | .error error => (.error error, transaction)

/-- Merges metrics one after another, up to the first one that fails. -/
def upsertAll (transaction : Transaction) : List Metric → Except StorageError Unit × Transaction
  | [] => (.ok (), transaction)
  | metric :: rest =>
    match transaction.upsert metric with
    | (.ok _, next) => next.upsertAll rest
    | (.error error, next) => (.error error, next)

end Transaction

namespace TableStore

def begin (store : TableStore) : Except StorageError Transaction :=
  store.whenOpen (.ok ⟨store.database, store⟩)

/-- Runs statements in a transaction. It is committed when they have all worked; with the first
error it is dropped. -/
def transact (store : TableStore)
    (statements : Transaction → Except StorageError α × Transaction) :
    Except StorageError α × TableStore :=
  match store.begin with
  | .error error => (.error error, store)
  | .ok transaction =>
    match statements transaction with
    | (.ok answer, done) => (.ok answer, done.commit)
    | (.error error, dropped) => (.error error, dropped.rollback)

def update (store : TableStore) (metric : Metric) : Except StorageError Metric × TableStore :=
  store.transact fun transaction => transaction.upsert metric

def updateAll (store : TableStore) (metrics : List Metric) :
    Except StorageError Unit × TableStore :=
  store.transact fun transaction => transaction.upsertAll metrics

def get (store : TableStore) (kind : Kind) (name : String) : Except StorageError Metric :=
  store.whenOpen <|
    match store.database.find? name (store.kindId kind) with
    | some row => .ok ⟨row.name, sampleOf kind row.value⟩
    | none => .error (.notFound kind name)

def list (store : TableStore) : Except StorageError (List Metric) :=
  store.whenOpen <| .ok <| store.database.rows.filterMap fun row =>
    (store.kindOf? row).map fun kind => ⟨row.name, sampleOf kind row.value⟩

def ping (store : TableStore) : Except StorageError Unit := store.whenOpen (.ok ())

def close (store : TableStore) : TableStore := { store with isOpen := false }

end TableStore

end Telemetry
