import RouteAlerts.Event.Store

/-!
The database that holds the event store. Its table is made by a migration; before that there is
nothing to ask and every event that arrives fails.
-/

namespace RouteAlerts

/-- A database, with or without the table of events. -/
structure Database where
  table : Option EventStore := none

inductive DatabaseError where
  | noTable
  /-- A timestamp in the table cannot be read. -/
  | unreadable
  deriving DecidableEq, Repr

namespace Database

def migrations : Nat := 1

/-- Makes the table, unless it is there. -/
def migrate (db : Database) : Database := ⟨some (db.table.getD {})⟩

def sync (db : Database) (now : Moment) (batch : List EventDraft) : Database × SyncOutcome :=
  match db.table with
  | some store =>
    let (store, outcome) := store.sync now batch
    (⟨some store⟩, outcome)
  | none => (db, { failed := batch.length })

def upcoming (db : Database) (now : Moment) : Except DatabaseError (List Event) :=
  match db.table with
  | none => .error .noTable
  | some store =>
    match store.upcoming? now with
    | some events => .ok events
    | none => .error .unreadable

/-- Marks the events as ended that were over before a moment. -/
def endBefore (db : Database) (now cutoff : Moment) : Except DatabaseError (Database × Nat) :=
  match db.table with
  | none => .error .noTable
  | some store =>
    let (store, n) := store.endBefore now cutoff
    .ok (⟨some store⟩, n)

def rows (db : Database) : Except DatabaseError (List Row) :=
  match db.table with
  | none => .error .noTable
  | some store => .ok store.rows

/-- Puts a row into the table as it is. -/
def insertRow (db : Database) (row : Nat → Row) : Except DatabaseError Database :=
  match db.table with
  | none => .error .noTable
  | some store => .ok ⟨some (store.append row)⟩

end Database

end RouteAlerts
