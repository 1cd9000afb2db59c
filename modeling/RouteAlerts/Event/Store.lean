import RouteAlerts.Event.Basic
import RouteAlerts.Event.Timestamp

/-!
The event store. On one day it holds no two events of one place and no two of one title: what
arrives again is counted and left out. Events are never removed; once over they are marked as ended.
-/

namespace RouteAlerts

/-- An event as it is stored. -/
structure Row where
  id : Nat
  title : String
  description : Option String
  locationName : String
  locationAddress : Option String
  point : Point
  start : List Char
  finish : List Char
  category : Option String
  severity : Nat
  status : EventStatus
  createdAt : List Char
  updatedAt : List Char

/-- The events, earlier ones first, and the last identifier that was given. -/
structure EventStore where
  rows : List Row := []
  lastId : Nat := 0

structure SyncOutcome where
  inserted : Nat := 0
  duplicates : Nat := 0
  failed : Nat := 0
  deriving DecidableEq, Repr

namespace Row

def startsOn (r : Row) (day : Option Int) : Bool :=
  match Timestamp.day? r.start, day with
  | some a, some b => a == b
  | _, _ => false

/-- Whether a stored event keeps a draft out: it has the draft's place or its title, and starts on
the same day. -/
def clashes (r : Row) (d : EventDraft) : Bool :=
  (r.locationName == d.locationName || r.title == d.title) &&
    r.startsOn (Timestamp.day? (Timestamp.write d.start))

/-- Whether an event starts after a timestamp. -/
def isUpcoming (r : Row) (now : List Char) : Bool := r.status == .active && decide (now < r.start)

/-- The later one of start and end. -/
def last (r : Row) : List Char := if r.start < r.finish then r.finish else r.start

/-- Whether an event was over before a timestamp. -/
def isOver (r : Row) (cutoff : List Char) : Bool := r.status == .active && decide (r.last < cutoff)

def event? (r : Row) : Option Event := do
  some {
    id := r.id
    draft := {
      title := r.title
      description := r.description
      locationName := r.locationName
      locationAddress := r.locationAddress
      point := r.point
      start := ← Timestamp.read? r.start
      finish := ← Timestamp.read? r.finish
      category := r.category
      severity := r.severity
      status := r.status }
    createdAt := ← Timestamp.read? r.createdAt
    updatedAt := ← Timestamp.read? r.updatedAt }

end Row

namespace EventStore

/-- A coordinate as it is stored: zero has no sign. -/
def storedNumber (x : Float) : Float := if x == 0.0 then 0.0 else x

def rowOf (id : Nat) (now : Moment) (d : EventDraft) : Row where
  id
  title := d.title
  description := d.description
  locationName := d.locationName
  locationAddress := d.locationAddress
  point := ⟨storedNumber d.point.lat, storedNumber d.point.lon⟩
  start := Timestamp.write d.start
  finish := Timestamp.write d.finish
  category := d.category
  severity := d.severity
  status := d.status
  createdAt := Timestamp.write now
  updatedAt := Timestamp.write now

/-- Whether a draft may be stored: its coordinates are numbers and its severity is one of three. -/
def admits (d : EventDraft) : Bool := !d.point.isNaN && 1 ≤ d.severity && d.severity ≤ 3

/-- Adds a row at the end, under the next identifier. -/
def append (s : EventStore) (row : Nat → Row) : EventStore :=
  ⟨s.rows ++ [row (s.lastId + 1)], s.lastId + 1⟩

inductive Fate where
  | inserted
  | duplicate
  | failed
  deriving DecidableEq, Repr

def fate (s : EventStore) (d : EventDraft) : Fate :=
  if s.rows.any (·.clashes d) then .duplicate
  else if admits d then .inserted
  else .failed

/-- Adds a draft, unless it clashes or may not be stored. -/
def add (s : EventStore) (now : Moment) (d : EventDraft) : EventStore :=
  match s.fate d with
  | .inserted => s.append fun id => rowOf id now d
  | .duplicate | .failed => s

end EventStore

/-- An outcome with one more event in it. -/
def SyncOutcome.count (o : SyncOutcome) : EventStore.Fate → SyncOutcome
  | .inserted => { o with inserted := o.inserted + 1 }
  | .duplicate => { o with duplicates := o.duplicates + 1 }
  | .failed => { o with failed := o.failed + 1 }

namespace EventStore

/-- Adds a batch of drafts one after the other. -/
def sync (s : EventStore) (now : Moment) (batch : List EventDraft) : EventStore × SyncOutcome :=
  batch.foldl (fun (s, outcome) d => (s.add now d, outcome.count (s.fate d))) (s, {})

/-- Marks the events as ended that were over before a moment, and says how many. -/
def endBefore (s : EventStore) (now cutoff : Moment) : EventStore × Nat :=
  let cutoff := Timestamp.write cutoff
  let finish (r : Row) : Row :=
    if r.isOver cutoff then { r with status := .ended, updatedAt := Timestamp.write now } else r
  ({ s with rows := s.rows.map finish }, s.rows.countP (·.isOver cutoff))

/-- Whether a row comes before another one: by its start, then by its identifier. -/
def comesBefore (a b : Row) : Bool := decide (a.start < b.start) || (a.start == b.start && a.id ≤ b.id)

/-- The active rows that start after a moment, the soonest first. -/
def upcomingRows (s : EventStore) (now : Moment) : List Row :=
  (s.rows.filter (·.isUpcoming (Timestamp.write now))).mergeSort comesBefore

/-- The active events that start after a moment, the soonest first; nothing when the timestamps of
one of them cannot be read. -/
def upcoming? (s : EventStore) (now : Moment) : Option (List Event) :=
  (s.upcomingRows now).mapM Row.event?

end EventStore

end RouteAlerts
