import RouteAlerts.Archive.Store

/-!
The archive step by step. A document is written to a temporary file beside its path and then
renamed, so its path never shows a part of it. Any number of calls may be under way on one disk;
their steps come in any order, each call may fail between two steps, and all of them may stop at
once.

`Activity.Step` says what a call does next, `Session.Step` what may happen on the disk, and
`Session.Reachable` which states that leads to.
-/

namespace RouteAlerts

/-- A file below the root of the archive. -/
inductive DiskName where
  | document (path : ArchivePath)
  /-- A temporary file in the directory of a day and a source. -/
  | temporary (day source : List Char) (number : Nat)
  deriving DecidableEq, Repr

/-- The files below the root of the archive. -/
structure Disk where
  read? : DiskName → Option Bytes

namespace Disk

def empty : Disk := ⟨fun _ => none⟩

/-- Puts a file under a name, or takes away the one that is there. -/
def set (d : Disk) (name : DiskName) (content : Option Bytes) : Disk :=
  ⟨fun n => if n = name then content else d.read? n⟩

def remove (d : Disk) (name : DiskName) : Disk := d.set name none

def append (d : Disk) (name : DiskName) (chunk : Bytes) : Disk :=
  d.set name ((d.read? name).map (· ++ chunk))

/-- Moves a file to another name in one step, whatever lies there. -/
def rename (d : Disk) (old new : DiskName) : Disk :=
  match d.read? old with
  | some content => (d.remove old).set new (some content)
  | none => d

@[simp] theorem read?_set_self (d : Disk) (name : DiskName) (content : Option Bytes) :
    (d.set name content).read? name = content := by
  simp [set]

theorem read?_set_of_ne (d : Disk) {name other : DiskName} (content : Option Bytes)
    (h : other ≠ name) : (d.set name content).read? other = d.read? other := by
  simp [set, h]

end Disk

structure Offer where
  fetchedAt : Moment
  source : List Char
  name : List Char
  document : Bytes

namespace Offer

def path (o : Offer) : ArchivePath := .of o.fetchedAt o.source o.name o.document

/-- A temporary file in the directory of the document. -/
def temporary (o : Offer) (number : Nat) : DiskName :=
  .temporary o.path.day o.path.source number

end Offer

/-- How far a call that stores a document has come. -/
inductive StoringStage where
  | begun
  /-- There is a directory for the document. -/
  | directoryMade
  /-- Nothing lay at its path. -/
  | foundNothing
  /-- Some of its bytes stand in a temporary file. -/
  | writing (number written : Nat)
  /-- The temporary file could not be renamed and is about to be removed. -/
  | undoing (number : Nat) (answer : Option Bool)
  /-- The call is over: whether the document lay there before, or nothing if it failed. -/
  | returned (answer : Option Bool)
  deriving DecidableEq, Repr

/-- A call on the archive that is under way. -/
inductive Activity where
  | storing (o : Offer) (stage : StoringStage)
  /-- Removes what lies at a path. -/
  | discarding (path : ArchivePath)
  /-- Has removed it. -/
  | discarded

namespace Activity

/-- One step of a call. `issued` counts the temporary files that were ever made, so that no two have
the same number. -/
inductive Step : Disk → Nat → Activity → Disk → Nat → Activity → Prop
  | makeDirectory {d : Disk} {issued : Nat} {o : Offer} :
    Step d issued (.storing o .begun) d issued (.storing o .directoryMade)
  | findDocument {d : Disk} {issued : Nat} {o : Offer}
      (there : (d.read? (.document o.path)).isSome) :
    Step d issued (.storing o .directoryMade) d issued (.storing o (.returned (some true)))
  | findNothing {d : Disk} {issued : Nat} {o : Offer}
      (nothing : d.read? (.document o.path) = none) :
    Step d issued (.storing o .directoryMade) d issued (.storing o .foundNothing)
  | createTemporary {d : Disk} {issued : Nat} {o : Offer} :
    Step d issued (.storing o .foundNothing)
      (d.set (o.temporary issued) (some [])) (issued + 1) (.storing o (.writing issued 0))
  | write {d : Disk} {issued : Nat} {o : Offer} {number written : Nat} (chunk rest : Bytes)
      (next : o.document.drop written = chunk ++ rest) :
    Step d issued (.storing o (.writing number written))
      (d.append (o.temporary number) chunk) issued
      (.storing o (.writing number (written + chunk.length)))
  | rename {d : Disk} {issued : Nat} {o : Offer} {number : Nat} :
    Step d issued (.storing o (.writing number o.document.length))
      (d.rename (o.temporary number) (.document o.path)) issued
      (.storing o (.returned (some false)))
  | refuseRename {d : Disk} {issued : Nat} {o : Offer} {number : Nat} (answer : Option Bool) :
    Step d issued (.storing o (.writing number o.document.length)) d issued
      (.storing o (.undoing number answer))
  | removeTemporary {d : Disk} {issued : Nat} {o : Offer} {number : Nat} {answer : Option Bool} :
    Step d issued (.storing o (.undoing number answer))
      (d.remove (o.temporary number)) issued (.storing o (.returned answer))
  | fail {d : Disk} {issued : Nat} {o : Offer} {stage : StoringStage} :
    Step d issued (.storing o stage) d issued (.storing o (.returned none))
  | discard {d : Disk} {issued : Nat} {path : ArchivePath} :
    Step d issued (.discarding path) (d.remove (.document path)) issued .discarded

end Activity

/-- A disk with the calls that are under way on it. -/
structure Session where
  disk : Disk
  /-- How many temporary files were ever made. -/
  issued : Nat
  /-- The documents that calls were ever begun for. -/
  offered : List Offer
  activities : List Activity

namespace Session

def start : Session := ⟨.empty, 0, [], []⟩

/-- What may happen next: a call begins, one of them takes a step, or the process stops. -/
inductive Step : Session → Session → Prop
  | offer {s : Session} (o : Offer) :
    Step s { s with
      offered := o :: s.offered
      activities := s.activities ++ [.storing o .begun] }
  | discard {s : Session} (path : ArchivePath) :
    Step s { s with activities := s.activities ++ [.discarding path] }
  | advance {s : Session} {before after : List Activity} {a a' : Activity} {d : Disk} {issued : Nat}
      (found : s.activities = before ++ a :: after)
      (step : Activity.Step s.disk s.issued a d issued a') :
    Step s { s with disk := d, issued := issued, activities := before ++ a' :: after }
  | stop {s : Session} : Step s { s with activities := [] }

/-- The sessions that steps lead to from an empty disk. -/
inductive Reachable : Session → Prop
  | start : Reachable .start
  | step {s s' : Session} (reached : Reachable s) (next : Step s s') : Reachable s'

end Session

end RouteAlerts
