import RouteAlerts.Announcement.Merge
import RouteAlerts.Event.Database
import RouteAlerts.Event.Draft
import RouteAlerts.Run.Feed
import RouteAlerts.Run.Report

/-!
A run: the announcements of all feeds are collected and merged, each is located and drafted as an
event, the events are stored and the run is reported. It comes to nothing only when there is nothing
to draft or no time for it.
-/

namespace RouteAlerts

open Web

structure RunSetup where
  settings : Settings
  /-- The feeds, the more trusted ones first. -/
  feeds : List Feed
  search : Search (StateM World)

/-- What sets a run apart from others: its identifier and its times. -/
structure RunMark where
  id : RunId
  startedAt : Moment
  finishedAt : Moment
  /-- The time that has passed when a number of announcements have been located. -/
  elapsed : Nat → Duration

/-- What runs leave behind. -/
structure Holdings where
  archive : Archive := {}
  database : Database := {}
  records : List RunRecord := []

structure Drafted where
  drafts : List EventDraft
  /-- How many of them are at the fallback point. -/
  fallbacks : Nat
  /-- Whether the time was up before all were drafted. -/
  timeUp : Bool

namespace Drafted

def nothing (timeUp : Bool) : Drafted := ⟨[], 0, timeUp⟩

def add (d : Drafted) (draft : EventDraft) (origin : Origin) : Drafted :=
  { d with
    drafts := draft :: d.drafts
    fallbacks := d.fallbacks + if origin == .fallback then 1 else 0 }

end Drafted

namespace RunSetup

def locate (setup : RunSetup) (a : Announcement) : StateM World LocatedPlace :=
  setup.settings.region.locate setup.search (a.primaryPlace.map String.toList) a.embeddedPoint

/-- Drafts announcements one after the other until the time is up; `done` of them came before. -/
def draftAll (setup : RunSetup) (late : Nat → Bool) (done : Nat) :
    List Announcement → StateM World Drafted
  | [] => pure (.nothing (late done))
  | a :: rest => do
    if late done then pure (.nothing true)
    else
      let place ← setup.locate a
      let drafted ← draftAll setup late (done + 1) rest
      pure (drafted.add (a.draft setup.settings.district place.point) place.origin)

/-- Whether a run is over time when a number of announcements have been located. -/
def isLate (setup : RunSetup) (mark : RunMark) (done : Nat) : Bool :=
  setup.settings.runTimeout.nanos ≤ (mark.elapsed done).nanos

end RunSetup

/-- How a run went: with a warning when a source failed, an event was refused or the time was up. -/
def RunStatus.of (sources : List SourceReport) (timeUp : Bool) (outcome : SyncOutcome) : RunStatus :=
  if timeUp || outcome.failed > 0 || sources.any (·.error.isSome) then .warning else .success

def RunSummary.of (sources : List SourceReport) (merged : List Announcement) (drafted : Drafted)
    (outcome : SyncOutcome) : RunSummary where
  status := .of sources drafted.timeUp outcome
  sources
  mergedRows := merged.length
  builtEvents := drafted.drafts.length
  fallbacks := drafted.fallbacks
  deadlineReached := drafted.timeUp
  outcome

namespace RunSetup

/-- One run. When it comes to nothing neither the events nor the reports change. -/
def run (setup : RunSetup) (mark : RunMark) (holdings : Holdings) :
    StateM World (Except RunError RunSummary × Holdings) := do
  let settings := setup.settings
  let (contributions, archive) ← Feed.collectAll settings.keepsBulletins settings.client
    mark.startedAt setup.feeds holdings.archive
  let holdings := { holdings with archive }
  let sources := contributions.map (·.report)
  let merged := Announcement.merge (contributions.map (·.rows))
  if merged.isEmpty then pure (.error .noEvents, holdings)
  else
    let drafted ← setup.draftAll (setup.isLate mark) 0 merged
    if drafted.drafts.isEmpty then pure (.error (.timeout settings.runTimeout), holdings)
    else
      let (database, outcome) := holdings.database.sync mark.startedAt drafted.drafts
      let summary := RunSummary.of sources merged drafted outcome
      let record : RunRecord := {
        id := mark.id
        startedAt := mark.startedAt
        finishedAt := mark.finishedAt
        summary
        directory := mark.id.directory settings.reportsRoot }
      pure (.ok summary, { holdings with database, records := holdings.records ++ [record] })

end RunSetup

end RouteAlerts
