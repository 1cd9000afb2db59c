import RouteAlerts.Announcement.PlaceColumn
import RouteAlerts.Archive.Steps
import RouteAlerts.Interchange
import RouteAlerts.Main
import RouteAlerts.Proofs.Announcement.FirstOccurrence
import RouteAlerts.Proofs.Announcement.Stages
import RouteAlerts.Proofs.Archive.Whole
import RouteAlerts.Proofs.Archive.History
import RouteAlerts.Proofs.Bulletin.FileName
import RouteAlerts.Proofs.Bulletin.Partition
import RouteAlerts.Proofs.Bulletin.RoundTrip
import RouteAlerts.Proofs.Event.Expiry
import RouteAlerts.Proofs.Event.Recurrence
import RouteAlerts.Proofs.Event.PlaceDays
import RouteAlerts.Proofs.Event.Upcoming
import RouteAlerts.Proofs.Place.Settled
import RouteAlerts.Proofs.Run.Accounts
import RouteAlerts.Proofs.Run.Leftovers
import RouteAlerts.Proofs.Run.Refusals
import RouteAlerts.Proofs.Run.Repetition
import RouteAlerts.Proofs.Run.TidyPlaces
import RouteAlerts.Proofs.Calendar.Order
import RouteAlerts.Proofs.Text.Order
import RouteAlerts.Proofs.Bulletin.PostDate
import RouteAlerts.Proofs.Place.Queries
import RouteAlerts.Proofs.Announcement.PlaceColumn
import RouteAlerts.Proofs.Text.Number
import RouteAlerts.Proofs.Bulletin.Selection
import RouteAlerts.Proofs.Web.Retry
import RouteAlerts.Proofs.Place.FirstHit
import RouteAlerts.Proofs.Schedule.Columns
import RouteAlerts.Proofs.Schedule.WordBreaks
import RouteAlerts.Proofs.Announcement.ClockReading
import RouteAlerts.Proofs.Text.TornWords
import RouteAlerts.Proofs.Text.SqueezedPieces
import RouteAlerts.Proofs.Schedule.Fragments
import RouteAlerts.Proofs.Bytes.Base64
import RouteAlerts.Proofs.Bulletin.Payload
import RouteAlerts.Proofs.Bulletin.FirstUsable
import RouteAlerts.Proofs.Bulletin.Ending
import RouteAlerts.Proofs.Route.Checks
import RouteAlerts.Proofs.Route.Directions
import RouteAlerts.Proofs.Schedule.ListDate
import RouteAlerts.Proofs.Announcement.SlotKey
