import RouteAlerts.Calendar.Moment

/-!
Korean local time. The offset from Coordinated Universal Time has been nine hours since 1961, with
two summers of ten; before that it changed with the law.
-/

namespace RouteAlerts.Seoul

/-- The offset in seconds before the first change, local mean time. -/
def meanOffset : Int := 30472

/-- The moments at which the offset changed, in seconds since the start of 1970, and the offset in
seconds from then on. -/
def changes : List (Int × Int) :=
  [(-1948782472, 30600), (-1830414600, 32400), (-681210000, 36000), (-672228000, 32400),
   (-654771600, 36000), (-640864800, 32400), (-623408400, 36000), (-609415200, 32400),
   (-588848400, 36000), (-577965600, 32400), (-498128400, 30600), (-462702600, 34200),
   (-451733400, 30600), (-429784200, 34200), (-418296600, 30600), (-399544200, 34200),
   (-387451800, 30600), (-368094600, 34200), (-356002200, 30600), (-336645000, 34200),
   (-324552600, 30600), (-305195400, 34200), (-293103000, 30600), (-264933000, 32400),
   (547578000, 36000), (560883600, 32400), (579027600, 36000), (592333200, 32400)]

def offsetAt (seconds : Int) : Int :=
  changes.foldl (fun offset (start, next) => if start ≤ seconds then next else offset) meanOffset

def localMoment? (utc : Moment) : Option Moment := utc.addSeconds? (offsetAt utc.toSeconds)

/-- The local date of a moment in Coordinated Universal Time. A moment at the very end of the
calendar, whose local date cannot be represented, keeps its own. -/
def localDate (utc : Moment) : Date :=
  match localMoment? utc with
  | some m => m.date
  | none => utc.date

end RouteAlerts.Seoul
