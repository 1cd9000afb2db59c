import RouteAlerts.Decimal.Read
import RouteAlerts.Geo.Point
import RouteAlerts.Text.Blank
import RouteAlerts.Text.Quoted

/-!
Points as they are typed: latitude and longitude with a comma between them.
-/

namespace RouteAlerts

open Text

inductive PointError where
  | noComma (text : List Char)
  | latitude (e : Decimal.ReadError)
  | longitude (e : Decimal.ReadError)
  deriving DecidableEq, Repr

def PointError.message : PointError → List Char
  | .noComma text => "expected \x60lat,lon\x60, got ".toList ++ quoted text
  | .latitude e => "latitude: ".toList ++ e.message.toList
  | .longitude e => "longitude: ".toList ++ e.message.toList

/-- The point that a text stands for, blanks around either number allowed. What follows the first
comma belongs to the longitude. -/
def Point.read (s : List Char) : Except PointError Point :=
  match splitOnce (· == ',') s with
  | none => .error (.noComma s)
  | some (lat, lon) =>
    match Decimal.read (trim lat), Decimal.read (trim lon) with
    | .error e, _ => .error (.latitude e)
    | .ok _, .error e => .error (.longitude e)
    | .ok lat, .ok lon => .ok ⟨lat, lon⟩

end RouteAlerts
