import RouteAlerts.Announcement.Basic
import RouteAlerts.Json.Decoder
import RouteAlerts.Json.Printer

/-!
The places of an announcement in one column of text: a lone place as it is, several as a JSON array.
Reading is lenient: a broken array is still cut at its commas.
-/

namespace RouteAlerts.PlaceColumn

open Text

def write : List (List Char) → List Char
  | [] => []
  | [place] => place
  | places => Json.compact (.array (places.map .string))

/-- The trimmed texts of a list that are not blank. -/
def tidy (texts : List (List Char)) : List (List Char) :=
  (texts.map trim).filter (!·.isEmpty)

/-- A bracketed list that is no JSON array: brackets off both ends, cut at commas, quotes out. -/
def readBroken (column : List Char) : List (List Char) :=
  let body := trimWhere (fun c => c == '[' || c == ']') column
  tidy ((splitWhere (· == ',') body).map fun p => p.filter fun c => c != '"' && c != '\x27')

def read (column : List Char) : List (List Char) :=
  let column := trim column
  if column.isEmpty then []
  else if column.head? == some '[' && column.getLast? == some ']' then
    match (Json.readText column).bind (Json.list (Json.textOf some)) with
    | some places => tidy places
    | none => readBroken column
  else [column]

end RouteAlerts.PlaceColumn
