import RouteAlerts.Text.Split
import RouteAlerts.Web.Url

/-!
Paths of addresses: how a path text is cut into segments, and how segments lead from one directory
to another. The path of a local file may start with the name of a drive, which nothing leads out
of.
-/

namespace RouteAlerts.Web.Url

open Text

/-- Whether a segment names the directory it stands in, a coded point counting as one. -/
def isHere (s : List Char) : Bool := s == ['.'] || s.map Char.toLower == "%2e".toList

/-- Whether a segment names the directory around. -/
def isAround (s : List Char) : Bool :=
  [['.', '.'], "%2e%2e".toList, ".%2e".toList, "%2e.".toList].contains (s.map Char.toLower)

/-- Whether a segment names a drive: a letter with a colon or a bar. -/
def isDrive : List Char → Bool
  | [c, mark] => c.isAlpha && (mark == ':' || mark == '|')
  | _ => false

/-- The name of a drive with a colon; any other segment as it is. -/
def withColon (s : List Char) : List Char := if isDrive s then s.take 1 ++ [':'] else s

/-- The directory around one. A drive has none around it. -/
def around (base : List (List Char)) : List (List Char) :=
  if base.getLast?.any isDrive then base else base.dropLast

/-- Goes along segments from a directory. A last segment that names a directory leaves an empty one
behind. With `onDisk`, the first segment of all may be a drive. -/
def walk (onDisk : Bool) (base : List (List Char)) : List (List Char) → List (List Char)
  | [] => base
  | [s] =>
    if isAround s then around base ++ [[]]
    else if isHere s then base ++ [[]]
    else base ++ [if onDisk && base.isEmpty then withColon s else s]
  | s :: rest =>
    if isAround s then walk onDisk (around base) rest
    else if isHere s then walk onDisk base rest
    else walk onDisk (base ++ [if onDisk && base.isEmpty then withColon s else s]) rest

/-- The segments of a path text behind its first slash. -/
def segmentsOf (special : Bool) (s : List Char) : List (List Char) :=
  (splitWhere (isSlash special) s).map (Percent.encodeWhere codedInPath)

end RouteAlerts.Web.Url
