import RouteAlerts.Text.Blank

/-!
Names of downloaded files, made safe for every common file system.
-/

namespace RouteAlerts.FileName

open Text

def isControl (c : Char) : Bool :=
  let n := c.toNat
  n < 0x20 || (0x7F ≤ n && n ≤ 0x9F)

/-- The characters that some file system does not allow in a name. -/
def reserved : List Char := ['<', '>', ':', '"', '/', '\\', '|', '?', '*']

def isForbidden (c : Char) : Bool := reserved.contains c || isControl c

def fallback : List Char := "attachment.bin".toList

/-- A name that is allowed everywhere: trimmed, an underscore for every forbidden character, never
empty. -/
def sanitize (name : List Char) : List Char :=
  let cleaned := (trim name).map fun c => if isForbidden c then '_' else c
  if cleaned.isEmpty then fallback else cleaned

/-- What follows the last point of a name, when something stands before the point and behind it. -/
def extension? (name : List Char) : Option (List Char) :=
  match splitLast (· == '.') name with
  | some (stem, ext) => if stem.isEmpty || ext.isEmpty then none else some ext
  | none => none

/-- The extension under which a file of this name is stored, in lower-case ASCII; `bin` when the
name has none. -/
def storedExtension (name : List Char) : List Char :=
  ((extension? name).getD "bin".toList).map Char.toLower

/-- A name that ends in `.pdf`: an ending of those letters stays, any other is replaced, and a
missing one is added. -/
def asPdf (name : List Char) : List Char :=
  match splitLast (· == '.') name with
  | some (stem, ext) =>
    if ext.map Char.toLower == "pdf".toList then sanitize name
    else sanitize (stem ++ ".pdf".toList)
  | none => sanitize (name ++ ".pdf".toList)

end RouteAlerts.FileName
