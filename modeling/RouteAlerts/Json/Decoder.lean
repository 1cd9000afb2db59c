import RouteAlerts.Json.Reader

/-!
Values taken apart by what they are expected to hold. A record is read from an object, whose unknown
members are passed over and whose known ones may stand there once, or from an array of its fields in
order.
-/

namespace RouteAlerts.Json

open Text

/-- A value as it was read. -/
abbrev Raw : Type := Value (Option (List Char))

/-- What a value is read as; nothing when it is something else. -/
abbrev Decoder (α : Type) : Type := Raw → Option α

def text : Decoder String
  | .string (some s) => some (String.ofList s)
  | _ => none

/-- A floating-point number; a whole number will do. -/
def float : Decoder Float
  | .number n => n.toFloat?
  | _ => none

/-- A natural number below a bound. -/
def natBelow (bound : Nat) : Decoder Nat
  | .number n => n.toNat? bound
  | _ => none

def int64 : Decoder Int
  | .number n => n.toInt64?
  | _ => none

def optional {α : Type} (d : Decoder α) : Decoder (Option α)
  | .null => some none
  | v => (d v).map some

def list {α : Type} (d : Decoder α) : Decoder (List α)
  | .array vs => vs.mapM d
  | _ => none

/-- A text that is read further. -/
def textOf {α : Type} (read : List Char → Option α) : Decoder α
  | .string (some s) => read s
  | _ => none

/-- One of several names, as a text or as the only member of an object, with `null` as its value. -/
def oneOf {α : Type} (names : List (String × α)) : Decoder α
  | .string (some s) => (names.find? fun (name, _) => name.toList == s).map Prod.snd
  | .object [(some s, .null)] => (names.find? fun (name, _) => name.toList == s).map Prod.snd
  | _ => none

/-! ### Records -/

/-- What a record says about one of its fields. -/
inductive Field where
  | given (v : Raw)
  /-- The object has no member of this name. -/
  | absent
  /-- The array ends before this field. -/
  | cutOff

/-- The fields of a record in the order of their names. -/
def record (names : List String) : Decoder (List Field)
  | .object ms =>
    if ms.any fun (key, _) => key.isNone then none
    else if names.any fun name => ms.countP (fun (key, _) => key == some name.toList) ≥ 2 then none
    else some (names.map fun name =>
      match ms.find? fun (key, _) => key == some name.toList with
      | some (_, v) => .given v
      | none => .absent)
  | .array vs =>
    if vs.length > names.length then none
    else some (vs.map .given ++ List.replicate (names.length - vs.length) .cutOff)
  | _ => none

def Field.required {α : Type} (d : Decoder α) : Field → Option α
  | .given v => d v
  | _ => none

/-- A field that may be `null`, or missing from an object. -/
def Field.nullable {α : Type} (d : Decoder α) : Field → Option (Option α)
  | .given v => optional d v
  | .absent => some none
  | .cutOff => none

/-- A field with a value that stands for a missing one. -/
def Field.withDefault {α : Type} (d : Decoder α) (missing : α) : Field → Option α
  | .given v => d v
  | _ => some missing

end RouteAlerts.Json
