import RouteAlerts.Command.Basic

/-!
Commands read from the arguments of a line. A value follows its option, either as the next argument
or behind an equals sign; two hyphens alone end the options, after which nothing more is expected.
A value is looked at when the next option comes or the line ends, so what is unexpected is reported
first.
-/

namespace RouteAlerts.Command

open Text

inductive Shape where
  /-- Two hyphens alone. -/
  | divider
  /-- Two hyphens and a name, and perhaps a value behind an equals sign. -/
  | long (name : List Char) (value : Option (List Char))
  /-- A hyphen and letters. -/
  | short (first : Char)
  | plain
  deriving DecidableEq, Repr

def Shape.of : List Char → Shape
  | ['-', '-'] => .divider
  | '-' :: '-' :: rest =>
    match splitOnce (· == '=') rest with
    | some (name, value) => .long name (some value)
    | none => .long rest none
  | '-' :: c :: _ => .short c
  | _ => .plain

/-- What a flag comes to: an explanation, or an error where the flag is not known. -/
def flag (topic : Option CommandName) : Shape → List Char → Except UsageError Command
  | .long name value, _ =>
    if name == "help".toList then
      match value with
      | none => .ok (.help topic)
      | some v => .error (.helpValue v)
    else .error (.unexpected ('-' :: '-' :: name))
  | .short c, _ => if c == 'h' then .ok (.help topic) else .error (.unexpected ['-', c])
  | .divider, argument | .plain, argument => .error (.unexpected argument)

/-! ### Commands without options -/

/-- Reads the arguments of a command that has none. -/
def readBare (name : CommandName) (command : Command) :
    List (List Char) → Except UsageError Command
  | [] => .ok command
  | argument :: rest =>
    match Shape.of argument with
    | .divider =>
      match rest with
      | [] => .ok command
      | argument :: _ => .error (.unexpected argument)
    | shape => flag (some name) shape argument

/-! ### The route check -/

structure RouteValues where
  departure : Option Point := none
  arrival : Option Point := none
  threshold : Option Float := none

/-- An option and what stands behind it, not looked at yet. -/
structure Pending where
  option : CommandOption
  value : Option (List Char)

namespace RouteValues

def has (v : RouteValues) : CommandOption → Bool
  | .departure => v.departure.isSome
  | .arrival => v.arrival.isSome
  | .threshold => v.threshold.isSome

def set (v : RouteValues) (o : CommandOption) (s : List Char) : Except UsageError RouteValues :=
  match o with
  | .departure =>
    match Point.read s with
    | .ok p => .ok { v with departure := some p }
    | .error e => .error (.badValue o s e.message)
  | .arrival =>
    match Point.read s with
    | .ok p => .ok { v with arrival := some p }
    | .error e => .error (.badValue o s e.message)
  | .threshold =>
    match Decimal.read s with
    | .ok x => .ok { v with threshold := some x }
    | .error e => .error (.badValue o s e.message.toList)

/-- Reads an option: it has a value and was not read before. -/
def settle (v : RouteValues) : Option Pending → Except UsageError RouteValues
  | none => .ok v
  | some ⟨o, none⟩ => .error (.noValue o)
  | some ⟨o, some s⟩ => if v.has o then .error (.repeated o) else v.set o s

/-- The route check of the values, if both ends are there. -/
def command (v : RouteValues) : Except UsageError Command :=
  match v.departure, v.arrival with
  | some departure, some arrival => .ok (.checkRoute departure arrival v.threshold)
  | _, _ => .error .incomplete

end RouteValues

def readRoute (v : RouteValues) (pending : Option Pending) :
    List (List Char) → Except UsageError Command
  | [] => do (← v.settle pending).command
  | argument :: rest =>
    match Shape.of argument with
    | .divider =>
      match rest with
      | [] => do (← v.settle pending).command
      | argument :: _ => .error (.unexpected argument)
    | .long name value =>
      match CommandOption.of? name with
      | some o => do
        let v ← v.settle pending
        match value with
        | some s => readRoute (← v.settle (some ⟨o, some s⟩)) none rest
        | none => readRoute v (some ⟨o, none⟩) rest
      | none => do
        let shown ← flag (some .checkRoute) (.long name value) argument
        let _ ← v.settle pending
        .ok shown
    | .short c => do
      let shown ← flag (some .checkRoute) (.short c) argument
      let _ ← v.settle pending
      .ok shown
    | .plain =>
      match pending with
      | some ⟨o, none⟩ => readRoute v (some ⟨o, some argument⟩) rest
      | _ => .error (.unexpected argument)

/-! ### Lines -/

def readTopic : List (List Char) → Except UsageError Command
  | [] => .ok (.help none)
  | argument :: rest =>
    match CommandName.of? argument, rest with
    | some topic, [] => .ok (.help (some topic))
    | some _, further :: _ => .error (.unknownCommand further)
    | none, _ => .error (.unknownCommand argument)

def readNamed (name : CommandName) (arguments : List (List Char)) : Except UsageError Command :=
  match name with
  | .sync => readBare name .sync arguments
  | .migrate => readBare name .migrate arguments
  | .events => readBare name .events arguments
  | .expire => readBare name .expire arguments
  | .checkRoute => readRoute {} none arguments
  | .help => readTopic arguments

/-- The command of a line. An empty line is a sync. -/
def read : List (List Char) → Except UsageError Command
  | [] => .ok .sync
  | argument :: rest =>
    match CommandName.of? argument with
    | some name => readNamed name rest
    | none =>
      match Shape.of argument with
      | .divider =>
        match rest with
        | [] => .ok .sync
        | argument :: _ =>
          if (CommandName.of? argument).isSome then .error (.unexpected argument)
          else .error (.unknownCommand argument)
      | .plain => .error (.unknownCommand argument)
      | shape => flag none shape argument

end RouteAlerts.Command
