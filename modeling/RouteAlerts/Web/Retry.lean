import RouteAlerts.Text.Blank
import RouteAlerts.Text.Digit

/-!
Bounded retries. An attempt that fails for a passing reason is repeated after a wait that grows with
the number of attempts; any other outcome is the outcome of the whole run.
-/

namespace RouteAlerts

/-- A span of time in nanoseconds. -/
structure Duration where
  nanos : Nat
  deriving DecidableEq, Repr

namespace Duration

/-- The longest span: all seconds of 64 bits and all nanoseconds below another one. -/
def longest : Nat := (Text.numbersOf 64 - 1) * 1000000000 + 999999999

def ofMillis (n : Nat) : Duration := ⟨n * 1000000⟩

def ofSeconds (n : Nat) : Duration := ⟨n * 1000000000⟩

def seconds (d : Duration) : Nat := d.nanos / 1000000000

def subsecond (d : Duration) : Nat := d.nanos % 1000000000

/-- A span several times over, at most the longest one. -/
def times (d : Duration) (n : Nat) : Duration := ⟨min (d.nanos * n) longest⟩

/-- The units of a span with their nanoseconds, the largest one first. -/
def units : List (String × Nat) := [("s", 1000000000), ("ms", 1000000), ("µs", 1000), ("ns", 1)]

/-- A span in the largest unit of which it has one, with as many places as it needs. -/
def text (d : Duration) : List Char :=
  let (unit, per) := (units.find? fun (_, per) => per ≤ d.nanos).getD ("ns", 1)
  let width := (Text.natDigits per).length - 1
  let places := Text.dropEndWhile (· == '0') ((Text.padded width (d.nanos % per)).take width)
  Text.natDigits (d.nanos / per) ++ (if places.isEmpty then [] else '.' :: places) ++ unit.toList

end Duration

/-- How often to try, and how long to wait. -/
structure RetryPolicy where
  maxAttempts : Nat
  baseDelay : Duration
  deriving DecidableEq, Repr

namespace RetryPolicy

def standard : RetryPolicy := ⟨3, .ofSeconds 2⟩

/-- The wait after an attempt: the base delay times the attempt's number, which counts up to the
largest 32-bit number. -/
def delayAfter (p : RetryPolicy) (attempt : Nat) : Duration :=
  p.baseDelay.times (min attempt (Text.numbersOf 32 - 1))

end RetryPolicy

/-- One attempt, and up to `left` more while the failures are passing ones. -/
def retryFrom {m : Type → Type} [Monad m] {ε α : Type} (policy : RetryPolicy) (passing : ε → Bool)
    (wait : Duration → m Unit) (attempt : Nat → m (Except ε α)) (number : Nat) :
    Nat → m (Except ε α)
  | 0 => attempt number
  | left + 1 => do
    match ← attempt number with
    | .ok a => pure (.ok a)
    | .error e =>
      if passing e then do
        wait (policy.delayAfter number)
        retryFrom policy passing wait attempt (number + 1) left
      else pure (.error e)

/-- Attempts numbered from one until one of them succeeds or fails for good, or there are no more.
At least one attempt is made. -/
def retry {m : Type → Type} [Monad m] {ε α : Type} (policy : RetryPolicy) (passing : ε → Bool)
    (wait : Duration → m Unit) (attempt : Nat → m (Except ε α)) : m (Except ε α) :=
  retryFrom policy passing wait attempt 1 (policy.maxAttempts - 1)

/-! ### Runs over known outcomes -/

/-- What a run of attempts did. -/
structure RetryTrace where
  /-- The numbers of the attempts, in order. -/
  attempts : List Nat := []
  /-- The waits between them. -/
  waits : List Duration := []
  deriving DecidableEq, Repr

/-- A run in which attempt `n` has the outcome `outcomes n`, and its trace. -/
def retryTrace {ε α : Type} (policy : RetryPolicy) (passing : ε → Bool)
    (outcomes : Nat → Except ε α) : Except ε α × RetryTrace :=
  let wait (d : Duration) : StateM RetryTrace Unit := modify fun t =>
    { t with waits := t.waits ++ [d] }
  let attempt (n : Nat) : StateM RetryTrace (Except ε α) := do
    modify fun t => { t with attempts := t.attempts ++ [n] }
    pure (outcomes n)
  (retry policy passing wait attempt).run ⟨[], []⟩

end RouteAlerts
