import RouteAlerts.Route.Check

/-!
Commutes checked side by side. Their lookups begin in order, a bounded number of them at a time, and
end in any order. A check that is done waits for those before it, so the checks are handed over in
the order of the commutes.

`Checking.Step` says what may happen next, `Checking.Reachable` which states that leads to.
-/

namespace RouteAlerts

/-- A commute, with what the lookup of its road comes to. -/
structure Errand where
  commute : Commute
  lookup : Lookup

def Errand.check (threshold : Float) (events : List Event) (e : Errand) : RouteCheck :=
  .of threshold events e.commute e.lookup

/-- An errand whose lookup has begun, with its check once the lookup is over. -/
structure Pending where
  errand : Errand
  check? : Option RouteCheck

/-- How far the errands have come. -/
structure Checking where
  /-- Those that have not begun. -/
  waiting : List Errand
  /-- Those that have begun and are not handed over. -/
  underway : List Pending
  /-- The checks that are handed over. -/
  delivered : List RouteCheck

namespace Checking

def start (errands : List Errand) : Checking := ⟨errands, [], []⟩

/-- What may happen next: the next lookup begins if there is room, any lookup under way ends, or the
first check is handed over. There is always room for one. -/
inductive Step (limit : Nat) (threshold : Float) (events : List Event) :
    Checking → Checking → Prop
  | launch {e : Errand} {waiting : List Errand} {underway : List Pending}
      {delivered : List RouteCheck} (room : underway.length < max limit 1) :
    Step limit threshold events ⟨e :: waiting, underway, delivered⟩
      ⟨waiting, underway ++ [⟨e, none⟩], delivered⟩
  | settle {e : Errand} {waiting : List Errand} {before after : List Pending}
      {delivered : List RouteCheck} :
    Step limit threshold events ⟨waiting, before ++ ⟨e, none⟩ :: after, delivered⟩
      ⟨waiting, before ++ ⟨e, some (e.check threshold events)⟩ :: after, delivered⟩
  | deliver {e : Errand} {check : RouteCheck} {waiting : List Errand} {underway : List Pending}
      {delivered : List RouteCheck} :
    Step limit threshold events ⟨waiting, ⟨e, some check⟩ :: underway, delivered⟩
      ⟨waiting, underway, delivered ++ [check]⟩

inductive Reachable (limit : Nat) (threshold : Float) (events : List Event)
    (errands : List Errand) : Checking → Prop
  | start : Reachable limit threshold events errands (.start errands)
  | step {s s' : Checking} (reached : Reachable limit threshold events errands s)
      (next : Step limit threshold events s s') : Reachable limit threshold events errands s'

end Checking

end RouteAlerts
