import RouteAlerts.Place.Locate
import RouteAlerts.Proofs.Decimal.NaN

/-!
Places found by the responses of a search. A search that knows its responses has no effects: it
finds a place at the point of the first response with a hit in the region. Unlike a point that ships
with an announcement, such a hit need not lie in the country. Its coordinates may be the word for no
number, and then, but never else, the place is nowhere (`isNaN_locateBy`).
-/

namespace RouteAlerts

open Text Web

theorem Point.isNaN_of_withinKorea {p : Point} (h : p.withinKorea = true) : p.isNaN = false := by
  simp only [withinKorea, Bool.and_eq_true, decide_eq_true_eq] at h
  obtain ⟨⟨⟨lat, -⟩, lon⟩, -⟩ := h
  rw [isNaN, (Decimal.isNaN_of_le lat).2, (Decimal.isNaN_of_le lon).2, Bool.or_false]

namespace PlaceSearch

/-- Whether one of the coordinates of an entry is the word for no number. -/
def Entry.spellsNaN (e : Entry) : Bool :=
  let isWord (text : String) : Bool := Decimal.isNaNWord (Decimal.unsigned (trim text.toList))
  isWord e.y || isWord e.x

/-- Whether the first entry of a response spells no number. -/
def misleads (body : Bytes) : Bool :=
  match (Json.readBytes body).bind entries with
  | some (e :: _) => e.spellsNaN
  | _ => false

theorem isNaN_coordinate {text : String} {x : Float} (h : coordinate text = .ok x) :
    x.isNaN = Decimal.isNaNWord (Decimal.unsigned (trim text.toList)) := by
  unfold coordinate at h
  split at h
  · rename_i found
    obtain rfl := Except.ok.inj h
    exact Decimal.isNaN_read found
  · cases h

theorem isNaN_placeOf {e : Entry} {hit : FoundPlace} (h : placeOf e = .ok hit) :
    hit.point.isNaN = e.spellsNaN := by
  unfold placeOf at h
  cases lon : coordinate e.x with
  | error _ =>
    rw [lon] at h
    cases h
  | ok x =>
    cases lat : coordinate e.y with
    | error _ =>
      rw [lon, lat] at h
      cases h
    | ok y =>
      rw [lon, lat] at h
      obtain rfl := Except.ok.inj h
      rw [Point.isNaN, Entry.spellsNaN, isNaN_coordinate lat, isNaN_coordinate lon]

/-- A hit has a coordinate that is no number exactly when the response spells one. -/
theorem isNaN_read {body : Bytes} {hit : FoundPlace} (h : read body = .ok (some hit)) :
    hit.point.isNaN = misleads body := by
  unfold read at h
  unfold misleads
  split at h
  · cases h
  · cases h
  · rename_i e _ first
    rw [first]
    cases found : placeOf e with
    | error _ =>
      rw [found] at h
      cases h
    | ok place =>
      rw [found] at h
      obtain rfl := Option.some.inj (Except.ok.inj h)
      exact isNaN_placeOf found

/-- The search that gets a response to every query. -/
def answering {m : Type → Type} [Monad m] (bodies : List Char → Bytes) : Search m :=
  fun q => pure (read (bodies q))

end PlaceSearch

namespace Region

/-- The hit of a response in the region, if it has one. -/
def hit? (r : Region) (body : Bytes) : Option Point := r.accept (PlaceSearch.read body)

/-- The query whose response says where a place is: the first one with a hit in the region. -/
def settling? (r : Region) (bodies : List Char → Bytes) (place : List Char) :
    Option (List Char) :=
  (r.queriesFor place).find? fun q => (r.hit? (bodies q)).isSome

/-- Where a place is that comes with a point or a name, or with neither, as the responses have
it. -/
def locateBy (r : Region) (bodies : List Char → Bytes) (place : Option (List Char))
    (embedded : Option Point) : LocatedPlace :=
  Id.run (r.locate (PlaceSearch.answering bodies) place embedded)

/-- Whether a place is found where a response spells no number. It is not when a point ships with it
that lies in the country, and not when an earlier response has a hit in the region. -/
def isMisled (r : Region) (bodies : List Char → Bytes) (place : Option (List Char))
    (embedded : Option Point) : Bool :=
  (embedded.filter Point.withinKorea).isNone &&
    (place.bind (r.settling? bodies)).any fun q => PlaceSearch.misleads (bodies q)

variable {r : Region} {bodies : List Char → Bytes}

theorem isNaN_hit? {body : Bytes} {p : Point} (h : r.hit? body = some p) :
    p.isNaN = PlaceSearch.misleads body := by
  unfold hit? accept at h
  split at h
  · rename_i hit found
    split at h
    · obtain rfl := Option.some.inj h
      exact PlaceSearch.isNaN_read found
    · cases h
  · cases h

theorem firstHit_answering {m : Type → Type} [Monad m] [LawfulMonad m] (qs : List (List Char)) :
    r.firstHit (PlaceSearch.answering bodies : Search m) qs =
      pure ((qs.find? fun q => (r.hit? (bodies q)).isSome).bind fun q => r.hit? (bodies q)) := by
  induction qs with
  | nil => rfl
  | cons q qs ih =>
    rw [firstHit, PlaceSearch.answering, pure_bind]
    cases hit : r.hit? (bodies q) with
    | none =>
      rw [List.find?_cons_of_neg (by simp [hit]), show r.accept _ = none from hit]
      exact ih
    | some p =>
      rw [List.find?_cons_of_pos (by simp [hit]), Option.bind_some, hit,
        show r.accept _ = some p from hit]

theorem resolve_answering {m : Type → Type} [Monad m] [LawfulMonad m] (place : List Char) :
    r.resolve (PlaceSearch.answering bodies : Search m) place =
      pure ((r.settling? bodies place).bind fun q => r.hit? (bodies q)) :=
  firstHit_answering _

/-- A search that knows its responses has no effects. -/
theorem locate_answering {m : Type → Type} [Monad m] [LawfulMonad m] (place : Option (List Char))
    (embedded : Option Point) :
    r.locate (PlaceSearch.answering bodies : Search m) place embedded =
      pure (r.locateBy bodies place embedded) := by
  unfold locateBy locate
  split
  · rfl
  · rfl
  · rename_i place _
    rw [resolve_answering, resolve_answering, pure_bind]
    cases (r.settling? bodies place).bind fun q => r.hit? (bodies q) with
    | none => rfl
    | some p => rfl

/-- With a fallback that is somewhere, a place is nowhere exactly when it is misled. -/
theorem isNaN_locateBy (fallback : r.fallback.isNaN = false) (place : Option (List Char))
    (embedded : Option Point) :
    (r.locateBy bodies place embedded).point.isNaN = r.isMisled bodies place embedded := by
  unfold locateBy isMisled locate
  split
  · rename_i p _ inside
    rw [inside]
    exact Point.isNaN_of_withinKorea (Option.filter_eq_some_iff.mp inside).2
  · rename_i outside
    rw [outside]
    exact fallback
  · rename_i place outside
    rw [outside, resolve_answering, pure_bind]
    cases settled : r.settling? bodies place with
    | none => simp [fallback, settled]
    | some q =>
      have hit := List.find?_some settled
      obtain ⟨p, found⟩ := Option.isSome_iff_exists.mp hit
      simp [settled, found, isNaN_hit? found]

end Region

end RouteAlerts
