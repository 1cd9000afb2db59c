import Mathlib.Algebra.Ring.Parity
import RouteAlerts.Proofs.Json.Records
import RouteAlerts.Proofs.Lists
import RouteAlerts.Route.Directions

/-!
The road in a response. A response is a record of routes, a route one of sections, a section one of
roads and a road one of numbers, and each of these lists may be missing (`IsResponse`,
`routes_eq_some_iff`). The numbers of a road are longitudes and latitudes in turn
(`Polyline.Pairs`). Every road of the first route is paired on its own, so a number without a
partner moves none of the points behind it (`vertices_keep_pairs`).
-/

namespace RouteAlerts

open Json

/-! ### Pairs of numbers -/

namespace Polyline

/-- The points are the pairs of the numbers, in order, a longitude and then a latitude. -/
def Pairs (values : List Float) (points : Polyline) : Prop :=
  ∀ (k : Nat) (p : Point), points[k]? = some p ↔
    values[2 * k]? = some p.lon ∧ values[2 * k + 1]? = some p.lat

theorem length_lt_two {values : List Float}
    (short : ∀ lon lat rest, values = lon :: lat :: rest → False) : values.length < 2 := by
  match values with
  | [] => exact Nat.zero_lt_two
  | [_] => exact Nat.one_lt_two
  | lon :: lat :: rest => exact absurd rfl (short lon lat rest)

theorem ofFlat_of_length_lt_two {values : List Float} (few : values.length < 2) :
    ofFlat values = [] := by
  match values with
  | [] => rfl
  | [_] => rfl

theorem pairs_ofFlat (values : List Float) : Pairs values (ofFlat values) := by
  induction values using ofFlat.induct with
  | case1 lon lat rest ih =>
    rintro k ⟨pLat, pLon⟩
    cases k with
    | zero => simp [ofFlat, and_comm]
    | succ k => simpa [ofFlat, Nat.mul_succ] using ih k ⟨pLat, pLon⟩
  | case2 values short =>
    have few := length_lt_two short
    intro k p
    have none : values[2 * k + 1]? = none := List.getElem?_eq_none (by omega)
    simp [ofFlat_of_length_lt_two few, none]

/-- A list of numbers has one list of pairs. -/
theorem pairs_iff {values : List Float} {points : Polyline} :
    Pairs values points ↔ points = ofFlat values := by
  constructor
  · intro pairs
    exact List.ext_getElem? fun k => Option.ext fun p =>
      (pairs k p).trans (pairs_ofFlat values k p).symm
  · rintro rfl
    exact pairs_ofFlat values

theorem forall₂_pairs_iff {roads : List (List Float)} {parts : List Polyline} :
    List.Forall₂ Pairs roads parts ↔ parts = roads.map ofFlat := by
  induction roads generalizing parts with
  | nil => simp
  | cons road roads ih => simp [List.forall₂_cons_left_iff, pairs_iff, ih]

theorem length_ofFlat (values : List Float) : (ofFlat values).length = values.length / 2 := by
  induction values using ofFlat.induct with
  | case1 lon lat rest ih =>
    simp only [ofFlat, List.length_cons, ih]
    omega
  | case2 values short =>
    have few := length_lt_two short
    rw [ofFlat_of_length_lt_two few, Nat.div_eq_of_lt few, List.length_nil]

theorem length_ofParts (roads : List (List Float)) :
    (ofParts roads).length = (roads.map fun road => road.length / 2).sum := by
  simp [ofParts, List.length_flatMap, length_ofFlat]

/-- Where the points of a road stand: behind those of the roads before it. -/
theorem getElem?_ofParts (before after : List (List Float)) {road : List Float} {k : Nat}
    (within : k < road.length / 2) :
    (ofParts (before ++ road :: after))[(before.map fun road => road.length / 2).sum + k]? =
      (ofFlat road)[k]? := by
  have split : ofParts (before ++ road :: after) =
      ofParts before ++ (ofFlat road ++ ofParts after) := by
    simp [ofParts]
  rw [split, ← length_ofParts, List.getElem?_append_right (Nat.le_add_right _ _),
    Nat.add_sub_cancel_left, List.getElem?_append_left (by rwa [length_ofFlat])]

/-- Numbers that all have partners are paired as if nothing stood behind them. -/
theorem ofFlat_append {values : List Float} (even : Even values.length) (rest : List Float) :
    ofFlat (values ++ rest) = ofFlat values ++ ofFlat rest := by
  induction values using ofFlat.induct with
  | case1 lon lat values ih =>
    have even' : Even values.length := by
      rw [Nat.even_iff] at even ⊢
      simp only [List.length_cons] at even
      omega
    simp [ofFlat, ih even']
  | case2 values short =>
    have few := length_lt_two short
    have empty : values = [] := by
      rw [Nat.even_iff] at even
      exact List.eq_nil_of_length_eq_zero (by omega)
    rw [empty]
    rfl

theorem ofParts_eq_ofFlat_flatten {roads : List (List Float)}
    (even : ∀ road ∈ roads, Even road.length) : ofParts roads = ofFlat roads.flatten := by
  induction roads with
  | nil => rfl
  | cons road roads ih =>
    obtain ⟨even, others⟩ := List.forall_mem_cons.mp even
    rw [List.flatten_cons, ofFlat_append even, ← ih others, ofParts, List.flatMap_cons, ofParts]

end Polyline

/-! ### Responses -/

namespace Directions

/-- A record of one list, with what its items stand for; there are none where the list is missing.
-/
inductive ListsField {α : Type} (name : String) (Is : Raw → α → Prop) : Raw → List α → Prop where
  | given {v : Raw} {items : List Raw} {as : List α} (own : FieldOf name v (.given (.array items)))
      (each : List.Forall₂ Is items as) : ListsField name Is v as
  | absent {v : Raw} (own : FieldOf name v .absent) : ListsField name Is v []
  | cutOff {v : Raw} (own : FieldOf name v .cutOff) : ListsField name Is v []

def IsNumber (v : Raw) (x : Float) : Prop := ∃ n, v = .number n ∧ n.toFloat? = some x

def IsRoad : Raw → List Float → Prop := ListsField "vertexes" IsNumber

def IsSection : Raw → List (List Float) → Prop := ListsField "roads" IsRoad

def IsRoute : Raw → List (List (List Float)) → Prop := ListsField "sections" IsSection

/-- A response with the numbers of every road, section by section and route by route. -/
def IsResponse : Raw → List (List (List (List Float))) → Prop := ListsField "routes" IsRoute

theorem only_of_field {α : Type} {name : String} {d : Decoder α} {v : Raw} {field : Field}
    (own : FieldOf name v field) : only name d v = field.withDefault (list d) [] := by
  rw [only, record_eq_some_iff.mpr ⟨field, own, rfl⟩]
  rfl

theorem only_eq_some_iff {α : Type} {name : String} {d : Decoder α} {Is : Raw → α → Prop}
    (spec : ∀ v a, d v = some a ↔ Is v a) (v : Raw) (as : List α) :
    only name d v = some as ↔ ListsField name Is v as := by
  constructor
  · intro h
    obtain ⟨field, own⟩ : ∃ field, FieldOf name v field := by
      unfold only at h
      obtain ⟨fields, read, -⟩ := Option.bind_eq_some_iff.mp h
      obtain ⟨field, own, -⟩ := record_eq_some_iff.mp read
      exact ⟨field, own⟩
    rw [only_of_field own] at h
    cases field with
    | given items =>
      cases items with
      | array items => exact .given own ((mapM_eq_some_iff spec).mp h)
      | null => cases h
      | bool => cases h
      | number => cases h
      | string => cases h
      | object => cases h
    | absent =>
      obtain rfl := Option.some.inj h
      exact .absent own
    | cutOff =>
      obtain rfl := Option.some.inj h
      exact .cutOff own
  · intro h
    cases h with
    | given own each =>
      rw [only_of_field own]
      exact (mapM_eq_some_iff spec).mpr each
    | absent own =>
      rw [only_of_field own]
      rfl
    | cutOff own =>
      rw [only_of_field own]
      rfl

theorem float_eq_some_iff (v : Raw) (x : Float) : float v = some x ↔ IsNumber v x := by
  cases v <;> simp [float, IsNumber]

/-- A response is read as the numbers in it. -/
theorem routes_eq_some_iff (v : Raw) (rs : List (List (List (List Float)))) :
    routes v = some rs ↔ IsResponse v rs :=
  only_eq_some_iff (only_eq_some_iff (only_eq_some_iff (only_eq_some_iff float_eq_some_iff))) v rs

/-- The numbers of the roads of the first route, section by section. -/
def firstRoads (rs : List (List (List (List Float)))) : List (List Float) := (rs.headD []).flatten

theorem roadOf_eq (rs : List (List (List (List Float)))) :
    roadOf rs = Polyline.ofParts (firstRoads rs) := by
  cases rs <;> rfl

theorem firstRoads_congr {rs rs' : List (List (List (List Float)))} (same : rs'.head? = rs.head?) :
    firstRoads rs' = firstRoads rs := by
  rw [firstRoads, firstRoads, List.headD_eq_head?_getD, same, List.headD_eq_head?_getD]

theorem bind_routes_eq_some_iff {body : Bytes} {rs : List (List (List (List Float)))} :
    (readBytes body).bind routes = some rs ↔ ∃ v, readBytes body = some v ∧ IsResponse v rs := by
  simp only [Option.bind_eq_some_iff, routes_eq_some_iff]

theorem read_eq_ok_iff {body : Bytes} {points : Polyline} : read body = .ok points ↔
    ∃ v rs, readBytes body = some v ∧ IsResponse v rs ∧
      points = Polyline.ofParts (firstRoads rs) := by
  unfold read
  constructor
  · intro h
    split at h
    · cases h
    · rename_i rs decoded
      obtain ⟨v, value, response⟩ := bind_routes_eq_some_iff.mp decoded
      obtain rfl := Except.ok.inj h
      exact ⟨v, rs, value, response, roadOf_eq rs⟩
  · rintro ⟨v, rs, value, response, rfl⟩
    rw [bind_routes_eq_some_iff.mpr ⟨v, value, response⟩, ← roadOf_eq]

/-- The road in a response is made of the roads of its first route, section by section, each with
the pairs of its own numbers. The points of a road stand behind as many points as the roads before
it have pairs, whether or not those have a number left over. Another response with the same first
route has the same road, whatever its other routes are. Where no number is left over, the road is
made of the pairs of all numbers. -/
theorem vertices_keep_pairs (body : Bytes) (points : Polyline) :
    (read body = .ok points ↔ ∃ v rs, readBytes body = some v ∧ IsResponse v rs ∧
      ∃ parts, List.Forall₂ Polyline.Pairs (firstRoads rs) parts ∧ points = parts.flatten) ∧
    ∀ v rs, readBytes body = some v → IsResponse v rs → read body = .ok points →
      points.length = ((firstRoads rs).map fun road => road.length / 2).sum ∧
      (∀ before road after, firstRoads rs = before ++ road :: after →
        ∀ k < road.length / 2, ∀ p : Point,
          points[(before.map fun road => road.length / 2).sum + k]? = some p ↔
            road[2 * k]? = some p.lon ∧ road[2 * k + 1]? = some p.lat) ∧
      (∀ body' v' rs', readBytes body' = some v' → IsResponse v' rs' → rs'.head? = rs.head? →
        read body' = .ok points) ∧
      ((∀ road ∈ firstRoads rs, Even road.length) →
        Polyline.Pairs (firstRoads rs).flatten points) := by
  refine ⟨?_, fun v rs value response own => ?_⟩
  · simp only [read_eq_ok_iff, Polyline.forall₂_pairs_iff, exists_eq_left, Polyline.ofParts,
      List.flatMap]
  · obtain rfl : points = Polyline.ofParts (firstRoads rs) := by
      have read : read body = .ok _ := read_eq_ok_iff.mpr ⟨v, rs, value, response, rfl⟩
      exact Except.ok.inj (own.symm.trans read)
    refine ⟨Polyline.length_ofParts _, ?_, ?_, fun even => ?_⟩
    · intro before road after split k within p
      rw [split, Polyline.getElem?_ofParts before after within]
      exact Polyline.pairs_ofFlat road k p
    · intro body' v' rs' value' response' same
      exact read_eq_ok_iff.mpr ⟨v', rs', value', response', by rw [firstRoads_congr same]⟩
    · rw [Polyline.ofParts_eq_ofFlat_flatten even]
      exact Polyline.pairs_ofFlat _

/-- The first of two roads has a number left over; the second is read from its own first number. A
second route changes nothing. Without the left-over number the two are read like one list. -/
theorem vertices_keep_pairs_sample :
    let body (values others : String) := Utf8.encode
      ("\x7b\"routes\":[\x7b\"sections\":[\x7b\"roads\":[\x7b\"vertexes\":".toList ++ values.toList ++
        "\x7d,\x7b\"vertexes\":[126,38]\x7d]\x7d]\x7d".toList ++ others.toList ++ "]\x7d".toList)
    ∃ points, read (body "[127,37,128]" ",\x7b\x7d") = .ok points ∧ points.length = 2 ∧
      points[1]? = some ⟨38, 126⟩ ∧ read (body "[127,37,128]" "") = .ok points ∧
      read (body "[127,37]" "") = .ok points ∧ Polyline.Pairs [127, 37, 126, 38] points := by
  intro body
  have decoded : (readBytes (body "[127,37,128]" ",\x7b\x7d")).bind routes =
      some [[[[127, 37, 128], [126, 38]]], []] := by decide +kernel
  have decoded' : (readBytes (body "[127,37,128]" "")).bind routes =
      some [[[[127, 37, 128], [126, 38]]]] := by decide +kernel
  have even : (readBytes (body "[127,37]" "")).bind routes =
      some [[[[127, 37], [126, 38]]]] := by decide +kernel
  obtain ⟨v, value, response⟩ := bind_routes_eq_some_iff.mp decoded
  obtain ⟨v', value', response'⟩ := bind_routes_eq_some_iff.mp decoded'
  obtain ⟨w, evenValue, evenResponse⟩ := bind_routes_eq_some_iff.mp even
  have read : read (body "[127,37,128]" ",\x7b\x7d") = .ok [⟨37, 127⟩, ⟨38, 126⟩] :=
    read_eq_ok_iff.mpr ⟨v, _, value, response, rfl⟩
  have evenRead : Directions.read (body "[127,37]" "") = .ok [⟨37, 127⟩, ⟨38, 126⟩] :=
    read_eq_ok_iff.mpr ⟨w, _, evenValue, evenResponse, rfl⟩
  obtain ⟨length, place, others, -⟩ := (vertices_keep_pairs _ _).2 v _ value response read
  obtain ⟨-, -, -, flat⟩ := (vertices_keep_pairs _ _).2 w _ evenValue evenResponse evenRead
  refine ⟨_, read, length, ?_, others _ v' _ value' response' rfl, evenRead, flat ?_⟩
  · exact (place [[127, 37, 128]] [126, 38] [] rfl 0 (by decide) ⟨38, 126⟩).mpr ⟨rfl, rfl⟩
  · intro road among
    rcases List.mem_cons.mp among with rfl | among
    · exact ⟨1, rfl⟩
    · obtain rfl := List.mem_singleton.mp among
      exact ⟨1, rfl⟩

end Directions

end RouteAlerts
