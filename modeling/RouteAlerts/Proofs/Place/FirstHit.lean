import RouteAlerts.Place.Locate
import RouteAlerts.Proofs.Text.Piece
import RouteAlerts.Proofs.Text.Substitute
import Mathlib.Order.Lattice.Nat

/-!
Which queries locate a place, and which of them are asked. A search with known answers may do
anything on a query besides: what `locate` does with it is to ask the ranked queries from the first
one on, up to the first with a hit in the region, and all of them once where there is none.
`IsLocated` says so without mentioning a search, and `locate_asks_up_to_hit` that every search is
used like that. An error is no hit.
-/

namespace RouteAlerts

open Text

/-- The search with known answers, each query having an effect of its own. -/
def Search.known {m : Type → Type} [Monad m] (mark : List Char → m Unit)
    (answer : List Char → Except MapError (Option FoundPlace)) : Search m := fun q => do
  mark q
  pure (answer q)

namespace Region

variable {r : Region} {answer : List Char → Except MapError (Option FoundPlace)}

/-! ### Hits in the region -/

/-- Whether a hit lies in the region: its address is not given or blank, or it has the city near its
start. -/
def Admits (r : Region) (hit : FoundPlace) : Prop :=
  ∀ a ∈ hit.address, (∀ c ∈ a.toList, isBlank c = true) ∨
    r.city <:+: (trim a.toList).take r.addressStart

/-- Whether a query has a certain hit, and it lies in the region. -/
def Finds (r : Region) (answer : List Char → Except MapError (Option FoundPlace)) (q : List Char)
    (hit : FoundPlace) : Prop :=
  answer q = .ok (some hit) ∧ r.Admits hit

/-- The ranks of the queries that find something in the region. -/
def hitRanks (r : Region) (answer : List Char → Except MapError (Option FoundPlace))
    (queries : List (List Char)) : Set Nat :=
  {i | ∃ q ∈ queries[i]?, ∃ hit, r.Finds answer q hit}

theorem holds_iff (hit : FoundPlace) : r.holds hit.address = true ↔ r.Admits hit := by
  unfold holds Admits
  cases hit.address with
  | none => simp
  | some a =>
    by_cases blank : trim a.toList = []
    · have inside : ∀ b ∈ some a, (∀ c ∈ b.toList, isBlank c = true) ∨
          r.city <:+: (trim b.toList).take r.addressStart := by
        rintro b ⟨⟩
        exact .inl (trim_eq_nil_iff.mp blank)
      exact iff_of_true (by simp [Option.filter, blank]) inside
    · have named : ¬ ∀ c ∈ a.toList, isBlank c = true := mt trim_eq_nil_iff.mpr blank
      simp [Option.filter, blank, named, contains_iff_infix]

theorem accept_of_finds {q : List Char} {hit : FoundPlace} (h : r.Finds answer q hit) :
    r.accept (answer q) = some hit.point := by
  rw [h.1, accept, if_pos ((holds_iff hit).mpr h.2)]

theorem accept_eq_none {q : List Char} (h : ∀ hit, ¬ r.Finds answer q hit) :
    r.accept (answer q) = none := by
  unfold accept
  split
  · rename_i hit found
    exact if_neg fun inside => h hit ⟨found, (holds_iff hit).mp inside⟩
  · rfl

/-! ### Asking -/

section Asking

variable {m : Type → Type} [Monad m] [LawfulMonad m] {mark : List Char → m Unit}

/-- A query that finds something is the last one. -/
theorem firstHit_of_finds {q : List Char} {hit : FoundPlace} (h : r.Finds answer q hit)
    (rest : List (List Char)) :
    r.firstHit (.known mark answer) (q :: rest) =
      (do
        mark q
        pure (some hit.point)) := by
  simp [firstHit, Search.known, accept_of_finds h]

/-- Queries that find nothing are asked one after the other. -/
theorem firstHit_of_misses {misses : List (List Char)}
    (h : ∀ q ∈ misses, ∀ hit, ¬ r.Finds answer q hit) (rest : List (List Char)) :
    r.firstHit (.known mark answer) (misses ++ rest) =
      (do
        misses.forM mark
        r.firstHit (.known mark answer) rest) := by
  induction misses with
  | nil => simp
  | cons q misses ih =>
    have others := ih fun q later => h q (List.mem_cons_of_mem _ later)
    simp [firstHit, Search.known, accept_eq_none (h q List.mem_cons_self), others]

/-- The first query that finds something is the last one that is asked. -/
theorem firstHit_of_isLeast {queries : List (List Char)} {i : Nat} {q : List Char}
    {hit : FoundPlace} (least : IsLeast (r.hitRanks answer queries) i) (rank : queries[i]? = some q)
    (finds : r.Finds answer q hit) :
    r.firstHit (.known mark answer) queries =
      (do
        (queries.take (i + 1)).forM mark
        pure (some hit.point)) := by
  have misses : ∀ p ∈ queries.take i, ∀ other, ¬ r.Finds answer p other := by
    intro p member other found
    obtain ⟨j, before, rfl⟩ := List.mem_take_iff_getElem.mp member
    have := least.2 ⟨_, List.getElem?_eq_getElem _, other, found⟩
    omega
  obtain ⟨inside, rfl⟩ := List.getElem?_eq_some_iff.mp rank
  have split : queries = queries.take i ++ queries[i] :: queries.drop (i + 1) := by
    rw [← List.drop_eq_getElem_cons inside, List.take_append_drop]
  have asked : queries.take (i + 1) = queries.take i ++ [queries[i]] := by
    rw [List.take_add_one, rank]
    rfl
  -- Only the list that is searched is split; the one that is asked stays a beginning of it.
  conv_lhs => rw [split]
  rw [firstHit_of_misses misses, firstHit_of_finds finds, asked]
  simp only [List.forM_eq_forM, List.forM_append, List.forM_cons, List.forM_nil, bind_assoc,
    pure_bind]

/-- When nothing is found all queries were asked. -/
theorem firstHit_of_no_hit {queries : List (List Char)}
    (none : r.hitRanks answer queries = ∅) :
    r.firstHit (.known mark answer) queries =
      (do
        queries.forM mark
        pure Option.none) := by
  have misses : ∀ q ∈ queries, ∀ hit, ¬ r.Finds answer q hit := by
    intro q member hit finds
    obtain ⟨i, rank⟩ := List.mem_iff_getElem?.mp member
    have found : i ∈ r.hitRanks answer queries := ⟨q, rank, hit, finds⟩
    simp [none] at found
  calc r.firstHit (.known mark answer) queries
      = r.firstHit (.known mark answer) (queries ++ []) := by rw [List.append_nil]
    _ = _ := firstHit_of_misses misses []

/-- What an answer finds in the region is all that matters of it. -/
theorem firstHit_congr {answer' : List Char → Except MapError (Option FoundPlace)}
    (same : ∀ q, r.accept (answer q) = r.accept (answer' q)) (queries : List (List Char)) :
    r.firstHit (.known mark answer) queries = r.firstHit (.known mark answer') queries := by
  induction queries with
  | nil => rfl
  | cons q queries ih => simp only [firstHit, Search.known, bind_assoc, pure_bind, same, ih]

end Asking

/-! ### Locating -/

/-- The ranked queries for what may be a place: none where there is none, and none where nothing is
left of it when it is normalized. -/
def ranked (r : Region) (place : Option (List Char)) : List (List Char) :=
  match place.map PlaceName.normalize with
  | none | some [] => []
  | some name => Place.queries r.city name

/-- Where something is with such answers to its ranked queries, and what has been asked then. -/
inductive IsLocated (r : Region) (answer : List Char → Except MapError (Option FoundPlace))
    (queries : List (List Char)) (embedded : Option Point) :
    List (List Char) → LocatedPlace → Prop where
  /-- At the point that it comes with, if that lies in the country. Nothing is asked. -/
  | embedded {p : Point} : p ∈ embedded → p.withinKorea = true →
      IsLocated r answer queries embedded [] ⟨p, .embedded⟩
  /-- Else at the first hit in the region. Nothing is asked behind it. -/
  | geocoded {i : Nat} {q : List Char} {hit : FoundPlace} :
      (∀ p ∈ embedded, p.withinKorea = false) → IsLeast (r.hitRanks answer queries) i →
      queries[i]? = some q → r.Finds answer q hit →
      IsLocated r answer queries embedded (queries.take (i + 1)) ⟨hit.point, .geocoded⟩
  /-- Else at the fallback. Everything is asked once. -/
  | fallback : (∀ p ∈ embedded, p.withinKorea = false) → r.hitRanks answer queries = ∅ →
      IsLocated r answer queries embedded queries ⟨r.fallback, .fallback⟩

theorem ranked_some (place : List Char) : r.ranked (some place) = r.queriesFor place := by
  unfold ranked queriesFor
  cases normalized : PlaceName.normalize place with
  | nil => simp [normalized]
  | cons c name => simp [normalized]

/-- What has been found in the queries is where something is that comes with no point of use. -/
theorem locate_of_outside {m : Type → Type} [Monad m] [LawfulMonad m] (mark : List Char → m Unit)
    {embedded : Option Point} (outside : ∀ p ∈ embedded, p.withinKorea = false)
    (place : Option (List Char)) :
    r.locate (.known mark answer) place embedded =
      (do
        match ← r.firstHit (.known mark answer) (r.ranked place) with
        | some p => pure ⟨p, .geocoded⟩
        | none => pure ⟨r.fallback, .fallback⟩) := by
  have unfit : embedded.filter Point.withinKorea = none := by
    rw [Option.filter_eq_none_iff]
    simpa using outside
  unfold locate
  rw [unfit]
  cases place with
  | none => simp [ranked, firstHit]
  | some place =>
    rw [ranked_some]
    rfl

/-- An error is no hit. -/
theorem accept_toOption (response : Except MapError (Option FoundPlace)) :
    r.accept (.ok response.toOption.join) = r.accept response := by
  rcases response with e | _ | hit
  · rfl
  · rfl
  · rfl

theorem locate_of_inside {m : Type → Type} [Monad m] (search : Search m) {p : Point}
    (inside : p.withinKorea = true) (place : Option (List Char)) :
    r.locate search place (some p) = pure ⟨p, .embedded⟩ := by
  simp [locate, Option.filter, inside]

/-- Where something is does not depend on the search but on what it finds. A point that comes with
it and lies in the country is where it is; else the first query with a hit in the region says so,
and without one it is at the fallback. Of the ranked queries those are asked, once and in order,
that stand in front of that hit, and its own; without a hit all of them; and with a point none. A
search that meets an error is used like one that finds nothing. -/
theorem locate_asks_up_to_hit (r : Region)
    (answer : List Char → Except MapError (Option FoundPlace)) (place : Option (List Char))
    (embedded : Option Point) :
    ∃ asked located, IsLocated r answer (r.ranked place) embedded asked located ∧
      ∀ (m : Type → Type) [Monad m] [LawfulMonad m] (mark : List Char → m Unit),
        r.locate (.known mark answer) place embedded =
            (do
              asked.forM mark
              pure located) ∧
          r.locate (.known mark fun q => .ok (answer q).toOption.join) place embedded =
            r.locate (.known mark answer) place embedded := by
  -- The point comes first, then the hit of least rank, then the fallback.
  by_cases useful : ∃ p ∈ embedded, p.withinKorea = true
  · obtain ⟨p, rfl, inside⟩ := useful
    refine ⟨[], _, .embedded rfl inside, fun m _ _ mark => ?_⟩
    simp only [locate_of_inside _ inside, List.forM_eq_forM, List.forM_nil, pure_bind, and_self]
  have outside : ∀ p ∈ embedded, p.withinKorea = false := by simpa using useful
  -- Both searches accept the same points for each query, so they stop at the same one.
  have errors : ∀ (m : Type → Type) [Monad m] [LawfulMonad m] (mark : List Char → m Unit),
      r.locate (.known mark fun q => .ok (answer q).toOption.join) place embedded =
        r.locate (.known mark answer) place embedded := by
    intro m _ _ mark
    rw [locate_of_outside mark outside, locate_of_outside mark outside,
      firstHit_congr fun q => accept_toOption (answer q)]
  by_cases none : r.hitRanks answer (r.ranked place) = ∅
  · refine ⟨_, _, .fallback outside none, fun m _ _ mark => ⟨?_, errors m mark⟩⟩
    rw [locate_of_outside mark outside, firstHit_of_no_hit none]
    simp
  · have least : IsLeast (r.hitRanks answer (r.ranked place)) _ :=
      ⟨Nat.sInf_mem (Set.nonempty_iff_ne_empty.mpr none), fun _ => Nat.sInf_le⟩
    obtain ⟨q, rank, hit, finds⟩ := least.1
    refine ⟨_, _, .geocoded outside least rank finds, fun m _ _ mark => ⟨?_, errors m mark⟩⟩
    rw [locate_of_outside mark outside, firstHit_of_isLeast least rank finds]
    simp

/-- A hit in another city is passed over, and behind the one at home nothing is asked. -/
example :
    let answer (q : List Char) : Except MapError (Option FoundPlace) :=
      if q = "서울 시청".toList then .ok (some ⟨"시청", some "부산 연제구 중앙대로 1001", ⟨35.18, 129.07⟩⟩)
      else if q = "시청".toList then .ok (some ⟨"시청", some "서울 중구 세종대로 110", ⟨37.5663, 126.9779⟩⟩)
      else .error .noKey
    let search : Search (StateM (List String)) :=
      .known (fun q => modify (· ++ [String.ofList q])) answer
    let run := (locate {} search (some "시청 앞".toList) none).run []
    run.1.origin = .geocoded ∧ run.2 = ["서울 시청", "시청"] := by
  decide +kernel

end Region

end RouteAlerts
