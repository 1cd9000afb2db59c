import RouteAlerts.Proofs.Schedule.Rows

/-!
The slots of a page against the rows of its table. `grouped` is what all rows say together, row for
row: one slot for each times, where they are first said, with the places of all rows that say these
times, each place where it is first named. Slots are built one row after the other (`add_grouped`),
so they are these, however the rows of a slot are scattered (`ofRows_eq`).
-/

namespace RouteAlerts.Schedule

open Text Html

/-! ### Slots of rows -/

namespace Slot

/-- The places that are named with some times, in the order in which they are first named. -/
def placesAt (said : List (TimeRange × List (List Char))) (times : TimeRange) :
    List (List Char) :=
  firsts id [] ((said.filter fun s => s.1 = times).flatMap Prod.snd)

/-- The slots of what rows say: the times in the order in which they are first said, with the places
that are named with them. -/
def grouped (said : List (TimeRange × List (List Char))) : List Slot :=
  (firsts id [] (said.map Prod.fst)).map fun times => ⟨times, placesAt said times⟩

theorem map_times_grouped (said : List (TimeRange × List (List Char))) :
    (grouped said).map Slot.times = firsts id [] (said.map Prod.fst) := by
  rw [grouped, List.map_map]
  exact List.map_id _

theorem places_of_mem_grouped {said : List (TimeRange × List (List Char))} {slot : Slot}
    (h : slot ∈ grouped said) : slot.places = placesAt said slot.times := by
  obtain ⟨times, -, rfl⟩ := List.mem_map.mp h
  rfl

theorem placesAt_concat (said : List (TimeRange × List (List Char))) (times t : TimeRange)
    (named : List (List Char)) :
    placesAt (said ++ [(times, named)]) t =
      if t = times then distinct (placesAt said t ++ named) else placesAt said t := by
  by_cases same : t = times
  · simp [placesAt, same, distinct_eq_firsts, firsts_firsts_append]
  · simp [placesAt, same, Ne.symm same]

theorem placesAt_eq_nil {said : List (TimeRange × List (List Char))} {times : TimeRange}
    (new : times ∉ said.map Prod.fst) : placesAt said times = [] := by
  have none : said.filter (fun s => s.1 = times) = [] := by
    refine List.filter_eq_nil_iff.mpr fun s member => ?_
    simpa using fun same => new (List.mem_map.mpr ⟨s, member, same⟩)
  rw [placesAt, none]
  rfl

/-- A row adds its places to the slot with its times, or makes a slot behind the others. -/
theorem add_map {keys : List TimeRange} (nodup : keys.Nodup)
    (placesOf : TimeRange → List (List Char)) (times : TimeRange) (named : List (List Char)) :
    add (keys.map fun t => ⟨t, placesOf t⟩) times named =
      if times ∈ keys then
        keys.map fun t => ⟨t, if t = times then distinct (placesOf t ++ named) else placesOf t⟩
      else (keys.map fun t => ⟨t, placesOf t⟩) ++ [⟨times, distinct named⟩] := by
  induction keys with
  | nil => rfl
  | cons key keys ih =>
    obtain ⟨fresh, others⟩ := List.nodup_cons.mp nodup
    rw [List.map_cons, add]
    by_cases same : key = times
    · -- The slot that is found is the only one with these times, so the others stay as they are.
      subst same
      have apart : ∀ t ∈ keys, t ≠ key := fun t member same => fresh (same ▸ member)
      simp only [beq_self_eq_true, if_true, List.mem_cons_self, List.map_cons]
      refine congrArg _ (List.map_congr_left fun t member => ?_)
      rw [if_neg (apart t member)]
    · rw [if_neg (by simpa using same), ih others]
      by_cases known : times ∈ keys
      · simp [known, same]
      · simp [known, Ne.symm same]

/-- The slots of some rows and of one more. -/
theorem add_grouped (said : List (TimeRange × List (List Char))) (times : TimeRange)
    (named : List (List Char)) :
    add (grouped said) times named = grouped (said ++ [(times, named)]) := by
  have keys : firsts id [] ((said ++ [(times, named)]).map Prod.fst) =
      if times ∈ said.map Prod.fst then firsts id [] (said.map Prod.fst)
      else firsts id [] (said.map Prod.fst) ++ [times] := by
    rw [List.map_append]
    exact firsts_concat _ _
  rw [grouped, add_map (nodup_firsts _), grouped, keys]
  by_cases known : times ∈ said.map Prod.fst
  · rw [if_pos (mem_firsts.mpr known), if_pos known]
    simp only [placesAt_concat]
  · rw [if_neg (mt mem_firsts.mp known), if_neg known, List.map_append]
    refine congrArg₂ _ (List.map_congr_left fun t member => ?_) ?_
    · have other : t ≠ times := by
        rintro rfl
        exact known (mem_firsts.mp member)
      rw [placesAt_concat, if_neg other]
    · rw [List.map_singleton, placesAt_concat, if_pos rfl, placesAt_eq_nil known, List.nil_append]

/-- The slots of some rows and of several more. -/
theorem foldl_add_grouped (said more : List (TimeRange × List (List Char))) :
    more.foldl (fun slots (times, named) => add slots times named) (grouped said) =
      grouped (said ++ more) := by
  induction more generalizing said with
  | nil => simp
  | cons row more ih =>
    obtain ⟨times, named⟩ := row
    have first : add (grouped said) times named = grouped (said ++ [(times, named)]) :=
      add_grouped said times named
    simp only [List.foldl_cons, first, ih, List.append_assoc, List.singleton_append]

/-! ### Slots of a page -/

/-- The slots of a table are those of what its rows say. -/
theorem ofRows_eq (rows : List (Node × List Node)) : ofRows rows = grouped (saidBy rows) := by
  cases rows with
  | nil => rfl
  | cons first rest =>
    have width : (labels (first :: rest)).length = first.2.length := List.length_map _
    have built : ofRows (first :: rest) =
        (saidBy (first :: rest)).foldl (fun slots (times, named) => add slots times named)
          (grouped []) := by
      unfold ofRows saidBy columnsOf
      rw [width]
      rfl
    rw [built, foldl_add_grouped, List.nil_append]

theorem list_eq (markup : List Char) : list markup = grouped (saidBy (pageRows markup)) := by
  rw [← ofRows_eq]
  unfold list pageRows
  cases table? (parse markup) with
  | none => rfl
  | some table => rfl

/-- What has been said is tidy, and so are the slots of it. -/
theorem areTidy_grouped {said : List (TimeRange × List (List Char))}
    (h : ∀ s ∈ said, AreTidy s.2) : ∀ slot ∈ grouped said, AreTidy slot.places := by
  intro slot member
  obtain ⟨times, first, rfl⟩ := List.mem_map.mp member
  obtain ⟨s, hs, rfl⟩ := List.mem_map.mp (mem_firsts.mp first)
  -- Some row said the times of the slot, and what it named is enough for a place in it.
  have named : ∀ p, p ∈ placesAt said s.1 ↔ ∃ s' ∈ said, s'.1 = s.1 ∧ p ∈ s'.2 := by
    simp [placesAt, mem_firsts, and_assoc]
  constructor
  · obtain ⟨p, hp⟩ := List.exists_mem_of_ne_nil _ (h s hs).1
    exact List.ne_nil_of_mem ((named p).mpr ⟨s, hs, rfl, hp⟩)
  · intro p hp
    obtain ⟨s', hs', -, hp'⟩ := (named p).mp hp
    exact (h s' hs').2 p hp'

theorem areTidy_list (markup : List Char) : ∀ slot ∈ list markup, AreTidy slot.places := by
  rw [list_eq]
  refine areTidy_grouped fun s hs => ?_
  obtain ⟨⟨_, _⟩, -, found⟩ := List.mem_filterMap.mp hs
  exact (rowSlot?_eq_some_iff.mp found).areTidy

/-- The slots of a page are what the rows of its table say. The rows are all those of the table that
is found, each with all its cells, in document order; a table is found where one speaks of times and
places. The first row is a head when some label in it speaks of some part, and then the last label
that does says which column has that part. A row that is no head says something when it has cells
and times and places can be read, from their cells or else from the whole row, without the label of
a march. The times of the slots are all different, in the order in which rows first say them. The
places of a slot are those that rows name with its times, wherever these rows stand, in the order in
which they are first named; there are some, they are all different, and each holds something. -/
theorem list_groups_rows (markup : List Char) :
    (pageRows markup = (table? (parse markup)).elim [] fun table => rowsBelow table.node) ∧
      (∀ table ∈ table? (parse markup),
        table.node ∈ Node.nodesOf (parse markup) ∧ table.node.name = "table") ∧
      (∀ table ∈ Node.nodesOf (parse markup), table.name = "table" →
        contains (strip table.content) "시간".toList = true →
        contains (strip table.content) "장소".toList = true →
        (table? (parse markup)).isSome = true) ∧
      ((∀ part : Part, part.IsMissing (labels (pageRows markup))) →
        dataRows (pageRows markup) = pageRows markup) ∧
      ((¬ ∀ part : Part, part.IsMissing (labels (pageRows markup))) →
        dataRows (pageRows markup) = (pageRows markup).tail) ∧
      (∀ part i, (columnsOf (pageRows markup)).at part = some i ↔
        part.IsLast (labels (pageRows markup)) i ∨
          part.IsMissing (labels (pageRows markup)) ∧
            part.usual (labels (pageRows markup)).length = some i) ∧
      (∀ s rest, marchLabel? s = some ((), rest) ↔ HasMarchLabel rest s) ∧
      (∀ row cells times named,
        rowSlot? (columnsOf (pageRows markup)) row cells = some (times, named) ↔
          Says (columnsOf (pageRows markup)) row cells times named) ∧
      (list markup).map Slot.times =
        firsts id [] ((saidBy (pageRows markup)).map Prod.fst) ∧
      ((list markup).map Slot.times).Nodup ∧
      ∀ slot ∈ list markup,
        slot.places = firsts id []
            (((saidBy (pageRows markup)).filter fun s => s.1 = slot.times).flatMap Prod.snd) ∧
          slot.places ≠ [] ∧ slot.places.Nodup ∧ ∀ p ∈ slot.places, p ≠ [] := by
  have keys := map_times_grouped (saidBy (pageRows markup))
  rw [← list_eq] at keys
  obtain ⟨headless, headed⟩ := dataRows_eq (pageRows markup)
  refine ⟨pageRows_eq markup, fun _ found => mem_nodesOf_of_table? found, ?_, headless, headed,
    fun _ _ => Head.at_columns_iff, fun _ _ => marchLabel?_eq_some_iff,
    fun _ _ _ _ => rowSlot?_eq_some_iff, keys, ?_, fun slot member => ?_⟩
  · intro table member name time place
    exact isSome_table? member name (Bool.and_eq_true_iff.mpr ⟨time, place⟩)
  · rw [keys]
    exact nodup_firsts _
  · obtain ⟨some, tidy⟩ := areTidy_list markup slot member
    have named : slot.places = placesAt (saidBy (pageRows markup)) slot.times :=
      places_of_mem_grouped (list_eq markup ▸ member)
    refine ⟨named, some, ?_, fun p hp => (tidy p hp).nonempty⟩
    rw [named]
    exact nodup_firsts _

/-- Rows with the same times do not have to stand together. -/
example :
    let cell (s : String) : Node := .element "td" [] [.text s.toList]
    let row (cells : List Node) : Node × List Node := (.element "tr" [] cells, cells)
    ofRows [row [cell "10:00~11:00", cell "시청"], row [cell "14:00~15:00", cell "시청"],
        row [cell "10:00~11:00", cell "광화문→시청"]] =
      [⟨⟨"10:00".toList, "11:00".toList⟩, ["시청".toList, "광화문".toList]⟩,
        ⟨⟨"14:00".toList, "15:00".toList⟩, ["시청".toList]⟩] := by
  decide +kernel

end Slot

end RouteAlerts.Schedule
