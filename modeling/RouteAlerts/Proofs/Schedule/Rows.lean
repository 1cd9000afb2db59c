import RouteAlerts.Schedule.Slots
import RouteAlerts.Proofs.Html.Query
import RouteAlerts.Proofs.Schedule.Columns
import RouteAlerts.Proofs.Schedule.Fragments

/-!
The rows of a page, and what each of them says. The rows are the `tr` elements of one table, each
with its `td` and `th` elements, in document order (`pageRows_eq`); the first of them may be a head,
which says where the parts of the others are. `Says` is what a row says on its own: its times and
its places, each read from their cells or else from the whole row.
-/

namespace RouteAlerts.Schedule

open Text Html

/-! ### The label of a march -/

/-- A text with the label of a march in front of `rest`: the sign, the word and perhaps a colon,
with all the blanks between them and behind them. -/
inductive HasMarchLabel (rest : List Char) : List Char → Prop where
  | plain {gap gap' : List Char} : (∀ c ∈ gap, isBlank c = true) →
      (∀ c ∈ gap', isBlank c = true) →
      (∀ c ∈ rest.head?, isBlank c = false ∧ c ≠ ':' ∧ c ≠ '：') →
      HasMarchLabel rest ('※' :: (gap ++ ("행진".toList ++ (gap' ++ rest))))
  | colon {gap gap' gap'' : List Char} {c : Char} : (∀ c ∈ gap, isBlank c = true) →
      (∀ c ∈ gap', isBlank c = true) → c = ':' ∨ c = '：' → (∀ c ∈ gap'', isBlank c = true) →
      (∀ c ∈ rest.head?, isBlank c = false) →
      HasMarchLabel rest ('※' :: (gap ++ ("행진".toList ++ (gap' ++ c :: (gap'' ++ rest)))))

theorem hasMarchLabel_of_marchLabel? {s rest : List Char}
    (h : marchLabel? s = some ((), rest)) : HasMarchLabel rest s := by
  unfold marchLabel? at h
  split at h
  · rename_i behind
    obtain ⟨⟨_, after⟩, word, ends⟩ := Option.bind_eq_some_iff.mp h
    obtain ⟨gap, blank, parts⟩ := exists_trimStart behind
    obtain ⟨gap', blank', parts'⟩ := exists_trimStart after
    -- Both colons are read alike, and without one the text must not go on with either.
    have withColon {c : Char} {more : List Char} (sign : c = ':' ∨ c = '：')
        (eq : trimStart after = c :: more) (last : trimStart more = rest) :
        HasMarchLabel rest ('※' :: behind) := by
      obtain ⟨gap'', blank'', parts''⟩ := exists_trimStart more
      rw [parts, literal_eq_some_iff.mp word, parts', eq, parts'', last]
      exact .colon blank blank' sign blank'' (last ▸ isBlank_head_trimStart more)
    dsimp only at ends
    split at ends
    · exact withColon (.inl rfl) ‹_› (by simpa using ends)
    · exact withColon (.inr rfl) ‹_› (by simpa using ends)
    · rename_i half full
      have last : trimStart after = rest := by simpa using ends
      rw [parts, literal_eq_some_iff.mp word, parts', last]
      refine .plain blank blank' fun c head => ?_
      rw [← last] at head
      obtain ⟨more, eq⟩ := List.head?_eq_some_iff.mp head
      refine ⟨isBlank_head_trimStart after c head, ?_, ?_⟩
      · rintro rfl
        exact half more eq
      · rintro rfl
        exact full more eq
  · cases h

/-- The label of a march is what is read as one. -/
theorem marchLabel?_eq_some_iff {s rest : List Char} :
    marchLabel? s = some ((), rest) ↔ HasMarchLabel rest s := by
  refine ⟨hasMarchLabel_of_marchLabel?, fun label => ?_⟩
  have word (gap behind : List Char) (blank : ∀ c ∈ gap, isBlank c = true) :
      literal "행진".toList (trimStart (gap ++ ("행진".toList ++ behind))) = some ((), behind) := by
    rw [trimStart, dropWhile_append_stop blank (by simp [isBlank])]
    exact literal_eq_some_iff.mpr rfl
  cases label with
  | @plain gap gap' blank blank' ends =>
    have stop : trimStart (gap' ++ rest) = rest :=
      dropWhile_append_stop blank' fun c head => (ends c head).1
    simp only [marchLabel?, word gap _ blank, Option.bind_eq_bind, Option.bind_some, stop]
    split
    · exact absurd rfl (ends ':' rfl).2.1
    · exact absurd rfl (ends '：' rfl).2.2
    · rfl
  | @colon gap gap' gap'' c blank blank' sign blank'' ends =>
    have solid : isBlank c = false := by rcases sign with rfl | rfl <;> decide
    have first : trimStart (gap' ++ c :: (gap'' ++ rest)) = c :: (gap'' ++ rest) :=
      dropWhile_append_stop blank' (by simpa using solid)
    have second : trimStart (gap'' ++ rest) = rest := dropWhile_append_stop blank'' ends
    simp only [marchLabel?, word gap _ blank, Option.bind_eq_bind, Option.bind_some, first]
    rcases sign with rfl | rfl <;> simp only [second]

/-! ### What a row says -/

/-- The text of a cell; of a cell that is not there, nothing. -/
def cellText (cell : Option Node) : List Char := (cell.map lines).getD []

/-- The places in the cell for places, without the label in front of a march, and then those in the
cell for its way. -/
def namedPlaces (columns : Columns) (cells : List Node) : List (List Char) :=
  places (substitute marchLabel? (fun _ => [' ']) (cellText cells[columns.place]?)) ++
    places (cellText (columns.route.bind fun i => cells[i]?))

/-- What a row says, if it has cells. Its times stand in the cell for times or, when none can be
read there, anywhere in the row; and so do its places, of which there have to be some. -/
structure Says (columns : Columns) (row : Node) (cells : List Node) (times : TimeRange)
    (named : List (List Char)) : Prop where
  has_cells : cells ≠ []
  times_eq : (TimeRange.read? (cellText cells[columns.time]?)).or (TimeRange.read? (lines row)) =
    some times
  named_eq : named =
    if namedPlaces columns cells = [] then places (lines row) else namedPlaces columns cells
  has_places : named ≠ []

theorem rowTimes?_eq (columns : Columns) (row : Node) (cells : List Node) :
    rowTimes? columns row cells =
      (TimeRange.read? (cellText cells[columns.time]?)).or (TimeRange.read? (lines row)) := by
  have blank : TimeRange.read? [] = none := by decide
  unfold rowTimes? cellText
  cases cells[columns.time]? with
  | none => simp [blank]
  | some cell => simp

theorem rowPlaces_eq (columns : Columns) (row : Node) (cells : List Node) :
    rowPlaces columns row cells =
      if namedPlaces columns cells = [] then places (lines row)
      else namedPlaces columns cells := by
  have blank : places [] = [] := by decide
  have blank' : places (substitute marchLabel? (fun _ => [' ']) []) = [] := by decide +kernel
  unfold rowPlaces namedPlaces
  cases cells[columns.place]? <;> cases (columns.route.bind fun i => cells[i]?) <;>
    simp [cellText, cellPlaces, blank, blank']

/-- A row counts with what it says. -/
theorem rowSlot?_eq_some_iff {columns : Columns} {row : Node} {cells : List Node}
    {times : TimeRange} {named : List (List Char)} :
    rowSlot? columns row cells = some (times, named) ↔ Says columns row cells times named := by
  rw [rowSlot?, Option.ite_none_left_eq_some]
  constructor
  · rintro ⟨celled, h⟩
    split at h
    · cases h
    · rename_i found
      obtain ⟨some, eq⟩ := Option.ite_none_left_eq_some.mp h
      obtain ⟨rfl, rfl⟩ := Prod.mk.inj (Option.some.inj eq)
      exact ⟨by simpa using celled, by rw [← rowTimes?_eq, found], rowPlaces_eq ..,
        by simpa using some⟩
  · rintro ⟨celled, timed, rfl, placed⟩
    rw [← rowTimes?_eq] at timed
    rw [← rowPlaces_eq] at placed ⊢
    exact ⟨by simpa using celled, by simp [timed, placed]⟩

/-- Places that a slot may have: there are some, and they are tidy. -/
def AreTidy (named : List (List Char)) : Prop :=
  named ≠ [] ∧ ∀ p ∈ named, IsTidy isSeparator p

theorem Says.areTidy {columns : Columns} {row : Node} {cells : List Node} {times : TimeRange}
    {named : List (List Char)} (h : Says columns row cells times named) : AreTidy named := by
  refine ⟨h.has_places, fun p member => ?_⟩
  rw [h.named_eq] at member
  split at member
  · exact isTidy_of_mem_places member
  · rcases List.mem_append.mp member with inPlace | onRoute
    · exact isTidy_of_mem_places inPlace
    · exact isTidy_of_mem_places onRoute

/-! ### The rows of a page -/

namespace Slot

/-- Wherever the table is looked for, it is a table that is looked for. -/
theorem name_of_tableSelectors {s : Selector} (member : s ∈ tableSelectors) {n : Node}
    {ancestors : List Node} (h : s.holds n ancestors = true) : n.name = "table" := by
  have asked : ∀ s ∈ tableSelectors, .name "table" ∈ s.tests := by
    simp [tableSelectors, Selector.tests]
  simpa [Test.holds] using Selector.holds_of_mem_tests h (asked s member)

/-- The table of a page is one of its tables. -/
theorem mem_nodesOf_of_table? {page : List Node} {table : Located}
    (h : table? page = some table) :
    table.node ∈ Node.nodesOf page ∧ table.node.name = "table" := by
  have found : table ∈ elements page ∧ table.node.name = "table" := by
    simp only [table?, Option.orElse_eq_or, Option.or_eq_some_iff] at h
    rcases h with (exactly | ⟨-, speaking⟩) | ⟨-, within⟩
    · obtain ⟨s, member, first⟩ := List.exists_of_findSome?_eq_some exactly
      obtain ⟨here, holds⟩ := mem_of_head?_among first
      exact ⟨here, name_of_tableSelectors member holds⟩
    · obtain ⟨here, holds⟩ := List.mem_filter.mp (List.mem_of_find?_eq_some speaking)
      exact ⟨here, by simpa [Selector.holds, Test.holds] using holds⟩
    · obtain ⟨here, holds⟩ := mem_of_head?_among within
      have asked : Test.name "table" ∈
          (Selector.within (.only noticeContents) [.name "table"]).tests :=
        List.mem_singleton_self _
      exact ⟨here, by simpa [Test.holds] using Selector.holds_of_mem_tests holds asked⟩
  exact ⟨(mem_map_node_elements.mp (List.mem_map_of_mem found.1)).1, found.2⟩

/-- There is a table when some table of the page speaks of times and places. -/
theorem isSome_table? {page : List Node} {table : Node} (member : table ∈ Node.nodesOf page)
    (name : table.name = "table") (speaks : speaksOfSlots table = true) :
    (table? page).isSome = true := by
  obtain ⟨located, here, rfl⟩ := List.mem_map.mp
    (mem_map_node_elements.mpr ⟨member, Node.isElement_of_name name (by decide)⟩)
  have candidate : located ∈ (Selector.only [.name "table"]).among (elements page) :=
    List.mem_filter.mpr ⟨here, by simp [Selector.holds, Test.holds, name]⟩
  have found : (((Selector.only [.name "table"]).among (elements page)).find? fun l =>
      speaksOfSlots l.node).isSome = true :=
    List.find?_isSome.mpr ⟨located, candidate, speaks⟩
  simp only [table?, Option.orElse_eq_or, Option.isSome_or, found, Bool.or_true, Bool.true_or]

/-- The rows of a table, each with its cells: all the `tr` elements below it, and all the `td` and
`th` elements below each of them, in document order. -/
def rowsBelow (table : Node) : List (Node × List Node) :=
  (table.nodesBelow.filter fun n => n.name = "tr").map fun row =>
    (row, row.nodesBelow.filter fun n => n.name = "td" ∨ n.name = "th")

theorem cells_eq (row : Located) :
    cells row = row.node.nodesBelow.filter fun n => n.name = "td" ∨ n.name = "th" := by
  have named : ∀ n : Node, decide (n.name = "td" ∨ n.name = "th") = true →
      n.isElement = true := by
    intro n cell
    rcases of_decide_eq_true cell with name | name
    · exact Node.isElement_of_name name (by decide)
    · exact Node.isElement_of_name name (by decide)
  rw [← map_node_filter_descendants named, cells]
  simp

theorem rowsOf_eq (table : Located) : rowsOf table = rowsBelow table.node := by
  have named : ∀ n : Node, decide (n.name = "tr") = true → n.isElement = true :=
    fun n row => Node.isElement_of_name (of_decide_eq_true row) (by decide)
  have rows : (Selector.only [.name "tr"]).among table.descendants =
      table.descendants.filter fun d => d.node.name = "tr" := by
    simp [Selector.among_only, Test.holds, beq_eq_decide]
  rw [rowsBelow, ← map_node_filter_descendants named, rowsOf, rows, List.map_map]
  refine List.map_congr_left fun row _ => ?_
  rw [cells_eq]
  rfl

def pageRows (markup : List Char) : List (Node × List Node) :=
  match table? (parse markup) with
  | some table => rowsOf table
  | none => []

theorem pageRows_eq (markup : List Char) :
    pageRows markup = (table? (parse markup)).elim [] fun table => rowsBelow table.node := by
  unfold pageRows
  cases table? (parse markup) with
  | none => rfl
  | some table => exact rowsOf_eq table

/-- The labels that the first row of a table would have as its head. -/
def labels (rows : List (Node × List Node)) : List (List Char) :=
  ((rows.head?.map Prod.snd).getD []).map fun cell => strip cell.content

def columnsOf (rows : List (Node × List Node)) : Columns :=
  (Head.ofLabels (labels rows)).columns (labels rows).length

/-- The rows of a table that are no head. -/
def dataRows (rows : List (Node × List Node)) : List (Node × List Node) :=
  if (Head.ofLabels (labels rows)).isEmpty then rows else rows.tail

/-- A row in which some label speaks of some part is a head. -/
theorem dataRows_eq (rows : List (Node × List Node)) :
    ((∀ part : Part, part.IsMissing (labels rows)) → dataRows rows = rows) ∧
      ((¬ ∀ part : Part, part.IsMissing (labels rows)) → dataRows rows = rows.tail) := by
  rw [← Head.isEmpty_ofLabels_iff, dataRows]
  exact ⟨fun empty => if_pos empty, fun head => if_neg head⟩

/-- What the rows of a table say that say something. -/
def saidBy (rows : List (Node × List Node)) : List (TimeRange × List (List Char)) :=
  (dataRows rows).filterMap fun (row, cells) => rowSlot? (columnsOf rows) row cells

end Slot

end RouteAlerts.Schedule
