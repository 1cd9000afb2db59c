import RouteAlerts.Schedule.Slots
import RouteAlerts.Proofs.Text.Substitute
import Mathlib.Data.List.Induction

/-!
The columns of a table with a head. Each part of a row is in the column of the last label that
speaks of it; where no label does, times and places are in a column of their own that depends on the
width alone (`at_columns_iff`). Nothing holds the two rules apart: a label may speak of two parts,
and the usual column of one part may be the one that a label gives to another. These are the only
ways in which two parts come to have one column (`areApart_columns_iff`).
-/

namespace RouteAlerts.Schedule

open Text

/-- A part of a row that has a column. -/
inductive Part where
  | time
  | place
  | route
  deriving DecidableEq, Repr

namespace Part

def words : Part → List String
  | time => Head.timeWords
  | place => Head.placeWords
  | route => Head.routeWords

/-- Where a part is that no label speaks of. The way of a march is nowhere then. -/
def usual (width : Nat) : Part → Option Nat
  | time => some (if width ≤ 2 then 0 else 1)
  | place => some (if width ≤ 2 then 1 else 2)
  | route => none

theorem usual_injective {width i : Nat} {one other : Part} (h : one.usual width = some i)
    (h' : other.usual width = some i) : one = other := by
  cases one <;> cases other <;> grind [usual]

/-- A label speaks of a part when it holds one of the words for it. -/
def IsNamed (part : Part) (label : List Char) : Prop :=
  ∃ word ∈ part.words, word.toList <:+: label

def IsMissing (part : Part) (labels : List (List Char)) : Prop :=
  ∀ label ∈ labels, ¬ part.IsNamed label

/-- A label that speaks of a part, and none behind it does. -/
structure IsLast (part : Part) (labels : List (List Char)) (i : Nat) : Prop where
  named : ∃ label ∈ labels[i]?, part.IsNamed label
  behind : ∀ j > i, ∀ label ∈ labels[j]?, ¬ part.IsNamed label

theorem mentions_iff {part : Part} {label : List Char} :
    Head.mentions part.words label = true ↔ part.IsNamed label := by
  simp [Head.mentions, IsNamed, contains_iff_infix]

theorem IsLast.not_isMissing {part : Part} {labels : List (List Char)} {i : Nat}
    (h : part.IsLast labels i) : ¬ part.IsMissing labels := by
  obtain ⟨label, here, named⟩ := h.named
  exact fun missing => missing label (List.mem_of_getElem? here) named

theorem IsLast.unique {part : Part} {labels : List (List Char)} {i j : Nat}
    (hi : part.IsLast labels i) (hj : part.IsLast labels j) : i = j := by
  obtain ⟨label, here, named⟩ := hi.named
  obtain ⟨label', here', named'⟩ := hj.named
  rcases Nat.lt_trichotomy i j with before | same | after
  · exact absurd named' (hi.behind j before label' here')
  · exact same
  · exact absurd named (hj.behind i after label here)

/-- A label at the end is the last one if it speaks of a part. -/
theorem isLast_append_of_isNamed {part : Part} {label : List Char} (h : part.IsNamed label)
    (labels : List (List Char)) : part.IsLast (labels ++ [label]) labels.length := by
  refine ⟨⟨label, by simp, h⟩, fun j later other there => ?_⟩
  have inside := (List.getElem?_eq_some_iff.mp there).1
  simp only [List.length_append, List.length_singleton] at inside
  omega

/-- A label at the end changes nothing if it does not. -/
theorem IsLast.append {part : Part} {labels : List (List Char)} {i : Nat} {label : List Char}
    (h : part.IsLast labels i) (silent : ¬ part.IsNamed label) :
    part.IsLast (labels ++ [label]) i := by
  obtain ⟨named, here, speaks⟩ := h.named
  have inside := (List.getElem?_eq_some_iff.mp here).1
  refine ⟨⟨named, (List.getElem?_append_left inside).trans here, speaks⟩, ?_⟩
  intro j later other there
  rw [List.getElem?_append] at there
  split at there
  · exact h.behind j later other there
  · have last : other = label := by simpa using List.mem_of_getElem? there
    rwa [last]

end Part

def Columns.at (c : Columns) : Part → Option Nat
  | .time => some c.time
  | .place => some c.place
  | .route => c.route

/-- No two parts of a row have one column. -/
def Columns.AreApart (c : Columns) : Prop :=
  ∀ one other : Part, one ≠ other → ∀ i ∈ c.at one, i ∉ c.at other

namespace Head

theorem lastColumn_append (words : List String) (labels : List (List Char)) (label : List Char) :
    lastColumn words (labels ++ [label]) =
      if mentions words label then some labels.length else lastColumn words labels := by
  by_cases named : mentions words label = true
  · simp [lastColumn, List.zipIdx_append, List.filter_append, named]
  · simp [lastColumn, List.zipIdx_append, List.filter_append, named]

theorem lastColumn_eq_none_iff {part : Part} {labels : List (List Char)} :
    lastColumn part.words labels = none ↔ part.IsMissing labels := by
  induction labels using List.reverseRecOn with
  | nil => simp [lastColumn, Part.IsMissing]
  | append_singleton labels label ih =>
    rw [lastColumn_append]
    by_cases named : part.IsNamed label
    · rw [if_pos (Part.mentions_iff.mpr named)]
      simp [Part.IsMissing, named]
    · rw [if_neg (mt Part.mentions_iff.mp named), ih]
      simp [Part.IsMissing, named, or_imp, forall_and]

theorem isLast_of_lastColumn {part : Part} {labels : List (List Char)} {i : Nat}
    (h : lastColumn part.words labels = some i) : part.IsLast labels i := by
  induction labels using List.reverseRecOn with
  | nil => simp [lastColumn] at h
  | append_singleton labels label ih =>
    rw [lastColumn_append] at h
    by_cases named : part.IsNamed label
    · rw [if_pos (Part.mentions_iff.mpr named)] at h
      rw [← Option.some_inj.mp h]
      exact Part.isLast_append_of_isNamed named labels
    · rw [if_neg (mt Part.mentions_iff.mp named)] at h
      exact (ih h).append named

theorem lastColumn_eq_some_iff {part : Part} {labels : List (List Char)} {i : Nat} :
    lastColumn part.words labels = some i ↔ part.IsLast labels i := by
  refine ⟨isLast_of_lastColumn, fun last => ?_⟩
  cases found : lastColumn part.words labels with
  | none => exact absurd (lastColumn_eq_none_iff.mp found) last.not_isMissing
  | some j => rw [(isLast_of_lastColumn found).unique last]

/-- Labels that speak of no part are no head. -/
theorem isEmpty_ofLabels_iff {labels : List (List Char)} :
    (ofLabels labels).isEmpty = true ↔ ∀ part : Part, part.IsMissing labels := by
  have none (part : Part) :
      (lastColumn part.words labels).isNone = true ↔ part.IsMissing labels := by
    rw [Option.isNone_iff_eq_none, lastColumn_eq_none_iff]
  simp only [isEmpty, ofLabels, Bool.and_eq_true]
  constructor
  · rintro ⟨⟨time, place⟩, route⟩ part
    cases part with
    | time => exact (none .time).mp time
    | place => exact (none .place).mp place
    | route => exact (none .route).mp route
  · intro missing
    exact ⟨⟨(none .time).mpr (missing _), (none .place).mpr (missing _)⟩,
      (none .route).mpr (missing _)⟩

/-- A part is in the column of the last label that speaks of it, or in its usual one. -/
theorem at_columns_iff {part : Part} {labels : List (List Char)} {i : Nat} :
    ((ofLabels labels).columns labels.length).at part = some i ↔
      part.IsLast labels i ∨ part.IsMissing labels ∧ part.usual labels.length = some i := by
  rw [← lastColumn_eq_some_iff, ← lastColumn_eq_none_iff]
  cases part with
  | time =>
    cases h : lastColumn timeWords labels <;>
      simp [Columns.at, Head.columns, ofLabels, Part.usual, Part.words, h]
  | place =>
    cases h : lastColumn placeWords labels <;>
      simp [Columns.at, Head.columns, ofLabels, Part.usual, Part.words, h]
  | route => simp [Columns.at, Head.columns, ofLabels, Part.usual, Part.words]

end Head

/-! ### Two parts in one column -/

/-- How two parts come to have one column. -/
inductive Collides (labels : List (List Char)) : Prop where
  /-- A label is the last to speak of the one and of the other. -/
  | shared {one other : Part} {i : Nat} : one ≠ other → one.IsLast labels i →
      other.IsLast labels i → Collides labels
  /-- No label speaks of the one, and its usual column is where a label has the other. -/
  | taken {one other : Part} {i : Nat} : one.IsMissing labels →
      one.usual labels.length = some i → other.IsLast labels i → Collides labels

theorem areApart_columns_iff_not_collides (labels : List (List Char)) :
    ((Head.ofLabels labels).columns labels.length).AreApart ↔ ¬ Collides labels := by
  constructor
  · intro apart collides
    cases collides with
    | shared different one other =>
      exact apart _ _ different _ (Head.at_columns_iff.mpr (.inl one))
        (Head.at_columns_iff.mpr (.inl other))
    | taken missing usual other =>
      refine apart _ _ ?_ _ (Head.at_columns_iff.mpr (.inr ⟨missing, usual⟩))
        (Head.at_columns_iff.mpr (.inl other))
      rintro rfl
      exact other.not_isMissing missing
  · intro none one other different i here there
    rcases Head.at_columns_iff.mp here with last | ⟨missing, usual⟩ <;>
      rcases Head.at_columns_iff.mp there with last' | ⟨missing', usual'⟩
    · exact none (.shared different last last')
    · exact none (.taken missing' usual' last)
    · exact none (.taken missing usual last')
    · exact different (Part.usual_injective usual usual')

/-- The parts of a row are in columns of their own exactly when no label is the last to speak of two
of them and no label has a part where another one, of which no label speaks, usually is. That is so
when there are labels for the times and for the places and each label speaks of one part at most,
and when no label speaks of any part. -/
theorem areApart_columns_iff (labels : List (List Char)) :
    let columns := (Head.ofLabels labels).columns labels.length
    (columns.AreApart ↔ ¬ Collides labels) ∧
      ((∀ label ∈ labels, ∀ one other : Part, one.IsNamed label → other.IsNamed label →
          one = other) →
        ¬ Part.time.IsMissing labels → ¬ Part.place.IsMissing labels → columns.AreApart) ∧
      ((∀ part : Part, part.IsMissing labels) → columns.AreApart) := by
  refine ⟨areApart_columns_iff_not_collides labels, fun clear time place => ?_, fun missing => ?_⟩
  · refine (areApart_columns_iff_not_collides labels).mpr fun collides => ?_
    cases collides with
    | shared different one other =>
      obtain ⟨label, here, named⟩ := one.named
      obtain ⟨label', here', named'⟩ := other.named
      obtain rfl : label = label' := Option.some_inj.mp (here.symm.trans here')
      exact different (clear label (List.mem_of_getElem? here) _ _ named named')
    | @taken one _ _ missing usual other =>
      cases one with
      | time => exact time missing
      | place => exact place missing
      | route => cases usual
  · refine (areApart_columns_iff_not_collides labels).mpr fun collides => ?_
    cases collides with
    | shared _ one _ => exact one.not_isMissing (missing _)
    | taken _ _ other => exact other.not_isMissing (missing _)

/-- No label speaks of places here, and their usual column in a narrow table is where the times are.
-/
theorem columns_not_apart :
    ¬ ∀ labels, ((Head.ofLabels labels).columns labels.length).AreApart := by
  intro apart
  have time : 1 ∈ ((Head.ofLabels ["위치".toList, "시간".toList]).columns 2).at .time := by
    decide +kernel
  have place : 1 ∈ ((Head.ofLabels ["위치".toList, "시간".toList]).columns 2).at .place := by
    decide +kernel
  exact apart _ .time .place (by decide) 1 time place

/-- In such a table the times are read as places, and the place is not. -/
example :
    let cell (s : String) : Html.Node := .element "td" [] [.text s.toList]
    let row (cells : List Html.Node) : Html.Node × List Html.Node := (.element "tr" [] cells, cells)
    Slot.ofRows [row [cell "위치", cell "시간"], row [cell "서울역", cell "10:00~11:00"]] =
      [⟨⟨"10:00".toList, "11:00".toList⟩, ["10:00".toList, "11:00".toList]⟩] := by
  decide +kernel

end RouteAlerts.Schedule
