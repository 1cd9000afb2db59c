import RouteAlerts.Schedule.Places
import RouteAlerts.Proofs.Announcement.FirstOccurrence
import RouteAlerts.Proofs.Text.Hangul
import RouteAlerts.Proofs.Text.SqueezedPieces
import RouteAlerts.Proofs.Text.Substitute

/-!
The places of a cell, and texts made of them. `fragments` cuts a text at the signs between places
and at line ends and squeezes the pieces; places are the fragments that are places, each where it
first occurs (`places_eq_firsts`). A sign keeps what stands before it apart from what stands behind
it, and blanks beside it add nothing. So places that are written down with a sign or a line end
between them, and blanks around it or none, are cut into the same places again
(`places_clean_and_stable`).
-/

namespace RouteAlerts.Schedule

open Text

/-! ### Lane counts -/

/-- A number of lanes: a digit, blanks and the word for lanes, with the counter in front of it or
without. -/
def IsLaneCount (s : List Char) : Prop :=
  ∃ digit gap counter, isDigit digit = true ∧ (∀ c ∈ gap, isBlank c = true) ∧
    (counter = [] ∨ counter = ['개']) ∧ s = digit :: (gap ++ (counter ++ ['차', '로']))

/-- A number of lanes is read at its first digit, and ends with the last one and the words for
it. -/
theorem exists_of_laneCount? {s rest : List Char} (h : laneCount? s = some ((), rest)) :
    ∃ t, IsLaneCount t ∧ t <:+: s := by
  obtain ⟨⟨run, behind⟩, number, words⟩ := Option.bind_eq_some_iff.mp h
  obtain ⟨nonempty, digits, rfl⟩ := digitRun?_eq_some number
  obtain ⟨front, digit, rfl⟩ := (List.eq_nil_or_concat' run).resolve_left nonempty
  have last : isDigit digit = true := digits digit (by simp)
  obtain ⟨gap, blank, parts⟩ := exists_trimStart behind
  dsimp only at words
  rw [parts]
  split at words
  · rename_i more counted
    refine ⟨_, ⟨digit, gap, ['개'], last, blank, .inr rfl, rfl⟩, front, rest, ?_⟩
    rw [counted, literal_eq_some_iff.mp words]
    simp
  · refine ⟨_, ⟨digit, gap, [], last, blank, .inl rfl, rfl⟩, front, rest, ?_⟩
    rw [literal_eq_some_iff.mp words]
    simp

/-- A number of lanes is read wherever it stands. -/
theorem laneCount?_ne_none {t : List Char} (h : IsLaneCount t) (rest : List Char) :
    laneCount? (t ++ rest) ≠ none := by
  obtain ⟨digit, gap, counter, last, blank, words, rfl⟩ := h
  have letters : ∀ c ∈ (counter ++ ['차', '로'] ++ rest).head?, isLetter c = true := by
    intro c head
    rcases words with rfl | rfl
    · obtain rfl : '차' = c := by simpa using head
      decide
    · obtain rfl : '개' = c := by simpa using head
      decide
  have number := digitRun?_digit last blank
    fun c head => isDigit_eq_false_of_isLetter (letters c head)
  have behind : trimStart (gap ++ (counter ++ ['차', '로'] ++ rest)) =
      counter ++ ['차', '로'] ++ rest :=
    dropWhile_append_stop blank fun c head => isBlank_eq_false_of_isLetter (letters c head)
  have lanes : literal "차로".toList ('차' :: '로' :: rest) = some ((), rest) :=
    literal_eq_some_iff.mpr rfl
  have split : digit :: (gap ++ (counter ++ ['차', '로'])) ++ rest =
      digit :: (gap ++ (counter ++ ['차', '로'] ++ rest)) := by
    simp
  rw [split, laneCount?, number]
  rcases words with rfl | rfl
  · simp only [Option.bind_eq_bind, Option.bind_some, behind]
    exact lanes ▸ Option.some_ne_none _
  · simp only [Option.bind_eq_bind, Option.bind_some, behind]
    exact lanes ▸ Option.some_ne_none _

/-- No match is found exactly where no number of lanes stands. -/
theorem firstMatch_laneCount? {s : List Char} :
    firstMatch laneCount? s = none ↔ ¬ ∃ t, IsLaneCount t ∧ t <:+: s := by
  rw [firstMatch_eq_none_iff]
  refine silent_iff_of_shows ?_ (fun t rest lanes => laneCount?_ne_none lanes rest)
    fun t _ found => exists_of_laneCount? found
  rintro t ⟨digit, gap, counter, -, -, -, rfl⟩
  exact List.cons_ne_nil _ _

/-- A fragment is a place when it has two characters or a letter, is no leftover and mentions no
lanes. -/
theorem isPlace_iff {s : List Char} : isPlace s = true ↔
    (2 ≤ s.length ∨ ∃ c ∈ s, isLetter c = true) ∧ s ∉ leftovers ∧
      ¬ ∃ t, IsLaneCount t ∧ t <:+: s := by
  rw [← firstMatch_laneCount?]
  simp [isPlace, hasLetter, isLetter, and_assoc, Nat.lt_iff_add_one_le]

/-! ### Fragments -/

/-- Whether a place ends at a character: at a sign between places, or at the end of a line. -/
def endsPlace (c : Char) : Bool := isSeparator c || c == '\n'

/-- The pieces of a text between signs and line ends that are places, squeezed. -/
def fragments (text : List Char) : List (List Char) :=
  ((splitWhere endsPlace text).map squeeze).filter isPlace

theorem isBlank_eq_false_of_isSeparator {c : Char} (h : isSeparator c = true) :
    isBlank c = false := by
  have signs : ∀ d ∈ ['→', '↔', '⟷', '↦', '↪', '➝', '➔', '⇒', '~', '〜', '∼', '–', '—', '/', ',',
      '▶', '⇄'], isBlank d = false := by simp [isBlank]
  exact signs c (by simpa [isSeparator] using h)

theorem isSeparator_eq_false_of_isBlank {c : Char} (h : isBlank c = true) :
    isSeparator c = false := by
  refine Bool.eq_false_iff.mpr fun sign => ?_
  rw [isBlank_eq_false_of_isSeparator sign] at h
  cases h

/-- The text of a cell with its line ends written as signs. -/
def withSigns (text : List Char) : List Char :=
  text.flatMap fun c => if c == '\n' then [' ', '/', ' '] else [c]

theorem withSigns_of_clear {s : List Char} (clear : ∀ c ∈ s, endsPlace c = false) :
    withSigns s = s := by
  have plain : ∀ c ∈ s, (if c == '\n' then [' ', '/', ' '] else [c]) = [c] := by
    intro c hc
    have other := (Bool.or_eq_false_iff.mp (clear c hc)).2
    rw [if_neg (by simp [other])]
  rw [withSigns, List.flatMap_congr plain]
  simp

/-- Signs in the place of line ends, with spaces around them, end the same pieces. -/
theorem map_squeeze_withSigns (text : List Char) :
    (splitWhere isSeparator (withSigns text)).map squeeze =
      (splitWhere endsPlace text).map squeeze := by
  induction text using pieces_induction (p := endsPlace) with
  | clear s clear =>
    rw [withSigns_of_clear clear, splitWhere_eq_singleton clear,
      splitWhere_eq_singleton fun c hc => (Bool.or_eq_false_iff.mp (clear c hc)).1]
  | sign first c rest clear sign ih =>
    have unsigned : ∀ d ∈ first, isSeparator d = false := fun d hd =>
      (Bool.or_eq_false_iff.mp (clear d hd)).1
    have cut := splitWhere_append sign first rest
    rw [splitWhere_eq_singleton clear] at cut
    rw [cut, List.map_append, ← ih]
    have split : withSigns (first ++ c :: rest) =
        first ++ ((if c == '\n' then [' ', '/', ' '] else [c]) ++ withSigns rest) := by
      rw [withSigns, List.flatMap_append, List.flatMap_cons]
      exact congrArg (· ++ _) (withSigns_of_clear clear)
    have space : ∀ d ∈ [' '], isBlank d = true := by simp [isBlank]
    have plain : ∀ d ∈ [' '], isSeparator d = false := fun d hd =>
      isSeparator_eq_false_of_isBlank (space d hd)
    -- A line end becomes a sign between two spaces. One space goes to the piece before the sign and
    -- one to the piece behind it, and neither is seen once the pieces are squeezed.
    by_cases lineEnd : c = '\n'
    · have front : withSigns (first ++ c :: rest) =
          first ++ [' '] ++ '/' :: ([' '] ++ withSigns rest) := by
        rw [split, lineEnd]
        simp
      have before : ∀ d ∈ first ++ [' '], isSeparator d = false := by
        intro d hd
        rcases List.mem_append.mp hd with inFirst | inSpace
        · exact unsigned d inFirst
        · exact plain d inSpace
      rw [front, splitWhere_append (by decide), splitWhere_eq_singleton before, List.map_append,
        map_splitWhere_blank_append (squeeze_blank_append space) plain, List.map_singleton,
        squeeze_append_blank space, List.map_singleton]
    · have isSign : isSeparator c = true := by
        simpa [endsPlace, lineEnd] using sign
      have front : withSigns (first ++ c :: rest) = first ++ c :: withSigns rest := by
        rw [split, if_neg (by simpa using lineEnd)]
        rfl
      rw [front, splitWhere_append isSign, splitWhere_eq_singleton unsigned, List.map_append]

theorem distinct_eq_firsts {α : Type} [BEq α] [LawfulBEq α] [DecidableEq α] (xs : List α) :
    distinct xs = firsts id [] xs := by
  simpa [distinct] using foldl_keep_new (fun _ => true) xs []

/-- Places are the fragments, each where it first occurs. -/
theorem places_eq_firsts (text : List Char) : places text = firsts id [] (fragments text) := by
  rw [places, distinct_eq_firsts, onOneLine,
    map_trim_splitWhere_squeeze fun _ => isBlank_eq_false_of_isSeparator]
  exact congrArg (fun pieces => firsts id [] (pieces.filter isPlace)) (map_squeeze_withSigns text)

theorem ne_nil_of_isPlace {s : List Char} (h : isPlace s = true) : s ≠ [] := by
  rintro rfl
  exact absurd h (by decide)

theorem isTidy_of_mem_places {s p : List Char} (h : p ∈ places s) : IsTidy isSeparator p := by
  rw [places, distinct_eq_firsts, mem_firsts] at h
  obtain ⟨member, place⟩ := List.mem_filter.mp h
  obtain ⟨piece, inText, rfl⟩ := List.mem_map.mp member
  exact isTidy_of_mem_splitWhere inText (ne_nil_of_isPlace place)

/-! ### Fragments of texts put together -/

theorem fragments_nil : fragments [] = [] := by decide

theorem fragments_append {c : Char} (sign : endsPlace c = true) (s rest : List Char) :
    fragments (s ++ c :: rest) = fragments s ++ fragments rest := by
  rw [fragments, splitWhere_append sign, List.map_append, List.filter_append, fragments, fragments]

/-- What has no sign and no line end is one fragment, or none if it is no place. -/
theorem fragments_of_clear {s : List Char} (clear : ∀ c ∈ s, endsPlace c = false) :
    fragments s = [squeeze s].filter isPlace := by
  rw [fragments, splitWhere_eq_singleton clear, List.map_singleton]

/-- Blanks in front of a text add no place, even where lines end among them. -/
theorem fragments_blank_append {gap : List Char} (blank : ∀ c ∈ gap, isBlank c = true)
    (s : List Char) : fragments (gap ++ s) = fragments s := by
  induction gap using pieces_induction (p := endsPlace) with
  | clear gap clear =>
    rw [fragments, map_splitWhere_blank_append (squeeze_blank_append blank) clear, fragments]
  | sign first c rest clear sign ih =>
    have nothing : squeeze first = [] :=
      squeeze_eq_nil_iff.mpr (words_eq_nil_iff.mpr (strip_eq_nil_iff.mpr fun d hd =>
        blank d (List.mem_append_left _ hd)))
    have none : fragments first = [] := by
      rw [fragments_of_clear clear, nothing]
      decide
    rw [List.append_assoc, List.cons_append, fragments_append sign, none, List.nil_append]
    exact ih fun d hd => blank d (by simp [hd])

/-- Blanks behind a text add no place either. -/
theorem fragments_append_blank {gap : List Char} (blank : ∀ c ∈ gap, isBlank c = true)
    (s : List Char) : fragments (s ++ gap) = fragments s := by
  induction s using pieces_induction (p := endsPlace) with
  | clear s clear =>
    induction gap using pieces_induction (p := endsPlace) with
    | clear gap gapClear =>
      have both : ∀ c ∈ s ++ gap, endsPlace c = false := by
        simpa [or_imp, forall_and] using And.intro clear gapClear
      rw [fragments_of_clear both, squeeze_append_blank blank, fragments_of_clear clear]
    | sign first c rest gapClear sign _ =>
      have both : ∀ c ∈ s ++ first, endsPlace c = false := by
        simpa [or_imp, forall_and] using And.intro clear gapClear
      have before : ∀ d ∈ first, isBlank d = true := fun d hd => blank d (by simp [hd])
      have behind : fragments rest = [] := by
        have dropped := @fragments_blank_append rest (fun d hd => blank d (by simp [hd])) []
        rwa [List.append_nil, fragments_nil] at dropped
      rw [← List.append_assoc, fragments_append sign, behind, List.append_nil,
        fragments_of_clear both, squeeze_append_blank before, fragments_of_clear clear]
  | sign first c rest _ sign ih =>
    rw [List.append_assoc, List.cons_append, fragments_append sign, fragments_append sign, ih]

/-- What is a fragment of a text is the only one of its own. -/
theorem fragments_of_mem {text p : List Char} (h : p ∈ fragments text) : fragments p = [p] := by
  obtain ⟨member, place⟩ := List.mem_filter.mp h
  obtain ⟨piece, inText, rfl⟩ := List.mem_map.mp member
  obtain ⟨-, clear⟩ := of_mem_splitWhere inText
  have kept : ∀ c ∈ squeeze piece, endsPlace c = false := by
    intro c hc
    rcases mem_squeeze hc with rfl | ⟨inPiece, -⟩
    · decide
    · exact clear c inPiece
  rw [fragments_of_clear kept, squeeze_squeeze, List.filter_cons_of_pos place]
  rfl

/-- Fragments with a sign or a line end between them, and blanks around it, are the fragments of the
text they make up. -/
theorem fragments_joinWith {front back : List Char} {sign : Char} (ends : endsPlace sign = true)
    (frontBlank : ∀ c ∈ front, isBlank c = true) (backBlank : ∀ c ∈ back, isBlank c = true)
    {ps : List (List Char)} (own : ∀ p ∈ ps, fragments p = [p]) :
    fragments (joinWith (front ++ sign :: back) ps) = ps := by
  induction ps with
  | nil => exact fragments_nil
  | cons p ps ih =>
    have first := own p List.mem_cons_self
    have others := ih fun q hq => own q (List.mem_cons_of_mem p hq)
    cases ps with
    | nil => exact first
    | cons q ps =>
      have split : joinWith (front ++ sign :: back) (p :: q :: ps) =
          (p ++ front) ++ sign :: (back ++ joinWith (front ++ sign :: back) (q :: ps)) := by
        simp [joinWith]
      rw [split, fragments_append ends, fragments_append_blank frontBlank, first,
        fragments_blank_append backBlank, others, List.singleton_append]

/-! ### Places -/

/-- A place of a cell: tidy, of two characters or with a letter, no leftover, and without a number
of lanes. -/
structure IsCellPlace (p : List Char) : Prop where
  tidy : IsTidy isSeparator p
  named : 2 ≤ p.length ∨ ∃ c ∈ p, isLetter c = true
  whole : p ∉ ["출", "구", "로", "길"].map String.toList
  no_lanes : ¬ ∃ t, IsLaneCount t ∧ t <:+: p

theorem isCellPlace_of_mem_places {text p : List Char} (h : p ∈ places text) : IsCellPlace p := by
  have place : isPlace p = true := by
    rw [places_eq_firsts, mem_firsts] at h
    exact (List.mem_filter.mp h).2
  obtain ⟨named, whole, lanes⟩ := isPlace_iff.mp place
  exact ⟨isTidy_of_mem_places h, named, whole, lanes⟩

/-- The places of a text are the pieces between its signs and line ends that are places, squeezed
and each where it first occurs. They are all different. Each is trimmed, with single spaces and no
sign; it has two characters or a letter, is no leftover of a cut, and mentions no lanes. And
whichever sign is written between them, or a line end, with blanks around it or none, that text has
the same places. -/
theorem places_clean_and_stable (text : List Char) :
    places text = firsts id [] (fragments text) ∧
      (places text).Nodup ∧
      (∀ p ∈ places text, IsCellPlace p) ∧
      ∀ front sign back, endsPlace sign = true → (∀ c ∈ front, isBlank c = true) →
        (∀ c ∈ back, isBlank c = true) →
        places (joinWith (front ++ sign :: back) (places text)) = places text := by
  have eq := places_eq_firsts text
  refine ⟨eq, ?_, fun p => isCellPlace_of_mem_places, ?_⟩
  · rw [eq]
    exact nodup_firsts _
  · intro front sign back ends frontBlank backBlank
    -- Cut once more, a place is its own only piece.
    have own : ∀ p ∈ places text, fragments p = [p] := by
      intro p hp
      rw [eq, mem_firsts] at hp
      exact fragments_of_mem hp
    calc places (joinWith (front ++ sign :: back) (places text))
        = firsts id [] (places text) := by
          rw [places_eq_firsts, fragments_joinWith ends frontBlank backBlank own]
      _ = firsts id [] (firsts id [] (fragments text)) := by rw [← eq]
      _ = places text := by rw [firsts_firsts (List.Subset.refl _), eq]

theorem places_clean_and_stable_sample :
    endsPlace '⇄' = true ∧
      places "광화문  광장 → 시청\n출 / 2 개차로 , 광화문 광장, 서울역".toList =
        ["광화문 광장", "시청", "서울역"].map String.toList ∧
      places (joinWith [' ', '⇄', '\n']
          (places "광화문  광장 → 시청\n출 / 2 개차로 , 광화문 광장, 서울역".toList)) =
        places "광화문  광장 → 시청\n출 / 2 개차로 , 광화문 광장, 서울역".toList := by
  have ends : endsPlace '⇄' = true := by decide
  obtain ⟨-, -, -, again⟩ :=
    places_clean_and_stable "광화문  광장 → 시청\n출 / 2 개차로 , 광화문 광장, 서울역".toList
  exact ⟨ends, by decide +kernel, again [' '] '⇄' ['\n'] ends (by simp [isBlank]) (by simp [isBlank])⟩

end RouteAlerts.Schedule
