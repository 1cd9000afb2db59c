import RouteAlerts.Proofs.Text.Hangul
import RouteAlerts.Proofs.Text.Piece

/-!
Torn words. `AreRuns` cuts the words of a text into runs, lone syllables apart from the others, none
of which can be made longer. Closing gaps makes one word of every run of two to five lone syllables
and leaves the other runs as they are (`joinSyllables_eq_closed`). A word that was joined is no lone
syllable, so it joins no two runs to a longer one: there is nothing left to close.
-/

namespace RouteAlerts.Text

/-! ### Runs -/

/-- Words cut into runs of one kind, lone syllables or others. Neighbouring runs are of different
kinds, so no run can be made longer. -/
structure AreRuns (ws : List (List Char)) (runs : List (List (List Char))) : Prop where
  flatten : runs.flatten = ws
  nonempty : [] ∉ runs
  alike : ∀ run ∈ runs, ∀ v ∈ run, ∀ w ∈ run, isLoneSyllable v = isLoneSyllable w
  apart : runs.IsChain fun run next => ∀ v ∈ run, ∀ w ∈ next, isLoneSyllable v ≠ isLoneSyllable w

/-- What becomes of a run: two to five lone syllables are one word. -/
def closed (run : List (List Char)) : List (List Char) :=
  if (∀ w ∈ run, isLoneSyllable w = true) ∧ 2 ≤ run.length ∧ run.length ≤ 5 then [run.flatten]
  else run

section Runs

variable {ws run : List (List Char)} {runs : List (List (List Char))} {v w : List Char}

theorem AreRuns.exists_mem (h : AreRuns ws (run :: runs)) : ∃ v, v ∈ run :=
  List.exists_mem_of_ne_nil run fun empty => h.nonempty (by simp [empty])

/-- A word of the same kind is put in front of the first run. -/
theorem AreRuns.lengthen (h : AreRuns ws (run :: runs)) (hv : v ∈ run)
    (same : isLoneSyllable w = isLoneSyllable v) : AreRuns (w :: ws) ((w :: run) :: runs) := by
  have own : ∀ u ∈ w :: run, isLoneSyllable u = isLoneSyllable v := by
    intro u hu
    rcases List.mem_cons.mp hu with rfl | later
    · exact same
    · exact h.alike run List.mem_cons_self u later v hv
  obtain ⟨border, chain⟩ := List.isChain_cons.mp h.apart
  constructor
  case flatten =>
    rw [← h.flatten]
    rfl
  case nonempty =>
    intro empty
    rcases List.mem_cons.mp empty with first | later
    · cases first
    · exact h.nonempty (List.mem_cons_of_mem _ later)
  case alike =>
    intro r hr
    rcases List.mem_cons.mp hr with rfl | later
    · exact fun a ha b hb => (own a ha).trans (own b hb).symm
    · exact h.alike r (List.mem_cons_of_mem _ later)
  -- The border to the next run depends on one word of the first run, whichever that is.
  case apart =>
    refine List.isChain_cons.mpr ⟨?_, chain⟩
    intro next hnext a ha b hb
    rw [own a ha]
    exact border next hnext v hv b hb

/-- A word of the other kind starts a run of its own. -/
theorem AreRuns.start (h : AreRuns ws (run :: runs)) (hv : v ∈ run)
    (other : isLoneSyllable w ≠ isLoneSyllable v) : AreRuns (w :: ws) ([w] :: run :: runs) := by
  constructor
  case flatten =>
    rw [← h.flatten]
    rfl
  case nonempty =>
    intro empty
    rcases List.mem_cons.mp empty with first | later
    · cases first
    · exact h.nonempty later
  case alike =>
    intro r hr
    rcases List.mem_cons.mp hr with rfl | later
    · simp
    · exact h.alike r later
  case apart =>
    refine List.isChain_cons.mpr ⟨?_, h.apart⟩
    intro next hnext a ha b hb
    obtain rfl : run = next := by simpa using hnext
    obtain rfl := List.mem_singleton.mp ha
    rwa [h.alike run List.mem_cons_self b hb v hv]

/-- Words can be cut into runs. -/
theorem exists_runs (ws : List (List Char)) : ∃ runs, AreRuns ws runs := by
  induction ws with
  | nil => exact ⟨[], rfl, by simp, by simp, .nil⟩
  | cons w ws ih =>
    obtain ⟨runs, cut⟩ := ih
    cases runs with
    | nil =>
      obtain rfl : [] = ws := cut.flatten
      exact ⟨[[w]], rfl, by simp, by simp, .singleton _⟩
    | cons run runs =>
      obtain ⟨v, hv⟩ := cut.exists_mem
      by_cases same : isLoneSyllable w = isLoneSyllable v
      · exact ⟨_, cut.lengthen hv same⟩
      · exact ⟨_, cut.start hv same⟩

theorem AreRuns.tail (h : AreRuns ws (run :: runs)) : AreRuns runs.flatten runs where
  flatten := rfl
  nonempty := fun empty => h.nonempty (List.mem_cons_of_mem _ empty)
  alike := fun r hr => h.alike r (List.mem_cons_of_mem _ hr)
  apart := h.apart.tail

/-- Behind a run comes a word of the other kind. -/
theorem AreRuns.head_apart (h : AreRuns ws (run :: runs)) (hv : v ∈ run) :
    ∀ w ∈ runs.flatten.head?, isLoneSyllable w ≠ isLoneSyllable v := by
  intro w head
  cases runs with
  | nil => cases head
  | cons next runs =>
    obtain ⟨d, others, rfl⟩ : ∃ d others, next = d :: others :=
      List.exists_cons_of_ne_nil fun empty => h.nonempty (by simp [empty])
    obtain rfl : d = w := by simpa using head
    exact Ne.symm ((List.isChain_cons.mp h.apart).1 _ rfl v hv d List.mem_cons_self)

end Runs

/-! ### Closing gaps -/

theorem joinSyllables_cons {w : List Char} (longer : isLoneSyllable w = false)
    (ws : List (List Char)) : joinSyllables (w :: ws) = w :: joinSyllables ws := by
  rw [joinSyllables, longer]
  rfl

/-- A run of lone syllables is closed on its own. -/
theorem joinSyllables_append_of_lone {run : List (List Char)} (nonempty : run ≠ [])
    (lone : ∀ w ∈ run, isLoneSyllable w = true) {rest : List (List Char)}
    (stop : ∀ w ∈ rest.head?, isLoneSyllable w = false) :
    joinSyllables (run ++ rest) = closed run ++ joinSyllables rest := by
  obtain ⟨w, run, rfl⟩ := List.exists_cons_of_ne_nil nonempty
  have others : ∀ v ∈ run, isLoneSyllable v = true := fun v hv => lone v (List.mem_cons_of_mem _ hv)
  have whole : (run ++ rest).takeWhile isLoneSyllable = run := takeWhile_append_stop others stop
  have behind : (run ++ rest).dropWhile isLoneSyllable = rest := dropWhile_append_stop others stop
  rw [List.cons_append, joinSyllables, if_pos (lone w List.mem_cons_self), closed]
  simp only [whole, behind]
  by_cases short : 2 ≤ (w :: run).length ∧ (w :: run).length ≤ 5
  · rw [if_pos short, if_pos ⟨lone, short⟩, List.singleton_append]
  · rw [if_neg short, if_neg fun both => short both.2]

/-- Other words are left as they are. -/
theorem joinSyllables_append_of_longer {run : List (List Char)}
    (longer : ∀ w ∈ run, isLoneSyllable w = false) (rest : List (List Char)) :
    joinSyllables (run ++ rest) = run ++ joinSyllables rest := by
  induction run with
  | nil => rfl
  | cons w run ih =>
    rw [List.cons_append, joinSyllables_cons (longer w List.mem_cons_self),
      ih fun v hv => longer v (List.mem_cons_of_mem _ hv), List.cons_append]

theorem closed_of_longer {run : List (List Char)} {w : List Char} (member : w ∈ run)
    (longer : isLoneSyllable w = false) : closed run = run := by
  refine if_neg fun lone => ?_
  rw [lone.1 w member] at longer
  cases longer

/-- Closing gaps closes the runs, each on its own. -/
theorem joinSyllables_eq_closed {ws : List (List Char)} {runs : List (List (List Char))}
    (h : AreRuns ws runs) : joinSyllables ws = runs.flatMap closed := by
  induction runs generalizing ws with
  | nil =>
    obtain rfl : [] = ws := h.flatten
    rw [joinSyllables, List.flatMap_nil]
  | cons run runs ih =>
    have rest := ih h.tail
    obtain ⟨v, hv⟩ := h.exists_mem
    have alike : ∀ w ∈ run, isLoneSyllable w = isLoneSyllable v := fun w hw =>
      h.alike run List.mem_cons_self w hw v hv
    have apart := h.head_apart hv
    rw [← h.flatten, List.flatten_cons, List.flatMap_cons, ← rest]
    cases kind : isLoneSyllable v with
    | true =>
      simp only [kind] at alike apart
      exact joinSyllables_append_of_lone (List.ne_nil_of_mem hv) alike
        fun w hw => Bool.eq_false_iff.mpr (apart w hw)
    | false =>
      simp only [kind] at alike
      rw [closed_of_longer hv kind]
      exact joinSyllables_append_of_longer alike _

/-- What is joined of words are words. -/
theorem isWord_of_mem_joinSyllables {ws : List (List Char)} (words : ∀ w ∈ ws, IsWord w) :
    ∀ w ∈ joinSyllables ws, IsWord w := by
  obtain ⟨runs, cut⟩ := exists_runs ws
  rw [joinSyllables_eq_closed cut]
  intro w hw
  obtain ⟨run, hrun, inRun⟩ := List.mem_flatMap.mp hw
  have own : ∀ v ∈ run, IsWord v := by
    intro v hv
    refine words v ?_
    rw [← cut.flatten]
    exact List.mem_flatten_of_mem hrun hv
  unfold closed at inRun
  split at inRun
  · rename_i short
    obtain rfl := List.mem_singleton.mp inRun
    constructor
    · obtain ⟨v, hv⟩ : ∃ v, v ∈ run := List.exists_mem_of_length_pos (by omega)
      rw [Ne, List.flatten_eq_nil_iff]
      exact fun empty => (own v hv).1 (empty v hv)
    · intro c hc
      obtain ⟨v, hv, inWord⟩ := List.mem_flatten.mp hc
      exact (own v hv).2 c inWord
  · exact own w inRun

theorem words_closeGaps (s : List Char) : words (closeGaps s) = joinSyllables (words s) :=
  words_joinWith (isWord_of_mem_joinSyllables fun _ => isWord_of_mem_words)

/-! ### Closed gaps -/

/-- Two lone syllables or more make a word that is none. -/
theorem isLoneSyllable_flatten {run : List (List Char)} (lone : ∀ w ∈ run, isLoneSyllable w = true)
    (several : 2 ≤ run.length) : isLoneSyllable run.flatten = false := by
  have nonempty : ∀ w ∈ run, 1 ≤ w.length := by
    intro w hw
    have own := lone w hw
    cases w with
    | nil => cases own
    | cons c w => simp
  have long : run.length ≤ run.flatten.length := by
    clear several lone
    induction run with
    | nil => rfl
    | cons w run ih =>
      have first := nonempty w List.mem_cons_self
      have rest := ih fun v hv => nonempty v (List.mem_cons_of_mem _ hv)
      simp only [List.flatten_cons, List.length_append, List.length_cons]
      omega
  unfold isLoneSyllable
  split
  · rename_i single
    rw [single] at long
    simp at long
    omega
  · rfl

/-- Where no lone syllable comes first, none does when gaps are closed. -/
theorem head_joinSyllables {ws : List (List Char)}
    (stop : ∀ w ∈ ws.head?, isLoneSyllable w = false) :
    ∀ w ∈ (joinSyllables ws).head?, isLoneSyllable w = false := by
  cases ws with
  | nil => simp [joinSyllables]
  | cons v ws =>
    rw [joinSyllables_cons (stop v rfl)]
    intro w head
    exact stop w head

theorem isLoneSyllable_of_mem_run {w : List Char} {ws : List (List Char)}
    (lone : isLoneSyllable w = true) :
    ∀ v ∈ w :: ws.takeWhile isLoneSyllable, isLoneSyllable v = true := by
  intro v hv
  rcases List.mem_cons.mp hv with rfl | later
  · exact lone
  · exact List.mem_takeWhile_imp later

/-- There is nothing left to close. -/
theorem joinSyllables_joinSyllables (ws : List (List Char)) :
    joinSyllables (joinSyllables ws) = joinSyllables ws := by
  fun_induction joinSyllables ws with
  | case1 => rw [joinSyllables]
  | case2 w ws lone run rest short ih =>
    have own : ∀ v ∈ run, isLoneSyllable v = true := isLoneSyllable_of_mem_run lone
    rw [joinSyllables_cons (isLoneSyllable_flatten own short.1), ih]
  | case3 w ws lone run rest long ih =>
    have own : ∀ v ∈ run, isLoneSyllable v = true := isLoneSyllable_of_mem_run lone
    have same : closed run = run := if_neg fun both => long both.2
    rw [joinSyllables_append_of_lone (List.cons_ne_nil _ _) own
      (head_joinSyllables head_dropWhile), same, ih]
  | case4 w ws longer ih =>
    rw [joinSyllables_cons (by simpa using longer), ih]

/-- Closing the gaps of a text moves blanks and nothing else. Its words can be cut into runs, lone
syllables apart from other words and no run to be made longer; and however they are, the words are
afterwards, with single spaces between them, those of the runs, of which two to five lone syllables
are one word and the others are as they were. To close gaps again changes nothing. -/
theorem closeGaps_closes_runs (s : List Char) :
    strip (closeGaps s) = strip s ∧
      (∃ runs, AreRuns (words s) runs) ∧
      (∀ runs, AreRuns (words s) runs →
        words (closeGaps s) = runs.flatMap closed ∧
          closeGaps s = joinWith [' '] (runs.flatMap closed)) ∧
      closeGaps (closeGaps s) = closeGaps s := by
  refine ⟨strip_closeGaps s, exists_runs _, fun runs cut => ?_, ?_⟩
  · rw [words_closeGaps, closeGaps, joinSyllables_eq_closed cut]
    exact ⟨rfl, rfl⟩
  · calc closeGaps (closeGaps s) = joinWith [' '] (joinSyllables (words (closeGaps s))) := rfl
      _ = joinWith [' '] (joinSyllables (joinSyllables (words s))) := by rw [words_closeGaps]
      _ = closeGaps s := by rw [joinSyllables_joinSyllables, closeGaps]

/-- A run of three is one word; a syllable on its own and a run of six are left as they are. -/
theorem closeGaps_closes_runs_sample :
    AreRuns (words "우 천 시  행진 후 해산, 가 나 다 라 마 바".toList)
        [[['우'], ['천'], ['시']], [['행', '진']], [['후']], [['해', '산', ',']],
          [['가'], ['나'], ['다'], ['라'], ['마'], ['바']]] ∧
      closeGaps "우 천 시  행진 후 해산, 가 나 다 라 마 바".toList =
        "우천시 행진 후 해산, 가 나 다 라 마 바".toList := by
  have cut : AreRuns (words "우 천 시  행진 후 해산, 가 나 다 라 마 바".toList)
      [[['우'], ['천'], ['시']], [['행', '진']], [['후']], [['해', '산', ',']],
        [['가'], ['나'], ['다'], ['라'], ['마'], ['바']]] := by
    constructor
    case flatten => decide +kernel
    case nonempty => simp
    case alike => simp [isLoneSyllable, isSyllable]
    case apart => simp [isLoneSyllable, isSyllable]
  obtain ⟨-, -, closes, -⟩ :=
    closeGaps_closes_runs "우 천 시  행진 후 해산, 가 나 다 라 마 바".toList
  refine ⟨cut, (closes _ cut).2.trans ?_⟩
  decide +kernel

end RouteAlerts.Text
