import RouteAlerts.Place.Queries
import RouteAlerts.Proofs.Announcement.FirstOccurrence
import RouteAlerts.Proofs.Place.NormalForm

/-!
Which forms of a place are asked for. A form is left out when an earlier one is the same, or when
fewer than two characters are left of it once the city is taken out, wherever it stands
(`queries_eq`). For the full name of a place that is to say: when fewer than two characters are left
of the place itself, as the city in front goes anyhow (`remainder_inCity`). So a place that does not
hold the name of the city is always asked for by its full name first, while the main station of the
city, which is named for it, is asked for by no query at all (`full_name_left_out`).
-/

namespace RouteAlerts.Place

open Text

variable {city place : List Char}

/-! ### Forms that are asked for -/

/-- What is left of a query once the city is taken out, wherever it stands. -/
def remainder (city query : List Char) : List Char := trim (replace city [] query)

def inCity (city place : List Char) : List Char := city ++ ' ' :: place

theorem trim_inCity {s : List Char} (named : city ≠ []) (trimmed : trim city = city)
    (nonempty : s ≠ []) (last : ∀ c ∈ s.getLast?, isBlank c = false) :
    trim (inCity city s) = inCity city s := by
  apply trim_eq_self
  · intro c head
    have front := isBlank_head_trim city
    rw [trimmed] at front
    rw [inCity, List.head?_append_of_ne_nil _ named] at head
    exact front c head
  · intro c final
    rw [inCity, List.getLast?_append_of_ne_nil _ (List.cons_ne_nil _ _),
      List.getLast?_cons_of_ne_nil nonempty] at final
    exact last c final

/-- The forms of a normalized place are trimmed. -/
theorem trim_of_mem_forms {q : List Char} (named : city ≠ []) (trimmed : trim city = city)
    (nonempty : place ≠ []) (own : trim place = place) (h : q ∈ forms city place) :
    trim q = q := by
  have last := isBlank_last_trim place
  rw [own] at last
  have word : ∀ w ∈ words place, trim (inCity city w) = inCity city w := by
    intro w hw
    obtain ⟨some, solid⟩ := isWord_of_mem_words hw
    exact trim_inCity named trimmed some fun c hc => solid c (List.mem_of_getLast? hc)
  simp only [forms, List.mem_append, List.mem_cons, List.not_mem_nil, or_false] at h
  rcases h with ((rfl | rfl) | single) | station
  · exact trim_inCity named trimmed nonempty last
  · exact own
  · split at single
    · rename_i first final isFirst isFinal
      split at single
      · rcases List.mem_pair.mp single with rfl | rfl
        · exact word final (List.mem_of_getLast? isFinal)
        · exact word first (List.mem_of_head? isFirst)
      · cases single
    · cases single
  · split at station
    · rw [List.mem_singleton.mp station]
      refine trim_inCity named trimmed (by simp) ?_
      simp [show isBlank '역' = false by decide]
    · cases station

/-- Asked are the forms that say enough, each where it comes first. -/
theorem queries_eq (named : city ≠ []) (trimmed : trim city = city) (nonempty : place ≠ [])
    (own : trim place = place) : queries city place =
      firsts id [] ((forms city place).filter fun q => 2 ≤ (remainder city q).length) := by
  have candidates : (forms city (trim place)).map trim = forms city place := by
    rw [own]
    exact (List.map_congr_left fun q hq => trim_of_mem_forms named trimmed nonempty own hq).trans
      (List.map_id _)
  rw [queries, candidates, foldl_keep_new, List.nil_append]
  rfl

/-! ### The full name -/

/-- Of a place with the city in front is left what is left of the place. -/
theorem remainder_inCity (named : city ≠ []) (trimmed : trim city = city) :
    remainder city (inCity city place) = remainder city place := by
  have space : Silent (literal city) [' '] place := by
    refine silent_cons.mpr ⟨?_, silent_nil _⟩
    rw [Option.eq_none_iff_forall_not_mem]
    intro ⟨_, rest⟩ found
    obtain ⟨c, tail, rfl⟩ := List.exists_cons_of_ne_nil named
    have front := isBlank_head_trim (c :: tail) c
    rw [trimmed] at front
    obtain rfl : ' ' = c := (List.cons.inj (literal_eq_some_iff.mp found)).1
    exact absurd (front rfl) (by decide)
  have gone : replace city [] (city ++ ' ' :: place) = replace city [] (' ' :: place) :=
    substitute_match named (literal_eq_some_iff.mpr rfl)
  have behind : replace city [] (' ' :: place) = ' ' :: replace city [] place :=
    substitute_silent space
  rw [remainder, inCity, gone, behind]
  rfl

theorem remainder_eq_self (absent : ¬ city <:+: place) (named : city ≠ [])
    (own : trim place = place) : remainder city place = place := by
  rw [remainder, replace, substitute_eq_self_of_silent ((silent_literal_iff named).mpr absent), own]

/-- The queries for a normalized place are its forms that say enough, each where it comes first. Its
full name with the city is asked for exactly when two characters are left of the place itself once
the city is taken out of it, and then it is the first query; so it always is where the place does
not hold the name of the city. -/
theorem asks_full_name_iff {city raw : List Char} (named : city ≠ []) (trimmed : trim city = city)
    (found : PlaceName.normalize raw ≠ []) :
    let place := PlaceName.normalize raw
    queries city place =
        firsts id [] ((forms city place).filter fun q => 2 ≤ (remainder city q).length) ∧
      ((queries city place).head? = some (inCity city place) ↔
        2 ≤ (remainder city place).length) ∧
      (inCity city place ∈ queries city place ↔ 2 ≤ (remainder city place).length) ∧
      (¬ city <:+: place → (queries city place).head? = some (inCity city place)) := by
  intro place
  have normal : PlaceName.IsNormal place := (PlaceName.isNormal_normalize raw).resolve_left found
  have own : trim place = place := by
    rw [← normal.squeezed, trim_squeeze]
  have asked := queries_eq named trimmed found own
  have left := @remainder_inCity city place named trimmed
  -- The name of the city in front is taken out again, so what counts is left of the place itself.
  have enough : inCity city place ∈ queries city place → 2 ≤ (remainder city place).length := by
    intro isAsked
    rw [asked] at isAsked
    have passes := (List.mem_filter.mp ((firsts_sublist _ _).subset isAsked)).2
    rwa [decide_eq_true_eq, left] at passes
  have first : 2 ≤ (remainder city place).length →
      (queries city place).head? = some (inCity city place) := by
    intro long
    obtain ⟨others, split⟩ : ∃ others, forms city place = inCity city place :: others := ⟨_, rfl⟩
    rw [asked, split, List.filter_cons_of_pos (by simpa [left] using long), firsts_cons]
    rfl
  refine ⟨asked, ⟨fun head => enough (List.mem_of_head? head), first⟩,
    ⟨enough, fun long => List.mem_of_head? (first long)⟩, fun absent => first ?_⟩
  rw [remainder_eq_self absent named own]
  exact normal.long

/-- A place that holds the name of the city inside of its own, but enough besides. -/
theorem asks_full_name_iff_sample :
    let city := "서울".toList
    let place := PlaceName.normalize "남서울대 앞 (1.5km)".toList
    city ≠ [] ∧ trim city = city ∧ place = "남서울대".toList ∧
      (queries city place).head? = some "서울 남서울대".toList := by
  intro city place
  have named : city ≠ [] := by decide
  have trimmed : trim city = city := by decide
  have normalized : place = "남서울대".toList := by decide +kernel
  have found : place ≠ [] := by
    rw [normalized]
    decide
  obtain ⟨-, head, -⟩ := asks_full_name_iff named trimmed found
  refine ⟨named, trimmed, normalized, ?_⟩
  have asked := head.mpr (by decide +kernel)
  exact asked.trans (congrArg (some <| inCity city ·) normalized)

/-- Of the main station one character is left without the city, so that no form of it says
enough. -/
example : queries "서울".toList "서울역".toList = [] := by decide +kernel

/-- The full name is left out of the queries for a place that is named for the city, though all of
the place is left behind the city in front. -/
theorem full_name_left_out : ¬ ∀ city raw : List Char, city ≠ [] → trim city = city →
    PlaceName.normalize raw ≠ [] →
    (queries city (PlaceName.normalize raw)).head? =
      some (inCity city (PlaceName.normalize raw)) := by
  intro always
  have asked := always "서울".toList "서울역".toList (by decide) (by decide) (by decide +kernel)
  revert asked
  decide +kernel

end RouteAlerts.Place
