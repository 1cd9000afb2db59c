import RouteAlerts.Bulletin.Headcount
import RouteAlerts.Proofs.Text.Digits
import RouteAlerts.Proofs.Text.Scan

/-!
Attendance figures in their text. Whatever figure is found, the text before it, the figure and the
text behind it are the whole text. A text without digits has no figure, and the first number in a
text is its figure if the counter for people stands behind it.
-/

namespace RouteAlerts

open Text

namespace Headcount

/-- A printed figure of a value: a number, with or without the counter for people behind it. -/
def IsFigure (value : Nat) (span : List Char) : Prop :=
  ∃ number, value? number = some value ∧
    (span = number ∨ ∃ gap, (∀ c ∈ gap, isBlank c = true) ∧ span = number ++ gap ++ ['명'])

theorem counted?_eq_some {s number span rest : List Char}
    (h : counted? s = some ((number, span), rest)) :
    s = span ++ rest ∧ ∃ gap, (∀ c ∈ gap, isBlank c = true) ∧ span = number ++ gap ++ ['명'] := by
  simp only [counted?, Option.bind_eq_bind] at h
  obtain ⟨⟨printed, tail⟩, read, counter⟩ := Option.bind_eq_some_iff.mp h
  simp only at counter
  split at counter
  · rename_i behind unit
    have blanks := List.takeWhile_append_dropWhile (p := isBlank) (l := tail)
    rw [unit] at blanks
    obtain ⟨⟨rfl, rfl⟩, rfl⟩ : (printed = number ∧ _ = span) ∧ behind = rest := by
      simpa using counter
    refine ⟨?_, tail.takeWhile isBlank, fun c hc => List.all_eq_true.mp List.all_takeWhile c hc,
      by simp⟩
    rw [(number?_eq_some read).2]
    simp [blanks]
  · cases counter

/-- The search through bare numbers keeps all that it passes over. -/
theorem bare?_eq_append {passed : List Char} {found : List (List Char × List Char)} {h : Headcount}
    (eq : bare? passed found = some h) :
    h.before ++ h.span ++ h.after = passed ++ found.flatMap fun (p, t) => p ++ t := by
  induction found generalizing passed with
  | nil => cases eq
  | cons first found ih =>
    obtain ⟨printed, tail⟩ := first
    rw [bare?] at eq
    split at eq
    · obtain rfl := Option.some.inj eq
      simp
    · rw [ih eq]
      simp

theorem isFigure_of_bare? {passed : List Char} {found : List (List Char × List Char)}
    {h : Headcount} (eq : bare? passed found = some h) : IsFigure h.value h.span := by
  induction found generalizing passed with
  | nil => cases eq
  | cons first found ih =>
    obtain ⟨printed, tail⟩ := first
    rw [bare?] at eq
    split at eq
    · rename_i n bare
      obtain rfl := Option.some.inj eq
      refine ⟨printed, ?_, .inl rfl⟩
      unfold bareValue? at bare
      split at bare
      · cases bare
      · split at bare
        · rename_i value read
          split at bare
          · rwa [← Option.some.inj bare]
          · cases bare
        · cases bare
    · exact ih eq

/-- The figure is all that lies between the text before it and the text behind it. -/
theorem find?_eq_some {block : List Char} {h : Headcount} (eq : find? block = some h) :
    block = h.before ++ h.span ++ h.after ∧ IsFigure h.value h.span := by
  unfold find? at eq
  simp only at eq
  split at eq
  · rename_i counted found
    obtain rfl := Option.some.inj eq
    split at found
    · rename_i before printed span after first
      obtain ⟨n, value, rfl⟩ := Option.map_eq_some_iff.mp found
      obtain ⟨rest, rfl, read⟩ := firstMatch_eq_some first
      obtain ⟨rfl, counter⟩ := counted?_eq_some read
      exact ⟨(List.append_assoc ..).symm, printed, value, .inr counter⟩
    · cases found
  · have whole := substitute_eq_self (f := id) (fun s a rest read => (number?_eq_some read).2) block
    refine ⟨?_, isFigure_of_bare? eq⟩
    rw [bare?_eq_append eq]
    exact whole.symm

/-! ### Texts with one figure or none -/

theorem silent_of_no_digit {s : List Char} (h : ∀ c ∈ s, isDigit c = false) (rest : List Char) :
    Silent number? s rest :=
  silent_of_heads (p := isDigit) (fun c t hc => number?_eq_none (by simpa using hc)) h

theorem counted?_eq_none {s : List Char} (h : number? s = none) : counted? s = none := by
  rw [counted?, h]
  rfl

/-- There is no figure where there is no digit. -/
theorem find?_eq_none {block : List Char} (h : ∀ c ∈ block, isDigit c = false) :
    find? block = none := by
  have numbers := cut_silent (silent_of_no_digit h [])
  have counted := firstMatch_silent ((silent_of_no_digit h []).mono fun _ => counted?_eq_none)
  rw [List.append_nil] at numbers counted
  rw [find?, numbers, counted]
  simp [cut, firstMatch, bare?]

/-- A number with its counter behind it is the figure, if no number stands before it. -/
theorem find?_counted {before printed after : List Char} {n : Nat}
    (h : ∀ c ∈ before, isDigit c = false)
    (number : number? (printed ++ '명' :: after) = some (printed, '명' :: after))
    (value : value? printed = some n) :
    find? (before ++ (printed ++ '명' :: after)) = some ⟨n, before, printed ++ ['명'], after⟩ := by
  have nonempty : printed ++ ['명'] ≠ [] := by simp
  have counted : counted? ((printed ++ ['명']) ++ after) =
      some ((printed, printed ++ ['명']), after) := by
    have solid : isBlank '명' = false := by decide
    rw [List.append_assoc, List.singleton_append]
    simp [counted?, number, solid]
  have first := firstMatch_match nonempty counted
  rw [List.append_assoc, List.singleton_append] at first
  have passed := firstMatch_silent
    ((silent_of_no_digit h (printed ++ '명' :: after)).mono fun _ => counted?_eq_none)
  rw [find?, passed, first]
  simp [value]

end Headcount

end RouteAlerts
