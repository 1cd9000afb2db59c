import RouteAlerts.Event.Draft
import RouteAlerts.Proofs.Event.Batch

/-!
Drafts of announcements. A title can be taken apart again, whatever stands in the place: it ends
with the category when no headcount is known and with a bracket when one is, and the digits of the
headcount stand behind a blank (`eventTitle_injective`). A draft with a year of four digits and a
point of two numbers is plain and satisfies the columns.
-/

namespace RouteAlerts

open Text

/-! ### Titles -/

/-- What a title has in front of the digits of its headcount. -/
def titleStart (place : List Char) : List Char :=
  place ++ ' ' :: assemblyCategory.toList ++ " (참가자 ".toList

theorem eventTitle_none (place : List Char) :
    eventTitle place none = place ++ [' ', '집', '회'] := by
  simp [eventTitle, assemblyCategory]

theorem eventTitle_some (place : List Char) (n : Nat) :
    eventTitle place (some n) = titleStart place ++ natDigits n ++ ['명', ')'] := by
  simp [eventTitle, titleStart]

theorem titleStart_eq (place : List Char) :
    titleStart place = place ++ [' ', '집', '회', ' ', '(', '참', '가', '자', ' '] := by
  simp [titleStart, assemblyCategory]

/-- A title says where the event is and how many take part. -/
theorem eventTitle_injective {p q : List Char} {m n : Option Nat}
    (h : eventTitle p m = eventTitle q n) : p = q ∧ m = n := by
  have ends := congrArg List.getLast? h
  cases m with
  | none =>
    cases n with
    | none =>
      rw [eventTitle_none, eventTitle_none] at h
      exact ⟨List.append_cancel_right h, rfl⟩
    | some n => simp [eventTitle_none, eventTitle_some] at ends
  | some m =>
    cases n with
    | none => simp [eventTitle_none, eventTitle_some] at ends
    | some n =>
      rw [eventTitle_some, eventTitle_some] at h
      -- The digits of the number reach up to the blank before them, whatever place stands in front.
      have blank : ∀ place, ∀ c ∈ (titleStart place).getLast?, isAsciiDigit c = false := by
        intro place c last
        obtain rfl : ' ' = c := by simpa [titleStart_eq] using last
        decide
      obtain ⟨start, rfl⟩ := append_natDigits_inj (blank p) (blank q) (List.append_cancel_right h)
      rw [titleStart_eq, titleStart_eq] at start
      exact ⟨List.append_cancel_right start, rfl⟩

/-! ### Times -/

/-- A time of day at which a minute begins. -/
def TimeOfDay.IsFullMinute (t : TimeOfDay) : Prop := t.second = 0 ∧ t.nano = 0

/-- A printed time names an hour and a minute, and so does the standard one. -/
theorem TimeOfDay.isFullMinute_ofPrinted (s : List Char) :
    (TimeOfDay.ofPrinted s).IsFullMinute := by
  unfold TimeOfDay.ofPrinted
  cases found : TimeOfDay.ofPrinted? s with
  | none => exact ⟨rfl, rfl⟩
  | some t =>
    unfold TimeOfDay.ofPrinted? at found
    split at found
    · obtain ⟨hour, -, found⟩ := Option.bind_eq_some_iff.mp found
      obtain ⟨minute, -, found⟩ := Option.bind_eq_some_iff.mp found
      obtain ⟨_, clock⟩ := Option.dite_none_right_eq_some.mp found
      obtain rfl := Option.some.inj clock
      exact ⟨rfl, rfl⟩
    · cases found

theorem TimeOfDay.second_ofPrinted (s : List Char) : (TimeOfDay.ofPrinted s).second = 0 :=
  (TimeOfDay.isFullMinute_ofPrinted s).1

namespace Announcement

variable {a b : Announcement} {district district' : List Char} {p q : Point}

theorem isPlain_draft (year : a.date.HasPlainYear) : (a.draft district p).IsPlain := by
  have noLeap : ∀ s, (TimeOfDay.ofPrinted s).second ≤ 59 := by
    intro s
    rw [TimeOfDay.second_ofPrinted]
    omega
  exact ⟨⟨year.1, year.2, noLeap _⟩, ⟨year.1, year.2, noLeap _⟩⟩

theorem isStorable_draft (number : p.isNaN = false) : (a.draft district p).IsStorable := by
  obtain ⟨lat, lon⟩ := Bool.or_eq_false_iff.mp number
  have severity : 1 ≤ standardSeverity ∧ standardSeverity ≤ 3 := by decide
  exact ⟨lat, lon, severity⟩

/-- Drafts of one title have one place, and as many take part. -/
theorem eq_of_title_draft (h : (a.draft district p).title = (b.draft district' q).title) :
    a.locationName = b.locationName ∧ a.headcount = b.headcount :=
  eventTitle_injective (String.ofList_injective h)

end Announcement

end RouteAlerts
