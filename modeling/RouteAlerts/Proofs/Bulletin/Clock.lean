import RouteAlerts.Bulletin.Clock
import RouteAlerts.Proofs.Text.Digits
import RouteAlerts.Proofs.Text.Scan

/-!
Printed clocks. `IsClock` is the grammar of what the reader of clock times takes; it takes exactly
that, and leaves the text behind it as it is. A clock opens with an hour and a colon; a stretch in
which nothing opens a clock has no match of a reader that starts with one.
-/

namespace RouteAlerts

open Text

namespace PrintedClock

/-- One or two digits for the hour, two for the minute, and blanks around the colon. -/
structure IsClock (c : PrintedClock) : Prop where
  hour : c.hour.length = 1 ∨ c.hour.length = 2
  hourDigits : ∀ d ∈ c.hour, isDigit d = true
  beforeBlank : ∀ d ∈ c.gapBefore, isBlank d = true
  afterBlank : ∀ d ∈ c.gapAfter, isBlank d = true
  minute : c.minute.length = 2
  minuteDigits : ∀ d ∈ c.minute, isDigit d = true

instance (c : PrintedClock) : Decidable c.IsClock :=
  decidable_of_iff
    ((c.hour.length = 1 ∨ c.hour.length = 2) ∧ c.hour.all isDigit = true ∧
      isAllBlank c.gapBefore = true ∧ isAllBlank c.gapAfter = true ∧
      c.minute.length = 2 ∧ c.minute.all isDigit = true) <| by
    simp only [List.all_eq_true, isAllBlank]
    exact ⟨fun ⟨hour, hourDigits, before, after, minute, minuteDigits⟩ =>
      ⟨hour, hourDigits, before, after, minute, minuteDigits⟩,
      fun h => ⟨h.hour, h.hourDigits, h.beforeBlank, h.afterBlank, h.minute, h.minuteDigits⟩⟩

theorem hour_stop {gap rest : List Char} (blank : ∀ d ∈ gap, isBlank d = true) :
    ∀ d ∈ (gap ++ ':' :: rest).head?, isDigit d = false := by
  intro d head
  refine Bool.eq_false_iff.mpr fun digit => ?_
  cases gap with
  | nil =>
    obtain rfl : ':' = d := by simpa using head
    exact absurd digit (by decide)
  | cons e gap =>
    obtain rfl : e = d := by simpa using head
    have clear := isBlank_eq_false_of_isDigit digit
    rw [blank e List.mem_cons_self] at clear
    cases clear

section Raw

variable {c : PrintedClock} (h : c.IsClock) (rest : List Char)
include h

/-- The hour of a clock is read with the digits it has: a blank or the colon stands behind it. -/
theorem oneOrTwoDigits?_raw : oneOrTwoDigits? (c.raw ++ rest) =
    some (c.hour, c.gapBefore ++ ':' :: (c.gapAfter ++ (c.minute ++ rest))) :=
  oneOrTwoDigits?_eq_some_iff.mpr
    ⟨h.hour.symm.imp id fun one => ⟨one, hour_stop h.beforeBlank⟩, h.hourDigits, by simp [raw]⟩

theorem digits?_minute : digits? 2 (c.minute ++ rest) = some (c.minute, rest) :=
  digits?_eq_some_iff.mpr ⟨h.minute, h.minuteDigits, rfl⟩

theorem minute_stop : ∀ d ∈ (c.minute ++ rest).head?, isBlank d = false := by
  intro d head
  cases minute : c.minute with
  | nil => simpa [minute] using h.minute
  | cons e more =>
    obtain rfl : e = d := by simpa [minute] using head
    exact isBlank_eq_false_of_isDigit (h.minuteDigits e (by simp [minute]))

theorem dropWhile_colon :
    (c.gapBefore ++ ':' :: (c.gapAfter ++ (c.minute ++ rest))).dropWhile isBlank =
      ':' :: (c.gapAfter ++ (c.minute ++ rest)) :=
  dropWhile_append_stop h.beforeBlank (by simp; decide)

/-- A clock is read where it stands. -/
theorem read?_raw : read? (c.raw ++ rest) = some (c, rest) := by
  have before : (c.gapBefore ++ ':' :: (c.gapAfter ++ (c.minute ++ rest))).takeWhile isBlank =
      c.gapBefore := takeWhile_append_stop h.beforeBlank (by simp; decide)
  simp only [read?, oneOrTwoDigits?_raw h, Option.bind_eq_bind, Option.bind_some, before,
    dropWhile_colon h, takeWhile_append_stop h.afterBlank (minute_stop h rest),
    dropWhile_append_stop h.afterBlank (minute_stop h rest), digits?_minute h]

theorem raw_stop : ∀ d ∈ (c.raw ++ rest).head?, isBlank d = false := by
  intro d head
  cases hour : c.hour with
  | nil => simpa [hour] using h.hour
  | cons e more =>
    obtain rfl : e = d := by simpa [raw, hour] using head
    exact isBlank_eq_false_of_isDigit (h.hourDigits e (by simp [hour]))

end Raw

/-- Without its blanks a clock is tight. -/
theorem strip_raw {c : PrintedClock} (h : c.IsClock) : strip c.raw = c.tight := by
  have solid : ∀ digits : List Char, (∀ d ∈ digits, isDigit d = true) → strip digits = digits :=
    fun digits all => strip_eq_self fun d hd => isBlank_eq_false_of_isDigit (all d hd)
  have colon : ∀ s, strip (':' :: s) = ':' :: strip s :=
    fun s => List.filter_cons_of_pos (by decide)
  simp [raw, tight, colon, solid c.hour h.hourDigits, solid c.minute h.minuteDigits,
    strip_eq_nil_iff.mpr h.beforeBlank, strip_eq_nil_iff.mpr h.afterBlank]

/-- Only a clock is read. -/
theorem read?_eq_some {s rest : List Char} {c : PrintedClock} (h : read? s = some (c, rest)) :
    c.IsClock ∧ s = c.raw ++ rest := by
  simp only [read?, Option.bind_eq_bind] at h
  obtain ⟨⟨hour, s₁⟩, readHour, readTail⟩ := Option.bind_eq_some_iff.mp h
  obtain ⟨hourLength, hourDigits, rfl⟩ := oneOrTwoDigits?_eq_some_iff.mp readHour
  simp only at readTail
  split at readTail
  · rename_i s₂ colon
    obtain ⟨⟨minute, s₃⟩, readMinute, done⟩ := Option.bind_eq_some_iff.mp readTail
    obtain ⟨minuteLength, minuteDigits, behind⟩ := digits?_eq_some_iff.mp readMinute
    obtain ⟨rfl, rfl⟩ := Prod.mk.inj (Option.some.inj done)
    refine ⟨⟨hourLength.symm.imp And.left id, hourDigits, fun d hd => ?_, fun d hd => ?_,
      minuteLength, minuteDigits⟩, ?_⟩
    · exact List.all_eq_true.mp List.all_takeWhile d hd
    · exact List.all_eq_true.mp List.all_takeWhile d hd
    · have before := List.takeWhile_append_dropWhile (p := isBlank) (l := s₁)
      have after := List.takeWhile_append_dropWhile (p := isBlank) (l := s₂)
      rw [colon] at before
      rw [behind] at after
      simp only [raw, List.append_assoc, List.cons_append]
      rw [after, before]
  · cases readTail

/-! ### Stretches without a clock -/

/-- The start of a clock: an hour and the colon behind it. -/
def opening? : Reader Unit := fun s => do
  let (_, s) ← oneOrTwoDigits? s
  match s.dropWhile isBlank with
  | ':' :: s => some ((), s)
  | _ => none

theorem opening?_eq_none {s : List Char} (h : ∀ c ∈ s.head?, isDigit c = false) :
    opening? s = none := by
  rw [opening?, oneOrTwoDigits?_eq_none h]
  rfl

/-- An hour with something else than a colon behind it opens no clock. -/
theorem opening?_hour {s hour behind : List Char} (read : oneOrTwoDigits? s = some (hour, behind))
    (noColon : (behind.dropWhile isBlank).head? ≠ some ':') : opening? s = none := by
  simp only [opening?, read, Option.bind_eq_bind, Option.bind_some]
  split
  · rename_i rest colon
    rw [colon] at noColon
    exact absurd rfl noColon
  · rfl

/-- A clock opens with its hour and its colon. -/
theorem opening?_raw {c : PrintedClock} (h : c.IsClock) (rest : List Char) :
    opening? (c.raw ++ rest) = some ((), c.gapAfter ++ (c.minute ++ rest)) := by
  simp only [opening?, oneOrTwoDigits?_raw h, Option.bind_eq_bind, Option.bind_some,
    dropWhile_colon h]

theorem read?_eq_none {s : List Char} (h : opening? s = none) : read? s = none := by
  cases read : read? s with
  | none => rfl
  | some found =>
    obtain ⟨isClock, split⟩ := read?_eq_some (show _ = some (found.1, found.2) from read)
    rw [split, opening?_raw isClock] at h
    cases h

theorem silent_of_no_digit {s rest : List Char} (h : ∀ c ∈ s, isDigit c = false) :
    Silent opening? s rest :=
  silent_of_heads (p := isDigit) (fun c t hc => opening?_eq_none (by simpa using hc)) h

/-- No clock opens in a stretch without blanks and colons, provided that none opens at its end. -/
theorem silent_of_solid {s rest : List Char} (solid : ∀ c ∈ s, isBlank c = false ∧ c ≠ ':')
    (stop : ∀ c ∈ rest.head?, isDigit c = false)
    (noColon : (rest.dropWhile isBlank).head? ≠ some ':') : Silent opening? s rest := by
  intro t suffix nonempty
  cases read : oneOrTwoDigits? (t ++ rest) with
  | none => simp [opening?, read]
  | some found =>
    obtain ⟨hour, behind⟩ := found
    refine opening?_hour read ?_
    obtain ⟨length, digits, split⟩ := oneOrTwoDigits?_eq_some_iff.mp read
    -- The hour lies in the stretch: the text behind the stretch does not go on with a digit.
    obtain ⟨more, rfl, rfl⟩ : ∃ more, t = hour ++ more ∧ behind = more ++ rest := by
      rcases List.append_eq_append_iff.mp split with ⟨past, inHour, inRest⟩ | ⟨more, inStretch, rfl⟩
      · cases past with
        | nil => exact ⟨[], by simpa using inHour.symm, by simpa using inRest.symm⟩
        | cons d past =>
          have digit := digits d (by simp [inHour])
          rw [stop d (by simp [inRest])] at digit
          cases digit
      · exact ⟨more, inStretch, rfl⟩
    cases more with
    | nil => simpa using noColon
    | cons d more =>
      have own : d ∈ s := suffix.subset (by simp)
      simp [(solid d own).1, (solid d own).2]

/-- A reader that needs a clock to open sees nothing inside a clock, unless it does so from the
hour on. -/
theorem silent_raw {α : Type} {r : Reader α} {c : PrintedClock} {rest : List Char}
    (needs : ∀ t, opening? t = none → r t = none) (h : c.IsClock)
    (stop : ∀ d ∈ rest.head?, isDigit d = false)
    (noColon : (rest.dropWhile isBlank).head? ≠ some ':')
    (misses : ∀ hour, { c with hour }.IsClock → r ({ c with hour }.raw ++ rest) = none) :
    Silent r c.raw rest := by
  -- From the back: the minute and the gaps cannot open a clock, and a shortened hour opens
  -- one that the reader misses.
  have minuteSilent : Silent r c.minute rest := by
    refine (silent_of_solid (fun d hd => ?_) stop noColon).mono needs
    have digit := h.minuteDigits d hd
    exact ⟨isBlank_eq_false_of_isDigit digit, by rintro rfl; exact absurd digit (by decide)⟩
  have gapSilent : Silent r (c.gapBefore ++ ':' :: c.gapAfter) (c.minute ++ rest) := by
    refine (silent_of_no_digit fun d hd => ?_).mono needs
    rcases List.mem_append.mp hd with before | colonAfter
    · exact isDigit_eq_false_of_isBlank (h.beforeBlank d before)
    · rcases List.mem_cons.mp colonAfter with rfl | after
      · decide
      · exact isDigit_eq_false_of_isBlank (h.afterBlank d after)
  have hourSilent :
      Silent r c.hour ((c.gapBefore ++ ':' :: c.gapAfter) ++ c.minute ++ rest) := by
    intro hour suffix nonempty
    have clock : { c with hour }.IsClock :=
      { h with
        hour := by
          have := suffix.length_le
          have := List.length_pos_iff.mpr nonempty
          have := h.hour
          simp only
          omega
        hourDigits := fun d hd => h.hourDigits d (suffix.subset hd) }
    simpa [raw] using misses hour clock
  have whole := hourSilent.append (gapSilent.append minuteSilent)
  simpa [raw] using whole

end PrintedClock

end RouteAlerts
