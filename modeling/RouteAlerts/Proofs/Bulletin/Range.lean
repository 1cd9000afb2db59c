import RouteAlerts.Bulletin.Slots
import RouteAlerts.Proofs.Bulletin.Clock

/-!
Printed time ranges. A slot opens with a range and with nothing else. What was torn apart by line
breaks is put together before: joining a range takes blanks out of it, changes no clock, and does
not reach into the text behind it.
-/

namespace RouteAlerts.Bulletin

open Text

/-- Two clock times with a tilde between them and the blanks around it. -/
structure PrintedRange where
  start : PrintedClock
  gapBefore : List Char
  gapAfter : List Char
  finish : PrintedClock
  deriving DecidableEq, Repr

namespace PrintedRange

def raw (r : PrintedRange) : List Char :=
  r.start.raw ++ (r.gapBefore ++ '~' :: (r.gapAfter ++ r.finish.raw))

def clocks (r : PrintedRange) : PrintedClock × PrintedClock := (r.start, r.finish)

/-- Two clocks and blanks around the tilde. -/
structure IsRange (r : PrintedRange) : Prop where
  start : r.start.IsClock
  beforeBlank : ∀ c ∈ r.gapBefore, isBlank c = true
  afterBlank : ∀ c ∈ r.gapAfter, isBlank c = true
  finish : r.finish.IsClock

instance (r : PrintedRange) : Decidable r.IsRange :=
  decidable_of_iff
    (r.start.IsClock ∧ isAllBlank r.gapBefore = true ∧ isAllBlank r.gapAfter = true ∧
      r.finish.IsClock) <| by
    simp only [List.all_eq_true, isAllBlank]
    exact ⟨fun ⟨start, before, after, finish⟩ => ⟨start, before, after, finish⟩,
      fun h => ⟨h.start, h.beforeBlank, h.afterBlank, h.finish⟩⟩

theorem raw_ne_nil (r : PrintedRange) : r.raw ≠ [] := by
  simp [raw]

end PrintedRange

/-- A range opens a slot. -/
theorem slot?_raw {r : PrintedRange} (h : r.IsRange) (rest : List Char) :
    slot? (r.raw ++ rest) = some (r.clocks, rest) := by
  have before : ∀ t, (r.gapBefore ++ '~' :: t).dropWhile isBlank = '~' :: t :=
    fun t => dropWhile_append_stop h.beforeBlank (by simp; decide)
  have after := dropWhile_append_stop h.afterBlank (PrintedClock.raw_stop h.finish rest)
  simp only [slot?, PrintedRange.raw, List.append_assoc, List.cons_append, Option.bind_eq_bind,
    PrintedClock.read?_raw h.start, PrintedClock.read?_raw h.finish, Option.bind_some, before,
    after]
  rfl

/-- Only a range opens a slot. -/
theorem slot?_eq_some {s rest : List Char} {clocks : PrintedClock × PrintedClock}
    (h : slot? s = some (clocks, rest)) :
    ∃ r : PrintedRange, r.IsRange ∧ r.clocks = clocks ∧ s = r.raw ++ rest := by
  simp only [slot?, Option.bind_eq_bind] at h
  obtain ⟨⟨start, s₁⟩, readStart, tail⟩ := Option.bind_eq_some_iff.mp h
  obtain ⟨isStart, rfl⟩ := PrintedClock.read?_eq_some readStart
  simp only at tail
  split at tail
  · rename_i s₂ tilde
    obtain ⟨⟨finish, s₃⟩, readFinish, done⟩ := Option.bind_eq_some_iff.mp tail
    obtain ⟨isFinish, behind⟩ := PrintedClock.read?_eq_some readFinish
    obtain ⟨rfl, rfl⟩ := Prod.mk.inj (Option.some.inj done)
    have before := List.takeWhile_append_dropWhile (p := isBlank) (l := s₁)
    have after := List.takeWhile_append_dropWhile (p := isBlank) (l := s₂)
    rw [tilde] at before
    rw [behind] at after
    refine ⟨⟨start, s₁.takeWhile isBlank, s₂.takeWhile isBlank, finish⟩,
      ⟨isStart, fun c hc => List.all_eq_true.mp List.all_takeWhile c hc,
        fun c hc => List.all_eq_true.mp List.all_takeWhile c hc, isFinish⟩, rfl, ?_⟩
    simp only [PrintedRange.raw, List.append_assoc, List.cons_append]
    rw [after, before]
  · cases tail

theorem slot?_eq_some_iff {s rest : List Char} {clocks : PrintedClock × PrintedClock} :
    slot? s = some (clocks, rest) ↔
      ∃ r : PrintedRange, r.IsRange ∧ r.clocks = clocks ∧ s = r.raw ++ rest := by
  refine ⟨slot?_eq_some, ?_⟩
  rintro ⟨r, isRange, rfl, rfl⟩
  exact slot?_raw isRange rest

theorem takes_slot? : Takes slot? := by
  intro s clocks rest h
  obtain ⟨r, -, -, split⟩ := slot?_eq_some h
  exact ⟨r.raw, r.raw_ne_nil, split⟩

theorem slot?_eq_none {s : List Char} (h : PrintedClock.opening? s = none) : slot? s = none := by
  rw [slot?, PrintedClock.read?_eq_none h]
  rfl

/-! ### Hours torn from their minutes -/

/-- The text with torn hours put together. -/
def mendHours (s : List Char) : List Char :=
  substitute tornHour? (fun (hour, minute) => hour ++ ':' :: minute) s

theorem afterLineBreak?_append {gap rest : List Char} (blank : ∀ c ∈ gap, isBlank c = true)
    (stop : ∀ c ∈ rest.head?, isBlank c = false) :
    afterLineBreak? (gap ++ rest) = if '\n' ∈ gap then some rest else none := by
  simp [afterLineBreak?, takeWhile_append_stop blank stop, dropWhile_append_stop blank stop]

/-- A line break may be needed, but what stands behind it is what stands behind the blanks. -/
theorem afterLineBreak?_eq_some {s rest : List Char} (h : afterLineBreak? s = some rest) :
    s.dropWhile isBlank = rest := by
  unfold afterLineBreak? at h
  split at h
  · exact Option.some.inj h
  · cases h

theorem tornHour?_eq_none {s : List Char} (h : PrintedClock.opening? s = none) :
    tornHour? s = none := by
  cases read : oneOrTwoDigits? s with
  | none => simp [tornHour?, read]
  | some found =>
    simp only [PrintedClock.opening?, tornHour?, read, Option.bind_eq_bind, Option.bind_some] at h ⊢
    cases behind : afterLineBreak? found.2 with
    | none => rfl
    | some rest =>
      rw [afterLineBreak?_eq_some behind] at h
      split at h
      · cases h
      · simp only [Option.bind_some]

theorem tornHour?_raw {c : PrintedClock} (h : c.IsClock) (rest : List Char) :
    tornHour? (c.raw ++ rest) =
      if '\n' ∈ c.gapBefore then some ((c.hour, c.minute), rest) else none := by
  have colon : ∀ t, afterLineBreak? (c.gapBefore ++ ':' :: t) =
      if '\n' ∈ c.gapBefore then some (':' :: t) else none :=
    fun t => afterLineBreak?_append h.beforeBlank (by simp; decide)
  simp only [tornHour?, PrintedClock.oneOrTwoDigits?_raw h, Option.bind_eq_bind, Option.bind_some,
    colon]
  by_cases torn : '\n' ∈ c.gapBefore
  · simp only [torn, if_true, Option.bind_some,
      dropWhile_append_stop h.afterBlank (PrintedClock.minute_stop h rest),
      PrintedClock.digits?_minute h]
  · simp only [torn, if_false, Option.bind_none]

/-- A torn hour with its minutes is a clock. -/
theorem tornHour?_eq_some {s hour minute rest : List Char}
    (h : tornHour? s = some ((hour, minute), rest)) :
    ∃ c : PrintedClock, c.IsClock ∧ c.hour = hour ∧ c.minute = minute ∧ s = c.raw ++ rest := by
  simp only [tornHour?, Option.bind_eq_bind] at h
  obtain ⟨⟨run, s₁⟩, readHour, tail⟩ := Option.bind_eq_some_iff.mp h
  obtain ⟨s₂, torn, tail⟩ := Option.bind_eq_some_iff.mp tail
  simp only at tail
  split at tail
  · rename_i s₃
    obtain ⟨⟨run', s₄⟩, readMinute, done⟩ := Option.bind_eq_some_iff.mp tail
    obtain ⟨same, rfl⟩ := Prod.mk.inj (Option.some.inj done)
    obtain ⟨rfl, rfl⟩ := Prod.mk.inj same
    have colon := afterLineBreak?_eq_some torn
    have read : PrintedClock.read? s =
        some (⟨run, s₁.takeWhile isBlank, s₃.takeWhile isBlank, run'⟩, s₄) := by
      simp only [PrintedClock.read?, readHour, colon, readMinute, Option.bind_eq_bind,
        Option.bind_some]
    obtain ⟨isClock, split⟩ := PrintedClock.read?_eq_some read
    exact ⟨_, isClock, rfl, rfl, split⟩
  · cases tail

theorem mendHours_silent {s rest : List Char} (h : Silent PrintedClock.opening? s rest) :
    mendHours (s ++ rest) = s ++ mendHours rest :=
  substitute_silent (h.mono fun _ => tornHour?_eq_none)

/-- A clock whose hour was torn from its minutes loses the blanks around its colon. -/
def mendClock (c : PrintedClock) : PrintedClock :=
  if '\n' ∈ c.gapBefore then { c with gapBefore := [], gapAfter := [] } else c

theorem isClock_mendClock {c : PrintedClock} (h : c.IsClock) : (mendClock c).IsClock := by
  unfold mendClock
  split
  · exact { h with beforeBlank := by simp, afterBlank := by simp }
  · exact h

@[simp] theorem tight_mendClock (c : PrintedClock) : (mendClock c).tight = c.tight := by
  unfold mendClock
  split <;> rfl

theorem mendHours_clock {c : PrintedClock} {rest : List Char} (h : c.IsClock)
    (stop : ∀ d ∈ rest.head?, isDigit d = false)
    (noColon : (rest.dropWhile isBlank).head? ≠ some ':') :
    mendHours (c.raw ++ rest) = (mendClock c).raw ++ mendHours rest := by
  by_cases torn : '\n' ∈ c.gapBefore
  · have read := tornHour?_raw h rest
    rw [if_pos torn] at read
    have nonempty : c.raw ≠ [] := by simp [PrintedClock.raw]
    rw [mendHours, substitute_match nonempty read, mendClock, if_pos torn]
    simp [PrintedClock.raw, mendHours]
  · rw [mendClock, if_neg torn]
    refine substitute_silent
      (PrintedClock.silent_raw (fun _ => tornHour?_eq_none) h stop noColon ?_)
    intro hour clock
    rw [tornHour?_raw clock rest, if_neg torn]

/-! ### Ranges torn apart -/

/-- The text with torn ranges put together. -/
def mendRanges (s : List Char) : List Char :=
  substitute tornRange? (fun (start, finish) => start.raw ++ '~' :: finish.raw) s

theorem tornRange?_eq_none {s : List Char} (h : PrintedClock.opening? s = none) :
    tornRange? s = none := by
  rw [tornRange?, PrintedClock.read?_eq_none h]
  rfl

theorem mendRanges_silent {s rest : List Char} (h : Silent PrintedClock.opening? s rest) :
    mendRanges (s ++ rest) = s ++ mendRanges rest :=
  substitute_silent (h.mono fun _ => tornRange?_eq_none)

theorem tornRange?_raw {r : PrintedRange} (h : r.IsRange) (rest : List Char) :
    tornRange? (r.raw ++ rest) =
      if '\n' ∈ r.gapBefore ∧ '\n' ∈ r.gapAfter then some (r.clocks, rest) else none := by
  have tilde : ∀ t, afterLineBreak? (r.gapBefore ++ '~' :: t) =
      if '\n' ∈ r.gapBefore then some ('~' :: t) else none :=
    fun t => afterLineBreak?_append h.beforeBlank (by simp; decide)
  have finish := afterLineBreak?_append h.afterBlank (PrintedClock.raw_stop h.finish rest)
  simp only [tornRange?, PrintedRange.raw, List.append_assoc, List.cons_append,
    PrintedClock.read?_raw h.start, Option.bind_eq_bind, Option.bind_some, tilde]
  by_cases before : '\n' ∈ r.gapBefore
  · by_cases after : '\n' ∈ r.gapAfter
    · simp [before, after, finish, PrintedClock.read?_raw h.finish, PrintedRange.clocks]
    · simp [before, after, finish]
  · simp [before]

/-- A torn range is a range. -/
theorem slot?_of_tornRange? {s rest : List Char} {clocks : PrintedClock × PrintedClock}
    (h : tornRange? s = some (clocks, rest)) : slot? s = some (clocks, rest) := by
  simp only [tornRange?, Option.bind_eq_bind] at h
  obtain ⟨⟨start, s₁⟩, readStart, tail⟩ := Option.bind_eq_some_iff.mp h
  obtain ⟨s₂, torn, tail⟩ := Option.bind_eq_some_iff.mp tail
  simp only at tail
  split at tail
  · rename_i s₃
    obtain ⟨s₄, torn', tail⟩ := Option.bind_eq_some_iff.mp tail
    simp only [slot?, readStart, Option.bind_eq_bind, Option.bind_some,
      afterLineBreak?_eq_some torn, afterLineBreak?_eq_some torn']
    exact tail
  · cases tail

/-- A clock alone is no range. -/
theorem tornRange?_clock {c : PrintedClock} {rest : List Char} (h : c.IsClock)
    (noTilde : (rest.dropWhile isBlank).head? ≠ some '~') : tornRange? (c.raw ++ rest) = none := by
  simp only [tornRange?, PrintedClock.read?_raw h, Option.bind_eq_bind, Option.bind_some]
  cases behind : afterLineBreak? rest with
  | none => rfl
  | some more =>
    rw [afterLineBreak?_eq_some behind] at noTilde
    cases more with
    | nil => rfl
    | cons d more =>
      have other : d ≠ '~' := by
        rintro rfl
        exact noTilde rfl
      simp [other]

/-- What may stand behind a range without becoming part of it. -/
structure Closes (rest : List Char) : Prop where
  noDigit : ∀ c ∈ rest.head?, isDigit c = false
  noColon : (rest.dropWhile isBlank).head? ≠ some ':'
  noTilde : (rest.dropWhile isBlank).head? ≠ some '~'

namespace PrintedRange

variable {r : PrintedRange} {rest : List Char}

/-- The blanks around the tilde and the tilde open no clock, and no clock goes on there. -/
theorem silent_gap (h : r.IsRange) (rest : List Char) :
    Silent PrintedClock.opening? (r.gapBefore ++ '~' :: r.gapAfter) rest := by
  refine PrintedClock.silent_of_no_digit fun c hc => ?_
  rcases List.mem_append.mp hc with before | tildeAfter
  · exact isDigit_eq_false_of_isBlank (h.beforeBlank c before)
  · rcases List.mem_cons.mp tildeAfter with rfl | after
    · decide
    · exact isDigit_eq_false_of_isBlank (h.afterBlank c after)

theorem noDigit_gap (h : r.IsRange) (rest : List Char) :
    ∀ c ∈ (r.gapBefore ++ '~' :: rest).head?, isDigit c = false := by
  intro c head
  cases gap : r.gapBefore with
  | nil =>
    obtain rfl : '~' = c := by simpa [gap] using head
    decide
  | cons d gapBefore =>
    obtain rfl : d = c := by simpa [gap] using head
    exact isDigit_eq_false_of_isBlank (h.beforeBlank d (by simp [gap]))

theorem noColon_gap (h : r.IsRange) (rest : List Char) :
    ((r.gapBefore ++ '~' :: rest).dropWhile isBlank).head? ≠ some ':' := by
  rw [dropWhile_append_stop h.beforeBlank (by simp; decide)]
  simp

/-- The range with torn hours put together. -/
def withHours (r : PrintedRange) : PrintedRange :=
  { r with start := mendClock r.start, finish := mendClock r.finish }

/-- The range without the blanks around its tilde, if it was torn apart there. -/
def withTilde (r : PrintedRange) : PrintedRange :=
  if '\n' ∈ r.gapBefore ∧ '\n' ∈ r.gapAfter then { r with gapBefore := [], gapAfter := [] } else r

/-- The range as it stands in the text that is cut into slots. -/
def joined (r : PrintedRange) : PrintedRange := r.withHours.withTilde

theorem isRange_withHours (h : r.IsRange) : r.withHours.IsRange :=
  { h with start := isClock_mendClock h.start, finish := isClock_mendClock h.finish }

theorem isRange_withTilde (h : r.IsRange) : r.withTilde.IsRange := by
  unfold withTilde
  split
  · exact { h with beforeBlank := by simp, afterBlank := by simp }
  · exact h

theorem isRange_joined (h : r.IsRange) : r.joined.IsRange :=
  isRange_withTilde (isRange_withHours h)

theorem clocks_joined (r : PrintedRange) :
    r.joined.clocks = (mendClock r.start, mendClock r.finish) := by
  rw [joined, withTilde]
  split <;> rfl

theorem mendHours_raw (h : r.IsRange) (closes : Closes rest) :
    mendHours (r.raw ++ rest) = r.withHours.raw ++ mendHours rest := by
  have finish := mendHours_clock h.finish closes.noDigit closes.noColon
  have gap := mendHours_silent (silent_gap h (r.finish.raw ++ rest))
  have start := mendHours_clock h.start (noDigit_gap h (r.gapAfter ++ (r.finish.raw ++ rest)))
    (noColon_gap h _)
  rw [List.append_assoc, List.cons_append, finish] at gap
  simp only [raw, List.append_assoc, List.cons_append]
  rw [start, gap]
  simp [withHours]

theorem mendRanges_raw (h : r.IsRange) (closes : Closes rest) :
    mendRanges (r.raw ++ rest) = r.withTilde.raw ++ mendRanges rest := by
  have read := tornRange?_raw h rest
  unfold withTilde
  by_cases torn : '\n' ∈ r.gapBefore ∧ '\n' ∈ r.gapAfter
  · rw [if_pos torn] at read ⊢
    rw [mendRanges, substitute_match r.raw_ne_nil read]
    simp [raw, clocks, mendRanges]
  · rw [if_neg torn]
    refine substitute_silent ?_
    have needs : ∀ t, PrintedClock.opening? t = none → tornRange? t = none :=
      fun _ => tornRange?_eq_none
    have finish : Silent tornRange? r.finish.raw rest :=
      PrintedClock.silent_raw needs h.finish closes.noDigit closes.noColon
        fun hour clock => tornRange?_clock clock closes.noTilde
    have gap : Silent tornRange? (r.gapBefore ++ '~' :: r.gapAfter) (r.finish.raw ++ rest) :=
      (silent_gap h _).mono needs
    have start : Silent tornRange? r.start.raw
        ((r.gapBefore ++ '~' :: r.gapAfter) ++ r.finish.raw ++ rest) := by
      simp only [List.append_assoc, List.cons_append]
      refine PrintedClock.silent_raw needs h.start (noDigit_gap h _) (noColon_gap h _) ?_
      intro hour clock
      -- An hour with its first digit left out makes a range of its own.
      have shorter := tornRange?_raw (r := { r with start := { r.start with hour } })
        { h with start := clock } rest
      rw [if_neg torn] at shorter
      simpa [raw] using shorter
    simpa [raw] using start.append (gap.append finish)

/-- Joining takes blanks out of a range and goes on behind it. -/
theorem joinTimes_raw (h : r.IsRange) (closes : Closes rest) (mended : Closes (mendHours rest)) :
    joinTimes (r.raw ++ rest) = r.joined.raw ++ joinTimes rest := by
  have hours := congrArg mendRanges (mendHours_raw h closes)
  rw [mendRanges_raw (isRange_withHours h) mended] at hours
  exact hours

end PrintedRange

/-! ### Slots in a row -/

theorem joinTimes_silent {s rest : List Char} (h : ∀ rest, Silent PrintedClock.opening? s rest) :
    joinTimes (s ++ rest) = s ++ joinTimes rest := by
  have hours := congrArg mendRanges (mendHours_silent (h rest))
  rw [mendRanges_silent (h _)] at hours
  exact hours

/-- A text that may stand behind a range, whatever follows: no clock opens in it, and it starts with
something that does not go on with the range. -/
structure Quiet (tail : List Char) : Prop where
  silent : ∀ rest, Silent PrintedClock.opening? tail rest
  closes : ∀ rest, Closes (tail ++ rest)

/-- Ranges with quiet texts behind them, put together, are ranges with the same texts. -/
theorem joinTimes_slots (slots : List (PrintedRange × List Char))
    (ranges : ∀ s ∈ slots, s.1.IsRange) (quiet : ∀ s ∈ slots, Quiet s.2) :
    joinTimes (slots.flatMap fun s => s.1.raw ++ s.2) =
      slots.flatMap fun s => s.1.joined.raw ++ s.2 := by
  induction slots with
  | nil => simp [joinTimes, substitute, cut]
  | cons slot slots ih =>
    have tail := quiet slot List.mem_cons_self
    have rest := ih (fun s hs => ranges s (List.mem_cons_of_mem _ hs))
      (fun s hs => quiet s (List.mem_cons_of_mem _ hs))
    simp only [List.flatMap_cons, List.append_assoc]
    rw [PrintedRange.joinTimes_raw (ranges slot List.mem_cons_self) (tail.closes _) ?_,
      joinTimes_silent tail.silent, rest]
    rw [mendHours_silent (tail.silent _)]
    exact tail.closes _

/-- Every range opens a slot, and what stands behind it is the text of the slot. -/
theorem cut_slots {preamble : List Char} (slots : List (PrintedRange × List Char))
    (plain : ∀ rest, Silent PrintedClock.opening? preamble rest)
    (ranges : ∀ s ∈ slots, s.1.IsRange) (quiet : ∀ s ∈ slots, Quiet s.2) :
    cut slot? (preamble ++ slots.flatMap fun s => s.1.raw ++ s.2) =
      (preamble, slots.map fun s => (s.1.clocks, s.2)) := by
  induction slots generalizing preamble with
  | nil =>
    have whole := cut_silent ((plain []).mono fun _ => slot?_eq_none)
    simpa [cut] using whole
  | cons slot slots ih =>
    have rest := ih (quiet slot List.mem_cons_self).silent
      (fun s hs => ranges s (List.mem_cons_of_mem _ hs))
      (fun s hs => quiet s (List.mem_cons_of_mem _ hs))
    have read := slot?_raw (ranges slot List.mem_cons_self)
      (slot.2 ++ slots.flatMap fun s => s.1.raw ++ s.2)
    simp only [List.flatMap_cons, List.append_assoc, List.map_cons]
    rw [cut_silent ((plain _).mono fun _ => slot?_eq_none), cut_match slot.1.raw_ne_nil read, rest]
    simp

end RouteAlerts.Bulletin
