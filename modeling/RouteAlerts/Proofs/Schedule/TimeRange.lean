import RouteAlerts.Proofs.Bulletin.Range
import RouteAlerts.Proofs.Text.Packed
import RouteAlerts.Proofs.Text.Substitute
import RouteAlerts.Schedule.TimeRange

/-!
Time ranges of a bulletin and of a table. A bulletin puts torn times together and looks for a range
with any blanks in it; a table squeezes the text of a cell first and knows more signs. Blanks beside
a colon or a tilde matter to neither, so both read texts with one packed form alike
(`slot?_alike`). Joining times does not change the packed form (`pack_joinTimes`) and squeezing only
the blanks at its front, and so a text without the signs that only a table knows says the same in
both (`read?_like_slots`).
-/

namespace RouteAlerts.Schedule

open Text Bulletin

/-- The signs beside which blanks do not matter to a time range. -/
def isTimeSign (c : Char) : Bool := c == ':' || c == '~'

theorem plain_of_isDigit {c : Char} (h : isDigit c = true) :
    isBlank c = false ∧ isTimeSign c = false := by
  refine ⟨isBlank_eq_false_of_isDigit h, Bool.eq_false_iff.mpr fun sign => ?_⟩
  rcases Bool.or_eq_true_iff.mp sign with colon | tilde
  · rw [beq_iff_eq.mp colon] at h
    exact absurd h (by decide)
  · rw [beq_iff_eq.mp tilde] at h
    exact absurd h (by decide)

/-! ### Packed times -/

/-- A clock is packed without its blanks. -/
theorem pack_raw {c : PrintedClock} (h : c.IsClock) (s : List Char) :
    pack isTimeSign (c.raw ++ s) = c.tight ++ pack isTimeSign s := by
  have behind : trimStart (c.gapAfter ++ (c.minute ++ s)) = c.minute ++ s :=
    dropWhile_append_stop h.afterBlank (PrintedClock.minute_stop h s)
  calc pack isTimeSign (c.raw ++ s)
      = pack isTimeSign (c.hour ++ (c.gapBefore ++ ':' :: (c.gapAfter ++ (c.minute ++ s)))) := by
        simp [PrintedClock.raw]
    _ = c.hour ++ ':' :: pack isTimeSign (c.minute ++ s) := by
        rw [pack_plain_append fun d hd => plain_of_isDigit (h.hourDigits d hd),
          pack_blank_append_sign h.beforeBlank (by decide) (by decide), behind]
    _ = c.tight ++ pack isTimeSign s := by
        rw [pack_plain_append fun d hd => plain_of_isDigit (h.minuteDigits d hd)]
        simp [PrintedClock.tight]

/-- Where a packed text has a clock, a clock stands. -/
theorem exists_clock_of_pack {c : PrintedClock} (h : c.IsClock) {t rest : List Char}
    (packed : pack isTimeSign t = c.tight ++ rest) :
    ∃ (d : PrintedClock) (t' : List Char), d.IsClock ∧ d.tight = c.tight ∧ t = d.raw ++ t' ∧
      pack isTimeSign t' = rest := by
  have hour : pack isTimeSign t = c.hour ++ ':' :: (c.minute ++ rest) := by
    simpa [PrintedClock.tight] using packed
  obtain ⟨t₁, rfl, colon⟩ :=
    exists_of_pack_eq_append (fun d hd => plain_of_isDigit (h.hourDigits d hd)) hour
  obtain ⟨before, t₂, beforeBlank, rfl, minute⟩ :=
    exists_of_pack_eq_sign (by decide) (by decide) colon
  obtain ⟨t₃, split, behind⟩ :=
    exists_of_pack_eq_append (fun d hd => plain_of_isDigit (h.minuteDigits d hd)) minute
  obtain ⟨after, afterBlank, whole⟩ := exists_trimStart t₂
  refine ⟨⟨c.hour, before, after, c.minute⟩, t₃,
    { h with beforeBlank := beforeBlank, afterBlank := afterBlank }, rfl, ?_, behind⟩
  rw [whole, split]
  simp [PrintedClock.raw]

theorem pack_range {r : PrintedRange} (h : r.IsRange) (s : List Char) :
    pack isTimeSign (r.raw ++ s) =
      r.start.tight ++ '~' :: (r.finish.tight ++ pack isTimeSign s) := by
  have behind : trimStart (r.gapAfter ++ (r.finish.raw ++ s)) = r.finish.raw ++ s :=
    dropWhile_append_stop h.afterBlank (PrintedClock.raw_stop h.finish s)
  calc pack isTimeSign (r.raw ++ s)
      = pack isTimeSign
          (r.start.raw ++ (r.gapBefore ++ '~' :: (r.gapAfter ++ (r.finish.raw ++ s)))) := by
        simp [PrintedRange.raw]
    _ = r.start.tight ++ '~' :: pack isTimeSign (r.finish.raw ++ s) := by
        rw [pack_raw h.start,
          pack_blank_append_sign h.beforeBlank (by decide) (by decide), behind]
    _ = r.start.tight ++ '~' :: (r.finish.tight ++ pack isTimeSign s) := by rw [pack_raw h.finish]

theorem exists_range_of_pack {r : PrintedRange} (h : r.IsRange) {t rest : List Char}
    (packed : pack isTimeSign t = r.start.tight ++ '~' :: (r.finish.tight ++ rest)) :
    ∃ (q : PrintedRange) (t' : List Char), q.IsRange ∧ q.start.tight = r.start.tight ∧
      q.finish.tight = r.finish.tight ∧ t = q.raw ++ t' := by
  obtain ⟨start, t₁, isStart, startEq, rfl, tilde⟩ := exists_clock_of_pack h.start packed
  obtain ⟨before, t₂, beforeBlank, rfl, behind⟩ :=
    exists_of_pack_eq_sign (by decide) (by decide) tilde
  obtain ⟨finish, t₃, isFinish, finishEq, split, -⟩ := exists_clock_of_pack h.finish behind
  obtain ⟨after, afterBlank, whole⟩ := exists_trimStart t₂
  refine ⟨⟨start, before, after, finish⟩, t₃, ⟨isStart, beforeBlank, afterBlank, isFinish⟩,
    startEq, finishEq, ?_⟩
  rw [whole, split]
  simp [PrintedRange.raw]

/-! ### Ranges of texts that are packed alike -/

/-- What two clocks say when their blanks are left out. -/
def TimeRange.ofClocks (clocks : PrintedClock × PrintedClock) : TimeRange :=
  ⟨strip clocks.1.raw, strip clocks.2.raw⟩

theorem TimeRange.ofClocks_eq {r : PrintedRange} (h : r.IsRange) :
    TimeRange.ofClocks r.clocks = ⟨r.start.tight, r.finish.tight⟩ := by
  rw [TimeRange.ofClocks, PrintedRange.clocks, PrintedClock.strip_raw h.start,
    PrintedClock.strip_raw h.finish]

/-- The blanks of a range do not matter. -/
theorem slot?_alike {s t rest : List Char} {clocks : PrintedClock × PrintedClock}
    (same : pack isTimeSign s = pack isTimeSign t) (read : slot? s = some (clocks, rest)) :
    ∃ others behind, slot? t = some (others, behind) ∧
      TimeRange.ofClocks others = TimeRange.ofClocks clocks := by
  obtain ⟨r, isRange, rfl, rfl⟩ := slot?_eq_some read
  rw [pack_range isRange] at same
  obtain ⟨q, t', isRange', start, finish, rfl⟩ := exists_range_of_pack isRange same.symm
  refine ⟨q.clocks, t', slot?_raw isRange' t', ?_⟩
  rw [TimeRange.ofClocks_eq isRange', TimeRange.ofClocks_eq isRange, start, finish]

theorem slot?_cons_eq_none {c : Char} (h : isBlank c = true ∨ isTimeSign c = true)
    (s : List Char) : slot? (c :: s) = none := by
  refine slot?_eq_none (PrintedClock.opening?_eq_none fun d head => ?_)
  obtain rfl : c = d := by simpa using head
  rcases h with blank | sign
  · exact isDigit_eq_false_of_isBlank blank
  · refine Bool.eq_false_iff.mpr fun digit => ?_
    rw [(plain_of_isDigit digit).2] at sign
    cases sign

/-- The first range is the same in texts with one packed form. -/
theorem firstRange_alike {s t : List Char}
    (h : pack isTimeSign (trimStart s) = pack isTimeSign (trimStart t)) :
    firstKey slot? TimeRange.ofClocks s = firstKey slot? TimeRange.ofClocks t :=
  firstKey_congr_of_pack (fun _ s h => slot?_cons_eq_none h s)
    (fun _ _ _ _ same read => slot?_alike same read) h

/-! ### Joined times -/

theorem takes_tornHour? : Takes tornHour? := by
  intro s ⟨hour, minute⟩ rest h
  obtain ⟨c, -, -, -, split⟩ := tornHour?_eq_some h
  exact ⟨c.raw, by simp [PrintedClock.raw], split⟩

theorem takes_tornRange? : Takes tornRange? :=
  fun s clocks rest h => takes_slot? s clocks rest (slot?_of_tornRange? h)

/-- Putting torn hours together takes out blanks beside colons only. -/
theorem pack_mendHours (s : List Char) : pack isTimeSign (mendHours s) = pack isTimeSign s := by
  refine substitute_cons_induction takes_tornHour?
    (P := fun s t => pack isTimeSign t = pack isTimeSign s) rfl ?_ ?_ s
  · rintro printed rest ⟨hour, minute⟩ _ read ih
    obtain ⟨c, isClock, rfl, rfl, split⟩ := tornHour?_eq_some read
    obtain rfl := List.append_cancel_right split
    have tight : PrintedClock.IsClock { c with gapBefore := [], gapAfter := [] } :=
      { isClock with beforeBlank := by simp, afterBlank := by simp }
    have mended := pack_raw tight rest
    rw [show PrintedClock.raw { c with gapBefore := [], gapAfter := [] } =
      c.hour ++ ':' :: c.minute by simp [PrintedClock.raw]] at mended
    exact (pack_append_congr ih _).trans (mended.trans (pack_raw isClock rest).symm)
  · intro c s _ ih
    exact pack_append_congr ih [c]

/-- Putting torn ranges together takes out blanks beside tildes only. -/
theorem pack_mendRanges (s : List Char) : pack isTimeSign (mendRanges s) = pack isTimeSign s := by
  refine substitute_cons_induction takes_tornRange?
    (P := fun s t => pack isTimeSign t = pack isTimeSign s) rfl ?_ ?_ s
  · intro printed rest clocks _ read ih
    obtain ⟨r, isRange, rfl, split⟩ := slot?_eq_some (slot?_of_tornRange? read)
    obtain rfl := List.append_cancel_right split
    have tight : PrintedRange.IsRange { r with gapBefore := [], gapAfter := [] } :=
      { isRange with beforeBlank := by simp, afterBlank := by simp }
    have mended := pack_range tight rest
    simp only [PrintedRange.raw, List.nil_append] at mended
    exact (pack_append_congr ih _).trans (mended.trans (pack_range isRange rest).symm)
  · intro c s _ ih
    exact pack_append_congr ih [c]

theorem pack_joinTimes (s : List Char) : pack isTimeSign (joinTimes s) = pack isTimeSign s :=
  (pack_mendRanges (mendHours s)).trans (pack_mendHours s)

/-! ### Ranges of a table -/

/-- The signs for a range that only a table knows. -/
def tableSigns : List Char := ['-', '–', '—', '∼', '〜']

/-- A range whose end is not a time but a mark. -/
def TimeRange.IsOpen (r : TimeRange) : Prop :=
  r.finish = untilDismissal.toList ∨ r.finish = undetermined.toList

instance (r : TimeRange) : Decidable r.IsOpen := by
  unfold TimeRange.IsOpen
  infer_instance

theorem usualSign_eq_self {c : Char} (h : c ∉ tableSigns) : TimeRange.usualSign c = c := by
  simp only [tableSigns, List.mem_cons, List.not_mem_nil, or_false, not_or] at h
  simp [TimeRange.usualSign, h]

/-- Without a hyphen two clocks have a tilde between them in a table too. -/
theorem clocks?_eq_slot? {s : List Char} (h : '-' ∉ s) : TimeRange.clocks? s = slot? s := by
  cases read : PrintedClock.read? s with
  | none => simp [TimeRange.clocks?, slot?, read]
  | some found =>
    obtain ⟨start, rest⟩ := found
    have inText := (PrintedClock.read?_eq_some read).2
    simp only [TimeRange.clocks?, slot?, read, Option.bind_eq_bind, Option.bind_some, trimStart]
    cases sign : rest.dropWhile isBlank with
    | nil => rfl
    | cons c t =>
      have other : c ≠ '-' := by
        rintro rfl
        have inRest : '-' ∈ rest := (List.dropWhile_suffix isBlank).subset (by simp [sign])
        exact h (by simp [inText, inRest])
      by_cases tilde : c = '~'
      · subst tilde
        rfl
      · simp [tilde, other]

/-- Two clocks with a sign between them are clocks. -/
theorem clocks?_eq_some {s rest : List Char} {start finish : PrintedClock}
    (h : TimeRange.clocks? s = some ((start, finish), rest)) : start.IsClock ∧ finish.IsClock := by
  simp only [TimeRange.clocks?, Option.bind_eq_bind] at h
  obtain ⟨⟨first, s₁⟩, readStart, tail⟩ := Option.bind_eq_some_iff.mp h
  simp only at tail
  split at tail
  · split at tail
    · obtain ⟨⟨second, s₂⟩, readFinish, done⟩ := Option.bind_eq_some_iff.mp tail
      obtain ⟨same, -⟩ := Prod.mk.inj (Option.some.inj done)
      obtain ⟨rfl, rfl⟩ := Prod.mk.inj same
      exact ⟨(PrintedClock.read?_eq_some readStart).1, (PrintedClock.read?_eq_some readFinish).1⟩
    · cases tail
  · cases tail

/-- In the text of a cell without table signs the first two clocks with a sign between them are the
first range of a bulletin with that text. -/
theorem firstClocks_eq {text : List Char} (usual : ∀ c ∈ text, c ∉ tableSigns) :
    firstKey TimeRange.clocks? TimeRange.ofClocks ((squeeze text).map TimeRange.usualSign) =
      ((matchesOf slot? (joinTimes text)).head?).map TimeRange.ofClocks := by
  have clear : ∀ c ∈ squeeze text, c ∉ tableSigns := by
    intro c hc
    rcases mem_squeeze hc with rfl | ⟨inText, -⟩
    · decide
    · exact usual c inText
  have same : (squeeze text).map TimeRange.usualSign = squeeze text := by
    rw [List.map_congr_left fun c hc => usualSign_eq_self (clear c hc), List.map_id']
  -- Squeezed or joined, the texts are one once no blanks stand around the signs of times.
  have packed : pack isTimeSign (trimStart (squeeze text)) =
      pack isTimeSign (trimStart (joinTimes text)) := by
    calc pack isTimeSign (trimStart (squeeze text))
        = trimStart (pack isTimeSign (trimStart text)) := by rw [← trimStart_pack, pack_squeeze]
      _ = trimStart (pack isTimeSign text) := by rw [← trimStart_pack, trimStart_trimStart]
      _ = trimStart (pack isTimeSign (joinTimes text)) := by rw [pack_joinTimes]
      _ = pack isTimeSign (trimStart (joinTimes text)) := trimStart_pack _
  calc firstKey TimeRange.clocks? TimeRange.ofClocks ((squeeze text).map TimeRange.usualSign)
      = firstKey slot? TimeRange.ofClocks (squeeze text) := by
        rw [same, firstKey, firstMatch_congr fun t suffix => clocks?_eq_slot? fun hyphen =>
          clear '-' (suffix.subset hyphen) (by decide)]
        rfl
    _ = firstKey slot? TimeRange.ofClocks (joinTimes text) := firstRange_alike packed
    _ = ((matchesOf slot? (joinTimes text)).head?).map TimeRange.ofClocks := by
        rw [head?_matchesOf takes_slot?, Option.map_map]
        rfl

/-- Two clocks with a sign between them are what a table cell says. -/
theorem read?_of_clocks {text : List Char} {range : TimeRange}
    (h : firstKey TimeRange.clocks? TimeRange.ofClocks ((squeeze text).map TimeRange.usualSign) =
      some range) : TimeRange.read? text = some range := by
  obtain ⟨⟨gap, clocks, rest⟩, found, rfl⟩ := Option.map_eq_some_iff.mp h
  simp only [TimeRange.read?, found]
  rfl

/-- Where there are no two clocks with a sign between them, the end is a mark. -/
theorem isOpen_of_read? {text : List Char} {range : TimeRange}
    (h : firstKey TimeRange.clocks? TimeRange.ofClocks ((squeeze text).map TimeRange.usualSign) =
      none) (read : TimeRange.read? text = some range) : range.IsOpen := by
  have none := Option.map_eq_none_iff.mp h
  simp only [TimeRange.read?, none] at read
  split at read
  · rw [← Option.some.inj read]
    simp only [TimeRange.IsOpen]
    split
    · exact .inl rfl
    · exact .inr rfl
  · obtain ⟨⟨_, ⟨afternoon, digits⟩, _⟩, -, tail⟩ := Option.bind_eq_some_iff.mp read
    obtain ⟨hour, -, done⟩ := Option.bind_eq_some_iff.mp tail
    rw [← Option.some.inj done]
    exact .inr rfl

/-- A range whose end is no mark is what two clocks say. -/
theorem exists_clocks_of_read? {text : List Char} {range : TimeRange}
    (read : TimeRange.read? text = some range) (closed : ¬ range.IsOpen) :
    ∃ start finish : PrintedClock, start.IsClock ∧ finish.IsClock ∧
      start.tight = range.start ∧ finish.tight = range.finish := by
  cases first : firstKey TimeRange.clocks? TimeRange.ofClocks
      ((squeeze text).map TimeRange.usualSign) with
  | none => exact absurd (isOpen_of_read? first read) closed
  | some said =>
    have same := read?_of_clocks first
    rw [read] at same
    obtain rfl := Option.some.inj same
    obtain ⟨⟨gap, ⟨start, finish⟩, rest⟩, found, rfl⟩ := Option.map_eq_some_iff.mp first
    obtain ⟨t, -, readClocks⟩ := firstMatch_eq_some found
    obtain ⟨isStart, isFinish⟩ := clocks?_eq_some readClocks
    exact ⟨start, finish, isStart, isFinish, (PrintedClock.strip_raw isStart).symm,
      (PrintedClock.strip_raw isFinish).symm⟩

/-- A text without the signs that only a table knows says the same in a cell of a table as in a
bulletin. When a bulletin has a range there, its first one is the range of the cell; when it has
none, the cell has no range either, or one whose end is a mark. -/
theorem read?_like_slots {text : List Char} (usual : ∀ c ∈ text, c ∉ tableSigns) :
    (∀ start finish, (matchesOf slot? (joinTimes text)).head? = some (start, finish) →
      TimeRange.read? text = some ⟨strip start.raw, strip finish.raw⟩) ∧
    (matchesOf slot? (joinTimes text) = [] →
      ∀ range, TimeRange.read? text = some range → range.IsOpen) := by
  have same := firstClocks_eq usual
  constructor
  · intro start finish first
    rw [first] at same
    exact read?_of_clocks same
  · intro none range read
    rw [none] at same
    exact isOpen_of_read? same read

/-- A range torn apart in a bulletin, and an end that is no clock. -/
theorem read?_like_slots_sample :
    TimeRange.read? "시간 10\n: 00\n~\n12:00 광화문".toList =
        some ⟨"10:00".toList, "12:00".toList⟩ ∧
      ∀ range, TimeRange.read? "14:00 ~ (종료 시까지)".toList = some range → range.IsOpen := by
  have usual : ∀ text : List Char, text.all (!tableSigns.contains ·) = true →
      ∀ c ∈ text, c ∉ tableSigns := by simp
  have torn := read?_like_slots (usual "시간 10\n: 00\n~\n12:00 광화문".toList (by decide))
  have marked := read?_like_slots (usual "14:00 ~ (종료 시까지)".toList (by decide))
  constructor
  · exact torn.1 ⟨"10".toList, [], [], "00".toList⟩ ⟨"12".toList, [], [], "00".toList⟩
      (by decide +kernel)
  · exact marked.2 (by decide +kernel)

end RouteAlerts.Schedule
