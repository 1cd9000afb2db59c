import RouteAlerts.Proofs.Bulletin.Detail
import RouteAlerts.Proofs.Bulletin.Written
import RouteAlerts.Proofs.Calendar.DayNumber

/-!
What is written is read. A bulletin made of written slots is read as one announcement a slot, in
order, however its times are torn apart by line breaks. The text of a slot is followed through its
readers: the annotation is found behind the march, the figure behind both, and the remark is put
together from what is left.
-/

namespace RouteAlerts.Bulletin

open Text

namespace WrittenSlot

variable (s : WrittenSlot)

/-! ### Before the figure -/

/-- The annotation of a slot is the only one that is found. -/
theorem cut_lead : cut annotation? s.lead =
    s.annotation.elim (s.march.text, []) fun p => (s.march.text ++ [' '], [(p.text, [])]) := by
  -- No march opens an annotation, so the first one found is the one that was written.
  have silent : ∀ rest, Silent annotation? s.march.text rest := by
    refine silent_annotation? fun c hc => ?_
    rcases s.march.mem_text hc with letter | sign
    · rintro rfl
      exact absurd letter (by decide)
    · rcases March.isGlyph_iff.mp sign with rfl | rfl | rfl <;> decide
  unfold lead
  cases s.annotation with
  | none =>
    rw [Option.elim_none, cut_silent (silent _)]
    simp [cut]
  | some p =>
    have printed : IsAnnotation ('<' :: (p.text ++ ['>'])) p.text := by
      refine ⟨p.text_ne_nil, fun c hc => ?_, by simp⟩
      rcases p.mem_text hc with syllable | rfl
      · rintro rfl
        exact absurd syllable (by decide)
      · decide
    have space : Silent annotation? [' '] ('<' :: (p.text ++ ['>'])) :=
      silent_annotation? (by simp) _
    have read := annotation?_printed printed []
    have found := cut_match (List.cons_ne_nil _ _) read
    rw [List.append_nil] at found
    have spaced := cut_silent space
    rw [found] at spaced
    rw [Option.elim_some, cut_silent (silent _), ← List.singleton_append, spaced]
    simp [cut]

/-- The stations of the march are the places, with an annotation or without. -/
theorem placesOf_lead : placesOf s.lead = s.march.places := by
  have tidied : squeeze (substitute annotation? (fun _ => [' ']) s.lead) = s.march.text := by
    have blank : ∃ back, (∀ c ∈ back, isBlank c = true) ∧
        substitute annotation? (fun _ => [' ']) s.lead = s.march.text ++ back := by
      rw [substitute, cut_lead]
      cases s.annotation with
      | none => exact ⟨[], by simp, by simp⟩
      | some p => exact ⟨[' ', ' '], by simp; decide, by simp⟩
    obtain ⟨back, backBlank, eq⟩ := blank
    rw [eq, squeeze, words_append_blank backBlank, words_of_isWord s.march.isWord_text]
    rfl
  rw [placesOf, tidied, s.march.splitWhere_text, s.march.map_trim_places]
  exact List.filter_eq_self.mpr fun p hp => by simpa using (s.march.names p hp).1

theorem annotationsOf_lead : annotationsOf s.lead = s.annotation.elim [] Phrase.text := by
  rw [annotationsOf, matchesOf, cut_lead]
  cases s.annotation with
  | none => rfl
  | some p => simp [joinWith, p.trim_text]

/-! ### Around the figure -/

theorem isBlank_head_lead (rest : List Char) :
    ∀ c ∈ (s.lead ++ rest).head?, isBlank c = false := by
  obtain ⟨d, more, march, letter⟩ := s.march.text_eq_cons
  intro c head
  obtain rfl : d = c := by simpa [lead, march] using head
  exact isBlank_eq_false_of_isLetter letter

theorem isBlank_last_lead : ∀ c ∈ s.lead.getLast?, isBlank c = false := by
  refine isBlank_last_append (fun c hc => s.march.isWord_text.2 c (List.mem_of_getLast? hc)) ?_
  cases s.annotation with
  | none => simp
  | some p =>
    intro c last
    obtain rfl : '>' = c := by simpa [List.getLast?_cons] using last
    decide

theorem trim_lead {back : List Char} (blank : ∀ c ∈ back, isBlank c = true) :
    trim (s.lead ++ back) = s.lead := by
  have head : ∀ c ∈ s.lead.head?, isBlank c = false := by
    simpa using s.isBlank_head_lead []
  have trimmed : trim ([] ++ s.lead ++ back) = s.lead :=
    trim_append (by simp) blank head s.isBlank_last_lead
  exact trimmed

theorem isBlank_last_figureText : ∀ c ∈ s.figureText.getLast?, isBlank c = false := by
  unfold figureText
  cases s.figure with
  | none => simp
  | some f =>
    have counter : ∀ c ∈ (' ' :: (f.printed ++ ['명'])).getLast?, isBlank c = false := by
      intro c last
      obtain rfl : '명' = c := by simpa [List.getLast?_cons] using last
      decide
    simpa using isBlank_last_append counter f.isBlank_last_remarkText

theorem trim_tail : trim s.tail = s.lead ++ s.figureText := by
  have trimmed : trim ([' '] ++ (s.lead ++ s.figureText) ++ s.ending) = s.lead ++ s.figureText :=
    trim_append (by simp; decide) (fun _ => s.isBlank_of_mem_ending)
      (s.isBlank_head_lead s.figureText)
      (isBlank_last_append s.isBlank_last_lead s.isBlank_last_figureText)
  exact trimmed

/-- The text of a slot is split where it was put together. -/
theorem segments_tail : segments s.tail =
    s.figure.elim ⟨s.lead, [], [], none⟩
      fun f => ⟨s.lead ++ [' '], f.printed ++ ['명'], f.remarkText, some f.value⟩ := by
  rw [segments, trim_tail]
  unfold figureText
  cases s.figure with
  | none =>
    rw [Option.elim_none, List.append_nil, Headcount.find?_eq_none fun c => s.isDigit_lead]
    rfl
  | some f =>
    have noDigit : ∀ c ∈ s.lead ++ [' '], isDigit c = false := by
      intro c hc
      rcases List.mem_append.mp hc with lead | space
      · exact s.isDigit_lead lead
      · rw [List.mem_singleton.mp space]
        decide
    have found := Headcount.find?_counted noDigit (f.number?_printed f.remarkText) f.value?_printed
    rw [List.append_assoc, List.singleton_append] at found
    rw [Option.elim_some, found]
    rfl

theorem trim_before : trim (segments s.tail).before = s.lead := by
  rw [segments_tail]
  cases s.figure with
  | none =>
    have alone : trim (s.lead ++ []) = s.lead := s.trim_lead (by simp)
    simpa using alone
  | some f => exact s.trim_lead (by simp; decide)

/-! ### The remark -/

/-- What the remark is made of: the remark as it was written, and the annotation. -/
def notes : List Phrase := (s.figure.bind Figure.remark).toList ++ s.annotation.toList

theorem remarkOf_tail : remarkOf s.tail = joinWith [' '] (s.notes.map Phrase.text) := by
  have after : trim (segments s.tail).after =
      (s.figure.bind Figure.remark).elim [] Phrase.text := by
    rw [segments_tail]
    cases s.figure with
    | none => rfl
    | some f => exact f.trim_remarkText
  have annotation : trim (annotationsOf s.lead) = s.annotation.elim [] Phrase.text := by
    rw [annotationsOf_lead]
    cases s.annotation with
    | none => rfl
    | some p => exact p.trim_text
  rw [remarkOf, trim_before, after, annotation, notes]
  cases s.figure.bind Figure.remark <;> cases s.annotation <;> simp [Phrase.text_ne_nil]

/-- Words of two syllables and more come through the joining of torn words. -/
theorem closeGaps_notes : closeGaps (squeeze (joinWith [' '] (s.notes.map Phrase.text))) =
    joinWith [' '] (s.notes.map Phrase.text) := by
  have joined : joinWith [' '] (s.notes.map Phrase.text) =
      joinWith [' '] (s.notes.map Phrase.words).flatten := by
    rw [← joinWith_map_joinWith, List.map_map]
    · rfl
    · intro ws hws
      obtain ⟨p, -, rfl⟩ := List.mem_map.mp hws
      exact p.nonempty
  have of_mem : ∀ w ∈ (s.notes.map Phrase.words).flatten, IsWord w ∧ 2 ≤ w.length := by
    intro w hw
    obtain ⟨ws, hws, hw⟩ := List.mem_flatten.mp hw
    obtain ⟨p, -, rfl⟩ := List.mem_map.mp hws
    exact ⟨p.isWord hw, p.long w hw⟩
  have isWord := fun w hw => (of_mem w hw).1
  rw [joined, squeeze_joinWith isWord, closeGaps_eq_squeeze, squeeze_joinWith isWord]
  rw [words_joinWith isWord]
  exact fun w hw => (of_mem w hw).2

/-! ### Announcements -/

/-- What a written slot announces: its clocks without blanks, its places, its figure, and its remark
with the annotation behind it, or no remark when it has neither. -/
def announcement (date : Date) : Announcement where
  source := .primaryBoard
  date
  startTime := String.ofList s.range.start.tight
  endTime := String.ofList s.range.finish.tight
  places := s.march.places.map String.ofList
  headcount := s.figure.map Figure.value
  remark := if s.notes.isEmpty then none
    else some (String.ofList (joinWith [' '] (s.notes.map Phrase.text)))
  coordinates := none

theorem detail_tail : Detail.of s.tail =
    ⟨s.march.places, s.figure.map Figure.value, joinWith [' '] (s.notes.map Phrase.text)⟩ := by
  have value : (segments s.tail).value = s.figure.map Figure.value := by
    rw [segments_tail]
    cases s.figure <;> rfl
  rw [detail_of, trim_before, placesOf_lead, value, remarkOf_tail, closeGaps_notes]
  rfl

theorem isEmpty_remark :
    (joinWith [' '] (s.notes.map Phrase.text)).isEmpty = s.notes.isEmpty := by
  cases notes : s.notes with
  | nil => rfl
  | cons p more =>
    have nonempty := joinWith_ne_nil [' '] p.text_ne_nil (more.map Phrase.text)
    simp [nonempty]

/-- A slot whose range was put together is announced with the clocks it was written with. -/
theorem announce?_tail (date : Date) :
    announce? date s.range.joined.clocks s.tail = some (s.announcement date) := by
  have start := PrintedClock.strip_raw (isClock_mendClock s.isRange.start)
  have finish := PrintedClock.strip_raw (isClock_mendClock s.isRange.finish)
  have named : s.march.places.isEmpty = false := rfl
  rw [announce?, detail_tail]
  simp only [named, Bool.false_eq_true, if_false, PrintedRange.clocks_joined, start, finish,
    tight_mendClock, isEmpty_remark]
  rfl

end WrittenSlot

/-- A bulletin of written slots behind a preamble without digits is read as one announcement a slot,
in order, each with what was written: whatever blanks stand around the colons and tildes of the
times, and whether a figure has thousands groups or not. -/
theorem announcements_written {preamble : List Char} (noDigit : ∀ c ∈ preamble, isDigit c = false)
    (slots : List WrittenSlot) (date : Date) :
    announcements (preamble ++ slots.flatMap WrittenSlot.text) date =
      slots.map fun s => s.announcement date := by
  have silent : ∀ rest, Silent PrintedClock.opening? preamble rest :=
    fun rest => PrintedClock.silent_of_no_digit noDigit
  -- Torn times are joined in the whole text; no join reaches beyond the range that it begins in.
  have joined : joinTimes (preamble ++ slots.flatMap WrittenSlot.text) =
      preamble ++
        (slots.map fun s => (s.range.joined, s.tail)).flatMap fun s => s.1.raw ++ s.2 := by
    have pieces := joinTimes_slots (slots.map fun s => (s.range, s.tail))
      (by simpa using fun s _ => s.isRange) (by simpa using fun s _ => s.quiet)
    rw [joinTimes_silent silent]
    simp only [List.flatMap_map] at pieces ⊢
    exact congrArg (preamble ++ ·) pieces
  have slotsFound := cut_slots (slots.map fun s => (s.range.joined, s.tail)) silent
    (by simpa using fun s _ => PrintedRange.isRange_joined s.isRange)
    (by simpa using fun s _ => s.quiet)
  have each : (fun s : WrittenSlot => announce? date s.range.joined.clocks s.tail) =
      some ∘ fun s => s.announcement date := funext fun s => s.announce?_tail date
  rw [announcements, joined, slotsFound, List.map_map, List.filterMap_map]
  have all : slots.filterMap (fun s => announce? date s.range.joined.clocks s.tail) =
      slots.map fun s => s.announcement date := by
    rw [each, List.filterMap_eq_map]
  exact all

/-- A march with an annotation, a figure and a remark, its times torn apart, and a rally with none
of these. -/
def sampleSlots : List WrittenSlot :=
  let clock (hour gapBefore minute : String) : PrintedClock :=
    ⟨hour.toList, gapBefore.toList, [], minute.toList⟩
  let phrase (first second : String) (h : ∀ w ∈ [first.toList, second.toList],
      2 ≤ w.length ∧ w.all isSyllable = true) : Phrase :=
    ⟨[first.toList, second.toList], by simp, fun w hw => (h w hw).1, fun w hw => (h w hw).2⟩
  [{ range := ⟨clock "18" "\n" "00", "\n".toList, " \n".toList, clock "20" "" "00"⟩
     isRange := by decide
     march := ⟨"서울역".toList, [('→', "시청".toList), ('~', "KT".toList)], by decide, by decide⟩
     annotation := some (phrase "행진" "예정" (by decide))
     figure := some ⟨1200, by decide, true, some (phrase "차로" "통제" (by decide))⟩
     ending := ['\n']
     endingBlank := by decide },
   { range := ⟨clock "9" " " "00", [], [' '], clock "10" "" "30"⟩
     isRange := by decide
     march := ⟨"광화문".toList, [], by decide, by decide⟩
     annotation := none
     figure := none
     ending := []
     endingBlank := by decide }]

/-- The sample bulletin is read as two announcements. -/
theorem announcements_written_sample :
    announcements ("집회 안내\n18\n:00\n~ \n20:00 서울역→시청~KT <행진 예정> 1,200명 차로 통제\n" ++
        "9 :00~ 10:30 광화문").toList Date.sample =
      [⟨.primaryBoard, Date.sample, "18:00", "20:00", ["서울역", "시청", "KT"], some 1200,
          some "차로 통제 행진 예정", none⟩,
        ⟨.primaryBoard, Date.sample, "9:00", "10:30", ["광화문"], none, none, none⟩] := by
  have written : ("집회 안내\n18\n:00\n~ \n20:00 서울역→시청~KT <행진 예정> 1,200명 차로 통제\n" ++
      "9 :00~ 10:30 광화문").toList =
        "집회 안내\n".toList ++ sampleSlots.flatMap WrittenSlot.text := by
    decide +kernel
  have noDigit : "집회 안내\n".toList.all (!isDigit ·) = true := by decide
  have plain : ∀ c ∈ "집회 안내\n".toList, isDigit c = false := by
    intro c hc
    simpa using List.all_eq_true.mp noDigit c hc
  rw [written, announcements_written plain sampleSlots Date.sample]
  rfl

end RouteAlerts.Bulletin
