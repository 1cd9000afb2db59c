import RouteAlerts.Text.Blank

/-!
What tidying does to a text. `trim` and `squeeze` move nothing but blanks, so the text without its
blanks stays the same; a text with no blank at either end is trimmed already, and one that is put
together from words of its own with single spaces between them is squeezed already.
-/

namespace RouteAlerts.Text

/-! ### Runs -/

section Runs

variable {α : Type} {p : α → Bool}

/-- A run of elements that satisfy `p` ends where the text goes on with one that does not. -/
theorem takeWhile_append_stop {run rest : List α} (all : ∀ c ∈ run, p c = true)
    (stop : ∀ c ∈ rest.head?, p c = false) : (run ++ rest).takeWhile p = run := by
  rw [List.takeWhile_append_of_pos all]
  cases rest with
  | nil => simp
  | cons c rest => simp [stop c rfl]

theorem dropWhile_append_stop {run rest : List α} (all : ∀ c ∈ run, p c = true)
    (stop : ∀ c ∈ rest.head?, p c = false) : (run ++ rest).dropWhile p = rest := by
  rw [List.dropWhile_append_of_pos all]
  cases rest with
  | nil => rfl
  | cons c rest => simp [stop c rfl]

theorem dropWhile_eq_self {s : List α} (stop : ∀ c ∈ s.head?, p c = false) : s.dropWhile p = s :=
  @dropWhile_append_stop _ _ [] _ (by simp) stop

end Runs

/-! ### Stripped texts -/

@[simp] theorem strip_nil : strip [] = [] := rfl

@[simp] theorem strip_append (s t : List Char) : strip (s ++ t) = strip s ++ strip t :=
  List.filter_append ..

theorem strip_eq_nil_iff {s : List Char} : strip s = [] ↔ ∀ c ∈ s, isBlank c = true := by
  simp [strip, List.filter_eq_nil_iff]

theorem strip_eq_self {s : List Char} (h : ∀ c ∈ s, isBlank c = false) : strip s = s :=
  List.filter_eq_self.mpr fun c hc => by simp [h c hc]

@[simp] theorem strip_strip (s : List Char) : strip (strip s) = strip s :=
  strip_eq_self fun c hc => by simpa using (List.mem_filter.mp hc).2

theorem strip_flatMap {α : Type} (l : List α) (f : α → List Char) :
    strip (l.flatMap f) = l.flatMap fun a => strip (f a) :=
  List.filter_flatMap ..

theorem strip_flatten (texts : List (List Char)) :
    strip texts.flatten = (texts.map strip).flatten :=
  List.filter_flatten ..

/-! ### Trimmed texts -/

theorem dropEndWhile_eq_self {p : Char → Bool} {s : List Char}
    (h : ∀ c ∈ s.getLast?, p c = false) : dropEndWhile p s = s := by
  rw [dropEndWhile, dropWhile_eq_self, List.reverse_reverse]
  rwa [List.head?_reverse]

theorem length_dropEndWhile_le (p : Char → Bool) (s : List Char) :
    (dropEndWhile p s).length ≤ s.length := by
  calc (dropEndWhile p s).length = (s.reverse.dropWhile p).length := List.length_reverse
    _ ≤ s.reverse.length := (List.dropWhile_suffix p).length_le
    _ = s.length := List.length_reverse

/-- A run of elements that satisfy `p` goes where the text in front of it ends with one that does
not. -/
theorem dropEndWhile_append_stop {p : Char → Bool} {s run : List Char}
    (all : ∀ c ∈ run, p c = true) (stop : ∀ c ∈ s.getLast?, p c = false) :
    dropEndWhile p (s ++ run) = s := by
  have stopReversed : ∀ c ∈ s.reverse.head?, p c = false := by rwa [List.head?_reverse]
  rw [dropEndWhile, List.reverse_append, dropWhile_append_stop (by simpa using all) stopReversed,
    List.reverse_reverse]

/-- `trim` takes off blanks at the front and at the end. -/
theorem exists_trim (s : List Char) :
    ∃ front back, (∀ c ∈ front, isBlank c = true) ∧ (∀ c ∈ back, isBlank c = true) ∧
      s = front ++ trim s ++ back := by
  refine ⟨s.takeWhile isBlank, ((trimStart s).reverse.takeWhile isBlank).reverse,
    fun c hc => List.all_eq_true.mp List.all_takeWhile c hc,
    fun c hc => List.all_eq_true.mp List.all_takeWhile c (List.mem_reverse.mp hc), ?_⟩
  have back : trim s ++ ((trimStart s).reverse.takeWhile isBlank).reverse = trimStart s := by
    rw [trim, trimEnd, dropEndWhile, ← List.reverse_append, List.takeWhile_append_dropWhile,
      List.reverse_reverse]
  rw [List.append_assoc, back, trimStart, List.takeWhile_append_dropWhile]

@[simp] theorem strip_trim (s : List Char) : strip (trim s) = strip s := by
  obtain ⟨front, back, frontBlank, backBlank, split⟩ := exists_trim s
  have stripped := congrArg strip split
  rw [strip_append, strip_append, strip_eq_nil_iff.mpr frontBlank, strip_eq_nil_iff.mpr backBlank,
    List.nil_append, List.append_nil] at stripped
  exact stripped.symm

/-- A text with no blank at either end is trimmed already. -/
theorem trim_eq_self {s : List Char} (head : ∀ c ∈ s.head?, isBlank c = false)
    (last : ∀ c ∈ s.getLast?, isBlank c = false) : trim s = s := by
  rw [trim, trimStart, dropWhile_eq_self head, trimEnd, dropEndWhile_eq_self last]

/-- Blanks around a text that has none at either end are what `trim` takes off. -/
theorem trim_append {front s back : List Char} (frontBlank : ∀ c ∈ front, isBlank c = true)
    (backBlank : ∀ c ∈ back, isBlank c = true) (head : ∀ c ∈ s.head?, isBlank c = false)
    (last : ∀ c ∈ s.getLast?, isBlank c = false) : trim (front ++ s ++ back) = s := by
  rw [trim, trimStart, List.append_assoc, List.dropWhile_append_of_pos frontBlank]
  cases s with
  | nil =>
    have gone : back.dropWhile isBlank = [] := by
      simpa using @dropWhile_append_stop _ _ _ [] backBlank (by simp)
    simp [gone, trimEnd, dropEndWhile]
  | cons c s =>
    rw [dropWhile_eq_self (s := c :: s ++ back) (by simpa using head), trimEnd, dropEndWhile,
      List.reverse_append, List.dropWhile_append_of_pos (by simpa using backBlank)]
    exact dropEndWhile_eq_self last

/-- A text ends like its second half does, or else like its first. -/
theorem isBlank_last_append {s t : List Char} (hs : ∀ c ∈ s.getLast?, isBlank c = false)
    (ht : ∀ c ∈ t.getLast?, isBlank c = false) : ∀ c ∈ (s ++ t).getLast?, isBlank c = false := by
  intro c last
  rw [List.getLast?_append] at last
  rcases Option.or_eq_some_iff.mp last with own | ⟨-, before⟩
  · exact ht c own
  · exact hs c before

/-- Behind blanks, a text starts with what stands there. -/
theorem head_gap_append {p : Char → Bool} {gap rest : List Char} {c : Char}
    (blank : ∀ x ∈ gap, isBlank x = true) (all : ∀ x, isBlank x = true → p x = false)
    (own : p c = false) : ∀ x ∈ (gap ++ c :: rest).head?, p x = false := by
  cases gap with
  | nil => simpa using own
  | cons x gap => simpa using all x (blank x List.mem_cons_self)

/-! ### Words -/

/-- Cutting loses the elements that are cut at and nothing else. -/
theorem flatten_splitWhere {α : Type} (p : α → Bool) (s : List α) :
    (splitWhere p s).flatten = s.filter (!p ·) := by
  induction s with
  | nil => rfl
  | cons c s ih =>
    simp only [splitWhere]
    by_cases hc : p c = true
    · simp [hc, ih]
    · cases h : splitWhere p s with
      | nil => exact absurd h (splitWhere_ne_nil p s)
      | cons piece pieces =>
        rw [h] at ih
        simp only [hc, Bool.false_eq_true, if_false]
        rw [List.filter_cons_of_pos (by simp [hc]), ← ih]
        simp

@[simp] theorem flatten_words (s : List Char) : (words s).flatten = strip s := by
  rw [words, List.flatten_filter_not_isEmpty, flatten_splitWhere, strip]

theorem words_eq_nil_iff {s : List Char} : words s = [] ↔ strip s = [] := by
  rw [← flatten_words, List.flatten_eq_nil_iff]
  constructor
  · intro h
    simp [h]
  · intro h
    refine List.eq_nil_iff_forall_not_mem.mpr fun w hw => ?_
    have nonempty := (List.mem_filter.mp hw).2
    simp [h w hw] at nonempty

/-- Single spaces between pieces are blanks. -/
theorem strip_joinWith (pieces : List (List Char)) :
    strip (joinWith [' '] pieces) = strip pieces.flatten := by
  induction pieces with
  | nil => rfl
  | cons s rest ih =>
    cases rest with
    | nil => simp [joinWith]
    | cons t rest =>
      rw [joinWith, strip_append, strip_append, ih, List.flatten_cons, strip_append]
      · simp [strip, isBlank]
      · simp

@[simp] theorem strip_squeeze (s : List Char) : strip (squeeze s) = strip s := by
  rw [squeeze, strip_joinWith, flatten_words, strip_strip]

theorem splitWhere_eq_singleton {α : Type} {p : α → Bool} {s : List α}
    (h : ∀ c ∈ s, p c = false) : splitWhere p s = [s] := by
  induction s with
  | nil => rfl
  | cons c s ih =>
    rw [splitWhere, h c List.mem_cons_self, ih fun d hd => h d (List.mem_cons_of_mem _ hd)]
    rfl

/-- At an element that is cut at, a text falls into two that are cut on their own. -/
theorem splitWhere_append {α : Type} {p : α → Bool} {c : α} (hc : p c = true) (s rest : List α) :
    splitWhere p (s ++ c :: rest) = splitWhere p s ++ splitWhere p rest := by
  induction s with
  | nil => simp [splitWhere, hc]
  | cons d s ih =>
    rw [List.cons_append, splitWhere, splitWhere, ih]
    split
    · rfl
    · cases pieces : splitWhere p s with
      | nil => exact absurd pieces (splitWhere_ne_nil p s)
      | cons piece pieces => rfl

/-- Pieces with a sign between neighbours are what the text is cut into at the signs. -/
theorem splitWhere_flatMap {α : Type} {p : α → Bool} {first : List α} {others : List (α × List α)}
    (hfirst : ∀ c ∈ first, p c = false)
    (hothers : ∀ s ∈ others, p s.1 = true ∧ ∀ c ∈ s.2, p c = false) :
    splitWhere p (first ++ others.flatMap fun s => s.1 :: s.2) = first :: others.map Prod.snd := by
  induction others generalizing first with
  | nil => simpa using splitWhere_eq_singleton hfirst
  | cons other others ih =>
    obtain ⟨sign, clear⟩ := hothers other List.mem_cons_self
    have rest := ih clear fun s hs => hothers s (List.mem_cons_of_mem _ hs)
    rw [List.flatMap_cons, List.cons_append, splitWhere_append sign, splitWhere_eq_singleton hfirst,
      rest, List.map_cons]
    rfl

/-- Joined pieces hold what is in the pieces and in the separator. -/
theorem mem_joinWith {α : Type} {sep : List α} {pieces : List (List α)} {c : α}
    (h : c ∈ joinWith sep pieces) : (∃ s ∈ pieces, c ∈ s) ∨ c ∈ sep := by
  induction pieces with
  | nil => cases h
  | cons s rest ih =>
    cases rest with
    | nil => exact .inl ⟨s, List.mem_cons_self, h⟩
    | cons t rest =>
      simp only [joinWith, List.mem_append] at h
      rcases h with (own | separator) | later
      · exact .inl ⟨s, List.mem_cons_self, own⟩
      · exact .inr separator
      · exact (ih later).imp_left fun ⟨u, hu, hc⟩ => ⟨u, List.mem_cons_of_mem _ hu, hc⟩

theorem joinWith_ne_nil {α : Type} (sep : List α) {s : List α} (h : s ≠ []) (rest : List (List α)) :
    joinWith sep (s :: rest) ≠ [] := by
  cases rest <;> simp [joinWith, h]

theorem joinWith_append {α : Type} {sep : List α} {xs ys : List (List α)} (hx : xs ≠ [])
    (hy : ys ≠ []) : joinWith sep (xs ++ ys) = joinWith sep xs ++ sep ++ joinWith sep ys := by
  induction xs with
  | nil => exact absurd rfl hx
  | cons x xs ih =>
    cases xs with
    | nil =>
      obtain ⟨y, ys, rfl⟩ := List.exists_cons_of_ne_nil hy
      simp [joinWith]
    | cons x' xs => simpa [joinWith] using ih (by simp)

/-- Joining what was joined before is joining everything at once. -/
theorem joinWith_map_joinWith {α : Type} {sep : List α} {pieces : List (List (List α))}
    (nonempty : ∀ ws ∈ pieces, ws ≠ []) :
    joinWith sep (pieces.map (joinWith sep)) = joinWith sep pieces.flatten := by
  induction pieces with
  | nil => rfl
  | cons ws pieces ih =>
    have rest := ih fun vs hvs => nonempty vs (List.mem_cons_of_mem _ hvs)
    cases pieces with
    | nil => simp [joinWith]
    | cons vs pieces =>
      have hvs : (vs :: pieces).flatten ≠ [] := by
        simp [nonempty vs (by simp)]
      rw [List.map_cons, List.flatten_cons, joinWith_append (nonempty ws List.mem_cons_self) hvs,
        ← rest]
      rfl

/-- A word of a text: something without blanks. -/
def IsWord (w : List Char) : Prop := w ≠ [] ∧ ∀ c ∈ w, isBlank c = false

/-- At a blank, the words of a text are those before it and those behind it. -/
theorem words_append {c : Char} (hc : isBlank c = true) (s rest : List Char) :
    words (s ++ c :: rest) = words s ++ words rest := by
  rw [words, splitWhere_append hc, List.filter_append, words, words]

/-- Blanks in front belong to no word. -/
theorem words_blank_append {front : List Char} (h : ∀ c ∈ front, isBlank c = true)
    (s : List Char) : words (front ++ s) = words s := by
  induction front with
  | nil => rfl
  | cons c front ih =>
    have behind := words_append (h c List.mem_cons_self) [] (front ++ s)
    rw [ih fun d hd => h d (List.mem_cons_of_mem c hd)] at behind
    exact behind

/-- And neither do blanks behind. -/
theorem words_append_blank {back : List Char} (h : ∀ c ∈ back, isBlank c = true)
    (s : List Char) : words (s ++ back) = words s := by
  cases back with
  | nil => rw [List.append_nil]
  | cons c back =>
    have none : words back = [] :=
      words_eq_nil_iff.mpr (strip_eq_nil_iff.mpr fun d hd => h d (List.mem_cons_of_mem c hd))
    rw [words_append (h c List.mem_cons_self), none, List.append_nil]

theorem words_of_isWord {w : List Char} (h : IsWord w) : words w = [w] := by
  rw [words, splitWhere_eq_singleton h.2]
  exact List.filter_eq_self.mpr (by simpa using h.1)

/-- Words with single spaces between them are the words of the text. -/
theorem words_joinWith {ws : List (List Char)} (h : ∀ w ∈ ws, IsWord w) :
    words (joinWith [' '] ws) = ws := by
  induction ws with
  | nil => rfl
  | cons w ws ih =>
    have first := words_of_isWord (h w List.mem_cons_self)
    have rest := ih fun v hv => h v (List.mem_cons_of_mem _ hv)
    cases ws with
    | nil => exact first
    | cons v ws =>
      rw [joinWith, List.append_assoc, List.singleton_append, words_append (by decide), first, rest]
      · rfl
      · simp

/-- A word that ends at a blank, or at the end of the text, is the first one. -/
theorem words_word_append {w rest : List Char} (h : IsWord w)
    (stop : ∀ c ∈ rest.head?, isBlank c = true) : words (w ++ rest) = w :: words rest := by
  cases rest with
  | nil =>
    rw [List.append_nil, words_of_isWord h]
    rfl
  | cons c rest =>
    have blank := stop c rfl
    have gone : words (c :: rest) = words rest :=
      @words_blank_append [c] (by simpa using blank) rest
    rw [words_append blank, words_of_isWord h, gone]
    rfl

/-- Words joined by single spaces neither start nor end with a blank. -/
theorem isBlank_ends_joinWith {ws : List (List Char)} (h : ∀ w ∈ ws, IsWord w) :
    (∀ c ∈ (joinWith [' '] ws).head?, isBlank c = false) ∧
      ∀ c ∈ (joinWith [' '] ws).getLast?, isBlank c = false := by
  induction ws with
  | nil => simp [joinWith]
  | cons w ws ih =>
    obtain ⟨nonempty, solid⟩ := h w List.mem_cons_self
    have last : ∀ c ∈ w.getLast?, isBlank c = false := fun c hc => solid c (List.mem_of_getLast? hc)
    have head : ∀ rest, ∀ c ∈ (w ++ rest).head?, isBlank c = false := by
      intro rest c hc
      obtain ⟨d, w, rfl⟩ := List.exists_cons_of_ne_nil nonempty
      obtain rfl : d = c := by simpa using hc
      exact solid d List.mem_cons_self
    cases ws with
    | nil => exact ⟨by simpa [joinWith] using head [], by simpa [joinWith] using last⟩
    | cons v ws =>
      have rest := (ih fun v hv => h v (List.mem_cons_of_mem _ hv)).2
      have goesOn : joinWith [' '] (v :: ws) ≠ [] := joinWith_ne_nil [' '] (h v (by simp)).1 ws
      rw [joinWith, List.append_assoc]
      · refine ⟨head _, fun c hc => ?_⟩
        obtain ⟨d, hd⟩ := Option.ne_none_iff_exists'.mp (mt List.getLast?_eq_none_iff.mp goesOn)
        rw [List.getLast?_append, List.getLast?_append, hd] at hc
        obtain rfl : d = c := by simpa using hc
        exact rest d hd
      · simp

theorem squeeze_joinWith {ws : List (List Char)} (h : ∀ w ∈ ws, IsWord w) :
    squeeze (joinWith [' '] ws) = joinWith [' '] ws := by
  rw [squeeze, words_joinWith h]

end RouteAlerts.Text
