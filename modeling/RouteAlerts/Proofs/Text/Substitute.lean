import Mathlib.Algebra.Order.Group.Int
import Mathlib.Data.List.Infix
import RouteAlerts.Proofs.Text.Scan

/-!
Substitution in a text. A text in which nothing matches is left as it is, and what is there
afterwards was there before or was put in. To tell whether a chain of substitutions has changed
anything, weigh the characters: when every replacement weighs more than what it replaces, a pass
that changes a text makes it heavier, and a chain of such passes leaves a text alone only when each
of them does (`Improves.comp`).
-/

namespace RouteAlerts.Text

variable {α : Type} {r : Reader α} {f : α → List Char}

/-! ### Fixed texts -/

theorem literal_eq_some_iff {needle s rest : List Char} :
    literal needle s = some ((), rest) ↔ s = needle ++ rest := by
  unfold literal
  constructor
  · intro h
    split at h
    · rename_i front
      obtain ⟨behind, rfl⟩ := List.isPrefixOf_iff_prefix.mp front
      obtain rfl : behind = rest := by simpa using h
      rfl
    · cases h
  · rintro rfl
    simp

/-- A fixed text matches at its own first character only. -/
theorem literal_miss {c d : Char} {needle s : List Char} (h : (c == d) = false) :
    literal (d :: needle) (c :: s) = none := by
  have apart : (d == c) = false := by rw [BEq.comm, h]
  simp [literal, List.isPrefixOf, apart]

theorem contains_iff_infix {s needle : List Char} :
    contains s needle = true ↔ needle <:+: s := by
  induction s with
  | nil => simp [contains, List.isEmpty_iff]
  | cons c s ih =>
    rw [contains, Bool.or_eq_true, ih, List.isPrefixOf_iff_prefix, List.infix_cons_iff]

/-! ### Texts without a match -/

/-- In a text without a match no part, read to the end of the text, starts with one. -/
theorem silent_iff {s : List Char} :
    Silent r s [] ↔ ∀ t, t <:+ s → t ≠ [] → r t = none := by
  simp [Silent]

/-- A reader that reads certain texts wherever they stand, and meets one of them where it reads
something, matches nowhere exactly when none of them occurs. -/
theorem silent_iff_of_shows {Shown : List Char → Prop} (nonempty : ∀ t, Shown t → t ≠ [])
    (reads : ∀ t rest, Shown t → r (t ++ rest) ≠ none)
    (shows : ∀ t found, r t = some found → ∃ u, Shown u ∧ u <:+: t) {s : List Char} :
    Silent r s [] ↔ ¬ ∃ t, Shown t ∧ t <:+: s := by
  rw [silent_iff]
  constructor
  · rintro silent ⟨t, shown, front, back, rfl⟩
    have suffix : t ++ back <:+ front ++ t ++ back := ⟨front, (List.append_assoc ..).symm⟩
    exact reads t back shown (silent _ suffix (by simp [nonempty t shown]))
  · intro clear t suffix _
    rw [Option.eq_none_iff_forall_not_mem]
    intro found read
    obtain ⟨u, shown, inside⟩ := shows t found read
    exact clear ⟨u, shown, inside.trans suffix.isInfix⟩

/-- A fixed text matches nowhere exactly when it does not occur. -/
theorem silent_literal_iff {needle s : List Char} (nonempty : needle ≠ []) :
    Silent (literal needle) s [] ↔ ¬ needle <:+: s := by
  have shown : needle <:+: s ↔ ∃ t, t = needle ∧ t <:+: s := by simp
  rw [shown]
  apply silent_iff_of_shows
  · rintro t rfl
    exact nonempty
  · rintro t rest rfl
    rw [literal_eq_some_iff.mpr rfl]
    exact Option.some_ne_none _
  · rintro t ⟨_, rest⟩ found
    rw [literal_eq_some_iff.mp found]
    exact ⟨needle, rfl, (List.prefix_append needle rest).isInfix⟩

theorem substitute_eq_self_of_silent {s : List Char} (silent : Silent r s []) :
    substitute r f s = s := by
  have whole := substitute_silent (f := f) silent
  rw [List.append_nil] at whole
  simpa [substitute, cut] using whole

/-- A text is not replaced where one of its characters is missing. -/
theorem replace_eq_self {needle replacement s : List Char} {c : Char} (hc : c ∈ needle)
    (missing : c ∉ s) : replace needle replacement s = s := by
  refine substitute_eq_self_of_silent ((silent_literal_iff (List.ne_nil_of_mem hc)).mpr ?_)
  exact fun occurs => missing (occurs.subset hc)

/-! ### Induction over the matches -/

/-- A substitution goes from match to match: it keeps what stands before a match, puts in what the
match is replaced by, and goes on behind it. -/
theorem substitute_induction (takes : Takes r) {P : List Char → List Char → Prop}
    (silent : ∀ gap, Silent r gap [] → P gap gap)
    (next : ∀ gap printed rest a, Silent r gap (printed ++ rest) →
      r (printed ++ rest) = some (a, rest) → P rest (substitute r f rest) →
      P (gap ++ (printed ++ rest)) (gap ++ (f a ++ substitute r f rest)))
    (s : List Char) : P s (substitute r f s) := by
  obtain ⟨found, scan⟩ := exists_scan takes s
  generalize (cut r s).1 = gap at scan
  induction scan with
  | @last gap quiet =>
    rw [substitute_eq_self_of_silent quiet]
    exact silent gap quiet
  | next quiet nonempty read _ ih =>
    rw [substitute_silent quiet, substitute_match nonempty read]
    exact next _ _ _ _ quiet read ih

/-- The same character by character: a character that starts no match is kept. -/
theorem substitute_cons_induction (takes : Takes r) {P : List Char → List Char → Prop}
    (nil : P [] [])
    (hit : ∀ printed rest a, printed ≠ [] → r (printed ++ rest) = some (a, rest) →
      P rest (substitute r f rest) → P (printed ++ rest) (f a ++ substitute r f rest))
    (miss : ∀ c s, r (c :: s) = none → P s (substitute r f s) → P (c :: s) (c :: substitute r f s))
    (s : List Char) : P s (substitute r f s) := by
  induction h : s.length using Nat.strong_induction_on generalizing s with
  | _ n ih =>
    subst h
    cases s with
    | nil => simpa [substitute, cut] using nil
    | cons c s =>
      cases read : r (c :: s) with
      | none =>
        have quiet : Silent r [c] s := silent_cons.mpr ⟨read, silent_nil s⟩
        have kept : substitute r f (c :: s) = c :: substitute r f s := substitute_silent quiet
        rw [kept]
        exact miss c s read (ih s.length (by simp) s rfl)
      | some found =>
        obtain ⟨a, rest⟩ := found
        obtain ⟨printed, nonempty, split⟩ := takes _ _ _ read
        rw [split] at read ih ⊢
        rw [substitute_match nonempty read]
        refine hit printed rest a nonempty read (ih rest.length ?_ rest rfl)
        have := List.length_pos_iff.mpr nonempty
        simp only [List.length_append]
        omega

/-- A substitution leaves characters of the text and puts in what it replaces matches by. -/
theorem mem_substitute (takes : Takes r) {s : List Char} {c : Char} (h : c ∈ substitute r f s) :
    c ∈ s ∨ ∃ t a rest, r t = some (a, rest) ∧ c ∈ f a := by
  refine substitute_induction (f := f) takes (P := fun s t => c ∈ t → c ∈ s ∨ _) ?_ ?_ s h
  · exact fun gap _ inGap => .inl inGap
  · intro gap printed rest a _ read ih inText
    rcases List.mem_append.mp inText with inGap | inText
    · exact .inl (List.mem_append_left _ inGap)
    · rcases List.mem_append.mp inText with put | later
      · exact .inr ⟨_, a, rest, read, put⟩
      · refine (ih later).imp_left fun inRest => ?_
        exact List.mem_append_right _ (List.mem_append_right _ inRest)

theorem takes_literal {needle : List Char} (nonempty : needle ≠ []) : Takes (literal needle) :=
  fun _ _ _ found => ⟨needle, nonempty, literal_eq_some_iff.mp found⟩

/-- A character at which something always matches is gone, when it is not put in again. -/
theorem notMem_substitute (takes : Takes r) {c : Char} (starts : ∀ rest, r (c :: rest) ≠ none)
    (others : ∀ a, c ∉ f a) (s : List Char) : c ∉ substitute r f s := by
  refine substitute_cons_induction (f := f) takes (P := fun _ t => c ∉ t) ?_ ?_ ?_ s
  · exact List.not_mem_nil
  · intro printed rest a _ _ ih
    simp only [List.mem_append, not_or]
    exact ⟨others a, ih⟩
  · intro d s missed ih
    refine List.not_mem_cons_of_ne_of_not_mem ?_ ih
    rintro rfl
    exact starts s missed

/-- A character that is replaced by others is gone. -/
theorem notMem_replace {c : Char} {replacement : List Char} (others : c ∉ replacement)
    (s : List Char) : c ∉ replace [c] replacement s := by
  refine notMem_substitute (takes_literal (List.cons_ne_nil c [])) (fun rest => ?_)
    (fun _ => others) s
  have found : literal [c] (c :: rest) = some ((), rest) := literal_eq_some_iff.mpr rfl
  rw [found]
  exact Option.some_ne_none _

/-! ### Weight -/

/-- The weight of a text, the sum of what its characters weigh. -/
def weigh (weight : Char → Int) : List Char → Int
  | [] => 0
  | c :: s => weight c + weigh weight s

variable {weight : Char → Int}

@[simp] theorem weigh_nil : weigh weight [] = 0 := rfl

@[simp] theorem weigh_cons (c : Char) (s : List Char) :
    weigh weight (c :: s) = weight c + weigh weight s := rfl

@[simp] theorem weigh_append (s t : List Char) :
    weigh weight (s ++ t) = weigh weight s + weigh weight t := by
  induction s with
  | nil => simp
  | cons c s ih => rw [List.cons_append, weigh_cons, weigh_cons, ih, add_assoc]

/-- A pass that leaves a text alone when a condition holds of it, and else makes it heavier. -/
structure Improves (weight : Char → Int) (pass : List Char → List Char)
    (Done : List Char → Prop) : Prop where
  stays : ∀ s, Done s → pass s = s
  gains : ∀ s, ¬ Done s → weigh weight s < weigh weight (pass s)

namespace Improves

variable {p q : List Char → List Char} {C D : List Char → Prop}

theorem le (h : Improves weight p C) (s : List Char) : weigh weight s ≤ weigh weight (p s) := by
  by_cases done : C s
  · rw [h.stays s done]
  · exact le_of_lt (h.gains s done)

/-- Only a text that a pass leaves alone keeps its weight. -/
theorem done_of_weigh_eq (h : Improves weight p C) {s : List Char}
    (same : weigh weight (p s) = weigh weight s) : C s := by
  by_contra undone
  exact absurd same (ne_of_gt (h.gains s undone))

/-- Two passes leave a text alone when each of them does; what the first one changes the second one
cannot undo. -/
theorem comp (hq : Improves weight q D) (hp : Improves weight p C) :
    Improves weight (q ∘ p) fun s => C s ∧ D s := by
  constructor
  · intro s ⟨first, second⟩
    rw [Function.comp_apply, hp.stays s first, hq.stays s second]
  · intro s undone
    rw [Function.comp_apply]
    by_cases first : C s
    · rw [hp.stays s first]
      exact hq.gains s fun second => undone ⟨first, second⟩
    · exact lt_of_lt_of_le (hp.gains s first) (hq.le (p s))

theorem congr (h : Improves weight p C) (same : ∀ s, C s ↔ D s) : Improves weight p D :=
  ⟨fun s done => h.stays s ((same s).mpr done), fun s undone => h.gains s (mt (same s).mp undone)⟩

/-- To put something heavier in the place of every match improves a text in which something
matches. -/
theorem substitute (takes : Takes r)
    (heavier : ∀ printed rest a, r (printed ++ rest) = some (a, rest) →
      weigh weight printed < weigh weight (f a)) :
    Improves weight (substitute r f) (Silent r · []) := by
  constructor
  · exact fun s silent => substitute_eq_self_of_silent silent
  · intro s matching
    refine (substitute_induction (f := f) takes
      (P := fun s t => Silent r s [] ∧ t = s ∨ weigh weight s < weigh weight t)
      ?_ ?_ s).resolve_left fun silent => matching silent.1
    · exact fun gap silent => .inl ⟨silent, rfl⟩
    · intro gap printed rest a _ read ih
      have put := heavier printed rest a read
      have later : weigh weight rest ≤ weigh weight (Text.substitute r f rest) := by
        rcases ih with ⟨-, same⟩ | more
        · rw [same]
        · exact le_of_lt more
      right
      simp only [weigh_append]
      omega

end Improves

end RouteAlerts.Text
