import Mathlib.Data.List.Forall2
import RouteAlerts.Json.Decoder
import RouteAlerts.Proofs.Bytes.Utf8
import RouteAlerts.Proofs.Text.Digits

/-!
JSON texts. `Writes` is their grammar, apart from how they are read: which texts stand for which
value, with blanks between their parts, strings spelled in any of the ways their characters can be,
and numbers as they are kept. Every such text is read as its value (`readText_of_writes`), and its
bytes are, too (`readBytes_of_writes`).
-/

namespace RouteAlerts.Json

open Text

/-! ### Blanks -/

/-- Blanks that may stand between the parts of a JSON text. -/
def IsGap (s : List Char) : Prop := ∀ c ∈ s, c ∈ [' ', '\n', '\t', '\r']

theorem skipBlanks_gap {gap : List Char} (h : IsGap gap) (s : Units) :
    skipBlanks (gap.map some ++ s) = skipBlanks s := by
  induction gap with
  | nil => rfl
  | cons c gap ih =>
    obtain ⟨own, others⟩ := List.forall_mem_cons.mp h
    have later := ih others
    simp only [List.mem_cons, List.not_mem_nil, or_false] at own
    rcases own with rfl | rfl | rfl | rfl <;> exact later

/-- What a value is read from may have blanks in front of it. -/
theorem value_congr {fuel : Nat} {s t : Units} (h : skipBlanks s = skipBlanks t) :
    value fuel s = value fuel t := by
  cases fuel with
  | zero => rfl
  | succ fuel => rw [value, value, h]

theorem items_congr {fuel : Nat} {s t : Units} (h : skipBlanks s = skipBlanks t) :
    items fuel s = items fuel t := by
  cases fuel with
  | zero => rfl
  | succ fuel => rw [items, items, value_congr h]

theorem members_congr {fuel : Nat} {s t : Units} (h : skipBlanks s = skipBlanks t) :
    members fuel s = members fuel t := by
  cases fuel with
  | zero => rfl
  | succ fuel => rw [members, members, h]

theorem skipBlanks_skipBlanks (s : Units) : skipBlanks (skipBlanks s) = skipBlanks s := by
  fun_induction skipBlanks s with
  | case1 s ih => exact ih
  | case2 s ih => exact ih
  | case3 s ih => exact ih
  | case4 s ih => exact ih
  | case5 s h1 h2 h3 h4 => rw [skipBlanks] <;> assumption

/-! ### Strings -/

/-- How a piece of a string may be written. -/
inductive PieceText : Piece → List Char → Prop where
  | plain {c : Char} (quote : c ≠ '"') (backslash : c ≠ '\\') (printable : ¬ c.toNat < 0x20) :
      PieceText (.char c) [c]
  | letter {e c : Char} (known : escaped? e = some c) : PieceText (.char c) ['\\', e]
  | number {a b c d : Char} {i j k l : Nat} (ha : hexValue? (some a) = some i)
      (hb : hexValue? (some b) = some j) (hc : hexValue? (some c) = some k)
      (hd : hexValue? (some d) = some l) :
      PieceText (.unit (((i * 16 + j) * 16 + k) * 16 + l)) ['\\', 'u', a, b, c, d]

/-- A string, by what it is made of, and how it may be written. -/
inductive StringText : Option (List Char) → List Char → Prop where
  | mk {ps : List Piece} {texts : List (List Char)} (h : List.Forall₂ PieceText ps texts) :
      StringText (textOf? ps) ('"' :: texts.flatten ++ ['"'])

theorem pieces_letter {e d : Char} (other : e ≠ 'u') (known : escaped? e = some d) (rest : Units) :
    pieces (some '\\' :: some e :: rest) =
      (pieces rest).map fun (ps, s) => (.char d :: ps, s) := by
  rw [pieces, known]
  · cases pieces rest <;> rfl
  · intro a b c d s _
    exact other

theorem pieces_number {a b c d : Option Char} {i j k l : Nat} (ha : hexValue? a = some i)
    (hb : hexValue? b = some j) (hc : hexValue? c = some k) (hd : hexValue? d = some l)
    (rest : Units) : pieces (some '\\' :: some 'u' :: a :: b :: c :: d :: rest) =
      (pieces rest).map fun (ps, s) => (.unit (((i * 16 + j) * 16 + k) * 16 + l) :: ps, s) := by
  rw [pieces, ha, hb, hc, hd]
  cases pieces rest <;> rfl

theorem pieces_plain {c : Char} (quote : c ≠ '"') (backslash : c ≠ '\\')
    (printable : ¬ c.toNat < 0x20) (rest : Units) :
    pieces (some c :: rest) = (pieces rest).map fun (ps, s) => (.char c :: ps, s) := by
  rw [pieces]
  · simp [printable, backslash]
  · exact quote
  · intro a b c d s _
    exact backslash
  · intro e s _
    exact backslash

theorem pieces_pieceText {p : Piece} {t : List Char} (h : PieceText p t) (rest : Units) :
    pieces (t.map some ++ rest) = (pieces rest).map fun (ps, s) => (p :: ps, s) := by
  cases h with
  | plain quote backslash printable => exact pieces_plain quote backslash printable rest
  | @letter e c known =>
    have other : e ≠ 'u' := by
      rintro rfl
      cases known
    exact pieces_letter other known rest
  | number ha hb hc hd => exact pieces_number ha hb hc hd rest

theorem pieces_texts {ps : List Piece} {texts : List (List Char)}
    (h : List.Forall₂ PieceText ps texts) (rest : Units) :
    pieces (texts.flatten.map some ++ some '"' :: rest) = some (ps, rest) := by
  induction h with
  | nil => simp [pieces]
  | cons first _ ih =>
    rw [List.flatten_cons, List.map_append, List.append_assoc, pieces_pieceText first, ih]
    rfl

/-- A string is read from behind its opening quote, however it is written. -/
theorem exists_string_of_stringText {key : Option (List Char)} {t : List Char}
    (h : StringText key t) (rest : Units) : ∃ body : Units,
      t.map some ++ rest = some '"' :: body ∧ string body = some (key, rest) := by
  obtain ⟨h⟩ := h
  rename_i ps texts
  refine ⟨texts.flatten.map some ++ some '"' :: rest, by simp, ?_⟩
  rw [string, pieces_texts h]
  rfl

/-! ### Numbers -/

/-- Whether a text starts with no character of a kind. -/
def Stops (kind : Char → Bool) (s : Units) : Prop := ∀ c, s.head? = some (some c) → kind c = false

/-- The characters with which a number may go on. -/
def continues (c : Char) : Bool := isAsciiDigit c || c == '.' || c == 'e' || c == 'E'

def IsDigits (s : List Char) : Prop := s ≠ [] ∧ ∀ c ∈ s, isAsciiDigit c = true

/-- How the digits behind the point may be written. -/
inductive FractionText : List Char → List Char → Prop where
  | absent : FractionText [] []
  | present {digits : List Char} (h : IsDigits digits) : FractionText digits ('.' :: digits)

/-- How a power of ten may be written. -/
inductive PowerText : Option (Bool × List Char) → List Char → Prop where
  | absent : PowerText none []
  | plain {e : Char} {digits : List Char} (he : e ∈ ['e', 'E']) (h : IsDigits digits) :
      PowerText (some (false, digits)) (e :: digits)
  | plus {e : Char} {digits : List Char} (he : e ∈ ['e', 'E']) (h : IsDigits digits) :
      PowerText (some (false, digits)) (e :: '+' :: digits)
  | minus {e : Char} {digits : List Char} (he : e ∈ ['e', 'E']) (h : IsDigits digits) :
      PowerText (some (true, digits)) (e :: '-' :: digits)

/-- How a number may be written. A zero in front of its whole digits stands alone. -/
inductive NumberText : Number → List Char → Prop where
  | mk {negative : Bool} {whole fraction f p : List Char} {power : Option (Bool × List Char)}
      (hw : IsDigits whole) (zero : whole.head? = some '0' → whole = ['0'])
      (hf : FractionText fraction f) (hp : PowerText power p) :
      NumberText ⟨negative, whole, fraction, power⟩
        ((if negative then ['-'] else []) ++ (whole ++ (f ++ p)))

theorem digitsOf_append {digits : List Char} (h : ∀ c ∈ digits, isAsciiDigit c = true)
    {rest : Units} (stop : Stops isAsciiDigit rest) :
    digitsOf (digits.map some ++ rest) = (digits, rest) := by
  induction digits with
  | nil =>
    cases rest with
    | nil => rfl
    | cons u rest =>
      cases u with
      | none => rfl
      | some c =>
        have other := stop c rfl
        simp [digitsOf, other]
  | cons c digits ih =>
    obtain ⟨own, others⟩ := List.forall_mem_cons.mp h
    simp [digitsOf, own, ih others]

theorem wholeDigits_append {whole : List Char} (h : IsDigits whole)
    (zero : whole.head? = some '0' → whole = ['0']) {rest : Units}
    (stop : Stops isAsciiDigit rest) :
    wholeDigits (whole.map some ++ rest) = some (whole, rest) := by
  obtain ⟨nonempty, digits⟩ := h
  rw [wholeDigits, digitsOf_append digits stop]
  split
  · rename_i eq
    exact absurd (congrArg Prod.fst eq) nonempty
  · rename_i eq
    have own : whole = _ := congrArg Prod.fst eq
    subst own
    cases zero rfl
  · rfl

theorem Stops.mono {p q : Char → Bool} (h : ∀ c, p c = true → q c = true) {s : Units}
    (stop : Stops q s) : Stops p s := by
  intro c front
  have other := stop c front
  by_contra own
  rw [Bool.not_eq_false] at own
  rw [h c own] at other
  cases other

theorem stops_cons {kind : Char → Bool} {c : Char} (h : kind c = false) (s : Units) :
    Stops kind (some c :: s) := by
  intro d front
  obtain rfl := Option.some.inj (Option.some.inj front)
  exact h

/-- The characters with which whole digits may go on, or a fraction may start. -/
def lengthens (c : Char) : Bool := isAsciiDigit c || c == '.'

theorem fractionDigits_append {fraction f : List Char} (h : FractionText fraction f) {rest : Units}
    (stop : Stops lengthens rest) :
    fractionDigits (f.map some ++ rest) = some (fraction, rest) := by
  cases h with
  | absent =>
    rw [List.map_nil, List.nil_append, fractionDigits]
    rintro behind rfl
    cases stop '.' rfl
  | present h =>
    obtain ⟨nonempty, digits⟩ := h
    have taken := digitsOf_append digits (stop.mono fun c h => by simp [lengthens, h])
    rw [List.map_cons, List.cons_append, fractionDigits, taken]
    split
    · rename_i eq
      exact absurd (congrArg Prod.fst eq) nonempty
    · rfl

theorem stops_fraction {fraction f : List Char} (h : FractionText fraction f) {rest : Units}
    (stop : Stops lengthens rest) : Stops isAsciiDigit (f.map some ++ rest) := by
  cases h with
  | absent => exact stop.mono fun c h => by simp [lengthens, h]
  | present => exact stops_cons (by decide) _

theorem powerDigits_append {power : Option (Bool × List Char)} {p : List Char}
    (h : PowerText power p) {rest : Units} (stop : Stops continues rest) :
    powerDigits (p.map some ++ rest) = some (power, rest) := by
  -- Without a sign the first digit must not be taken for one.
  have taken : ∀ {digits : List Char}, IsDigits digits → ∃ d others, digits = d :: others ∧
      d ≠ '-' ∧ d ≠ '+' ∧ digitsOf (some d :: (others.map some ++ rest)) = (d :: others, rest) := by
    intro digits h
    obtain ⟨d, others, rfl⟩ := List.exists_cons_of_ne_nil h.1
    have digit : isAsciiDigit d = true := h.2 d List.mem_cons_self
    exact ⟨d, others, rfl, fun eq => by simp [eq, isAsciiDigit] at digit,
      fun eq => by simp [eq, isAsciiDigit] at digit,
      digitsOf_append h.2 (stop.mono fun c h => by simp [continues, h])⟩
  cases h with
  | absent =>
    rw [List.map_nil, List.nil_append]
    unfold powerDigits
    split
    · cases stop 'e' rfl
    · cases stop 'E' rfl
    · rfl
  | plain he h =>
    obtain ⟨d, others, rfl, minus, plus, own⟩ := taken h
    simp only [List.mem_cons, List.not_mem_nil, or_false] at he
    rcases he with rfl | rfl <;> simp [powerDigits, minus, plus, own]
  | plus he h =>
    obtain ⟨d, others, rfl, -, -, own⟩ := taken h
    simp only [List.mem_cons, List.not_mem_nil, or_false] at he
    rcases he with rfl | rfl <;> simp [powerDigits, own]
  | minus he h =>
    obtain ⟨d, others, rfl, -, -, own⟩ := taken h
    simp only [List.mem_cons, List.not_mem_nil, or_false] at he
    rcases he with rfl | rfl <;> simp [powerDigits, own]

theorem stops_power {power : Option (Bool × List Char)} {p : List Char} (h : PowerText power p)
    {rest : Units} (stop : Stops continues rest) : Stops lengthens (p.map some ++ rest) := by
  have letter : ∀ e ∈ ['e', 'E'], lengthens e = false := by simp [lengthens, isAsciiDigit]
  cases h with
  | absent => exact stop.mono fun c h => by simp_all [lengthens, continues]
  | plain he => exact stops_cons (letter _ he) _
  | plus he => exact stops_cons (letter _ he) _
  | minus he => exact stops_cons (letter _ he) _

/-- A number is read up to where it cannot go on. -/
theorem number_append {n : Number} {t : List Char} (h : NumberText n t) {rest : Units}
    (stop : Stops continues rest) : number (t.map some ++ rest) = some (n, rest) := by
  cases h with
  | @mk negative whole fraction f p power hw zero hf hp =>
    have behindPower := powerDigits_append hp stop
    have behindFraction := fractionDigits_append hf (stops_power hp stop)
    have behindWhole := wholeDigits_append hw zero (stops_fraction hf (stops_power hp stop))
    obtain ⟨d, others, rfl⟩ := List.exists_cons_of_ne_nil hw.1
    have digit : isAsciiDigit d = true := hw.2 d List.mem_cons_self
    have minus : d ≠ '-' := fun eq => by simp [eq, isAsciiDigit] at digit
    rw [List.map_cons, List.cons_append] at behindWhole
    cases negative with
    | false => simp [number, minus, behindWhole, behindFraction, behindPower]
    | true => simp [number, behindWhole, behindFraction, behindPower]

/-! ### Values -/

/-- What a text can stand for: a value, a value with blanks around it, what stands between the
brackets of an array, or what stands between the braces of an object. -/
inductive Form where
  | value (v : Raw)
  | padded (v : Raw)
  | items (vs : List Raw)
  | members (ms : List (Option (List Char) × Raw))

/-- The texts that stand for a value, or for a part of one. -/
inductive Writes : Form → List Char → Prop where
  | null : Writes (.value .null) "null".toList
  | true : Writes (.value (.bool true)) "true".toList
  | false : Writes (.value (.bool false)) "false".toList
  | number {n : Number} {t : List Char} (h : NumberText n t) : Writes (.value (.number n)) t
  | string {s : Option (List Char)} {t : List Char} (h : StringText s t) :
      Writes (.value (.string s)) t
  | emptyArray {gap : List Char} (h : IsGap gap) :
      Writes (.value (.array [])) ('[' :: gap ++ [']'])
  | array {vs : List Raw} {t : List Char} (h : Writes (.items vs) t) :
      Writes (.value (.array vs)) ('[' :: t ++ [']'])
  | emptyObject {gap : List Char} (h : IsGap gap) :
      Writes (.value (.object [])) ('\x7b' :: gap ++ ['\x7d'])
  | object {ms : List (Option (List Char) × Raw)} {t : List Char} (h : Writes (.members ms) t) :
      Writes (.value (.object ms)) ('\x7b' :: t ++ ['\x7d'])
  | padded {v : Raw} {front t back : List Char} (hf : IsGap front) (h : Writes (.value v) t)
      (hb : IsGap back) : Writes (.padded v) (front ++ t ++ back)
  | lastItem {v : Raw} {t : List Char} (h : Writes (.padded v) t) : Writes (.items [v]) t
  | item {v : Raw} {vs : List Raw} {t u : List Char} (h : Writes (.padded v) t)
      (later : Writes (.items vs) u) : Writes (.items (v :: vs)) (t ++ ',' :: u)
  | lastMember {key : Option (List Char)} {v : Raw} {front k back t : List Char}
      (hf : IsGap front) (hk : StringText key k) (hb : IsGap back) (h : Writes (.padded v) t) :
      Writes (.members [(key, v)]) (front ++ k ++ back ++ ':' :: t)
  | member {key : Option (List Char)} {v : Raw} {ms : List (Option (List Char) × Raw)}
      {front k back t u : List Char} (hf : IsGap front) (hk : StringText key k) (hb : IsGap back)
      (h : Writes (.padded v) t) (later : Writes (.members ms) u) :
      Writes (.members ((key, v) :: ms)) (front ++ k ++ back ++ ':' :: (t ++ ',' :: u))

/-- A value needs no blanks around it. -/
theorem Writes.bare {v : Raw} {t : List Char} (h : Writes (.value v) t) : Writes (.padded v) t := by
  have none_blank : IsGap [] := fun _ hc => absurd hc List.not_mem_nil
  simpa using Writes.padded none_blank h none_blank

/-! ### Steps of the reader -/

section Steps

variable {fuel : Nat} {s body behind more rest : Units} {v : Raw} {vs : List Raw}
  {key : Option (List Char)} {ms : List (Option (List Char) × Raw)}

theorem items_bracket (front : skipBlanks s = some ']' :: rest) : items fuel s = none := by
  cases fuel with
  | zero => rfl
  | succ fuel =>
    have refused : value fuel s = none := by
      cases fuel with
      | zero => rfl
      | succ fuel =>
        rw [value, front]
        rfl
    rw [items, refused]

theorem members_brace (front : skipBlanks s = some '\x7d' :: rest) : members fuel s = none := by
  cases fuel with
  | zero => rfl
  | succ fuel =>
    rw [members, front]
    rfl

theorem value_emptyArray (closed : skipBlanks s = some ']' :: rest) :
    value (fuel + 1) (some '[' :: s) = some (.array [], rest) := by
  have opened : skipBlanks (some '[' :: s) = some '[' :: s := rfl
  rw [value, opened]
  simp only [closed]

theorem value_items (h : items fuel s = some (vs, rest)) :
    value (fuel + 1) (some '[' :: s) = some (.array vs, rest) := by
  have opened : skipBlanks (some '[' :: s) = some '[' :: s := rfl
  rw [value, opened]
  simp only
  split
  · rename_i front
    rw [items_bracket front] at h
    cases h
  · rw [items_congr (skipBlanks_skipBlanks s), h]
    rfl

theorem value_emptyObject (closed : skipBlanks s = some '\x7d' :: rest) :
    value (fuel + 1) (some '\x7b' :: s) = some (.object [], rest) := by
  have opened : skipBlanks (some '\x7b' :: s) = some '\x7b' :: s := rfl
  rw [value, opened]
  simp only [closed]

theorem value_members (h : members fuel s = some (ms, rest)) :
    value (fuel + 1) (some '\x7b' :: s) = some (.object ms, rest) := by
  have opened : skipBlanks (some '\x7b' :: s) = some '\x7b' :: s := rfl
  rw [value, opened]
  simp only
  split
  · rename_i front
    rw [members_brace front] at h
    cases h
  · rw [members_congr (skipBlanks_skipBlanks s), h]
    rfl

theorem value_stringText {t : List Char} (h : StringText key t) (rest : Units) :
    value (fuel + 1) (t.map some ++ rest) = some (.string key, rest) := by
  obtain ⟨body, opened, read⟩ := exists_string_of_stringText h rest
  have front : skipBlanks (some '"' :: body) = some '"' :: body := rfl
  rw [opened, value, front]
  simp only [read, Option.map_some]

theorem items_last (read : value fuel s = some (v, behind))
    (closed : skipBlanks behind = some ']' :: rest) : items (fuel + 1) s = some ([v], rest) := by
  rw [items, read]
  simp only [closed]

theorem items_cons (read : value fuel s = some (v, behind))
    (comma : skipBlanks behind = some ',' :: more) (later : items fuel more = some (vs, rest)) :
    items (fuel + 1) s = some (v :: vs, rest) := by
  rw [items, read]
  simp only [comma, later, Option.map_some]

/-- Whether a member with this key starts here, with the value behind its colon. -/
def StartsMember (key : Option (List Char)) (s tail : Units) : Prop :=
  ∃ body behind, skipBlanks s = some '"' :: body ∧ string body = some (key, behind) ∧
    skipBlanks behind = some ':' :: tail

theorem members_last {tail : Units} (start : StartsMember key s tail)
    (read : value fuel tail = some (v, behind)) (closed : skipBlanks behind = some '\x7d' :: rest) :
    members (fuel + 1) s = some ([(key, v)], rest) := by
  obtain ⟨body, afterKey, opened, readKey, colon⟩ := start
  rw [members, opened]
  simp only [readKey, colon, read, closed]

theorem members_cons {tail : Units} (start : StartsMember key s tail)
    (read : value fuel tail = some (v, behind)) (comma : skipBlanks behind = some ',' :: more)
    (later : members fuel more = some (ms, rest)) :
    members (fuel + 1) s = some ((key, v) :: ms, rest) := by
  obtain ⟨body, afterKey, opened, readKey, colon⟩ := start
  rw [members, opened]
  simp only [readKey, colon, read, comma, later, Option.map_some]

/-- The key of a member is read up to its colon. -/
theorem startsMember_append {front k back : List Char} (hf : IsGap front) (hk : StringText key k)
    (hb : IsGap back) (tail : Units) :
    StartsMember key ((front ++ k ++ back).map some ++ some ':' :: tail) tail := by
  obtain ⟨body, opened, read⟩ := exists_string_of_stringText hk (back.map some ++ some ':' :: tail)
  refine ⟨body, _, ?_, read, skipBlanks_gap hb _⟩
  rw [List.map_append, List.map_append, List.append_assoc, List.append_assoc, skipBlanks_gap hf,
    opened]
  rfl

end Steps

/-- A number starts with its sign or with a digit. -/
theorem exists_start_of_numberText {n : Number} {t : List Char} (h : NumberText n t) :
    ∃ c u, t = c :: u ∧ (c = '-' ∨ isAsciiDigit c = true) := by
  cases h with
  | @mk negative whole fraction f p power hw zero hf hp =>
    cases negative with
    | true => exact ⟨'-', _, rfl, .inl rfl⟩
    | false =>
      obtain ⟨d, others, rfl⟩ := List.exists_cons_of_ne_nil hw.1
      exact ⟨d, _, rfl, .inr (hw.2 d List.mem_cons_self)⟩

/-- A number is read where a value is. -/
theorem value_numberText {fuel : Nat} {n : Number} {t : List Char} (h : NumberText n t)
    {rest : Units} (stop : Stops continues rest) :
    value (fuel + 1) (t.map some ++ rest) = some (.number n, rest) := by
  have read := number_append h stop
  obtain ⟨c, u, rfl, start⟩ := exists_start_of_numberText h
  have others : ∀ d ∈ [' ', '\n', '\t', '\r', 'n', 't', 'f', '"', '[', '\x7b'],
      ¬ (d = '-' ∨ isAsciiDigit d = true) := by
    simp [isAsciiDigit]
  have apart : ∀ d ∈ [' ', '\n', '\t', '\r', 'n', 't', 'f', '"', '[', '\x7b'], c ≠ d := by
    rintro d hd rfl
    exact others c hd start
  simp only [List.forall_mem_cons] at apart
  obtain ⟨h1, h2, h3, h4, h5, h6, h7, h8, h9, h10, -⟩ := apart
  rw [List.map_cons, List.cons_append] at read ⊢
  simp [value, skipBlanks, h1, h2, h3, h4, h5, h6, h7, h8, h9, h10, read]

/-! ### Texts and what is read from them -/

/-- What a text has to be read as to be read as a form, whatever stands behind it. -/
def Form.IsReadFrom : Form → List Char → Prop
  | .value v, t => ∀ {fuel : Nat}, t.length < fuel → ∀ {rest : Units}, Stops continues rest →
      Json.value fuel (t.map some ++ rest) = some (v, rest)
  | .padded v, t => ∀ {fuel : Nat}, t.length < fuel → ∀ {rest : Units}, Stops continues rest →
      ∃ behind, Json.value fuel (t.map some ++ rest) = some (v, behind) ∧
        skipBlanks behind = skipBlanks rest
  | .items vs, t => ∀ {fuel : Nat}, t.length + 1 < fuel → ∀ rest : Units,
      Json.items fuel (t.map some ++ some ']' :: rest) = some (vs, rest)
  | .members ms, t => ∀ {fuel : Nat}, t.length + 1 < fuel → ∀ rest : Units,
      Json.members fuel (t.map some ++ some '\x7d' :: rest) = some (ms, rest)

theorem stops_gap {gap : List Char} (h : IsGap gap) {rest : Units} (stop : Stops continues rest) :
    Stops continues (gap.map some ++ rest) := by
  have blanks : ∀ c ∈ [' ', '\n', '\t', '\r'], continues c = false := by
    simp [continues, isAsciiDigit]
  cases gap with
  | nil => exact stop
  | cons c gap => exact stops_cons (blanks c (h c List.mem_cons_self)) _

/-- Each text is read as what it stands for: the reader goes through it as the grammar builds it
up, with fuel to spare for every part, and a number ends where the next part begins. -/
theorem isReadFrom_of_writes {form : Form} {t : List Char} (h : Writes form t) :
    form.IsReadFrom t := by
  have more : ∀ {n fuel : Nat}, n < fuel → ∃ less, fuel = less + 1 :=
    fun {n fuel} enough => ⟨fuel - 1, by omega⟩
  -- On how the text is built up. A list gives each of its parts what fuel it has left, and that
  -- is enough: the part is shorter than the list by a bracket or a comma at least.
  induction h with
  | null =>
    intro fuel enough rest _
    obtain ⟨fuel, rfl⟩ := more enough
    rfl
  | true =>
    intro fuel enough rest _
    obtain ⟨fuel, rfl⟩ := more enough
    rfl
  | false =>
    intro fuel enough rest _
    obtain ⟨fuel, rfl⟩ := more enough
    rfl
  | number h =>
    intro fuel enough rest stop
    obtain ⟨fuel, rfl⟩ := more enough
    exact value_numberText h stop
  | string h =>
    intro fuel enough rest _
    obtain ⟨fuel, rfl⟩ := more enough
    exact value_stringText h rest
  | @emptyArray gap h =>
    intro fuel enough rest _
    obtain ⟨fuel, rfl⟩ := more enough
    simpa using value_emptyArray (skipBlanks_gap h (some ']' :: rest))
  | @array vs t h ih =>
    intro fuel enough rest _
    obtain ⟨fuel, rfl⟩ := more enough
    simpa using value_items (@ih fuel (by simp at enough; omega) rest)
  | @emptyObject gap h =>
    intro fuel enough rest _
    obtain ⟨fuel, rfl⟩ := more enough
    simpa using value_emptyObject (skipBlanks_gap h (some '\x7d' :: rest))
  | @object ms t h ih =>
    intro fuel enough rest _
    obtain ⟨fuel, rfl⟩ := more enough
    simpa using value_members (@ih fuel (by simp at enough; omega) rest)
  | @padded v front t back hf _ hb ih =>
    intro fuel enough rest stop
    simp only [List.length_append] at enough
    -- A number that ends at a blank is read to its end, so the blanks behind are left for later.
    have read := @ih fuel (by omega) _ (stops_gap hb stop)
    refine ⟨_, ?_, skipBlanks_gap hb rest⟩
    rw [List.map_append, List.map_append, List.append_assoc, List.append_assoc,
      value_congr (skipBlanks_gap hf _), read]
  | @lastItem v t _ ih =>
    intro fuel enough rest
    obtain ⟨fuel, rfl⟩ := more enough
    obtain ⟨behind, read, ends⟩ := @ih fuel (by omega) (some ']' :: rest) (stops_cons (by decide) _)
    exact items_last read ends
  | @item v vs t u _ _ ih ihLater =>
    intro fuel enough rest
    obtain ⟨fuel, rfl⟩ := more enough
    simp only [List.length_append, List.length_cons] at enough
    obtain ⟨behind, read, ends⟩ := @ih fuel (by omega)
      (some ',' :: (u.map some ++ some ']' :: rest)) (stops_cons (by decide) _)
    simpa using items_cons read ends (@ihLater fuel (by omega) rest)
  | @lastMember key v front k back t hf hk hb _ ih =>
    intro fuel enough rest
    obtain ⟨fuel, rfl⟩ := more enough
    simp only [List.length_append, List.length_cons] at enough
    obtain ⟨behind, read, ends⟩ := @ih fuel (by omega) (some '\x7d' :: rest)
      (stops_cons (by decide) _)
    simpa using members_last (startsMember_append hf hk hb _) read ends
  | @member key v ms front k back t u hf hk hb _ _ ih ihLater =>
    intro fuel enough rest
    obtain ⟨fuel, rfl⟩ := more enough
    simp only [List.length_append, List.length_cons] at enough
    obtain ⟨behind, read, ends⟩ := @ih fuel (by omega)
      (some ',' :: (u.map some ++ some '\x7d' :: rest)) (stops_cons (by decide) _)
    simpa using members_cons (startsMember_append hf hk hb _) read ends
      (@ihLater fuel (by omega) rest)

/-- Every text that stands for a value is read as it. -/
theorem readText_of_writes {v : Raw} {t : List Char} (h : Writes (.padded v) t) :
    readText t = some v := by
  obtain ⟨behind, read, ends⟩ := @isReadFrom_of_writes _ t h (t.length + 1) (by omega) []
    (fun _ front => by cases front)
  rw [List.append_nil] at read
  rw [readText, readUnits, List.length_map, read]
  simp [ends, skipBlanks]

/-- So are its bytes. -/
theorem readBytes_of_writes {v : Raw} {t : List Char} (h : Writes (.padded v) t) :
    readBytes (Utf8.encode t) = some v := by
  rw [readBytes, Utf8.units_encode]
  exact readText_of_writes h

end RouteAlerts.Json
