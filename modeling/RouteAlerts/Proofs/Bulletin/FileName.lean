import RouteAlerts.Bulletin.Attachment
import RouteAlerts.Proofs.Bytes.Percent
import RouteAlerts.Proofs.Text.Hangul
import RouteAlerts.Proofs.Text.Substitute

/-!
The file name in a message head. A name in the extended form, percent-coded and marked with its
character set, is found and read back whatever its characters are (`fileName?_extended`): the coding
leaves in it none of the characters by which the parameter is cut out, trimmed and split.
-/

namespace RouteAlerts.Bulletin

open Text

variable {c : Char} {name : List Char}

/-! ### Coded names -/

/-- The characters that stand for themselves in the extended form: letters, digits and four marks.
-/
def isUnreserved (c : Char) : Bool := c.isAlphanum || "-._~".toList.contains c

/-- A name in the extended form. -/
def codedName (name : List Char) : List Char := Percent.encodeWhere (!isUnreserved ·) name

/-- A character by which a parameter is neither cut out nor trimmed nor split. -/
structure IsInert (c : Char) : Prop where
  notBlank : isBlank c = false
  notSemicolon : c ≠ ';'
  notDouble : c ≠ '"'
  notSingle : c ≠ '\x27'

theorem isInert_percent : IsInert '%' := by
  constructor <;> decide

/-- Letters and digits lie behind the blanks and the quotes of ASCII, and a semicolon is neither. -/
theorem isInert_of_isAlphanum (h : c.isAlphanum = true) : IsInert c := by
  have codes : isBlank c = false ∧ 48 ≤ c.toNat ∧ c.toNat ≠ 59 := by
    rcases Bool.or_eq_true_iff.mp (show (c.isAlpha || c.isDigit) = true from h) with alpha | digit
    · have letter : isLetter c = true := by rw [isLetter, alpha, Bool.or_true]
      have codes := letter_codes letter
      exact ⟨isBlank_eq_false_of_isLetter letter, by omega, by omega⟩
    · have digit : isAsciiDigit c = true := digit
      have codes := isAsciiDigit_iff.mp digit
      exact ⟨isBlank_eq_false_of_isAsciiDigit digit, by omega, by omega⟩
  obtain ⟨notBlank, least, notSemicolon⟩ := codes
  refine ⟨notBlank, ?_, ?_, ?_⟩
  · rintro rfl
    exact notSemicolon rfl
  · rintro rfl
    exact absurd least (by decide)
  · rintro rfl
    exact absurd least (by decide)

theorem isInert_of_isUnreserved (h : isUnreserved c = true) : IsInert c := by
  rcases Bool.or_eq_true_iff.mp h with alphanumeric | mark
  · exact isInert_of_isAlphanum alphanumeric
  · have marks : c = '-' ∨ c = '.' ∨ c = '_' ∨ c = '~' := by simpa using mark
    rcases marks with rfl | rfl | rfl | rfl <;> constructor <;> decide

theorem isInert_of_mem_codedName (h : c ∈ codedName name) : IsInert c := by
  rcases Percent.mem_encodeWhere h with rfl | alphanumeric | free
  · exact isInert_percent
  · exact isInert_of_isAlphanum alphanumeric
  · exact isInert_of_isUnreserved (by simpa using free)

/-- A coded name stands for the name. -/
theorem decode_codedName (name : List Char) :
    Utf8.decode (Percent.decode (Utf8.encode (codedName name))) = name := by
  rw [codedName, Percent.decode_encodeWhere (by decide), Utf8.decode_encode]

example : codedName "집 회.pdf".toList = "%EC%A7%91%20%ED%9A%8C.pdf".toList := by decide

/-! ### The character set -/

/-- What changes in upper case was one of the small letters. -/
theorem toUpper_eq_or (c : Char) : c.toUpper = c ∨ 97 ≤ c.toNat ∧ c.toNat ≤ 122 := by
  unfold Char.toUpper
  split
  · rename_i lower
    exact .inr ⟨UInt32.le_iff_toNat_le.mp lower.1, UInt32.le_iff_toNat_le.mp lower.2⟩
  · exact .inl rfl

/-- The name of the character set, in any letter case. -/
def IsUtf8Label (label : List Char) : Prop := label.map Char.toUpper = "UTF-8".toList

instance (label : List Char) : Decidable (IsUtf8Label label) :=
  inferInstanceAs (Decidable (label.map Char.toUpper = "UTF-8".toList))

theorem IsUtf8Label.isInert {label : List Char} (h : IsUtf8Label label) (hc : c ∈ label) :
    IsInert c := by
  have upper : c.toUpper ∈ "UTF-8".toList := h ▸ List.mem_map_of_mem hc
  rcases toUpper_eq_or c with same | ⟨least, greatest⟩
  · rw [same] at upper
    have letters : "UTF-8".toList.all isUnreserved = true := by decide
    exact isInert_of_isUnreserved (List.all_eq_true.mp letters c upper)
  · have small : c.isLower = true := by
      have bounds : 97 ≤ c.val ∧ c.val ≤ 122 :=
        ⟨UInt32.le_iff_toNat_le.mpr least, UInt32.le_iff_toNat_le.mpr greatest⟩
      exact Bool.and_eq_true_iff.mpr (bounds.imp decide_eq_true decide_eq_true)
    have letter : c.isAlpha = true := Bool.or_eq_true_iff.mpr (.inr small)
    exact isInert_of_isAlphanum (Bool.or_eq_true_iff.mpr (.inl letter))

/-! ### Finding the parameter -/

/-- The value of the parameter goes on to the next semicolon or to the end. -/
theorem fileNameParameter?_extended {value further : List Char} (nonempty : value ≠ [])
    (clear : ∀ c ∈ value, c ≠ ';') (stop : ∀ c ∈ further.head?, c = ';') :
    fileNameParameter? ("filename*=".toList ++ value ++ further) = some (value, further) := by
  have key : literal "filename".toList ("filename*=".toList ++ value ++ further) =
      some ((), '*' :: '=' :: (value ++ further)) := literal_eq_some_iff.mpr (by simp)
  have run : ∀ c ∈ value, (c != ';') = true := fun c hc => by simpa using clear c hc
  have stops : ∀ c ∈ further.head?, (c != ';') = false := fun c hc => by simpa using stop c hc
  rw [fileNameParameter?, key]
  change (if ((value ++ further).takeWhile (· != ';')).isEmpty then none
    else some ((value ++ further).takeWhile (· != ';'), (value ++ further).dropWhile (· != ';'))) =
      some (value, further)
  rw [takeWhile_append_stop run stops, dropWhile_append_stop run stops,
    if_neg (mt List.isEmpty_iff.mp nonempty)]

/-- The parameter of an attachment is found behind its disposition. -/
theorem firstMatch_extended {value further : List Char} (nonempty : value ≠ [])
    (clear : ∀ c ∈ value, c ≠ ';') (stop : ∀ c ∈ further.head?, c = ';') :
    firstMatch fileNameParameter? ("attachment; ".toList ++ ("filename*=".toList ++ value ++ further))
      = some ("attachment; ".toList, value, further) := by
  have silent : Silent fileNameParameter? "attachment; ".toList
      ("filename*=".toList ++ value ++ further) := by
    have others : "attachment; ".toList.all (· != 'f') = true := by decide
    refine silent_of_heads (p := (· == 'f')) (fun c s miss => ?_)
      fun c hc => by simpa using List.all_eq_true.mp others c hc
    have missed : literal "filename".toList (c :: s) = none := literal_miss miss
    rw [fileNameParameter?, missed]
    rfl
  have here : firstMatch fileNameParameter? ("filename*=".toList ++ value ++ further) =
      some ([], value, further) :=
    firstMatch_match (by simp) (fileNameParameter?_extended nonempty clear stop)
  rw [firstMatch_silent silent, here]
  rfl

/-! ### Reading the value -/

theorem behindQuotes?_append {label coded : List Char} (clear : ∀ c ∈ label, c ≠ '\x27') :
    behindQuotes? (label ++ (['\x27', '\x27'] ++ coded)) = some coded := by
  have silent : Silent (literal ['\x27', '\x27']) label (['\x27', '\x27'] ++ coded) :=
    silent_of_heads (p := (· == '\x27')) (fun _ _ => literal_miss)
      fun c hc => by simpa using clear c hc
  have here : firstMatch (literal ['\x27', '\x27']) (['\x27', '\x27'] ++ coded) =
      some ([], (), coded) := firstMatch_match (by simp) (literal_eq_some_iff.mpr rfl)
  rw [behindQuotes?, firstMatch_silent silent, here]
  rfl

/-- The value of a parameter in the extended form: the label of the character set, two quotes, and
the coded name. -/
def extendedValue (label name : List Char) : List Char :=
  label ++ (['\x27', '\x27'] ++ codedName name)

section Value

variable {label : List Char}

theorem mem_extendedValue (utf8 : IsUtf8Label label) (h : c ∈ extendedValue label name) :
    IsInert c ∨ c = '\x27' := by
  simp only [extendedValue, List.mem_append, List.mem_cons, List.not_mem_nil, or_false,
    or_self] at h
  rcases h with inLabel | quote | inName
  · exact .inl (utf8.isInert inLabel)
  · exact .inr quote
  · exact .inl (isInert_of_mem_codedName inName)

theorem extendedValue_ne_nil : extendedValue label name ≠ [] := by
  simp [extendedValue]

/-- The value starts in the label and ends in the name. -/
theorem isInert_ends_extendedValue (named : name ≠ []) (utf8 : IsUtf8Label label) :
    (∀ c ∈ (extendedValue label name).head?, IsInert c) ∧
      ∀ c ∈ (extendedValue label name).getLast?, IsInert c := by
  constructor
  · intro c head
    obtain ⟨d, rest, rfl⟩ : ∃ d rest, label = d :: rest := by
      refine List.exists_cons_of_ne_nil ?_
      rintro rfl
      cases utf8
    obtain rfl : d = c := by simpa [extendedValue] using head
    exact utf8.isInert List.mem_cons_self
  · intro c last
    have coded : codedName name ≠ [] := Percent.encodeWhere_ne_nil named
    rw [extendedValue, List.getLast?_append_of_ne_nil _ (by simp),
      List.getLast?_append_of_ne_nil _ coded] at last
    exact isInert_of_mem_codedName (List.mem_of_getLast? last)

end Value

/-- A name in the extended form is read back: in any letter case of the label, with blanks around
the value, and with further parameters behind it. -/
theorem fileName?_extended {name label before after further : List Char} (named : name ≠ [])
    (utf8 : IsUtf8Label label) (blankBefore : ∀ c ∈ before, isBlank c = true)
    (blankAfter : ∀ c ∈ after, isBlank c = true) (stop : ∀ c ∈ further.head?, c = ';') :
    fileName? ("attachment; ".toList ++ ("filename*=".toList ++
      (before ++ extendedValue label name ++ after) ++ further)) = some name := by
  obtain ⟨head, last⟩ := isInert_ends_extendedValue named utf8
  -- Whatever the name holds, its coded form has no semicolon that could end the parameter early.
  have clear : ∀ c ∈ before ++ extendedValue label name ++ after, c ≠ ';' := by
    rintro c inside rfl
    rcases List.mem_append.mp inside with inside | behind
    · rcases List.mem_append.mp inside with front | own
      · exact absurd (blankBefore ';' front) (by decide)
      · rcases mem_extendedValue utf8 own with inert | quote
        · exact inert.notSemicolon rfl
        · exact absurd quote (by decide)
    · exact absurd (blankAfter ';' behind) (by decide)
  have found := @firstMatch_extended (before ++ extendedValue label name ++ after) further
    (by simp [extendedValue_ne_nil]) clear stop
  have trimmed : trim (before ++ extendedValue label name ++ after) = extendedValue label name :=
    trim_append blankBefore blankAfter (fun c hc => (head c hc).notBlank)
      fun c hc => (last c hc).notBlank
  -- Nor does it begin or end with a quote that the reader would take off.
  have unquoted : trimWhere (fun c => c == '"' || c == '\x27') (extendedValue label name) =
      extendedValue label name := by
    rw [trimWhere, dropWhile_eq_self, dropEndWhile_eq_self]
    · intro c hc
      simp [(last c hc).notDouble, (last c hc).notSingle]
    · intro c hc
      simp [(head c hc).notDouble, (head c hc).notSingle]
  have marked : "UTF-8".toList.isPrefixOf ((extendedValue label name).map Char.toUpper) = true := by
    rw [extendedValue, List.map_append, show label.map Char.toUpper = "UTF-8".toList from utf8,
      List.isPrefixOf_iff_prefix]
    exact List.prefix_append _ _
  have behind : behindQuotes? (extendedValue label name) = some (codedName name) :=
    behindQuotes?_append fun c hc => (utf8.isInert hc).notSingle
  simp only [fileName?, found, Option.bind_eq_bind, Option.bind_some, trimmed, unquoted, marked,
    if_true, behind, decode_codedName]

/-- A name of quotes, a semicolon, a percent sign and a syllable, with everything around it that may
be there. -/
theorem fileName?_extended_sample :
    fileName? ("attachment; ".toList ++ ("filename*=".toList ++
      (" ".toList ++ extendedValue "uTf-8".toList "\x27\x27;%41\"집".toList ++ "\t ".toList) ++
        "; filename=other.pdf".toList)) = some "\x27\x27;%41\"집".toList :=
  fileName?_extended (by decide) (by decide) (List.all_eq_true.mp (by decide))
    (List.all_eq_true.mp (by decide)) fun _ first => (Option.some.inj first).symm

end RouteAlerts.Bulletin
