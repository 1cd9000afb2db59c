import RouteAlerts.Bulletin.Attachment
import RouteAlerts.Proofs.Bytes.Base64
import RouteAlerts.Proofs.Json.Records
import RouteAlerts.Proofs.Json.Texts
import RouteAlerts.Proofs.Lists
import RouteAlerts.Proofs.Text.Substitute

/-!
What a download consists of. A body is an envelope when its JSON value is a record of rows, one of
which has a file (`IsEnvelope`, `inEnvelope?_eq_some_iff`). The first file is taken then, whatever
type was declared and however the envelope is written; every other body is the file itself
(`file_of_download`).
-/

namespace RouteAlerts.Bulletin

open Text Json

/-- Whether the declared type of a document mentions a word. -/
def TypeMentions (contentType : Option (List Char)) (word : String) : Prop :=
  ∃ s ∈ contentType, word.toList <:+: s.map Char.toLower

namespace Payload

/-! ### Envelopes -/

/-- A row of an envelope, with the file in it if there is one. -/
inductive IsRow (row : Raw) : Option (List Char) → Prop where
  | missing (h : FieldOf "apndFile" row .absent) : IsRow row none
  | null (h : FieldOf "apndFile" row (.given .null)) : IsRow row none
  | file {coded : List Char} (h : FieldOf "apndFile" row (.given (.string (some coded)))) :
      IsRow row (some coded)

/-- An envelope: a record of rows, with the file of the first row that has one. -/
inductive IsEnvelope (v : Raw) (coded : List Char) : Prop where
  | mk {before after : List Raw} {row : Raw}
      (rows : FieldOf "rows" v (.given (.array (before ++ row :: after))))
      (without : ∀ r ∈ before, IsRow r none) (first : IsRow row (some coded))
      (others : ∀ r ∈ after, ∃ file, IsRow r file) : IsEnvelope v coded

def fileOf? : Decoder (Option String) := fun v => do
  match ← record ["apndFile"] v with
  | [file] => file.nullable text
  | _ => none

theorem fileOf?_eq_some_iff {row : Raw} {file : Option String} :
    fileOf? row = some file ↔ IsRow row (file.map String.toList) := by
  unfold fileOf?
  constructor
  · intro h
    obtain ⟨fields, read, h⟩ := Option.bind_eq_some_iff.mp h
    obtain ⟨field, own, rfl⟩ := record_eq_some_iff.mp read
    -- Only texts, `null` and a missing field are read; the other forms of a value are errors.
    cases field with
    | given v =>
      change optional text v = some file at h
      cases v with
      | null =>
        obtain rfl := Option.some.inj h
        exact .null own
      | string s =>
        cases s with
        | none => cases h
        | some s =>
          obtain rfl := Option.some.inj h
          rw [Option.map_some, String.toList_ofList]
          exact .file own
      | bool => cases h
      | number => cases h
      | array => cases h
      | object => cases h
    | absent =>
      obtain rfl := Option.some.inj h
      exact .missing own
    | cutOff => cases h
  · intro h
    have said : ∀ {field : Field}, FieldOf "apndFile" row field →
        record ["apndFile"] row = some [field] :=
      fun own => record_eq_some_iff.mpr ⟨_, own, rfl⟩
    cases file with
    | none =>
      cases h with
      | missing own =>
        rw [said own]
        rfl
      | null own =>
        rw [said own]
        rfl
    | some s =>
      cases h with
      | file own =>
        rw [said own]
        change some (some (String.ofList s.toList)) = _
        rw [String.ofList_toList]

/-- What is found in rows is the file of the first that has one. -/
theorem exists_rows_iff {rows : List Raw} {coded : List Char} :
    (∃ files, list fileOf? (.array rows) = some files ∧
      (files.findSome? id).map String.toList = some coded) ↔
      ∃ before row after, rows = before ++ row :: after ∧ (∀ r ∈ before, IsRow r none) ∧
        IsRow row (some coded) ∧ ∀ r ∈ after, ∃ file, IsRow r file := by
  constructor
  · rintro ⟨files, readAll, mapped⟩
    obtain ⟨s, found, rfl⟩ := Option.map_eq_some_iff.mp mapped
    obtain ⟨before, row, after, rfl, without, first, others⟩ :=
      exists_mapM_findSome?_iff.mp ⟨files, readAll, found⟩
    refine ⟨before, row, after, rfl, fun r hr => fileOf?_eq_some_iff.mp (without r hr),
      fileOf?_eq_some_iff.mp first, fun r hr => ?_⟩
    obtain ⟨file, read⟩ := others r hr
    exact ⟨_, fileOf?_eq_some_iff.mp read⟩
  · rintro ⟨before, row, after, rfl, without, first, others⟩
    have readFirst : fileOf? row = some (some (String.ofList coded)) :=
      fileOf?_eq_some_iff.mpr (by rwa [Option.map_some, String.toList_ofList])
    -- Rows behind the hit are read too, for one of another form spoils the whole list.
    have readable : ∀ r ∈ after, ∃ file, fileOf? r = some file := by
      intro r hr
      obtain ⟨file, own⟩ := others r hr
      refine ⟨file.map String.ofList, fileOf?_eq_some_iff.mpr ?_⟩
      have restored : String.toList ∘ String.ofList = id := funext fun _ => String.toList_ofList
      rwa [Option.map_map, restored, Option.map_id, id]
    obtain ⟨files, readAll, found⟩ := exists_mapM_findSome?_iff.mpr ⟨before, row, after, rfl,
      fun r hr => fileOf?_eq_some_iff.mpr (without r hr), readFirst, readable⟩
    exact ⟨files, readAll, by rw [found, Option.map_some, String.toList_ofList]⟩

/-- A body is an envelope exactly when its value is one. -/
theorem inEnvelope?_eq_some_iff {body : Bytes} {coded : List Char} :
    inEnvelope? body = some coded ↔ ∃ v, readBytes body = some v ∧ IsEnvelope v coded := by
  have unfolded : inEnvelope? body = (readBytes body).bind fun v =>
      (record ["rows"] v).bind fun fields => match fields with
        | [rows] => (rows.withDefault (list fileOf?) []).bind fun files =>
          (files.findSome? id).map String.toList
        | _ => none := rfl
  rw [unfolded, Option.bind_eq_some_iff]
  refine exists_congr fun v => and_congr_right fun _ => ?_
  constructor
  · intro h
    obtain ⟨fields, read, h⟩ := Option.bind_eq_some_iff.mp h
    obtain ⟨field, own, rfl⟩ := record_eq_some_iff.mp read
    obtain ⟨files, readAll, found⟩ := Option.bind_eq_some_iff.mp h
    -- Without rows no file is found, whether they are missing, cut off or `null`.
    cases field with
    | given rows =>
      cases rows with
      | array rows =>
        obtain ⟨before, row, after, rfl, without, first, others⟩ :=
          exists_rows_iff.mp ⟨files, readAll, found⟩
        exact ⟨own, without, first, others⟩
      | null => cases readAll
      | bool => cases readAll
      | number => cases readAll
      | string => cases readAll
      | object => cases readAll
    | absent =>
      obtain rfl := Option.some.inj readAll
      cases found
    | cutOff =>
      obtain rfl := Option.some.inj readAll
      cases found
  · rintro ⟨own, without, first, others⟩
    obtain ⟨files, readAll, found⟩ :=
      exists_rows_iff.mpr ⟨_, _, _, rfl, without, first, others⟩
    have given := record_eq_some_iff.mpr ⟨_, own, rfl⟩
    exact Option.bind_eq_some_iff.mpr
      ⟨_, given, Option.bind_eq_some_iff.mpr ⟨files, readAll, found⟩⟩

/-! ### How an envelope is looked for -/

/-- Whether a body starts like an object, after white space. -/
def StartsObject (body : Bytes) : Prop :=
  ∃ spaces rest, (∀ b ∈ spaces, isSpace b = true) ∧ body = spaces ++ 0x7B :: rest

theorem head?_dropWhile_isSpace_iff {body : Bytes} :
    (body.dropWhile isSpace).head? = some 0x7B ↔ StartsObject body := by
  constructor
  · intro front
    obtain ⟨rest, split⟩ := List.head?_eq_some_iff.mp front
    refine ⟨body.takeWhile isSpace, rest,
      fun b hb => List.all_eq_true.mp List.all_takeWhile b hb, ?_⟩
    rw [← split, List.takeWhile_append_dropWhile]
  · rintro ⟨spaces, rest, all, rfl⟩
    rw [dropWhile_append_stop all fun b hb => by
      obtain rfl := Option.some.inj hb
      rfl]
    rfl

theorem of_eq_binary {contentType : Option (List Char)} {body : Bytes}
    (h : inEnvelope? body = none ∨ ¬ TypeMentions contentType "json" ∧ ¬ StartsObject body) :
    of contentType body = .binary body := by
  rcases h with nothing | ⟨other, plain⟩
  · simp only [of, nothing, ite_self]
  · have apart : ((body.dropWhile isSpace).head? == some 0x7B) = false :=
      beq_eq_false_iff_ne.mpr (head?_dropWhile_isSpace_iff.not.mpr plain)
    cases contentType with
    | none =>
      simp only [of, apart]
      rfl
    | some s =>
      have undeclared : contains (s.map Char.toLower) "json".toList = false :=
        Bool.eq_false_iff.mpr fun found => other ⟨s, rfl, contains_iff_infix.mp found⟩
      simp only [of, undeclared, apart]
      rfl

theorem of_eq_envelope (contentType : Option (List Char)) {body : Bytes} {coded : List Char}
    (starts : StartsObject body) (h : inEnvelope? body = some coded) :
    of contentType body = .envelope coded := by
  have looks := head?_dropWhile_isSpace_iff.mpr starts
  simp only [of, looks, h]
  simp

/-- An object starts with its brace, after blanks. -/
theorem startsObject_of_writes {ms : List (Option (List Char) × Raw)} {t : List Char}
    (h : Writes (.padded (.object ms)) t) : StartsObject (Utf8.encode t) := by
  cases h with
  | @padded _ front t back hf h _ =>
    have opened : ∃ u, t = '\x7b' :: u := by
      cases h with
      | emptyObject => exact ⟨_, rfl⟩
      | object => exact ⟨_, rfl⟩
    obtain ⟨u, rfl⟩ := opened
    have blanks : ∀ c ∈ [' ', '\n', '\t', '\r'], ∀ b ∈ String.utf8EncodeChar c,
        isSpace b = true := by
      simp [isSpace, String.utf8EncodeChar]
    refine ⟨Utf8.encode front, Utf8.encode (u ++ back), fun b hb => ?_, ?_⟩
    · obtain ⟨c, hc, hb⟩ := List.mem_flatMap.mp hb
      exact blanks c (hf c hc) b hb
    · have brace : String.utf8EncodeChar '\x7b' = [0x7B] := rfl
      rw [Utf8.encode, List.append_assoc, List.flatMap_append, List.cons_append, List.flatMap_cons,
        brace]
      rfl

/-- What starts like a bulletin holds no value. -/
theorem readBytes_pdf (rest : Bytes) : readBytes (Utf8.encode "%PDF-".toList ++ rest) = none := by
  have front : ∃ s : Bytes, Utf8.encode "%PDF-".toList ++ rest = 0x25 :: s := ⟨_, rfl⟩
  obtain ⟨s, front⟩ := front
  rw [front, readBytes, Utf8.units_one (by decide), readUnits, List.length_cons, value]
  rfl

/-! ### The file in a download -/

/-- Whether a text is another one with blanks put in, anywhere. -/
inductive Spread : List Char → List Char → Prop where
  | nil : Spread [] []
  | blank {c : Char} {s t : List Char} (hc : isBlank c = true) (h : Spread s t) : Spread s (c :: t)
  | char {c : Char} {s t : List Char} (h : Spread s t) : Spread (c :: s) (c :: t)

theorem strip_of_spread {s t : List Char} (h : Spread s t) : strip t = strip s := by
  induction h with
  | nil => rfl
  | blank hc _ ih =>
    rw [strip, List.filter_cons_of_neg (by simpa using hc)]
    exact ih
  | @char c s t _ ih =>
    simp only [strip, List.filter_cons] at ih ⊢
    rw [ih]

/-- A download is the file that its envelope holds, or the file itself. -/
theorem file_of_download (contentType : Option (List Char)) :
    (∀ {bytes : Bytes} {coded t : List Char} {ms : List (Option (List Char) × Raw)},
      Spread (Base64.encode bytes) coded → IsEnvelope (.object ms) coded →
      Writes (.padded (.object ms)) t →
      (of contentType (Utf8.encode t)).bytes? = some bytes) ∧
    (∀ {body : Bytes}, (∀ v coded, readBytes body = some v → ¬ IsEnvelope v coded) →
      (of contentType body).bytes? = some body) ∧
    (∀ rest : Bytes, (of contentType (Utf8.encode "%PDF-".toList ++ rest)).bytes? =
      some (Utf8.encode "%PDF-".toList ++ rest)) ∧
    (∀ {body : Bytes}, ¬ TypeMentions contentType "json" → ¬ StartsObject body →
      (of contentType body).bytes? = some body) := by
  -- Whatever holds no envelope is kept as it came; the last three claims rest on this one.
  have whole : ∀ {body : Bytes}, (∀ v coded, readBytes body = some v → ¬ IsEnvelope v coded) →
      (of contentType body).bytes? = some body := by
    intro body other
    have nothing : inEnvelope? body = none := by
      rw [Option.eq_none_iff_forall_not_mem]
      intro coded found
      obtain ⟨v, read, own⟩ := inEnvelope?_eq_some_iff.mp found
      exact other v coded read own
    rw [of_eq_binary (.inl nothing), bytes?]
  refine ⟨?_, whole, fun rest => whole ?_, ?_⟩
  · intro bytes coded t ms spread own written
    have found : inEnvelope? (Utf8.encode t) = some coded :=
      inEnvelope?_eq_some_iff.mpr ⟨_, readBytes_of_writes written, own⟩
    rw [of_eq_envelope contentType (startsObject_of_writes written) found, bytes?,
      strip_of_spread spread, Base64.strip_encode, Base64.decode_encode]
  · -- A percent sign opens no value, so a document is never taken for an envelope.
    intro v coded read
    rw [readBytes_pdf] at read
    cases read
  · intro body other starts
    rw [of_eq_binary (.inr ⟨other, starts⟩), bytes?]

theorem file_of_download_sample :
    (of (some "text/plain".toList) (Utf8.encode
      "\x7b\"rows\":[\x7b\x7d,\x7b\"apndFile\":\"JV BERg==\"\x7d]\x7d".toList)).bytes? =
      some [0x25, 0x50, 0x44, 0x46] := by
  have noGap : IsGap [] := fun _ hc => absurd hc List.not_mem_nil
  have without := (Writes.emptyObject noGap).bare
  have file := Writes.lastMember noGap (stringText_quote "apndFile".toList) noGap
    (Writes.string (stringText_quote "JV BERg==".toList)).bare
  have rows := Writes.array (.item without (.lastItem (Writes.object file).bare))
  have whole := Writes.object (.lastMember noGap (stringText_quote "rows".toList) noGap rows.bare)
  have spread : Spread (Base64.encode [0x25, 0x50, 0x44, 0x46]) "JV BERg==".toList :=
    .char (.char (.blank (by decide) (.char (.char (.char (.char (.char (.char .nil))))))))
  have empty : IsRow (.object []) none := .missing (.missing (by simp) rfl)
  have first : IsRow (.object [(some "apndFile".toList, .string (some "JV BERg==".toList))])
      (some "JV BERg==".toList) := .file (.member (by simp) (by simp [valuesOf]))
  have own : IsEnvelope (.object [(some "rows".toList, .array [.object [],
      .object [(some "apndFile".toList, .string (some "JV BERg==".toList))]])])
      "JV BERg==".toList :=
    @IsEnvelope.mk _ _ [.object []] [] _ (.member (by simp) (by simp [valuesOf]))
      (by simpa using empty) first (by simp)
  exact (file_of_download (some "text/plain".toList)).1 spread own whole.bare

end Payload

end RouteAlerts.Bulletin
