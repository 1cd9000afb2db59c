import RouteAlerts.Proofs.Archive.Containment
import RouteAlerts.Proofs.Calendar.Written

/-!
Histories of the archive: documents are stored and discarded in any order. A document lies at its
path exactly while it was stored there and has not been discarded since (`has_afterAll_iff`), and
then it is that document and no other, as far as no two digests agree by chance
(`kept_until_discarded`). Two documents have one path exactly when day, source, bytes and extension
are the same (`Offer.path_eq_iff`), so these four decide what is found to be stored already.
-/

namespace RouteAlerts

open Text

/-! ### Equal paths -/

/-- Two documents that are the same to the archive. -/
structure Offer.IsSame (x o : Offer) : Prop where
  day : x.fetchedAt.date = o.fetchedAt.date
  source : x.source = o.source
  document : x.document = o.document
  extension : FileName.storedExtension (FileName.sanitize x.name) =
    FileName.storedExtension (FileName.sanitize o.name)

theorem Offer.path_eq_iff {x o : Offer}
    (noCollision : Sha256.hex x.document = Sha256.hex o.document → x.document = o.document) :
    x.path = o.path ↔ x.IsSame o := by
  constructor
  · intro same
    obtain ⟨day, source, file⟩ := ArchivePath.mk.inj same
    have widths : (Sha256.hex x.document).length = (Sha256.hex o.document).length := by
      rw [Sha256.length_hex, Sha256.length_hex]
    obtain ⟨digest, ending⟩ := List.append_inj file widths
    exact ⟨Date.compact_injective day, source, noCollision digest, (List.cons.inj ending).2⟩
  · rintro ⟨day, source, document, extension⟩
    simp only [path, ArchivePath.of, day, source, document, extension]

/-- Paths with entries for components differ in their texts when they differ. -/
theorem ArchivePath.text_inj {p q : ArchivePath} (hp : ∀ entry ∈ p.components, IsEntry entry)
    (hq : ∀ entry ∈ q.components, IsEntry entry) : p.text = q.text ↔ p = q := by
  constructor
  · intro same
    have parts : p.components = q.components := by
      rw [← splitWhere_text hp, same, splitWhere_text hq]
    simp only [components, List.cons.injEq, and_true] at parts
    obtain ⟨day, source, fileName⟩ := parts
    obtain ⟨_, _, _⟩ := p
    obtain ⟨_, _, _⟩ := q
    simp_all
  · rintro rfl
    rfl

/-! ### One call -/

namespace Archive

inductive Call where
  | store (o : Offer)
  | discard (path : ArchivePath)

/-- The archive after a call. One that fails leaves it as it is. -/
def after (a : Archive) : Call → Archive
  | .store o =>
    match a.store o.fetchedAt o.source o.name o.document with
    | .ok (a', _) => a'
    | .error _ => a
  | .discard path => a.discard path

def afterAll (a : Archive) (calls : List Call) : Archive := calls.foldl after a

variable {a a' b : Archive} {calls later : List Call} {x o : Offer} {artifact kept : Artifact}
  {path : ArchivePath}

theorem has_iff : a.has path = true ↔ ∃ document, a.find? path = some document :=
  Option.isSome_iff_exists

theorem path_of_store
    (stored : a.store o.fetchedAt o.source o.name o.document = .ok (a', artifact)) :
    artifact.path = o.path := by
  obtain ⟨-, -, rfl⟩ := store_eq_ok_iff.mp stored
  rfl

/-- Storing a document changes at most what lies at its path, and only when nothing lies there. -/
theorem find?_store
    (stored : a.store o.fetchedAt o.source o.name o.document = .ok (a', artifact)) :
    a'.find? path =
      if path = o.path then some ((a.find? o.path).getD o.document) else a.find? path := by
  obtain ⟨-, rfl, -⟩ := store_eq_ok_iff.mp stored
  by_cases there : a.has o.path = true
  · obtain ⟨document, found⟩ := has_iff.mp there
    rw [if_pos there, found]
    split
    · rename_i own
      rw [own, found, Option.getD_some]
    · rfl
  · have nothing : a.find? o.path = none := by simpa [has] using there
    rw [if_neg there, find?_cons, nothing, Option.getD_none]

theorem find?_after_store (a : Archive) (o : Offer) (path : ArchivePath) :
    (a.after (.store o)).find? path = a.find? path ∨
      (∃ artifact, a.store o.fetchedAt o.source o.name o.document =
        .ok (a.after (.store o), artifact)) ∧ path = o.path ∧ a.find? path = none ∧
        (a.after (.store o)).find? path = some o.document := by
  cases answer : a.store o.fetchedAt o.source o.name o.document with
  | error e => simp [after, answer]
  | ok stored =>
    obtain ⟨a', artifact⟩ := stored
    have next : a.after (.store o) = a' := by simp [after, answer]
    rw [next, find?_store answer]
    by_cases own : path = o.path
    · subst own
      cases a.find? o.path with
      | none => exact .inr ⟨⟨artifact, rfl⟩, rfl, rfl, by simp⟩
      | some document => exact .inl (by simp)
    · exact .inl (if_neg own)

/-! ### Histories -/

/-- One of the calls stored a document; `later` are the calls behind it. -/
def Stored (a : Archive) (calls : List Call) (x : Offer) (kept : Artifact) (later : List Call) :
    Prop :=
  ∃ earlier a', calls = earlier ++ .store x :: later ∧
    (a.afterAll earlier).store x.fetchedAt x.source x.name x.document = .ok (a', kept)

theorem Stored.path_eq (h : a.Stored calls x kept later) : kept.path = x.path := by
  obtain ⟨earlier, a', -, stored⟩ := h
  exact path_of_store stored

theorem Stored.concat (h : a.Stored calls x kept later) (c : Call) :
    a.Stored (calls ++ [c]) x kept (later ++ [c]) := by
  obtain ⟨earlier, a', split, stored⟩ := h
  exact ⟨earlier, a', by simp [split], stored⟩

theorem afterAll_append_cons (a : Archive) (earlier : List Call) (c : Call) (later : List Call) :
    a.afterAll (earlier ++ c :: later) = ((a.afterAll earlier).after c).afterAll later := by
  simp [afterAll]

theorem afterAll_concat (a : Archive) (calls : List Call) (c : Call) :
    a.afterAll (calls ++ [c]) = (a.afterAll calls).after c := by
  simp [afterAll]

/-- What lies at a path stays there until it is discarded. -/
theorem has_afterAll (there : a.has path = true) (kept : .discard path ∉ calls) :
    (a.afterAll calls).has path = true := by
  induction calls generalizing a with
  | nil => exact there
  | cons c calls ih =>
    refine ih ?_ fun inRest => kept (List.mem_cons_of_mem _ inRest)
    obtain ⟨document, found⟩ := has_iff.mp there
    cases c with
    | store o =>
      rcases find?_after_store a o path with same | ⟨-, -, nothing, -⟩
      · exact has_iff.mpr ⟨document, same.trans found⟩
      · exact absurd (found.symm.trans nothing) (Option.some_ne_none _)
    | discard gone =>
      have other : path ≠ gone := by
        rintro rfl
        exact kept List.mem_cons_self
      refine has_iff.mpr ⟨document, ?_⟩
      rw [after, find?_discard, if_neg other, found]

/-- A document that was stored lies at its path until that is discarded. -/
theorem Stored.has_afterAll (h : a.Stored calls x kept later)
    (undiscarded : .discard kept.path ∉ later) : (a.afterAll calls).has kept.path = true := by
  have own := h.path_eq
  obtain ⟨earlier, a', rfl, stored⟩ := h
  have next : (a.afterAll earlier).after (.store x) = a' := by simp [after, stored]
  have there : a'.has kept.path = true := by
    rw [has_iff, find?_store stored, if_pos own]
    exact ⟨_, rfl⟩
  rw [afterAll_append_cons, next]
  exact Archive.has_afterAll there undiscarded

/-- What lies at a path was stored there by one of the calls and has not been discarded since. -/
theorem exists_stored_of_find? (empty : a.files = []) {document : Bytes}
    (found : (a.afterAll calls).find? path = some document) :
    ∃ x kept later, a.Stored calls x kept later ∧ kept.path = path ∧ x.document = document ∧
      .discard path ∉ later := by
  induction calls using List.reverseRecOn with
  | nil => simp [afterAll, find?, empty] at found
  | append_singleton calls c ih =>
    rw [afterAll_concat] at found
    -- What was there before is still what was stored, unless this call discards it.
    have unchanged : (a.afterAll calls).find? path = some document → c ≠ .discard path →
        ∃ x kept later, a.Stored (calls ++ [c]) x kept later ∧ kept.path = path ∧
          x.document = document ∧ .discard path ∉ later := by
      intro before other
      obtain ⟨x, kept, later, stored, own, same, undiscarded⟩ := ih before
      refine ⟨x, kept, later ++ [c], stored.concat c, own, same, ?_⟩
      simpa [undiscarded] using Ne.symm other
    cases c with
    | store o =>
      rcases find?_after_store (a.afterAll calls) o path with
        same | ⟨⟨artifact, stored⟩, rfl, -, own⟩
      · exact unchanged (same.symm.trans found) (by simp)
      · exact ⟨o, artifact, [], ⟨calls, _, rfl, stored⟩, path_of_store stored,
          Option.some_inj.mp (own.symm.trans found), by simp⟩
    | discard gone =>
      rw [after, find?_discard] at found
      split at found
      · cases found
      · rename_i other
        exact unchanged found (by simpa using Ne.symm other)

/-- A path is taken exactly when a document was stored there and not discarded since. -/
theorem has_afterAll_iff (empty : a.files = []) : (a.afterAll calls).has path = true ↔
    ∃ x kept later, a.Stored calls x kept later ∧ kept.path = path ∧ .discard path ∉ later := by
  constructor
  · intro there
    obtain ⟨document, found⟩ := has_iff.mp there
    obtain ⟨x, kept, later, stored, own, -, undiscarded⟩ := exists_stored_of_find? empty found
    exact ⟨x, kept, later, stored, own, undiscarded⟩
  · rintro ⟨x, kept, later, stored, rfl, undiscarded⟩
    exact stored.has_afterAll undiscarded

/-- The archive after any history of calls on an empty one. A document that is stored next is found
to be there exactly when a document of its day and source, with its bytes and its extension, was
stored before and its file has not been discarded since. Afterwards its file holds its bytes, and
every other file is what it was. Its path is the one under which another document was stored exactly
when the four are the same for both, and so it is with the texts of the paths, when the names of the
sources are entries of a directory. What is discarded is gone, whether it was there or not, and it
alone. -/
theorem kept_until_discarded (empty : a.files = []) :
    ((a.afterAll calls).store o.fetchedAt o.source o.name o.document = .ok (a', artifact) →
      (∀ x kept later, a.Stored calls x kept later →
        Sha256.hex x.document = Sha256.hex o.document → x.document = o.document) →
      (artifact.deduplicated = true ↔ ∃ x kept later, a.Stored calls x kept later ∧ x.IsSame o ∧
        .discard kept.path ∉ later) ∧
      a'.find? artifact.path = some o.document ∧
      (∀ other, other ≠ artifact.path → a'.find? other = (a.afterAll calls).find? other) ∧
      ∀ x kept later, a.Stored calls x kept later →
        (kept.path = artifact.path ↔ x.IsSame o) ∧
        (IsEntry x.source → IsEntry o.source →
          (kept.path.text = artifact.path.text ↔ x.IsSame o))) ∧
    ((a.afterAll calls).discard path).find? path = none ∧
      ∀ other, other ≠ path →
        ((a.afterAll calls).discard path).find? other = (a.afterAll calls).find? other := by
  refine ⟨fun stored noCollision => ?_, ?_, ?_⟩
  · have own := path_of_store stored
    -- Everything but the last two claims comes down to when two documents have one path.
    have samePath : ∀ {x kept later}, a.Stored calls x kept later →
        (kept.path = artifact.path ↔ x.IsSame o) := by
      intro x kept later earlier
      rw [earlier.path_eq, own]
      exact Offer.path_eq_iff (noCollision x kept later earlier)
    refine ⟨?_, ?_, ?_, ?_⟩
    · obtain ⟨-, -, made⟩ := store_eq_ok_iff.mp stored
      have known : artifact.deduplicated = (a.afterAll calls).has artifact.path := by rw [made]
      rw [known, has_afterAll_iff empty]
      constructor
      · rintro ⟨x, kept, later, earlier, same, undiscarded⟩
        exact ⟨x, kept, later, earlier, (samePath earlier).mp same, same ▸ undiscarded⟩
      · rintro ⟨x, kept, later, earlier, same, undiscarded⟩
        have same := (samePath earlier).mpr same
        exact ⟨x, kept, later, earlier, same, same ▸ undiscarded⟩
    · rw [find?_store stored, if_pos own, Option.some_inj]
      cases found : (a.afterAll calls).find? o.path with
      | none => rfl
      | some document =>
        obtain ⟨x, kept, later, earlier, there, same, -⟩ := exists_stored_of_find? empty found
        rw [Option.getD_some, ← same]
        exact ((samePath earlier).mp (there.trans own.symm)).document
    · intro other foreign
      rw [find?_store stored, if_neg (own ▸ foreign)]
    · intro x kept later earlier
      refine ⟨samePath earlier, fun namedX namedO => ?_⟩
      rw [← samePath earlier, earlier.path_eq, own]
      exact ArchivePath.text_inj (ArchivePath.isEntry_of_mem_components namedX)
        (ArchivePath.isEntry_of_mem_components namedO)
  · rw [find?_discard, if_pos rfl]
  · intro other foreign
    rw [find?_discard, if_neg foreign]

/-- A bulletin is stored and discarded, and stored again under another name with the same extension.
When it comes for the third time, it is found. -/
theorem kept_until_discarded_sample :
    let o := Session.sampleOffer
    let copy := { o with name := "copy.pdf".toList }
    ∃ a' artifact, (Archive.afterAll {} [.store o, .discard o.path, .store copy]).store o.fetchedAt
        o.source o.name o.document = .ok (a', artifact) ∧
      artifact.deduplicated = true ∧ a'.find? artifact.path = some o.document := by
  intro o copy
  let calls : List Call := [.store o, .discard o.path, .store copy]
  have copied : Archive.Stored {} calls copy _ [] :=
    ⟨[.store o, .discard o.path], _, rfl, store_eq_ok_iff.mpr
      ⟨⟨by decide +kernel, by decide +kernel⟩, rfl, rfl⟩⟩
  have stored := (@store_eq_ok_iff (Archive.afterAll {} calls) _ o _).mpr
    ⟨⟨by decide +kernel, by decide +kernel⟩, rfl, rfl⟩
  have oneDocument : ∀ x kept later, Archive.Stored {} calls x kept later →
      Sha256.hex x.document = Sha256.hex o.document → x.document = o.document := by
    rintro x kept later ⟨earlier, a', split, -⟩ -
    have called : Call.store x ∈ calls := by simp [split]
    simp only [calls, List.mem_cons, Call.store.injEq, reduceCtorEq, List.not_mem_nil, or_false,
      false_or] at called
    rcases called with rfl | rfl <;> rfl
  obtain ⟨found, holds, -⟩ :=
    (@kept_until_discarded {} _ calls o _ o.path rfl).1 stored oneDocument
  exact ⟨_, _, stored, found.mpr ⟨copy, _, [], copied, ⟨rfl, rfl, rfl, by decide⟩, by simp⟩, holds⟩

end Archive

end RouteAlerts
