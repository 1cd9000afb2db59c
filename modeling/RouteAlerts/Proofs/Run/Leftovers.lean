import RouteAlerts.Proofs.Archive.History
import RouteAlerts.Proofs.Run.Accounts
import RouteAlerts.Proofs.Web.Requests

/-!
What a run leaves in the archive. A feed stores at most the document that it hands on
(`Feed.IsOrderly`), and unless bulletins are kept that document is removed again, whatever reading
it comes to. But a document that lies in the archive already is not stored a second time, and what
is removed may then be what an earlier run has kept: a run leaves the archive as it found it exactly
when none of its documents was found there (`RunSetup.archive_run`).
-/

namespace RouteAlerts

open Web

/-! ### Documents stored in turn -/

namespace Archive

/-- Documents were stored one after the other, and unless they are kept each was removed before the
next one came. -/
inductive Visited (keeps : Bool) : Archive → List Artifact → Archive → Prop where
  | nil {a : Archive} : Visited keeps a [] a
  | cons {a a' b : Archive} {o : Offer} {artifact : Artifact} {artifacts : List Artifact} :
      a.store o.fetchedAt o.source o.name o.document = .ok (a', artifact) →
      Visited keeps (if keeps then a' else a'.discard artifact.path) artifacts b →
      Visited keeps a (artifact :: artifacts) b

variable {a a' b : Archive} {o : Offer} {artifact : Artifact} {artifacts : List Artifact}
  {path : ArchivePath}

theorem deduplicated_of_store
    (stored : a.store o.fetchedAt o.source o.name o.document = .ok (a', artifact)) :
    artifact.deduplicated = a.has artifact.path := by
  obtain ⟨-, -, rfl⟩ := store_eq_ok_iff.mp stored
  rfl

/-- A document that is stored and removed is gone, also when it was there before. -/
theorem find?_discard_of_store
    (stored : a.store o.fetchedAt o.source o.name o.document = .ok (a', artifact)) :
    (a'.discard artifact.path).find? path =
      if path = artifact.path then none else a.find? path := by
  rw [find?_discard]
  split
  · rfl
  · rename_i other
    rw [find?_store stored, if_neg (path_of_store stored ▸ other)]

namespace Visited

theorem append {keeps : Bool} {c : Archive} {more : List Artifact}
    (h : Visited keeps a artifacts b) (rest : Visited keeps b more c) :
    Visited keeps a (artifacts ++ more) c := by
  induction h with
  | nil => exact rest
  | cons stored _ ih => exact .cons stored (ih rest)

/-! ### Without keeping -/

theorem find?_removed (h : Visited false a artifacts b) (path : ArchivePath) :
    b.find? path = if path ∈ artifacts.map (·.path) then none else a.find? path := by
  induction h with
  | nil => simp
  | @cons a a' b o artifact artifacts stored _ ih =>
    rw [ih, if_neg Bool.false_ne_true, find?_discard_of_store stored, List.map_cons]
    by_cases own : path = artifact.path
    · simp [own]
    · simp [own]

/-- Some document was found to be there exactly when one of the paths was taken from the start. -/
theorem exists_deduplicated_iff (h : Visited false a artifacts b) :
    (∃ x ∈ artifacts, x.deduplicated = true) ↔ ∃ x ∈ artifacts, a.has x.path = true := by
  induction h with
  | nil => simp
  | @cons a a' b o artifact artifacts stored _ ih =>
    -- What a call leaves behind it discards, and with it whatever was on its path before.
    have next : ∀ x : Artifact, (a'.discard artifact.path).has x.path = true ↔
        x.path ≠ artifact.path ∧ a.has x.path = true := by
      intro x
      rw [has, find?_discard_of_store stored]
      split
      · rename_i same
        simp [same]
      · rename_i other
        simp [has, other]
    rw [if_neg Bool.false_ne_true] at ih
    simp only [List.exists_mem_cons_iff, ih, next, deduplicated_of_store stored]
    constructor
    · rintro (first | ⟨x, member, -, there⟩)
      · exact .inl first
      · exact .inr ⟨x, member, there⟩
    · rintro (first | ⟨x, member, there⟩)
      · exact .inl first
      · by_cases same : x.path = artifact.path
        · exact .inl (same ▸ there)
        · exact .inr ⟨x, member, same, there⟩

/-- Nothing has changed in the end exactly when no document was found to be there. -/
theorem find?_eq_iff (h : Visited false a artifacts b) :
    (∀ path, b.find? path = a.find? path) ↔ ∀ x ∈ artifacts, x.deduplicated = false := by
  have found := h.exists_deduplicated_iff
  constructor
  · intro same
    by_contra some_found
    obtain ⟨x, member, there⟩ := found.mp (by simpa using some_found)
    have gone := h.find?_removed x.path
    rw [if_pos (List.mem_map_of_mem member), same] at gone
    simp [has, gone] at there
  · intro none_found path
    rw [h.find?_removed]
    split
    · rename_i fetched
      obtain ⟨x, member, rfl⟩ := List.mem_map.mp fetched
      by_contra there
      have taken : a.has x.path = true := Option.isSome_iff_ne_none.mpr (Ne.symm there)
      obtain ⟨y, inArtifacts, again⟩ := found.mpr ⟨x, member, taken⟩
      rw [none_found y inArtifacts] at again
      cases again
    · rfl

/-! ### Keeping -/

theorem find?_kept (h : Visited true a artifacts b) (there : a.has path = true) :
    b.find? path = a.find? path := by
  induction h with
  | nil => rfl
  | @cons a a' b o artifact artifacts stored _ ih =>
    obtain ⟨document, found⟩ := has_iff.mp there
    have same : a'.find? path = a.find? path := by
      rw [find?_store stored]
      split
      · rename_i own
        rw [own] at found
        rw [own, found, Option.getD_some]
      · rfl
    rw [if_pos rfl, same] at ih
    exact ih (by rw [has, same]; exact there)

theorem has_path (h : Visited true a artifacts b) (member : artifact ∈ artifacts) :
    b.has artifact.path = true := by
  induction h with
  | nil => exact absurd member List.not_mem_nil
  | @cons a a' b o first artifacts stored rest ih =>
    rcases List.mem_cons.mp member with rfl | later
    · rw [if_pos rfl] at rest
      have there : a'.has artifact.path = true := by
        rw [has, find?_store stored, if_pos (path_of_store stored), Option.isSome_some]
      rw [has, rest.find?_kept there]
      exact there
    · exact ih later

/-- What has come to the archive is one of the documents. -/
theorem exists_of_find? (h : Visited true a artifacts b) {document : Bytes}
    (found : b.find? path = some document) :
    a.find? path = some document ∨ a.find? path = none ∧
      ∃ x ∈ artifacts, x.path = path ∧ x.digest = Sha256.hex document ∧
        x.size = document.length := by
  induction h with
  | nil => exact .inl found
  | @cons a a' b o artifact artifacts stored _ ih =>
    rw [if_pos rfl] at ih
    rcases ih found with before | ⟨before, x, member, described⟩
    · rw [find?_store stored] at before
      split at before
      · -- Something was there before the call and stays, or the call itself has brought it.
        rename_i own
        cases there : a.find? o.path with
        | some other =>
          rw [there] at before
          exact .inl (by rw [own, there]; exact before)
        | none =>
          rw [there] at before
          obtain rfl : o.document = document := Option.some.inj before
          obtain ⟨-, -, rfl⟩ := store_eq_ok_iff.mp stored
          exact .inr ⟨own ▸ there, _, List.mem_cons_self, own.symm, rfl, rfl⟩
      · exact .inl before
    · rw [find?_store stored] at before
      split at before
      · cases before
      · exact .inr ⟨before, x, List.mem_cons_of_mem _ member, described⟩

end Visited

end Archive

/-! ### Orderly feeds -/

/-- The document that was stored for an offer. -/
def Feed.Offer.artifact? : Offer → Option Artifact
  | document d _ => d.artifact
  | failed _ | nothing => none

namespace Feed

/-- What a fetch may do to the archive: nothing, or store the document that it hands on. -/
inductive Leaves (archive : Archive) : Except SourceError (Option Document) → Archive → Prop where
  | failed (e : SourceError) : Leaves archive (.error e) archive
  | nothing : Leaves archive (.ok none) archive
  | unstored {d : Document} : d.artifact = none → Leaves archive (.ok (some d)) archive
  | stored {d : Document} {o : RouteAlerts.Offer} {archive' : Archive} {artifact : Artifact} :
      archive.store o.fetchedAt o.source o.name o.document = .ok (archive', artifact) →
      d.artifact = some artifact → Leaves archive (.ok (some d)) archive'

/-- A feed that stores at most the document that it hands on. -/
def IsOrderly (feed : Feed) : Prop :=
  ∀ (client : Client) (now : Moment) (archive : Archive) (world : World),
    let fetched := ((feed.fetch client now archive).run world).1
    Leaves archive fetched.1 fetched.2

/-- The board stores the bulletin once everything that can fail has been done. -/
theorem isOrderly_board (extract : Bytes → Option (List Char)) (settings : Settings) :
    (board extract settings).IsOrderly := by
  intro client now archive world
  simp only [board, StateT.run, bind_apply, Bulletin.fetch]
  rcases Bulletin.findPost _ client (Seoul.localDate now) world with ⟨e | post, world₁⟩
  · exact .failed e
  · simp only [bind_apply]
    rcases Bulletin.download _ client post world₁ with ⟨e | ⟨view, bytes, name⟩, world₂⟩
    · exact .failed e
    · simp only
      rcases stored : archive.store now Source.primaryBoard.id.toList name bytes with
        e | ⟨archive', artifact⟩
      · exact .failed (.archive e)
      · exact .stored (o := ⟨now, Source.primaryBoard.id.toList, name, bytes⟩) stored rfl

/-- The information system stores nothing. -/
theorem isOrderly_table (rendering : Schedule.Rendering) : (table rendering).IsOrderly := by
  intro client now archive world
  simp only [table, StateT.run, bind_apply]
  cases rendering with
  | unavailable reason => exact .nothing
  | failed reason => exact .failed (.other reason)
  | page markup =>
    rw [Schedule.fetch]
    cases Schedule.Post.latest? (Schedule.Post.list markup) with
    | none => exact .nothing
    | some post =>
      simp only [bind_apply]
      rcases client.get _ world with ⟨e | response, world₁⟩
      · exact .failed (.fetch e)
      · exact .unstored rfl

/-- The feeds of the program are orderly. -/
theorem isOrderly_standard (extract : Bytes → Option (List Char)) (settings : Settings) :
    ∀ feed ∈ standard extract settings, feed.IsOrderly := by
  simp [standard, isOrderly_board, isOrderly_table]

section

variable (keeps : Bool) (client : Client) (now : Moment)

/-- What one feed leaves of the archive. -/
theorem IsOrderly.visited_offer {feed : Feed} (orderly : feed.IsOrderly) (archive : Archive)
    (world : World) :
    let offered := ((feed.offer keeps client now archive).run world).1
    Archive.Visited keeps archive offered.1.artifact?.toList offered.2 := by
  have leaves := orderly client now archive world
  simp only [StateT.run] at leaves
  simp only [Feed.offer, StateT.run, bind_apply]
  generalize feed.fetch client now archive world = fetched at leaves ⊢
  obtain ⟨⟨answer, left⟩, world₁⟩ := fetched
  cases leaves with
  | failed e => exact .nil
  | nothing => exact .nil
  | @unstored d bare =>
    change Archive.Visited keeps left d.artifact.toList (left.afterReading keeps d)
    rw [Archive.afterReading, bare]
    exact .nil
  | @stored d o archive' artifact stored held =>
    change Archive.Visited keeps archive d.artifact.toList (left.afterReading keeps d)
    rw [Archive.afterReading, held]
    exact .cons stored .nil

/-- What several feeds leave of the archive. -/
theorem visited_offerAll {feeds : List Feed} (orderly : ∀ feed ∈ feeds, feed.IsOrderly)
    (archive : Archive) (world : World) :
    let offered := ((offerAll keeps client now feeds archive).run world).1
    Archive.Visited keeps archive (offered.1.flatMap (·.2.artifact?.toList)) offered.2 := by
  induction feeds generalizing archive world with
  | nil => exact .nil
  | cons feed feeds ih =>
    have first := (orderly feed List.mem_cons_self).visited_offer keeps client now archive world
    exact first.append (ih (fun other later => orderly other (List.mem_cons_of_mem _ later)) _ _)

end

end Feed

/-! ### Runs -/

namespace RunSetup

variable {setup : RunSetup} {mark : RunMark} {holdings : Holdings} {world : World}

/-- The documents that are stored in a run, as they were found in the archive or put there. -/
def artifacts (setup : RunSetup) (mark : RunMark) (holdings : Holdings) (world : World) :
    List Artifact :=
  (setup.offers mark holdings world).flatMap (·.2.artifact?.toList)

/-- Nothing but its feeds changes the archive in a run. -/
theorem archive_run_eq : ((setup.run mark holdings).run world).1.2.archive =
    (setup.collected mark holdings world).1.2 := by
  rw [run_eq_drafted]
  split
  · rfl
  · split <;> rfl

theorem visited_run (orderly : ∀ feed ∈ setup.feeds, feed.IsOrderly) :
    Archive.Visited setup.settings.keepsBulletins holdings.archive
      (setup.artifacts mark holdings world)
      ((setup.run mark holdings).run world).1.2.archive := by
  rw [archive_run_eq]
  exact Feed.visited_offerAll _ _ _ orderly _ _

/-- What a run leaves of any archive, whatever becomes of its documents when they are read; its
feeds need only be orderly, as those of the program are. A run that does not keep bulletins removes
what lies at the paths of its documents, and leaves the rest as it is. So the archive is as it was
exactly when none of the documents was found to lie there already; a document that an earlier run
has kept is lost when it is fetched again. A run that keeps bulletins leaves all that was there, and
adds its documents and nothing else. -/
theorem archive_run (orderly : ∀ feed ∈ setup.feeds, feed.IsOrderly) :
    let before := holdings.archive
    let after := ((setup.run mark holdings).run world).1.2.archive
    let fetched := setup.artifacts mark holdings world
    (setup.settings.keepsBulletins = false →
      (∀ path, after.find? path =
        if path ∈ fetched.map (·.path) then none else before.find? path) ∧
      ((∀ path, after.find? path = before.find? path) ↔
        ∀ artifact ∈ fetched, artifact.deduplicated = false)) ∧
    (setup.settings.keepsBulletins = true →
      (∀ path, before.has path = true → after.find? path = before.find? path) ∧
      (∀ artifact ∈ fetched, after.has artifact.path = true) ∧
      ∀ path document, after.find? path = some document → before.find? path = some document ∨
        before.find? path = none ∧ ∃ artifact ∈ fetched, artifact.path = path ∧
          artifact.digest = Sha256.hex document ∧ artifact.size = document.length) := by
  intro before after fetched
  have visited : Archive.Visited setup.settings.keepsBulletins before fetched after :=
    visited_run orderly
  constructor
  · intro discards
    rw [discards] at visited
    exact ⟨visited.find?_removed, visited.find?_eq_iff⟩
  · intro keeps
    rw [keeps] at visited
    exact ⟨fun _ => visited.find?_kept, fun _ => visited.has_path,
      fun _ _ => visited.exists_of_find?⟩

/-- A setup whose only feed fetches the bulletin of an offer and stores it; its reader breaks down.
-/
def storing (o : Offer) (keeps : Bool) : RunSetup where
  settings := { Settings.standard [] with keepsBulletins := keeps }
  feeds := [{
    source := .primaryBoard
    fetch := fun _ now archive =>
      match archive.store now o.source o.name o.document with
      | .ok (archive, artifact) =>
        pure (.ok (some {
          source := .primaryBoard
          date := now.date
          title := []
          address := []
          content := .pdf o.document
          artifact := some artifact }), archive)
      | .error e => pure (.error (.archive e), archive)
    read := fun _ => .aborted }]
  search := fun _ => pure (.ok none)

theorem isOrderly_storing (o : Offer) (keeps : Bool) :
    ∀ feed ∈ (storing o keeps).feeds, feed.IsOrderly := by
  intro feed member client now archive world
  obtain rfl := List.mem_singleton.mp member
  simp only [StateT.run]
  rcases stored : archive.store now o.source o.name o.document with e | ⟨archive', artifact⟩
  · exact .failed (.archive e)
  · exact .stored (o := ⟨now, o.source, o.name, o.document⟩) stored rfl

/-- A bulletin that is new to the archive leaves no trace in it, though its reader breaks down. -/
theorem archive_run_sample :
    let other : ArchivePath := ⟨"20250815".toList, "smpa".toList, "kept.pdf".toList⟩
    let holdings : Holdings := { archive := { files := [(other, [0x25])] } }
    let run := storing Session.sampleOffer false
    (run.artifacts sampleMark holdings {}).length = 1 ∧
      ∀ path, ((run.run sampleMark holdings).run {}).1.2.archive.find? path =
        holdings.archive.find? path := by
  intro other holdings run
  have discards : run.settings.keepsBulletins = false := rfl
  have unknown : ∀ artifact ∈ run.artifacts sampleMark holdings {},
      artifact.deduplicated = false := by decide +kernel
  have left := @archive_run run sampleMark holdings {}
    (isOrderly_storing Session.sampleOffer false)
  obtain ⟨-, same⟩ := left.1 discards
  refine ⟨by decide +kernel, ?_⟩
  exact same.mpr unknown

/-- A bulletin that one run keeps is lost in the next one of the day, which does not keep it. -/
theorem kept_bulletin_lost :
    let kept := (((storing Session.sampleOffer true).run sampleMark {}).run {}).1.2
    let left := (((storing Session.sampleOffer false).run sampleMark kept).run {}).1.2
    let path := ArchivePath.of sampleMark.startedAt Session.sampleOffer.source
      Session.sampleOffer.name Session.sampleOffer.document
    kept.archive.find? path = some Session.sampleOffer.document ∧
      left.archive.find? path = none := by
  decide +kernel

end RunSetup

end RouteAlerts
