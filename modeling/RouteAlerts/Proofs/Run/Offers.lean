import RouteAlerts.Announcement.Merge
import RouteAlerts.Run.Feed

/-!
What feeds have to offer. A feed fails when nothing could be fetched, and when the document that was
fetched could not be read; then it contributes no announcements and says why. Whether a feed fails
or has nothing to offer is all the same to the feeds that come after it (`offerAll_hushed`), and to
the announcements that are merged (`merge_contributions`).
-/

namespace RouteAlerts

open Web

/-- What a feed comes to when it is its turn. -/
inductive Feed.Offer where
  /-- No document could be fetched. -/
  | failed (e : SourceError)
  | nothing
  /-- A document was fetched, and reading it came to something. -/
  | document (d : Document) (reading : Reading)

namespace Feed.Offer

/-- The announcements of a document that could be read. -/
def announced? : Offer → Option (List Announcement)
  | document _ (.announced rows) => some rows
  | document _ (.refused _) | document _ .aborted | failed _ | nothing => none

def isFailure : Offer → Bool
  | failed _ | document _ (.refused _) | document _ .aborted => true
  | document _ (.announced _) | nothing => false

def hushed (o : Offer) : Offer := if o.isFailure then nothing else o

def contribution (source : Source) : Offer → Contribution
  | failed e => .none source (some e.text)
  | nothing => .none source none
  | document d reading => .ofReading source d reading

variable {source : Source} {o : Offer}

theorem rows_contribution : (o.contribution source).rows = o.announced?.getD [] := by
  cases o with
  | failed e => rfl
  | nothing => rfl
  | document d reading => cases reading <;> rfl

/-- A report has as many rows as were read, and an error exactly for a failure. -/
theorem report_contribution :
    (fun r : SourceReport => (r.source, r.rows, r.error.isSome)) (o.contribution source).report =
      (source, (o.announced?.getD []).length, o.isFailure) := by
  cases o with
  | failed e => rfl
  | nothing => rfl
  | document d reading => cases reading <;> rfl

/-- A failure has no announcements to lose. -/
@[simp] theorem announced?_hushed : o.hushed.announced? = o.announced? := by
  cases o with
  | failed e => rfl
  | nothing => rfl
  | document d reading => cases reading <;> rfl

/-- A document without announcements merges with others as one that could not be read. -/
theorem merge_contributions (offers : List (Source × Offer)) :
    Announcement.merge (offers.map fun p => (p.2.contribution p.1).rows) =
      Announcement.merge (offers.filterMap (·.2.announced?)) := by
  have flat : (offers.map fun p => (p.2.contribution p.1).rows).flatten =
      (offers.filterMap (·.2.announced?)).flatten := by
    induction offers with
    | nil => rfl
    | cons p offers ih =>
      rw [List.map_cons, List.flatten_cons, rows_contribution, ih, List.filterMap_cons]
      cases p.2.announced? <;> rfl
  rw [Announcement.merge, flat, Announcement.merge]

end Feed.Offer

def Archive.afterReading (archive : Archive) (keeps : Bool) (d : Document) : Archive :=
  match d.artifact with
  | some artifact => if keeps then archive else archive.discard artifact.path
  | none => archive

namespace Feed

variable (keeps : Bool) (client : Client) (now : Moment)

/-- What a feed has to offer, with the archive as it leaves it. -/
def offer (feed : Feed) (archive : Archive) : StateM World (Offer × Archive) := do
  match ← feed.fetch client now archive with
  | (.error e, archive) => pure (.failed e, archive)
  | (.ok none, archive) => pure (.nothing, archive)
  | (.ok (some d), archive) => pure (.document d (feed.read d), archive.afterReading keeps d)

/-- What several feeds have to offer, in order. -/
def offerAll : List Feed → Archive → StateM World (List (Source × Offer) × Archive)
  | [], archive => pure ([], archive)
  | feed :: feeds, archive => do
    let (offer, archive) ← feed.offer keeps client now archive
    let (offers, archive) ← offerAll feeds archive
    pure ((feed.source, offer) :: offers, archive)

theorem exists_read_of_offer {feed : Feed} {archive : Archive} {world : World}
    {rows : List Announcement}
    (h : ((feed.offer keeps client now archive).run world).1.1.announced? = some rows) :
    ∃ d, feed.read d = .announced rows := by
  rw [Feed.offer, StateT.run_bind] at h
  change (Offer.announced? (StateT.run (match ((feed.fetch client now archive).run world).1 with
    | (.error e, archive) => pure (.failed e, archive)
    | (.ok none, archive) => pure (.nothing, archive)
    | (.ok (some d), archive) =>
      pure (.document d (feed.read d), archive.afterReading keeps d) : StateM World _) _).1.1) =
    some rows at h
  split at h
  · cases h
  · cases h
  · rename_i d _ _
    refine ⟨d, ?_⟩
    change (Offer.document d (feed.read d)).announced? = some rows at h
    cases reading : feed.read d with
    | announced others =>
      rw [reading] at h
      rw [Option.some.inj h]
    | refused e =>
      rw [reading] at h
      cases h
    | aborted =>
      rw [reading] at h
      cases h

/-- What is announced was read from some document by one of the feeds. -/
theorem exists_read_of_mem_offerAll {feeds : List Feed} {archive : Archive} {world : World}
    {p : Source × Offer} {rows : List Announcement}
    (h : p ∈ ((offerAll keeps client now feeds archive).run world).1.1)
    (announced : p.2.announced? = some rows) :
    ∃ feed ∈ feeds, ∃ d, feed.read d = .announced rows := by
  induction feeds generalizing archive world with
  | nil => exact absurd h List.not_mem_nil
  | cons feed feeds ih =>
    rcases List.mem_cons.mp h with rfl | later
    · refine ⟨feed, List.mem_cons_self, ?_⟩
      exact exists_read_of_offer keeps client now announced
    · obtain ⟨other, member, read⟩ := ih later
      exact ⟨other, List.mem_cons_of_mem _ member, read⟩

/-- The feed that does as another one, but has nothing to offer where that one fails. -/
def hushed (feed : Feed) : Feed where
  source := feed.source
  fetch client now archive := do
    match ← feed.fetch client now archive with
    | (.ok (some d), archive) =>
      if (Offer.document d (feed.read d)).isFailure then
        pure (.ok none, archive.afterReading keeps d)
      else pure (.ok (some d), archive)
    | (_, archive) => pure (.ok none, archive)
  read := feed.read

@[simp] theorem source_hushed (feed : Feed) : (feed.hushed keeps).source = feed.source := rfl

/-- A feed contributes what it has to offer. -/
theorem collect_eq (feed : Feed) (archive : Archive) :
    feed.collect keeps client now archive =
      (fun p => (p.1.contribution feed.source, p.2)) <$> feed.offer keeps client now archive := by
  rw [map_eq_pure_bind, Feed.collect, Feed.offer, bind_assoc]
  refine bind_congr fun (answer, archive) => ?_
  match answer with
  | .error e => rfl
  | .ok none => rfl
  | .ok (some d) =>
    simp only [pure_bind, Archive.afterReading]
    cases d.artifact <;> rfl

/-- Feeds contribute what they have to offer, in their order. -/
theorem collectAll_eq (feeds : List Feed) (archive : Archive) :
    collectAll keeps client now feeds archive =
      (fun p => (p.1.map fun (source, o) => o.contribution source, p.2)) <$>
        offerAll keeps client now feeds archive := by
  induction feeds generalizing archive with
  | nil => rfl
  | cons feed feeds ih =>
    simp only [collectAll, offerAll, collect_eq, ih, map_eq_pure_bind, bind_assoc, pure_bind,
      List.map_cons]

/-- Without its failure a feed leaves the web and the archive as it does with it. -/
theorem offer_hushed (feed : Feed) (archive : Archive) :
    (feed.hushed keeps).offer keeps client now archive =
      (fun p => (p.1.hushed, p.2)) <$> feed.offer keeps client now archive := by
  rw [map_eq_pure_bind, Feed.offer, Feed.offer, Feed.hushed, bind_assoc, bind_assoc]
  refine bind_congr fun (answer, archive) => ?_
  match answer with
  | .error e => rfl
  | .ok none => rfl
  | .ok (some d) =>
    by_cases failure : (Offer.document d (feed.read d)).isFailure = true
    · simp [failure, Offer.hushed]
    · simp [failure, Offer.hushed]

/-- So feeds without their failures offer the same otherwise. -/
theorem offerAll_hushed (feeds : List Feed) (archive : Archive) :
    offerAll keeps client now (feeds.map (Feed.hushed keeps)) archive =
      (fun p => (p.1.map fun (source, o) => (source, o.hushed), p.2)) <$>
        offerAll keeps client now feeds archive := by
  induction feeds generalizing archive with
  | nil => rfl
  | cons feed feeds ih =>
    simp only [List.map_cons, offerAll, offer_hushed, ih, map_eq_pure_bind, bind_assoc, pure_bind,
      source_hushed]

end Feed

end RouteAlerts
