import RouteAlerts.Proofs.Archive.Containment
import RouteAlerts.Proofs.Bulletin.FirstUsable
import RouteAlerts.Proofs.Html.Query

/-!
The ending of bulletins. Whatever a server or a page calls a bulletin, its name is given the ending
of bulletins before it comes to the archive, and the archive takes the extension from that name. A
name that has nothing but blanks in front of its ending has no extension there, though, and a
bulletin of that name lies under another one (`kept_as_pdf_iff`).
-/

namespace RouteAlerts

open Text

namespace Bulletin

open Web Html

variable {site : Site} {client : Client} {fetchedAt : Moment} {archive archive' : Archive}
  {w w' : World} {d : Document}

/-- What a bulletin is called: by the message head, the label of the link or its number. -/
def Attachment.givenName (a : Attachment) (disposition : Option (List Char)) : List Char :=
  (disposition.bind fileName?).getD (if a.label.isEmpty then a.number ++ ".pdf".toList else a.label)

/-- The archive leaves the name of a bulletin as it is. -/
theorem Attachment.sanitize_fileName (a : Attachment) (disposition : Option (List Char)) :
    FileName.sanitize (a.fileName disposition) = a.fileName disposition :=
  FileName.sanitize_eq_self_iff.mpr (FileName.isClean_asPdf _)

/-- The extension under which a bulletin of a name is kept. -/
theorem extension?_of_given (a : Attachment) (disposition : Option (List Char)) (fetchedAt : Moment)
    (source : List Char) (bytes : Bytes) :
    FileName.extension? (ArchivePath.of fetchedAt source (a.fileName disposition) bytes).fileName =
      some (if FileName.HasStem (a.givenName disposition) then "pdf".toList else "bin".toList) := by
  rw [ArchivePath.extension?_fileName, a.sanitize_fileName disposition]
  exact congrArg some (FileName.storedExtension_asPdf _)

/-- A bulletin comes from a link of the page of its post, and has the name that the answer to the
request for it gives. -/
theorem IsDownload.exists_link {post : Post} {view name : List Char} {bytes : Bytes}
    (h : IsDownload site client post w (.ok (view, bytes, name)) w') :
    ∃ a markup response w₂, a ∈ Attachment.list markup site.base ∧
      client.fetch (a.request view) w₂ = (.ok response, w') ∧ a.Yields response (bytes, name) := by
  cases h with
  | @file tried files _ markup _ _ w₁ _ pages bulletins =>
    generalize listed : Attachment.list markup site.base = links at bulletins
    cases bulletins with
    | @found before after a b _ w₂ _ response passes asked own =>
      exact ⟨a, markup, response, w₂, by simp [listed], asked, own⟩

/-- The name of no bulletin is too long for the archive. -/
theorem size_fileName_le (a : Attachment) (disposition : Option (List Char)) (fetchedAt : Moment)
    (source : List Char) (bytes : Bytes) :
    Utf8.size (ArchivePath.of fetchedAt source (a.fileName disposition) bytes).fileName ≤
      Archive.longestName := by
  have ending : Utf8.size (FileName.storedExtension (a.fileName disposition)) = 3 := by
    unfold Attachment.fileName
    rw [FileName.storedExtension_asPdf]
    cases Decidable.em (FileName.HasStem _) with
    | inl named => rw [if_pos named]; rfl
    | inr unnamed => rw [if_neg unnamed]; rfl
  have digest : Utf8.size (Sha256.hex bytes) = 64 := by
    rw [← Sha256.length_hex bytes]
    refine Utf8.size_eq_length fun c inside => ?_
    have plain : ("0123456789abcdef".toList.all fun d => d.utf8Size == 1) = true := by decide
    exact eq_of_beq (List.all_eq_true.mp plain c (Sha256.mem_hex inside))
  have point : Utf8.size ('.' :: FileName.storedExtension (a.fileName disposition)) =
      1 + Utf8.size (FileName.storedExtension (a.fileName disposition)) := rfl
  rw [ArchivePath.of, a.sanitize_fileName disposition, Utf8.size_append, digest, point, ending]
  decide

/-- What was downloaded is kept under its name, where the archive has a directory for its root. -/
theorem exists_fetch {post : Post} {view name : List Char} {bytes : Bytes} {w₁ : World}
    (found : findPost site client (Seoul.localDate fetchedAt) w = (.ok post, w₁))
    (downloaded : IsDownload site client post w₁ (.ok (view, bytes, name)) w')
    (writable : archive.writable = true) :
    ∃ d archive' artifact, fetch site client fetchedAt archive w = ((.ok d, archive'), w') ∧
      d.artifact = some artifact ∧
      artifact.path = .of fetchedAt Source.primaryBoard.id.toList name bytes := by
  obtain ⟨a, -, response, -, -, -, own⟩ := downloaded.exists_link
  obtain rfl : name = _ := own.name
  have stored := (@Archive.store_eq_ok_iff archive _
    ⟨fetchedAt, Source.primaryBoard.id.toList, _, bytes⟩ _).mpr
    ⟨⟨writable, size_fileName_le a response.contentDisposition _ _ _⟩, rfl, rfl⟩
  exact ⟨_, _, _, fetch_eq_ok_iff.mpr ⟨post, view, bytes, _, _, w₁, found, downloaded, stored, rfl⟩,
    rfl, rfl⟩

/-- The extension of a bulletin that was fetched is that of its name. -/
theorem extension?_of_fetch
    (fetched : fetch site client fetchedAt archive w = ((.ok d, archive'), w')) :
    ∃ a markup response bytes artifact w₂, a ∈ Attachment.list markup site.base ∧
      client.fetch (a.request d.address) w₂ = (.ok response, w') ∧
      a.Yields response (bytes, a.fileName response.contentDisposition) ∧
      d.content = .pdf bytes ∧ d.artifact = some artifact ∧
      FileName.extension? artifact.path.fileName =
        some (if FileName.HasStem (a.givenName response.contentDisposition)
          then "pdf".toList else "bin".toList) := by
  obtain ⟨post, view, bytes, name, artifact, w₁, -, downloaded, stored, rfl⟩ :=
    fetch_eq_ok_iff.mp fetched
  obtain ⟨a, markup, response, w₂, listed, asked, own⟩ := downloaded.exists_link
  obtain rfl : name = _ := own.name
  obtain ⟨-, -, rfl⟩ := (@Archive.store_eq_ok_iff archive _
    ⟨fetchedAt, Source.primaryBoard.id.toList, _, bytes⟩ _).mp stored
  exact ⟨a, markup, response, bytes, _, w₂, listed, asked, own, rfl, rfl,
    extension?_of_given a response.contentDisposition _ _ _⟩

/-- Every bulletin that is downloaded is kept, unless the root of the archive is no directory. It is
kept as a bulletin exactly when what it is called has a stem, whoever calls it so: the message head
of the server, the label of the link, or the number of the file. Else it is kept under the extension
of files that have none. -/
theorem kept_as_pdf_iff (site : Site) (client : Client) (fetchedAt : Moment) (archive : Archive)
    (w w' : World) :
    (∀ {post : Post} {view name : List Char} {bytes : Bytes} {w₁ : World},
      findPost site client (Seoul.localDate fetchedAt) w = (.ok post, w₁) →
      IsDownload site client post w₁ (.ok (view, bytes, name)) w' → archive.writable = true →
        ∃ d archive' artifact, fetch site client fetchedAt archive w = ((.ok d, archive'), w') ∧
          d.artifact = some artifact ∧
          artifact.path = .of fetchedAt Source.primaryBoard.id.toList name bytes) ∧
    (∀ {d : Document} {archive' : Archive},
      fetch site client fetchedAt archive w = ((.ok d, archive'), w') →
        ∃ a markup response bytes artifact w₂, a ∈ Attachment.list markup site.base ∧
          client.fetch (a.request d.address) w₂ = (.ok response, w') ∧
          a.Yields response (bytes, a.fileName response.contentDisposition) ∧
          d.content = .pdf bytes ∧ d.artifact = some artifact ∧
          FileName.extension? artifact.path.fileName =
            some (if FileName.HasStem (a.givenName response.contentDisposition)
              then "pdf".toList else "bin".toList)) ∧
    ∀ (a : Attachment) (disposition : Option (List Char)) (bytes : Bytes),
      FileName.extension? (ArchivePath.of fetchedAt Source.primaryBoard.id.toList
        (a.fileName disposition) bytes).fileName = some "pdf".toList ↔
          FileName.HasStem (a.givenName disposition) := by
  refine ⟨exists_fetch, extension?_of_fetch, fun a disposition bytes => ?_⟩
  rw [extension?_of_given]
  by_cases named : FileName.HasStem (a.givenName disposition) <;> simp [named]

/-! ### A bulletin with an ending for a name -/

def samplePage (markup : String) : Answer :=
  .reply { contentType := some "text/html".toList, body := Utf8.encode markup.toList }

def sampleList : String := "<a href=javascript:goBoardView('B','5','1')>오늘의 집회 250815"

def sampleView : String := "<a onclick=attachfileDownload('/f','7')>"

/-- A board with one post. The server calls its bulletin by the ending of bulletins alone. -/
def sampleWorld : World where
  answers := [
    ("/list".toList, [samplePage sampleList]),
    ("/user/nd54882.do?View&boardNo=1".toList, [samplePage sampleView]),
    ("/f?attachNo=7".toList, [.reply {
      contentDisposition := some "attachment; filename=\".pdf\"".toList
      body := Utf8.encode "%PDF-1".toList }])]

def sampleSite : Site := .of "http://h".toList "http://h/list".toList

def sampleBoardPost : Post := ⟨['B'], ['5'], ['1'], "오늘의 집회 250815".toList⟩

def sampleLink : Attachment := ⟨"http://h/f".toList, ['7'], []⟩

/-- On a page without tables all links are looked at. -/
theorem Post.list_of_no_table {markup : List Char}
    (noTable : ∀ l ∈ elements (parse markup), ∀ p ∈ l.ancestors,
      (Test.name "tbody").holds p = false) :
    Post.list markup = ((elements (parse markup)).filter fun l =>
      Post.links.all (·.holds l.node)).filterMap fun l => ofLink? l.node := by
  have inTable : (Selector.within Post.tableBody Post.links).among (elements (parse markup)) = [] := by
    refine List.filter_eq_nil_iff.mpr fun l located => ?_
    have around : Selector.holds.outerHolds Post.tableBody l.ancestors = false :=
      Selector.outerHolds_childOf (by simpa using noTable l located)
    rw [Selector.holds.eq_def]
    simp [around]
  simp [Post.list, inTable, Selector.among_only]

theorem list_sampleList : Post.list sampleList.toList = [sampleBoardPost] := by
  have noTable : (elements (parse sampleList.toList)).all (fun l =>
      l.ancestors.all fun p => !(Test.name "tbody").holds p) = true := by
    decide +kernel
  rw [Post.list_of_no_table (by simpa using noTable)]
  decide +kernel

theorem list_sampleView : Attachment.list sampleView.toList sampleSite.base = [sampleLink] := by
  rw [Attachment.list]
  simp only [Selector.among_only]
  decide +kernel

/-- The bulletin of the sample board is fetched, and kept under the name that the server gives it.
-/
theorem exists_fetch_sample : ∃ d archive' w' artifact,
    fetch sampleSite {} Session.sampleOffer.fetchedAt {} sampleWorld = ((.ok d, archive'), w') ∧
      d.artifact = some artifact ∧
      artifact.path = .of Session.sampleOffer.fetchedAt Source.primaryBoard.id.toList ".pdf".toList
        (Utf8.encode "%PDF-1".toList) := by
  have text : (Client.get {} sampleSite.list sampleWorld).1.toOption.map Response.text =
      some sampleList.toList := by
    decide +kernel
  have page : (firstPage? {} (sampleBoardPost.views sampleSite.base)
      (Client.get {} sampleSite.list sampleWorld).2).1 =
        some ("http://h/user/nd54882.do?View&boardNo=1".toList, sampleView.toList) := by
    decide +kernel
  have file : (firstBulletin? {} "http://h/user/nd54882.do?View&boardNo=1".toList [sampleLink]
      (firstPage? {} (sampleBoardPost.views sampleSite.base)
        (Client.get {} sampleSite.list sampleWorld).2).2).1 =
          some (Utf8.encode "%PDF-1".toList, ".pdf".toList) := by
    decide +kernel
  have titled : Post.find? [sampleBoardPost] (Seoul.localDate Session.sampleOffer.fetchedAt) =
      some sampleBoardPost := by
    decide +kernel
  rcases asked : Client.get {} sampleSite.list sampleWorld with ⟨e | response, w₁⟩
  · rw [asked] at text
    cases text
  · rw [asked] at text page file
    have found : findPost sampleSite {} (Seoul.localDate Session.sampleOffer.fetchedAt) sampleWorld =
        (.ok sampleBoardPost, w₁) :=
      findPost_eq_ok_iff.mpr ⟨response, asked, by
        rw [Option.some.inj text, list_sampleList]
        exact titled⟩
    obtain ⟨tried, pages⟩ := firstPage?_eq_iff.mp (Prod.ext page rfl)
    rw [← list_sampleView] at file
    obtain ⟨files, bulletins⟩ := firstBulletin?_eq_iff.mp (Prod.ext file rfl)
    obtain ⟨d, archive', artifact, fetched, own, path⟩ :=
      exists_fetch found (.file pages bulletins) (show Archive.writable {} = true from rfl)
    exact ⟨d, archive', _, artifact, fetched, own, path⟩

theorem extension?_sample : FileName.extension? (ArchivePath.of Session.sampleOffer.fetchedAt
    Source.primaryBoard.id.toList ".pdf".toList (Utf8.encode "%PDF-1".toList)).fileName =
      some "bin".toList := by
  rw [ArchivePath.extension?_fileName]
  decide

/-- The server calls its bulletin by an ending alone, which is no stem. -/
theorem kept_as_pdf_iff_sample : ∃ d archive' w',
    fetch sampleSite {} Session.sampleOffer.fetchedAt {} sampleWorld = ((.ok d, archive'), w') ∧
      ∃ a response artifact, d.artifact = some artifact ∧
        FileName.extension? artifact.path.fileName = some "bin".toList ∧
        ¬ FileName.HasStem (Attachment.givenName a (Response.contentDisposition response)) := by
  obtain ⟨d, archive', w', artifact, fetched, own, path⟩ := exists_fetch_sample
  obtain ⟨-, kept, -⟩ := kept_as_pdf_iff sampleSite {} Session.sampleOffer.fetchedAt {} sampleWorld w'
  obtain ⟨a, -, response, -, artifact', -, -, -, -, -, same, extension⟩ := kept fetched
  obtain rfl := Option.some.inj (own.symm.trans same)
  have none : FileName.extension? artifact.path.fileName = some "bin".toList := by
    rw [path, extension?_sample]
  refine ⟨d, archive', w', fetched, a, response, artifact, own, none, fun named => ?_⟩
  rw [none, if_pos named] at extension
  exact absurd extension (by decide)

/-- Not every bulletin is kept as one. -/
theorem kept_under_no_ending : ¬ ∀ (site : Site) (client : Client) (fetchedAt : Moment)
    (archive archive' : Archive) (w w' : World) (d : Document) (artifact : Artifact),
    fetch site client fetchedAt archive w = ((.ok d, archive'), w') → d.artifact = some artifact →
      FileName.extension? artifact.path.fileName = some "pdf".toList := by
  intro always
  obtain ⟨d, archive', w', artifact, fetched, own, path⟩ := exists_fetch_sample
  have extension := always _ _ _ _ _ _ _ _ _ fetched own
  rw [path, extension?_sample] at extension
  exact absurd extension (by decide)

end Bulletin

end RouteAlerts
