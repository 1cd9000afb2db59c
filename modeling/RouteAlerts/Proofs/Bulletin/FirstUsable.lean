import RouteAlerts.Bulletin.Delivery
import RouteAlerts.Proofs.Bulletin.Payload
import RouteAlerts.Proofs.Web.Requests

/-!
Which page of a post and which of its files are taken. Both are the first that can be fetched and is
of use: a page (`firstPage?_eq_iff`), or a file that turns out to be a bulletin
(`firstBulletin?_eq_iff`). A download fails only where there is none of them (`download_eq_iff`),
and a bulletin that is downloaded still has to find room in the archive (`fetch_eq_ok_iff`).
-/

namespace RouteAlerts.Bulletin

open Text Web

/-! ### What is of use -/

theorem typeMentions_iff {response : Response} {word : String} :
    response.typeMentions word = true ↔ TypeMentions response.contentType word := by
  unfold Response.typeMentions
  cases response.contentType with
  | none => simp [TypeMentions]
  | some s => simp [TypeMentions, contains_iff_infix]

/-- The bulletin in a response to the request for a file, and its name: what was downloaded can be
decoded, and it starts like a bulletin or was declared to be one. -/
structure Attachment.Yields (a : Attachment) (response : Response) (found : Bytes × List Char) :
    Prop where
  bytes : (Payload.of response.contentType response.body).bytes? = some found.1
  kind : Utf8.encode "%PDF-".toList <+: found.1 ∨ TypeMentions response.contentType "pdf"
  name : found.2 = a.fileName response.contentDisposition

theorem Attachment.bulletin?_eq_some_iff {a : Attachment} {response : Response}
    {found : Bytes × List Char} :
    a.bulletin? response = some found ↔ a.Yields response found := by
  have kind : ∀ bytes, isPdf response bytes = true ↔
      Utf8.encode "%PDF-".toList <+: bytes ∨ TypeMentions response.contentType "pdf" := by
    intro bytes
    rw [isPdf, Bool.or_eq_true, List.isPrefixOf_iff_prefix, typeMentions_iff]
  unfold Attachment.bulletin?
  constructor
  · intro h
    split at h
    · rename_i bytes decoded
      obtain ⟨own, eq⟩ := Option.ite_none_right_eq_some.mp h
      obtain rfl := Option.some.inj eq
      exact ⟨decoded, (kind bytes).mp own, rfl⟩
    · cases h
  · obtain ⟨bytes, name⟩ := found
    rintro ⟨decoded, own, rfl⟩
    simp only [decoded, (kind bytes).mpr own, if_true]

/-- The page in a response to the request for an address. -/
structure YieldsPage (view : List Char) (response : Response) (page : List Char × List Char) :
    Prop where
  kind : TypeMentions response.contentType "html"
  content : page = (view, response.text)

/-! ### The first of use -/

variable {client : Client} {view : List Char} {w w' : World}

theorem firstBulletin?_eq_firstOf (files : List Attachment) : firstBulletin? client view files =
    client.firstOf (fun a => a.request view) Attachment.bulletin? files := by
  induction files with
  | nil => rfl
  | cons a files ih =>
    rw [firstBulletin?, Client.firstOf, ih]
    refine congrArg _ (funext fun outcome => ?_)
    cases outcome with
    | error e => rfl
    | ok response =>
      simp only
      cases a.bulletin? response <;> rfl

theorem firstPage?_eq_firstOf (views : List (List Char)) : firstPage? client views =
    client.firstOf (fun view => { address := view })
      (fun view response => if response.isPage then some (view, response.text) else none)
      views := by
  induction views with
  | nil => rfl
  | cons view views ih =>
    rw [firstPage?, Client.firstOf, ih]
    refine congrArg _ (funext fun outcome => ?_)
    cases outcome with
    | error e => rfl
    | ok response =>
      simp only
      split <;> rfl

/-- The first file that turns out to be a bulletin is taken. -/
theorem firstBulletin?_eq_iff {files : List Attachment} {found : Option (Bytes × List Char)} :
    firstBulletin? client view files w = (found, w') ↔
      ∃ tried, client.FindsFirst (fun a => a.request view) Attachment.Yields files w tried found
        w' := by
  rw [firstBulletin?_eq_firstOf]
  exact Client.firstOf_eq_iff Attachment.bulletin?_eq_some_iff

/-- The first address that answers with a page is taken. -/
theorem firstPage?_eq_iff {views : List (List Char)} {found : Option (List Char × List Char)} :
    firstPage? client views w = (found, w') ↔
      ∃ tried, client.FindsFirst (fun view => { address := view }) YieldsPage views w tried found
        w' := by
  rw [firstPage?_eq_firstOf]
  refine Client.firstOf_eq_iff fun {view response page} => ?_
  rw [Option.ite_none_right_eq_some, Response.isPage, typeMentions_iff]
  constructor
  · rintro ⟨kind, content⟩
    exact ⟨kind, (Option.some.inj content).symm⟩
  · rintro ⟨kind, rfl⟩
    exact ⟨kind, rfl⟩

/-! ### Downloads -/

/-- What becomes of the download of a post: it fails for want of a page, or for want of a bulletin
among the files of the first page, and else it is the first bulletin there. -/
inductive IsDownload (site : Site) (client : Client) (post : Post) (w : World) :
    Except SourceError (List Char × Bytes × List Char) → World → Prop where
  | noPage {tried : List (List Char)} {w' : World}
      (pages : client.FindsFirst (fun view => { address := view }) YieldsPage
        (post.views site.base) w tried none w') :
      IsDownload site client post w
        (.error (.other ("no view page responded for post ".toList ++ post.number))) w'
  | noFile {tried : List (List Char)} {files : List Attachment} {view markup : List Char}
      {w₁ w' : World}
      (pages : client.FindsFirst (fun view => { address := view }) YieldsPage
        (post.views site.base) w tried (some (view, markup)) w₁)
      (bulletins : client.FindsFirst (fun a => a.request view) Attachment.Yields
        (Attachment.list markup site.base) w₁ files none w') :
      IsDownload site client post w (.error (.noAttachment view)) w'
  | file {tried : List (List Char)} {files : List Attachment} {view markup name : List Char}
      {bytes : Bytes} {w₁ w' : World}
      (pages : client.FindsFirst (fun view => { address := view }) YieldsPage
        (post.views site.base) w tried (some (view, markup)) w₁)
      (bulletins : client.FindsFirst (fun a => a.request view) Attachment.Yields
        (Attachment.list markup site.base) w₁ files (some (bytes, name)) w') :
      IsDownload site client post w (.ok (view, bytes, name)) w'

theorem download_eq_iff {site : Site} {post : Post}
    {outcome : Except SourceError (List Char × Bytes × List Char)} :
    download site client post w = (outcome, w') ↔ IsDownload site client post w outcome w' := by
  unfold download
  rw [bind_apply]
  constructor
  · intro h
    -- Two searches, one after the other, and each may come to nothing: three endings.
    rcases pages : firstPage? client (post.views site.base) w with ⟨_ | ⟨view, markup⟩, w₁⟩
    · rw [pages] at h
      obtain ⟨rfl, rfl⟩ := Prod.mk.inj h
      obtain ⟨tried, first⟩ := firstPage?_eq_iff.mp pages
      exact .noPage first
    · rw [pages] at h
      obtain ⟨tried, first⟩ := firstPage?_eq_iff.mp pages
      simp only [bind_apply] at h
      rcases files : firstBulletin? client view (Attachment.list markup site.base) w₁ with
        ⟨_ | ⟨bytes, name⟩, w₂⟩
      · rw [files] at h
        obtain ⟨rfl, rfl⟩ := Prod.mk.inj h
        obtain ⟨all, none⟩ := firstBulletin?_eq_iff.mp files
        exact .noFile first none
      · rw [files] at h
        obtain ⟨rfl, rfl⟩ := Prod.mk.inj h
        obtain ⟨asked, taken⟩ := firstBulletin?_eq_iff.mp files
        exact .file first taken
  · intro h
    cases h with
    | noPage pages =>
      rw [firstPage?_eq_iff.mpr ⟨_, pages⟩]
      rfl
    | noFile pages bulletins =>
      rw [firstPage?_eq_iff.mpr ⟨_, pages⟩]
      simp only [bind_apply]
      rw [firstBulletin?_eq_iff.mpr ⟨_, bulletins⟩]
      rfl
    | file pages bulletins =>
      rw [firstPage?_eq_iff.mpr ⟨_, pages⟩]
      simp only [bind_apply]
      rw [firstBulletin?_eq_iff.mpr ⟨_, bulletins⟩]
      rfl

/-! ### Fetched bulletins -/

/-- A post is found when the list page answers and has one for the day. -/
theorem findPost_eq_ok_iff {site : Site} {today : Date} {post : Post} :
    findPost site client today w = (.ok post, w') ↔
      ∃ response, client.get site.list w = (.ok response, w') ∧
        Post.find? (Post.list response.text) today = some post := by
  rw [findPost, bind_apply]
  constructor
  · intro h
    rcases asked : client.get site.list w with ⟨e | response, w₁⟩
    · rw [asked] at h
      cases h
    · rw [asked] at h
      cases found : Post.find? (Post.list response.text) today with
      | none =>
        simp only [found] at h
        cases h
      | some other =>
        simp only [found] at h
        cases h
        exact ⟨response, rfl, found⟩
  · rintro ⟨response, asked, found⟩
    rw [asked]
    simp only [found]
    rfl

/-- A bulletin is fetched when its post is found, one of the files of the post is a bulletin, and
the archive takes it. -/
theorem fetch_eq_ok_iff {site : Site} {fetchedAt : Moment} {archive archive' : Archive}
    {d : Document} : fetch site client fetchedAt archive w = ((.ok d, archive'), w') ↔
    ∃ post view bytes name artifact w₁,
      findPost site client (Seoul.localDate fetchedAt) w = (.ok post, w₁) ∧
      IsDownload site client post w₁ (.ok (view, bytes, name)) w' ∧
      archive.store fetchedAt Source.primaryBoard.id.toList name bytes = .ok (archive', artifact) ∧
      d = {
        source := .primaryBoard
        date := post.date?.getD (Seoul.localDate fetchedAt)
        title := post.title
        address := view
        content := .pdf bytes
        artifact := some artifact } := by
  unfold fetch
  rw [bind_apply]
  constructor
  · intro h
    rcases found : findPost site client (Seoul.localDate fetchedAt) w with ⟨e | post, w₁⟩
    · rw [found] at h
      cases h
    · rw [found] at h
      simp only [bind_apply] at h
      rcases downloaded : download site client post w₁ with ⟨e | ⟨view, bytes, name⟩, w₂⟩
      · rw [downloaded] at h
        cases h
      · rw [downloaded] at h
        rcases stored : archive.store fetchedAt Source.primaryBoard.id.toList name bytes with
          e | ⟨archive₁, artifact⟩
        · simp only [stored] at h
          cases h
        · simp only [stored] at h
          cases h
          exact ⟨post, view, bytes, name, artifact, w₁, rfl, download_eq_iff.mp downloaded, stored,
            rfl⟩
  · rintro ⟨post, view, bytes, name, artifact, w₁, found, downloaded, stored, rfl⟩
    simp only [found, bind_apply, download_eq_iff.mpr downloaded, stored]
    rfl

/-- The first file of use is taken, and one that is of none never ends the search. Files are fetched
in turn, each by up to as many attempts as its retries call for, until one has been downloaded, can
be decoded and is a bulletin; its bytes and its name are the outcome. The same goes for the
addresses of a post, of which the first that answers with a page is taken. A download fails only
where all the addresses do, or all the files of the page, and says which. What the web was asked,
beyond what it had been before, are the requests for the candidates up to the one that is taken, in
their order. -/
theorem first_of_use_is_taken (client : Client) :
    (∀ {view : List Char} {files : List Attachment} {w w' : World}
        {found : Option (Bytes × List Char)},
      firstBulletin? client view files w = (found, w') ↔
        ∃ tried, client.FindsFirst (fun a => a.request view) Attachment.Yields files w tried found
          w') ∧
    (∀ {views : List (List Char)} {w w' : World} {found : Option (List Char × List Char)},
      firstPage? client views w = (found, w') ↔
        ∃ tried, client.FindsFirst (fun view => { address := view }) YieldsPage views w tried found
          w') ∧
    (∀ {site : Site} {post : Post} {w w' : World}
        {outcome : Except SourceError (List Char × Bytes × List Char)},
      download site client post w = (outcome, w') ↔
        IsDownload site client post w outcome w') ∧
    (∀ {α β : Type} {request : α → Request} {useful : α → Response → β → Prop} {l tried : List α}
        {found : Option β} {w w' : World},
      client.FindsFirst request useful l w tried found w' →
        ∃ logs, List.Forall₂ (client.Logs w) (tried.map request) logs ∧
          w'.received = w.received ++ logs.flatten) ∧
    (∀ (r : Request) (w : World),
      ∃ k, IsLeast (finalAttempts client.retry FetchError.isPassing
          (outcomeOf (exchange (client.sent r)) w)) k ∧
        (client.fetch r w).1 = outcomeOf (exchange (client.sent r)) w k ∧
        (client.fetch r w).2.received =
          w.received ++ (List.replicate k (w.sees (client.sent r)).toList).flatten ∧
        (client.fetch r w).2.reachable = w.reachable) :=
  ⟨firstBulletin?_eq_iff, firstPage?_eq_iff, download_eq_iff, Client.FindsFirst.received,
    client.fetch_eq⟩

/-- A file that is gone is passed over after its second attempt, the next one is served at its
second attempt, and the last one is not asked for. -/
theorem first_of_use_is_taken_sample :
    let file (address number : String) : Attachment := ⟨address.toList, number.toList, []⟩
    let files := [file "http://h/a" "1", file "http://h/b" "2", file "http://h/c" "3"]
    let answers := [("/a?attachNo=1".toList, [.reply { status := 500 }, .reply { status := 404 }]),
      ("/b?attachNo=2".toList, [.dropped, .reply { body := Utf8.encode "%PDF-1".toList }])]
    ∃ tried logs w', Client.FindsFirst {} (fun a => a.request "http://h/v".toList) Attachment.Yields
        files { answers } tried (some (Utf8.encode "%PDF-1".toList, "2.pdf".toList)) w' ∧
      List.Forall₂ (Client.Logs {} { answers })
        (tried.map fun a => a.request "http://h/v".toList) logs ∧
      logs.flatten.map (fun r => String.ofList r.target) =
        ["/a?attachNo=1", "/a?attachNo=1", "/b?attachNo=2", "/b?attachNo=2"] := by
  intro file files answers
  obtain ⟨files_taken, -, -, logged, -⟩ := first_of_use_is_taken {}
  have outcome : (firstBulletin? {} "http://h/v".toList files { answers }).1 =
      some (Utf8.encode "%PDF-1".toList, "2.pdf".toList) := by
    decide +kernel
  have asked : (firstBulletin? {} "http://h/v".toList files { answers }).2.received.map
      (fun r => String.ofList r.target) =
        ["/a?attachNo=1", "/a?attachNo=1", "/b?attachNo=2", "/b?attachNo=2"] := by
    decide +kernel
  obtain ⟨tried, found⟩ := files_taken.mp (Prod.ext outcome rfl)
  obtain ⟨logs, each, received⟩ := logged found
  refine ⟨tried, logs, _, found, each, ?_⟩
  rw [received] at asked
  exact asked

end RouteAlerts.Bulletin
