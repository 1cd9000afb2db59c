import RouteAlerts.Announcement.Basic
import RouteAlerts.Archive.Store
import RouteAlerts.Bulletin.Attachment
import RouteAlerts.Proofs.Archive.FileName
import RouteAlerts.Proofs.Archive.Whole
import RouteAlerts.Proofs.Calendar.Written
import RouteAlerts.Settings

/-!
Where documents lie. A path leads from directory to directory (`Directory.walk`), and one with
points in it may lead anywhere. The path of a document has three components, each of which is an
entry of a directory, so it leads down from the root of the archive and nowhere else
(`names_stay_below_root`). Of the name that a server gives to a document no more than an extension
gets into that path.
-/

namespace RouteAlerts

open Text

/-! ### Directories -/

/-- A directory, as the names of those that lead to it from the top. -/
abbrev Directory : Type := List (List Char)

/-- What may stand in a path to lead to an entry of a directory. -/
structure IsEntry (name : List Char) : Prop where
  nonempty : name ≠ []
  noSlash : '/' ∉ name
  noPoint : name ≠ ['.']
  noPoints : name ≠ ['.', '.']

/-- A name without slashes that does not start with a point is the name of an entry. -/
theorem isEntry_of_head {name : List Char} {c : Char} (head : name.head? = some c)
    (point : c ≠ '.') (noSlash : '/' ∉ name) : IsEntry name := by
  obtain ⟨rest, rfl⟩ := List.head?_eq_some_iff.mp head
  constructor
  · exact List.cons_ne_nil c rest
  · exact noSlash
  · exact fun same => point (List.cons.inj same).1
  · exact fun same => point (List.cons.inj same).1

namespace Directory

variable {d : Directory} {root p : List Char}

/-- Where one component of a path leads: nowhere, up, or to an entry. -/
def step (d : Directory) (component : List Char) : Directory :=
  if component = [] ∨ component = ['.'] then d
  else if component = ['.', '.'] then d.dropLast
  else d ++ [component]

/-- Where a path leads from a directory; one with a slash in front starts from the top. -/
def walk (d : Directory) (path : List Char) : Directory :=
  (splitWhere (· == '/') path).foldl step (if path.head? = some '/' then [] else d)

theorem step_of_isEntry {name : List Char} (h : IsEntry name) : d.step name = d ++ [name] := by
  rw [step, if_neg (by simp [h.nonempty, h.noPoint]), if_neg h.noPoints]

theorem foldl_step_of_isEntry {names : List (List Char)} (h : ∀ name ∈ names, IsEntry name) :
    names.foldl step d = d ++ names := by
  induction names generalizing d with
  | nil => simp
  | cons name names ih =>
    rw [List.foldl_cons, step_of_isEntry (h name List.mem_cons_self),
      ih fun other later => h other (List.mem_cons_of_mem _ later), List.append_assoc]
    rfl

/-- A path is walked up to one of its slashes, and on from there. -/
theorem walk_slash : d.walk (root ++ '/' :: p) =
    (splitWhere (· == '/') p).foldl step (d.walk (root ++ ['/'])) := by
  have head : (root ++ '/' :: p).head? = (root ++ ['/']).head? := by
    cases root <;> rfl
  have front := @splitWhere_append _ (· == '/') '/' rfl root []
  have whole := @splitWhere_append _ (· == '/') '/' rfl root p
  rw [walk, walk, head, front, whole, List.foldl_append, List.foldl_append]
  simp [splitWhere, step]

/-- A slash at the end leads nowhere else. -/
theorem walk_slash_nil (named : root ≠ []) : d.walk (root ++ ['/']) = d.walk root := by
  rw [walk, walk, List.head?_append_of_ne_nil _ named, @splitWhere_append _ (· == '/') '/' rfl root,
    List.foldl_append]
  simp [splitWhere, step]

/-- What is below a directory is found from where the directory is. -/
theorem walk_pathBelow (relative : p.head? ≠ some '/') :
    d.walk (pathBelow root p) = (splitWhere (· == '/') p).foldl step (d.walk root) := by
  rcases List.eq_nil_or_concat root with rfl | ⟨front, last, rfl⟩
  · simp [pathBelow, walk, relative, splitWhere, step]
  · rw [List.concat_eq_append]
    by_cases isSlash : last = '/'
    · subst isSlash
      have below : pathBelow (front ++ ['/']) p = front ++ '/' :: p := by
        simp [pathBelow]
      rw [below, walk_slash]
    · have below : pathBelow (front ++ [last]) p = (front ++ [last]) ++ '/' :: p := by
        unfold pathBelow
        rw [List.getLast?_concat]
        split
        · rename_i none
          cases none
        · rename_i same
          exact absurd (Option.some.inj same) isSlash
        · rfl
      rw [below, walk_slash, walk_slash_nil (by simp)]

end Directory

/-! ### Paths of documents -/

namespace ArchivePath

def components (p : ArchivePath) : List (List Char) := [p.day, p.source, p.fileName]

theorem splitWhere_text {p : ArchivePath} (h : ∀ name ∈ p.components, IsEntry name) :
    splitWhere (· == '/') p.text = p.components := by
  have clear : ∀ {name}, name ∈ p.components → ∀ c ∈ name, (c == '/') = false := by
    intro name member c inside
    exact beq_eq_false_iff_ne.mpr (ne_of_mem_of_not_mem inside (h name member).noSlash)
  have text : p.text = p.day ++ '/' :: (p.source ++ '/' :: p.fileName) := by
    simp [text, joinWith]
  rw [text, splitWhere_append rfl, splitWhere_append rfl,
    splitWhere_eq_singleton (clear (by simp [components])),
    splitWhere_eq_singleton (clear (by simp [components])),
    splitWhere_eq_singleton (clear (by simp [components]))]
  rfl

theorem head_text {p : ArchivePath} (h : IsEntry p.day) : p.text.head? ≠ some '/' := by
  obtain ⟨c, rest, named⟩ := List.exists_cons_of_ne_nil h.nonempty
  have other : c ≠ '/' := by
    rintro rfl
    exact h.noSlash (by simp [named])
  simpa [text, joinWith, named] using other

theorem isEntry_day (day : Date) : IsEntry day.compact := by
  cases front : day.compact.head? with
  | none =>
    have empty := List.head?_eq_none_iff.mp front
    simp [Date.compact, padded, natDigits_ne_nil] at empty
  | some c =>
    have sort := Date.mem_compact (List.mem_of_head? front)
    refine isEntry_of_head front ?_ fun slash => ?_
    · rintro rfl
      exact absurd sort (by decide)
    · exact absurd (Date.mem_compact slash) (by decide)

theorem isEntry_source (source : Source) : IsEntry source.id.toList := by
  cases source <;> constructor <;> decide

/-- A digest with a plain extension is the name of an entry. -/
theorem isEntry_file {document : Bytes} {ext : List Char} (plain : FileName.IsPlainExtension ext) :
    IsEntry (Sha256.hex document ++ '.' :: ext) := by
  obtain ⟨c, rest, digest⟩ := List.exists_cons_of_length_pos
    (show 0 < (Sha256.hex document).length by rw [Sha256.length_hex]; decide)
  have front : c ∈ Sha256.hex document := by simp [digest]
  refine isEntry_of_head (c := c) (by simp [digest]) ?_ fun slash => ?_
  · rintro rfl
    exact absurd (Sha256.mem_hex front) (by decide)
  · rcases List.mem_append.mp slash with inDigest | inRest
    · exact absurd (Sha256.mem_hex inDigest) (by decide)
    · rcases List.mem_cons.mp inRest with isPoint | inExtension
      · cases isPoint
      · exact (plain.allowed _ inExtension).1 (by decide)

/-- The extension under which a document lies. -/
theorem isPlainExtension_of (name : List Char) :
    FileName.IsPlainExtension (FileName.storedExtension (FileName.sanitize name)) :=
  FileName.isPlainExtension_storedExtension (FileName.isClean_sanitize name)

/-- Each component of the path of a document is an entry, if the name of the source is one. -/
theorem isEntry_of_mem_components {fetchedAt : Moment} {source name : List Char}
    {document : Bytes} (named : IsEntry source) :
    ∀ entry ∈ (ArchivePath.of fetchedAt source name document).components, IsEntry entry := by
  intro entry member
  simp only [components, of, List.mem_cons, List.not_mem_nil, or_false] at member
  rcases member with rfl | rfl | rfl
  · exact isEntry_day _
  · exact named
  · exact isEntry_file (isPlainExtension_of name)

/-- What an archive takes for the extension of a name is that of the file it makes. -/
theorem extension?_fileName (fetchedAt : Moment) (source name : List Char)
    (document : Bytes) : FileName.extension? (of fetchedAt source name document).fileName =
      some (FileName.storedExtension (FileName.sanitize name)) := by
  obtain ⟨nonempty, -, noPoint⟩ := isPlainExtension_of name
  have digest : Sha256.hex document ≠ [] := by
    apply List.ne_nil_of_length_pos
    rw [Sha256.length_hex]
    decide
  rw [of, FileName.extension?_append _ nonempty noPoint, if_neg digest]

end ArchivePath

/-! ### Stored documents -/

/-- Whatever name a server or a page gives to a document, and whatever else is chosen, the name is
made a clean one, and making it clean again changes nothing; the name of a downloaded bulletin is
clean before it comes to the archive. The path of the document has three components: its day, its
source, and its digest with an extension in which no separator and no control character stands. So
the path leads from the root of the archive, wherever that is, down through two directories to an
entry of the second. -/
theorem names_stay_below_root (source : Source) (fetchedAt : Moment) (name : List Char)
    (document : Bytes) :
    (FileName.IsClean (FileName.sanitize name) ∧
      FileName.sanitize (FileName.sanitize name) = FileName.sanitize name) ∧
    (∀ (a : Bulletin.Attachment) (disposition : Option (List Char)),
      FileName.IsClean (a.fileName disposition) ∧
        FileName.sanitize (a.fileName disposition) = a.fileName disposition) ∧
    (∃ ext, FileName.IsPlainExtension ext ∧
      let path := (ArchivePath.of fetchedAt source.id.toList name document).text
      let components :=
        [fetchedAt.date.compact, source.id.toList, Sha256.hex document ++ '.' :: ext]
      splitWhere (· == '/') path = components ∧
        ∀ (d : Directory) (root : List Char),
          d.walk (pathBelow root path) = d.walk root ++ components) ∧
    ∀ {archive archive' : Archive} {artifact : Artifact},
      archive.store fetchedAt source.id.toList name document = .ok (archive', artifact) →
        artifact.name = FileName.sanitize name ∧
          artifact.path = .of fetchedAt source.id.toList name document := by
  refine ⟨⟨FileName.isClean_sanitize name, FileName.sanitize_sanitize name⟩, ?_, ?_, ?_⟩
  · intro a disposition
    have clean : FileName.IsClean (a.fileName disposition) := FileName.isClean_asPdf _
    exact ⟨clean, FileName.sanitize_eq_self_iff.mpr clean⟩
  · -- None of the components is a dot entry, so a walk goes down one step for each.
    have entries := @ArchivePath.isEntry_of_mem_components fetchedAt source.id.toList name document
      (ArchivePath.isEntry_source source)
    refine ⟨_, ArchivePath.isPlainExtension_of name, ArchivePath.splitWhere_text entries, ?_⟩
    intro d root
    rw [Directory.walk_pathBelow (ArchivePath.head_text (ArchivePath.isEntry_day _)),
      ArchivePath.splitWhere_text entries, Directory.foldl_step_of_isEntry entries]
    rfl
  · intro archive archive' artifact stored
    obtain ⟨-, -, rfl⟩ :=
      (Archive.store_eq_ok_iff (o := ⟨fetchedAt, source.id.toList, name, document⟩)).mp stored
    exact ⟨rfl, rfl⟩

/-- A server says that its file lies two directories up. The name that is kept says so no more, and
the file lies two directories down. -/
theorem names_stay_below_root_sample :
    let o := Session.sampleOffer
    let header := "attachment; filename*=UTF-8''..%2F..%2Fetc%2Fpasswd%00.PDF"
    let name := Bulletin.Attachment.fileName ⟨[], "7".toList, []⟩ (some header.toList)
    name = ".._.._etc_passwd_.PDF".toList ∧
      ∃ archive artifact ext,
        Archive.store {} o.fetchedAt Source.primaryBoard.id.toList name o.document =
            .ok (archive, artifact) ∧
          artifact.name = name ∧ FileName.IsPlainExtension ext ∧
          Directory.walk [] (pathBelow "/srv/bulletins".toList artifact.path.text) =
            ["srv".toList, "bulletins".toList, "20250815".toList, "smpa".toList,
              Sha256.hex o.document ++ '.' :: ext] := by
  intro o header name
  have kept : name = ".._.._etc_passwd_.PDF".toList := by decide +kernel
  obtain ⟨-, clean, ⟨ext, plain, -, leads⟩, identified⟩ :=
    names_stay_below_root .primaryBoard o.fetchedAt name o.document
  have short : Utf8.size (Offer.path
      ⟨o.fetchedAt, Source.primaryBoard.id.toList, name, o.document⟩).fileName ≤ 255 := by
    decide +kernel
  have stored := (@Archive.store_eq_ok_iff {} _
    ⟨o.fetchedAt, Source.primaryBoard.id.toList, name, o.document⟩ _).mpr
    ⟨⟨rfl, short⟩, rfl, rfl⟩
  refine ⟨kept, _, _, ext, stored, ?_, plain, ?_⟩
  · exact (identified stored).1.trans (clean ⟨[], "7".toList, []⟩ (some header.toList)).2
  · have root : Directory.walk [] "/srv/bulletins".toList = ["srv".toList, "bulletins".toList] := by
      decide
    have day : o.fetchedAt.date.compact = "20250815".toList := by decide +kernel
    have down := leads [] "/srv/bulletins".toList
    rw [root, day] at down
    exact down

end RouteAlerts
