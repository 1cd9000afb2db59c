import RouteAlerts.Archive.FileName
import RouteAlerts.Bytes.Sha256
import RouteAlerts.Calendar.Moment

/-!
The archive of downloaded documents. A document lies at a path made of the day, the source and the
digest of its bytes, so the same document is kept once a day and source.
-/

namespace RouteAlerts

open Text

/-- Where a document lies below the root of the archive. -/
structure ArchivePath where
  day : List Char
  source : List Char
  fileName : List Char
  deriving DecidableEq, Repr

namespace ArchivePath

def of (fetchedAt : Moment) (source name : List Char) (document : Bytes) : ArchivePath :=
  ⟨fetchedAt.date.compact, source,
    Sha256.hex document ++ '.' :: FileName.storedExtension (FileName.sanitize name)⟩

/-- The components with slashes between them. -/
def text (p : ArchivePath) : List Char := joinWith ['/'] [p.day, p.source, p.fileName]

end ArchivePath

structure Artifact where
  digest : List Char
  /-- The sanitized name under which it was offered. -/
  name : List Char
  path : ArchivePath
  size : Nat
  /-- Whether it lay there before. -/
  deduplicated : Bool
  deriving DecidableEq, Repr

inductive ArchiveError where
  /-- The root of the archive is not a directory. -/
  | noDirectory
  /-- The file system does not take a name of that length. -/
  | nameTooLong
  deriving DecidableEq, Repr

/-- The archive: its files by path. -/
structure Archive where
  files : List (ArchivePath × Bytes) := []
  /-- Whether directories can be made below its root. -/
  writable : Bool := true

namespace Archive

/-- The number of bytes that a file name may have. -/
def longestName : Nat := 255

def find? (a : Archive) (p : ArchivePath) : Option Bytes :=
  (a.files.find? fun (q, _) => q == p).map Prod.snd

def has (a : Archive) (p : ArchivePath) : Bool := (a.find? p).isSome

/-- Stores a document under the digest of its bytes. A file that lies there already stays as it
is. -/
def store (a : Archive) (fetchedAt : Moment) (source name : List Char) (document : Bytes) :
    Except ArchiveError (Archive × Artifact) :=
  let path := ArchivePath.of fetchedAt source name document
  if !a.writable then .error .noDirectory
  else if Utf8.size path.fileName > longestName then .error .nameTooLong
  else
    let known := a.has path
    let artifact : Artifact :=
      ⟨Sha256.hex document, FileName.sanitize name, path, document.length, known⟩
    .ok (if known then a else { a with files := (path, document) :: a.files }, artifact)

/-- Removes a document; there may be none. -/
def discard (a : Archive) (p : ArchivePath) : Archive :=
  { a with files := a.files.filter fun (q, _) => q != p }

end Archive

end RouteAlerts
