import RouteAlerts.Text.Blank
import RouteAlerts.Web.Host
import RouteAlerts.Web.Url.Path

/-!
Reading an address: a text names one by itself, or relative to the page that it stands on.
Characters that may not stand in a part are percent-coded on the way.
-/

namespace RouteAlerts.Web.Url

open Text

/-- A text without the characters around it that mean nothing, and without line breaks and tabs. -/
def tidy (s : List Char) : List Char :=
  (trimWhere (fun c => c.toNat ≤ 0x20) s).filter fun c => c != '\t' && c != '\n' && c != '\r'

/-- The scheme at the front of a text, in lower-case letters, and what follows the colon. -/
def scheme? (s : List Char) : Option (List Char × List Char) :=
  match s with
  | [] => none
  | c :: _ =>
    if !c.isAlpha then none
    else
      let goesOn (d : Char) : Bool := d.isAlphanum || d == '+' || d == '-' || d == '.'
      match s.dropWhile goesOn with
      | ':' :: rest => some ((s.takeWhile goesOn).map Char.toLower, rest)
      | _ => none

/-- A text cut at the query and at the fragment. -/
def cutTail (special : Bool) (s : List Char) :
    List Char × Option (List Char) × Option (List Char) :=
  let (front, fragment) := match splitOnce (· == '#') s with
    | some (front, fragment) => (front, some (Percent.encodeWhere codedInFragment fragment))
    | none => (s, none)
  match splitOnce (· == '?') front with
  | some (front, query) =>
    (front, some (Percent.encodeWhere (codedInQuery special) query), fragment)
  | none => (front, none, fragment)

def port? (scheme s : List Char) : Option (Option Nat) :=
  if s.isEmpty then some none
  else if !s.all isAsciiDigit then none
  else
    let n := digitsToNat s
    if n > 65535 then none else some (if defaultPort? scheme == some n then none else some n)

/-- The host and the port of a text; a colon between brackets belongs to the host. -/
def cutPort (s : List Char) : List Char × Option (List Char) :=
  match s with
  | '[' :: _ =>
    match splitOnce (· == ']') s with
    | some (host, ':' :: port) => (host ++ [']'], some port)
    | some (host, rest) => (host ++ ']' :: rest, none)
    | none => (s, none)
  | s =>
    match splitOnce (· == ':') s with
    | some (host, port) => (host, some port)
    | none => (s, none)

def authority? (scheme s : List Char) : Option Authority := do
  let special := isSpecial scheme
  let (credentials, server) := match splitLast (· == '@') s with
    | some (credentials, server) => (some credentials, server)
    | none => (none, s)
  let (user, password) := match credentials with
    | none => ([], [])
    | some c =>
      match splitOnce (· == ':') c with
      | some (user, password) => (user, password)
      | none => (c, [])
  let (host, port) := cutPort server
  let host ← if special then Host.read? host else Host.readOther? host
  if host.isEmpty && (credentials.isSome || port.isSome) then none
  else
    let port ← match port with
      | some port => port? scheme port
      | none => some none
    some {
      user := Percent.encodeWhere codedInUser user
      password := Percent.encodeWhere codedInUser password
      host
      port }

/-- An address behind its scheme and two slashes. -/
def withAuthority? (scheme s : List Char) : Option Url := do
  let special := isSpecial scheme
  let stops (c : Char) : Bool := isSlash special c || c == '?' || c == '#'
  let authority ← authority? scheme (s.takeWhile (!stops ·))
  let (front, query, fragment) := cutTail special (s.dropWhile (!stops ·))
  let parts := match front with
    | [] => if special then [[]] else []
    | _ :: rest => walk false [] (segmentsOf special rest)
  some ⟨scheme, some authority, .segments parts, query, fragment⟩

/-- An address with the path, query and fragment that a text names from a directory of its host. -/
def fromDirectory (base : Url) (dir : List (List Char)) (s : List Char) : Url :=
  let onDisk := base.scheme == fileScheme
  let special := isSpecial base.scheme
  let (front, query, fragment) := cutTail special s
  let parts := walk onDisk dir (segmentsOf special front)
  let parts := if onDisk then
      match parts.dropWhile List.isEmpty with
      | [] => [[]]
      | parts => parts
    else parts
  { base with path := .segments parts, query, fragment }

/-- The segments of an address; none where its path has none. -/
def parts (u : Url) : List (List Char) :=
  match u.path with
  | .segments parts => parts
  | .rootless _ => []

/-- An address that differs from another one in its query and fragment at most. -/
def sameDocument (base : Url) (s : List Char) : Url :=
  let (_, query, fragment) := cutTail (isSpecial base.scheme) s
  { base with query := if s.head? == some '?' then query else base.query, fragment }

/-- An address relative to another one with a path of segments. Two slashes at the front name
another host; where one of them is written backwards, more of them mean nothing. -/
def relative? (base : Url) (s : List Char) : Option Url :=
  match s with
  | [] => some (sameDocument base s)
  | '?' :: _ | '#' :: _ => some (sameDocument base s)
  | '/' :: '/' :: rest => withAuthority? base.scheme rest
  | a :: rest =>
    if !isSlash true a then some (fromDirectory base base.parts.dropLast s)
    else if rest.head?.any (isSlash true) then
      withAuthority? base.scheme (rest.dropWhile (isSlash true))
    else some (fromDirectory base [] rest)

/-! ### Local files -/

/-- The root of the files on this host. -/
def fileRoot : Url := ⟨fileScheme, some { host := [] }, .segments [[]], none, none⟩

/-- Whether a text starts with a segment that names a drive. -/
def startsOnDrive (s : List Char) : Bool :=
  isDrive (s.takeWhile fun c => !(isSlash true c || c == '?' || c == '#'))

/-- A file behind two slashes: on the host named there, or on a drive of this one. -/
def fileOnHost? (s : List Char) : Option Url :=
  let stops (c : Char) : Bool := isSlash true c || c == '?' || c == '#'
  let name := s.takeWhile (!stops ·)
  let path := match s.dropWhile (!stops ·) with
    | a :: rest => if isSlash true a then rest else a :: rest
    | [] => []
  if isDrive name then some (fromDirectory fileRoot [] s)
  else if name.isEmpty || startsOnDrive path then
    if name.isEmpty then some (fromDirectory fileRoot [] path)
    else (Host.read? name).map fun _ => fromDirectory fileRoot [] path
  else (Host.read? name).map fun host =>
    let host := if host == "localhost".toList then [] else host
    fromDirectory { fileRoot with authority := some { host } } [] path

/-- An address of a local file behind its scheme, or relative to another one. -/
def file? (base : Option Url) (s : List Char) : Option Url :=
  match s, base with
  | a :: rest, _ =>
    if isSlash true a then
      match rest with
      | b :: rest' =>
        if isSlash true b then fileOnHost? rest' else some (fromRoot base rest)
      | [] => some (fromRoot base rest)
    else
      match base with
      | none => some (fromDirectory fileRoot [] s)
      | some base =>
        if a == '?' || a == '#' then some (sameDocument base s)
        else if startsOnDrive s then some (fromDirectory fileRoot [] s)
        else some (fromDirectory base (around base.parts) s)
  | [], some base => some (sameDocument base s)
  | [], none => some fileRoot
where
  /-- A path from the root, on the drive or the host of the base. -/
  fromRoot (base : Option Url) (s : List Char) : Url :=
    match base with
    | none => fromDirectory fileRoot [] s
    | some base =>
      if startsOnDrive s then fromDirectory fileRoot [] s
      else if base.parts.head?.any isDrive then fromDirectory fileRoot (base.parts.take 1) s
      else fromDirectory base [] s

/-! ### Any scheme -/

/-- An address behind a scheme whose addresses need no host. -/
def other? (scheme s : List Char) : Option Url :=
  match s with
  | '/' :: '/' :: rest => withAuthority? scheme rest
  | '/' :: rest => some (fromDirectory ⟨scheme, none, .segments [], none, none⟩ [] rest)
  | s =>
    let (front, query, fragment) := cutTail false s
    some ⟨scheme, none, .rootless (Percent.encodeWhere isControl front), query, fragment⟩

/-- An address behind a scheme whose addresses have a host. -/
def behindScheme? (base : Option Url) (scheme s : List Char) : Option Url :=
  match base.filter fun b => b.scheme == scheme && (s.takeWhile (isSlash true)).length < 2 with
  | some base => relative? base s
  | none => withAuthority? scheme (s.dropWhile (isSlash true))

/-- The address that a text names by itself or, where it starts with no scheme, relative to
`base`. -/
def read? (base : Option Url) (text : List Char) : Option Url :=
  let s := tidy text
  match scheme? s with
  | some (scheme, rest) =>
    if scheme == fileScheme then file? (base.filter (·.scheme == fileScheme)) rest
    else if isSpecial scheme then behindScheme? base scheme rest
    else other? scheme rest
  | none => do
    let base ← base
    match base.path with
    | .segments _ => if base.scheme == fileScheme then file? (some base) s else relative? base s
    | .rootless _ => if s.head? == some '#' then some (sameDocument base s) else none

def parse? (text : List Char) : Option Url := read? none text

/-- The address that a text names on a page at `base`. -/
def join? (base : Url) (text : List Char) : Option Url := read? (some base) text

end RouteAlerts.Web.Url
