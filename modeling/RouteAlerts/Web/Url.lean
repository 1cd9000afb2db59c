import RouteAlerts.Bytes.Percent
import RouteAlerts.Text.Digit

/-!
Addresses of the web: their parts, which characters a part has percent-coded, and how an address is
written.
-/

namespace RouteAlerts.Web

open Text

inductive UrlPath where
  /-- The segments behind a slash each. -/
  | segments (parts : List (List Char))
  /-- A path that no other address is relative to. -/
  | rootless (s : List Char)
  deriving DecidableEq, Repr

/-- Who is asked: a host, with what stands before and behind it. -/
structure Authority where
  user : List Char := []
  password : List Char := []
  host : List Char
  port : Option Nat := none
  deriving DecidableEq, Repr

structure Url where
  scheme : List Char
  authority : Option Authority
  path : UrlPath
  query : Option (List Char) := none
  fragment : Option (List Char) := none
  deriving DecidableEq, Repr

namespace Url

/-- The port of a scheme whose addresses always have a host. -/
def defaultPort? (scheme : List Char) : Option Nat :=
  if scheme == "http".toList || scheme == "ws".toList then some 80
  else if scheme == "https".toList || scheme == "wss".toList then some 443
  else if scheme == "ftp".toList then some 21
  else none

def fileScheme : List Char := "file".toList

/-- Whether the addresses of a scheme always have a path of segments. -/
def isSpecial (scheme : List Char) : Bool :=
  (defaultPort? scheme).isSome || scheme == fileScheme

/-- Whether a character ends a segment. -/
def isSlash (special : Bool) (c : Char) : Bool := c == '/' || (special && c == '\\')

/-! ### What is percent-coded where -/

def isControl (c : Char) : Bool := c.toNat < 0x20 || c.toNat == 0x7F

def codedInFragment (c : Char) : Bool := isControl c || [' ', '"', '<', '>', '\x60'].contains c

def codedInPath (c : Char) : Bool :=
  codedInFragment c || ['#', '?', '\x7b', '\x7d'].contains c

def codedInUser (c : Char) : Bool :=
  codedInPath c || ['/', ':', ';', '=', '@', '[', '\\', ']', '^', '|'].contains c

def codedInQuery (special : Bool) (c : Char) : Bool :=
  isControl c || [' ', '"', '#', '<', '>'].contains c || (special && c == '\x27')

/-! ### Writing -/

def authorityText (a : Authority) : List Char :=
  ['/', '/'] ++
  (if a.user.isEmpty && a.password.isEmpty then []
    else a.user ++ (if a.password.isEmpty then [] else ':' :: a.password) ++ ['@']) ++
  a.host ++
  match a.port with
  | some n => ':' :: natDigits n
  | none => []

/-- A path; one that starts with two slashes is set apart from an authority. -/
def pathText (hasAuthority : Bool) : UrlPath → List Char
  | .rootless s => s
  | .segments parts =>
    let text := parts.flatMap fun p => '/' :: p
    if !hasAuthority && parts.length > 1 && parts.head? == some [] then '/' :: '.' :: text else text

/-- The path and the query: what a server is asked for. -/
def target (u : Url) : List Char :=
  pathText true u.path ++
  match u.query with
  | some q => '?' :: q
  | none => []

def text (u : Url) : List Char :=
  u.scheme ++ ':' ::
  (match u.authority with
    | some a => authorityText a
    | none => []) ++
  pathText u.authority.isSome u.path ++
  (match u.query with
    | some q => '?' :: q
    | none => []) ++
  match u.fragment with
  | some f => '#' :: f
  | none => []

def withField (u : Url) (key value : List Char) : Url :=
  let pair := Percent.formEncode key ++ '=' :: Percent.formEncode value
  { u with query := some (match u.query with
    | some q => if q.isEmpty then pair else q ++ '&' :: pair
    | none => pair) }

end Url

end RouteAlerts.Web
