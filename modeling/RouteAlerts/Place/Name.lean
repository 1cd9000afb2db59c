import RouteAlerts.Text.Blank
import RouteAlerts.Text.Digit
import RouteAlerts.Text.WordChar

/-!
Place names made fit for a search: what only says how to get there, how far it is or on which side
is taken out, and what is left are words with single spaces between them.
-/

namespace RouteAlerts.PlaceName

open Text

/-! ### What is taken out -/

/-- Behind a number, a distance in kilometres. -/
def kilometres? (s : List Char) : Option (List Char) :=
  match s.dropWhile isBlank with
  | 'k' :: 'm' :: rest => some rest
  | _ => none

/-- A distance: a number, with or without a fraction, in kilometres. -/
def distance? : Reader Unit := fun s => do
  let (_, s) ← digitRun? s
  let withFraction := match s with
    | '.' :: fraction => (digitRun? fraction).bind fun (_, rest) => kilometres? rest
    | _ => none
  let rest ← withFraction.orElse fun _ => kilometres? s
  some ((), rest)

def dropDistances (s : List Char) : List Char := substitute distance? (fun _ => []) s

def opensRemark (c : Char) : Bool := c == '<' || c == '[' || c == '('

def closesRemark (c : Char) : Bool := c == '>' || c == ']' || c == ')'

/-- A remark on one line: an opening bracket up to the next closing one, of whatever shape. -/
def remark? : Reader Unit := fun s =>
  match s with
  | c :: s =>
    if opensRemark c then
      match s.dropWhile fun d => !closesRemark d && d != '\n' with
      | d :: rest => if closesRemark d then some ((), rest) else none
      | [] => none
    else none
  | [] => none

def dropRemarks (s : List Char) : List Char := substitute remark? (fun _ => []) s

/-- The text up to the first round bracket of its last line. -/
def dropOpenRemark : List Char → List Char
  | [] => []
  | c :: s => if c == '(' && !s.contains '\n' then [] else c :: dropOpenRemark s

def separatesStations (c : Char) : Bool := c == '⇄' || c == '↔' || c == '→' || c == '~'

/-! ### What is written otherwise -/

/-- Names that a search does not know, with the names that it knows. -/
def aliases : List (List Char × List Char) :=
  [("효자파출소", "청운파출소"), ("효자치안센터", "청운파출소"), ("남대문서", "남대문경찰서"),
   ("파이낸스", "서울파이낸스센터"), ("의사당역", "국회의사당역"), ("사랑채", "청와대 사랑채"),
   ("전쟁기념관", "용산 전쟁기념관")].map fun (a, b) => (a.toList, b.toList)

/-- Writes a name as a search knows it, unless it stands there like that already. -/
def useAlias (s : List Char) (entry : List Char × List Char) : List Char :=
  if contains s entry.1 && !contains s entry.2 then replace entry.1 entry.2 s else s

/-- A number in front of the sign for an exit. -/
def numberedExit? : Reader (List Char) := fun s => do
  let (number, s) ← digitRun? s
  match s.dropWhile isBlank with
  | '出' :: rest => some (number, rest)
  | _ => none

/-- The text with the signs for exits written out. -/
def spellExits (s : List Char) : List Char :=
  replace ['出'] "출구".toList
    (substitute numberedExit? (fun number => number ++ "번출구".toList) s)

/-- Words for a side, a direction or the surroundings of a place. -/
def fillers : List (List Char) :=
  ["동측", "서측", "남측", "북측", "동쪽", "서쪽", "남쪽", "북쪽", "건너편", "맞은편", "옆", "방향",
   "방면", "부근", "일대", "진입로", "사거리", "교차로", "삼거리", "오거리", "출구", "입구", "인근",
   "앞", "뒤", "안", "밖"].map String.toList

def filler? : Reader Unit := fun s => fillers.findSome? fun f => literal f s

def blankFillers (s : List Char) : List Char := substitute filler? (fun _ => [' ']) s

/-- The text with everything blanked that is neither a word character nor blank. -/
def blankMarks (s : List Char) : List Char :=
  s.map fun c => if isWord c || isBlank c then c else ' '

/-! ### Normal form -/

/-- The marks that stand before a former name. -/
def dropFormer (s : List Char) : List Char :=
  replace "구)".toList [] (replace "(구)".toList [] s)

/-- The text before the first sign between stations. -/
def firstStation (s : List Char) : List Char := s.takeWhile (!separatesStations ·)

/-- The words that are left of a place name. -/
def tidy (raw : List Char) : List Char :=
  let s := dropOpenRemark (dropRemarks (dropDistances (dropFormer (trim raw))))
  let s := firstStation (aliases.foldl useAlias s)
  squeeze (dropDistances (blankMarks (blankFillers (spellExits s))))

/-- The smallest number of characters that a search can do something with. -/
def shortest : Nat := 2

/-- The normal form of a place name; empty when too little is left. -/
def normalize (raw : List Char) : List Char :=
  let s := tidy raw
  if s.length < shortest then [] else s

end RouteAlerts.PlaceName
