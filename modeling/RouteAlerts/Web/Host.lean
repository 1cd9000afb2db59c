import RouteAlerts.Bytes.Percent
import RouteAlerts.Text.Digit
import RouteAlerts.Text.Quoted

/-!
Host names of addresses: domains in lower-case ASCII letters, numeric addresses in their usual
form, and six-part addresses between brackets with their longest run of zeros left out.
-/

namespace RouteAlerts.Web.Host

open Text

/-! ### Labels with other letters -/

/-- The digit with a value: letters first, then numbers. -/
def digit (n : Nat) : Char :=
  if n < 26 then Char.ofNat ('a'.toNat + n) else Char.ofNat ('0'.toNat + (n - 26))

/-- Cuts a difference down until its digits need no more places; `steps` bounds the cuts. -/
def adaptFrom (delta k : Nat) : Nat → Nat
  | 0 => k
  | steps + 1 =>
    if delta > 455 then adaptFrom (delta / 35) (k + 36) steps
    else k + 36 * delta / (delta + 38)

/-- The bias for the next difference. -/
def adapt (delta points : Nat) (first : Bool) : Nat :=
  let delta := if first then delta / 700 else delta / 2
  adaptFrom (delta + delta / points) 0 32

/-- The digits of a difference, the least first, each with a base of its own. -/
def differenceDigits (bias q k : Nat) : Nat → List Char
  | 0 => []
  | steps + 1 =>
    let t := if k ≤ bias then 1 else if k ≥ bias + 26 then 26 else k - bias
    if q < t then [digit q]
    else digit (t + (q - t) % (36 - t)) ::
      differenceDigits bias ((q - t) / (36 - t)) (k + 36) steps

/-- What is known while the code points of a label are written in ascending order. -/
structure Encoding where
  written : List Char := []
  delta : Nat := 0
  bias : Nat := 72
  handled : Nat
  /-- The number of ASCII characters. -/
  basic : Nat

/-- Writes every occurrence of a code point as its difference from the last one. -/
def Encoding.add (e : Encoding) (label : List Char) (point : Nat) : Encoding :=
  label.foldl (fun e c =>
    if c.toNat < point then { e with delta := e.delta + 1 }
    else if c.toNat == point then
      { e with
        written := e.written ++ differenceDigits e.bias e.delta 36 32
        bias := adapt e.delta (e.handled + 1) (e.handled == e.basic)
        delta := 0
        handled := e.handled + 1 }
    else e) e

/-- A label in ASCII characters: those it has, and the differences of the others. -/
def punycode (label : List Char) : List Char :=
  let basic := label.filter fun c => c.toNat < 128
  let points := ((label.filter fun c => c.toNat ≥ 128).map Char.toNat).mergeSort.eraseDups
  let (encoding, _) := points.foldl (fun (e, last) point =>
    let e := { e with delta := e.delta + (point - last) * (e.handled + 1) }
    let e := e.add label point
    ({ e with delta := e.delta + 1 }, point + 1))
    (({ handled := basic.length, basic := basic.length } : Encoding), 128)
  basic ++ (if basic.isEmpty then [] else ['-']) ++ encoding.written

/-- The form of a character that counts in a domain: small letters of the usual width, a point for
every full stop. Marks that are not seen do not count. -/
def folded (c : Char) : List Char :=
  let n := c.toNat
  let moved (k : Nat) : List Char := [Char.ofNat (n + k)]
  if c == '。' || c == '．' || c == '｡' then ['.']
  else if c == '\u00ad' || c == '\u200b' || c == '\u2060' || c == '\ufeff' then []
  else if c == '\u00a0' || c == '\u3000' then [' ']
  else if 0xFF01 ≤ n && n ≤ 0xFF5E then [(Char.ofNat (n - 0xFEE0)).toLower]
  else if 0xC0 ≤ n && n ≤ 0xDE && n != 0xD7 then moved 32
  else if 0x391 ≤ n && n ≤ 0x3A9 && n != 0x3A2 then moved 32
  else if 0x400 ≤ n && n ≤ 0x40F then moved 80
  else if 0x410 ≤ n && n ≤ 0x42F then moved 32
  else [c.toLower]

/-- The mark of a label whose other letters are written as differences. -/
def mark : List Char := "xn--".toList

/-- A label as it stands in an address. The mark alone is no label, and a label that has the mark
has no other letters. -/
def label? (s : List Char) : Option (List Char) :=
  if s == mark then none
  else if s.all fun c => c.toNat < 128 then some s
  else if mark.isPrefixOf s then none
  else some (mark ++ punycode s)

/-! ### Numeric addresses -/

/-- A number in decimal, octal or hexadecimal digits. -/
def numeral? (s : List Char) : Option Nat :=
  let read (base : Nat) (digits : List Char) : Option Nat :=
    digits.foldl (fun n c => do
      let n ← n
      let d ← (Percent.hexValue? (UInt8.ofNat c.toNat))
      if c.toNat < 128 && d.toNat < base then some (n * base + d.toNat) else none) (some 0)
  match s with
  | [] => none
  | '0' :: 'x' :: rest | '0' :: 'X' :: rest => read 16 rest
  | '0' :: d :: rest => read 8 (d :: rest)
  | s => read 10 s

/-- Whether a domain has to be a numeric address: its last label is a number. -/
def endsInNumber (domain : List Char) : Bool :=
  let labels := splitWhere (· == '.') domain
  let labels := if labels.getLast? == some [] && labels.length > 1 then labels.dropLast else labels
  match labels.getLast? with
  | some last => (!last.isEmpty && last.all isAsciiDigit) || (numeral? last).isSome
  | none => false

/-- Four numbers below 256 with points between them. -/
def dotted (n : Nat) : List Char :=
  joinWith ['.'] ([24, 16, 8, 0].map fun shift => natDigits (n / Nat.pow 2 shift % 256))

/-- A numeric address: up to four numbers, the last of which fills what is left. -/
def fourPart? (domain : List Char) : Option (List Char) := do
  let labels := splitWhere (· == '.') domain
  let labels := if labels.getLast? == some [] && labels.length > 1 then labels.dropLast else labels
  let numbers ← labels.mapM numeral?
  let last ← numbers.getLast?
  let front := numbers.dropLast
  if numbers.length > 4 || front.any (· > 255) || last ≥ Nat.pow 256 (5 - numbers.length) then none
  else
    let high := front.zipIdx.foldl (fun n (part, i) => n + part * Nat.pow 256 (3 - i)) 0
    some (dotted (high + last))

/-- The parts of one side of a six-part address: numbers of up to four hexadecimal digits, the last
two of which may be written as a numeric address. -/
def pieces? (s : List Char) : Option (List Nat) :=
  if s.isEmpty then some []
  else
    let parts := splitWhere (· == ':') s
    let hex (p : List Char) : Option Nat :=
      if p.isEmpty || p.length > 4 then none
      else p.foldl (fun n c => do
        let n ← n
        let d ← Percent.hexValue? (UInt8.ofNat c.toNat)
        if c.toNat < 128 then some (n * 16 + d.toNat) else none) (some 0)
    let tail (p : List Char) : Option (List Nat) :=
      if p.contains '.' then do
        let parts ← (splitWhere (· == '.') p).mapM fun d =>
          if d.all isAsciiDigit && (d.length == 1 || d.head? != some '0') then readNat? 256 d
          else none
        match parts with
        | [a, b, c, d] => some [a * 256 + b, c * 256 + d]
        | _ => none
      else (hex p).map ([·])
    match parts.getLast? with
    | none => none
    | some last => do
      let front ← parts.dropLast.mapM hex
      some (front ++ (← tail last))

/-- The eight parts of an address between brackets. -/
def eightParts? (s : List Char) : Option (List Nat) :=
  match firstMatch (literal [':', ':']) s with
  | none => do
    let parts ← pieces? s
    if parts.length == 8 then some parts else none
  | some (before, (), after) => do
    let before ← pieces? before
    let after ← pieces? after
    let known := before.length + after.length
    if known ≤ 7 then some (before ++ List.replicate (8 - known) 0 ++ after) else none

def zeroRun (parts : List Nat) : Nat := (parts.takeWhile (· == 0)).length

/-- Where the first longest run of at least two zeros starts, and its length. -/
def longestZeros? (parts : List Nat) : Option (Nat × Nat) :=
  (List.range parts.length).foldl (fun best i =>
    let run := zeroRun (parts.drop i)
    match best with
    | some (_, longest) => if run > longest then some (i, run) else best
    | none => if run ≥ 2 then some (i, run) else none) none

/-- Eight parts with the longest run of zeros left out. -/
def eightText (parts : List Nat) : List Char :=
  let side (parts : List Nat) : List Char := joinWith [':'] (parts.map hexDigits)
  match longestZeros? parts with
  | some (start, run) => side (parts.take start) ++ [':', ':'] ++ side (parts.drop (start + run))
  | none => side parts

/-! ### Hosts -/

def forbidden : List Char :=
  ['\t', '\n', '\r', ' ', '#', '/', ':', '<', '>', '?', '@', '[', '\\', ']', '^', '|']

def isForbidden (c : Char) : Bool :=
  forbidden.contains c || c == '%' || c.toNat < 0x20 || (0x7F ≤ c.toNat && c.toNat < 0xA0) ||
    c == Utf8.replacement

/-- The host that a domain names, in the form that counts. -/
def ofDomain? (domain : List Char) : Option (List Char) := do
  let labels ← (splitWhere (· == '.') domain).mapM label?
  let domain := joinWith ['.'] labels
  if domain.isEmpty then none
  else if endsInNumber domain then fourPart? domain
  else some domain

/-- The host that a text names; percent-coded bytes count as what they stand for. -/
def read? (s : List Char) : Option (List Char) :=
  match s with
  | '[' :: rest =>
    if rest.getLast? == some ']' then
      (eightParts? rest.dropLast).map fun parts => '[' :: eightText parts ++ [']']
    else none
  | s =>
    let domain := (Utf8.decode (Percent.decode (Utf8.encode s))).flatMap folded
    if domain.any isForbidden then none else ofDomain? domain

/-- The host of an address with a scheme of its own: written as it stands. -/
def readOther? (s : List Char) : Option (List Char) :=
  match s with
  | '[' :: _ => read? s
  | s =>
    if s.any fun c => c == '\x00' || forbidden.contains c then none
    else some (Percent.encodeWhere (fun c => c.toNat < 0x20 || c.toNat == 0x7F) s)

end RouteAlerts.Web.Host
