import RouteAlerts.Bytes.Utf8

/-!
The SHA-256 digest: a message is padded to blocks of 64 bytes, and each block is compressed into
eight words. A document is stored under the digest of its bytes.
-/

namespace RouteAlerts.Sha256

def roundConstants : List UInt32 :=
  [0x428a2f98, 0x71374491, 0xb5c0fbcf, 0xe9b5dba5, 0x3956c25b, 0x59f111f1, 0x923f82a4, 0xab1c5ed5,
   0xd807aa98, 0x12835b01, 0x243185be, 0x550c7dc3, 0x72be5d74, 0x80deb1fe, 0x9bdc06a7, 0xc19bf174,
   0xe49b69c1, 0xefbe4786, 0x0fc19dc6, 0x240ca1cc, 0x2de92c6f, 0x4a7484aa, 0x5cb0a9dc, 0x76f988da,
   0x983e5152, 0xa831c66d, 0xb00327c8, 0xbf597fc7, 0xc6e00bf3, 0xd5a79147, 0x06ca6351, 0x14292967,
   0x27b70a85, 0x2e1b2138, 0x4d2c6dfc, 0x53380d13, 0x650a7354, 0x766a0abb, 0x81c2c92e, 0x92722c85,
   0xa2bfe8a1, 0xa81a664b, 0xc24b8b70, 0xc76c51a3, 0xd192e819, 0xd6990624, 0xf40e3585, 0x106aa070,
   0x19a4c116, 0x1e376c08, 0x2748774c, 0x34b0bcb5, 0x391c0cb3, 0x4ed8aa4a, 0x5b9cca4f, 0x682e6ff3,
   0x748f82ee, 0x78a5636f, 0x84c87814, 0x8cc70208, 0x90befffa, 0xa4506ceb, 0xbef9a3f7, 0xc67178f2]

structure Words where
  a : UInt32
  b : UInt32
  c : UInt32
  d : UInt32
  e : UInt32
  f : UInt32
  g : UInt32
  h : UInt32

/-- The words before the first block. -/
def Words.initial : Words :=
  ⟨0x6a09e667, 0xbb67ae85, 0x3c6ef372, 0xa54ff53a, 0x510e527f, 0x9b05688c, 0x1f83d9ab, 0x5be0cd19⟩

def Words.add (x y : Words) : Words :=
  ⟨x.a + y.a, x.b + y.b, x.c + y.c, x.d + y.d, x.e + y.e, x.f + y.f, x.g + y.g, x.h + y.h⟩

def Words.toList (w : Words) : List UInt32 := [w.a, w.b, w.c, w.d, w.e, w.f, w.g, w.h]

def rotate (x : UInt32) (n : UInt32) : UInt32 := (x >>> n) ||| (x <<< (32 - n))

def round (w : Words) (constant message : UInt32) : Words :=
  let s1 := rotate w.e 6 ^^^ rotate w.e 11 ^^^ rotate w.e 25
  let choice := (w.e &&& w.f) ^^^ (~~~w.e &&& w.g)
  let t1 := w.h + s1 + choice + constant + message
  let s0 := rotate w.a 2 ^^^ rotate w.a 13 ^^^ rotate w.a 22
  let majority := (w.a &&& w.b) ^^^ (w.a &&& w.c) ^^^ (w.b &&& w.c)
  ⟨t1 + (s0 + majority), w.a, w.b, w.c, w.d + t1, w.e, w.f, w.g⟩

/-- The next message word from the sixteen before it, oldest first. -/
def nextWord (window : List UInt32) : UInt32 :=
  let message (i : Nat) : UInt32 := window.getD i 0
  let s0 := rotate (message 1) 7 ^^^ rotate (message 1) 18 ^^^ (message 1 >>> 3)
  let s1 := rotate (message 14) 17 ^^^ rotate (message 14) 19 ^^^ (message 14 >>> 10)
  message 0 + s0 + message 9 + s1

/-- Message words as long as there are rounds: each one is used and the window slides on. -/
def rounds : List UInt32 → List UInt32 → Words → Words
  | [], _, w => w
  | k :: ks, window, w => rounds ks (window.drop 1 ++ [nextWord window]) (round w k (window.getD 0 0))

/-- Four bytes as a word, most significant first. -/
def wordsOf : Bytes → List UInt32
  | a :: b :: c :: d :: s =>
    (a.toUInt32 <<< 24 ||| b.toUInt32 <<< 16 ||| c.toUInt32 <<< 8 ||| d.toUInt32) :: wordsOf s
  | _ => []

def compress (w : Words) (block : Bytes) : Words :=
  w.add (rounds roundConstants (wordsOf block) w)

def bigEndian (width n : Nat) : Bytes :=
  (List.range width).map fun i => UInt8.ofNat (n / Nat.pow 256 (width - 1 - i))

/-- A message with the end mark, zeros and its length in bits. -/
def pad (message : Bytes) : Bytes :=
  let zeros := (119 - message.length % 64) % 64
  message ++ 0x80 :: List.replicate zeros 0 ++ bigEndian 8 (message.length * 8)

/-- All blocks taken into the words; `count` blocks of 64 bytes. -/
def absorb : Nat → Words → Bytes → Words
  | 0, w, _ => w
  | count + 1, w, s => absorb count (compress w (s.take 64)) (s.drop 64)

def digest (message : Bytes) : Bytes :=
  let padded := pad message
  (absorb (padded.length / 64) .initial padded).toList.flatMap fun x => bigEndian 4 x.toNat

def hexByte (b : UInt8) : List Char :=
  [Nat.digitChar (b.toNat / 16), Nat.digitChar (b.toNat % 16)]

/-- The digest in 64 lower-case hexadecimal digits. -/
def hex (message : Bytes) : List Char := (digest message).flatMap hexByte

end RouteAlerts.Sha256
