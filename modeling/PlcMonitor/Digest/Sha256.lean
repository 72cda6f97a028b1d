/-! The SHA-256 digest of a byte string, written in hexadecimal. -/
namespace PlcMonitor.Sha256

def roundConstants : List UInt32 :=
  [0x428a2f98, 0x71374491, 0xb5c0fbcf, 0xe9b5dba5, 0x3956c25b, 0x59f111f1, 0x923f82a4, 0xab1c5ed5,
   0xd807aa98, 0x12835b01, 0x243185be, 0x550c7dc3, 0x72be5d74, 0x80deb1fe, 0x9bdc06a7, 0xc19bf174,
   0xe49b69c1, 0xefbe4786, 0x0fc19dc6, 0x240ca1cc, 0x2de92c6f, 0x4a7484aa, 0x5cb0a9dc, 0x76f988da,
   0x983e5152, 0xa831c66d, 0xb00327c8, 0xbf597fc7, 0xc6e00bf3, 0xd5a79147, 0x06ca6351, 0x14292967,
   0x27b70a85, 0x2e1b2138, 0x4d2c6dfc, 0x53380d13, 0x650a7354, 0x766a0abb, 0x81c2c92e, 0x92722c85,
   0xa2bfe8a1, 0xa81a664b, 0xc24b8b70, 0xc76c51a3, 0xd192e819, 0xd6990624, 0xf40e3585, 0x106aa070,
   0x19a4c116, 0x1e376c08, 0x2748774c, 0x34b0bcb5, 0x391c0cb3, 0x4ed8aa4a, 0x5b9cca4f, 0x682e6ff3,
   0x748f82ee, 0x78a5636f, 0x84c87814, 0x8cc70208, 0x90befffa, 0xa4506ceb, 0xbef9a3f7, 0xc67178f2]

structure Chain where
  a : UInt32
  b : UInt32
  c : UInt32
  d : UInt32
  e : UInt32
  f : UInt32
  g : UInt32
  h : UInt32

def Chain.start : Chain :=
  ⟨0x6a09e667, 0xbb67ae85, 0x3c6ef372, 0xa54ff53a, 0x510e527f, 0x9b05688c, 0x1f83d9ab, 0x5be0cd19⟩

def Chain.add (x y : Chain) : Chain :=
  ⟨x.a + y.a, x.b + y.b, x.c + y.c, x.d + y.d, x.e + y.e, x.f + y.f, x.g + y.g, x.h + y.h⟩

def Chain.words (x : Chain) : List UInt32 := [x.a, x.b, x.c, x.d, x.e, x.f, x.g, x.h]

def rotate (x : UInt32) (places : UInt32) : UInt32 := (x >>> places) ||| (x <<< (32 - places))

def Chain.round (x : Chain) (constant word : UInt32) : Chain :=
  let s1 := rotate x.e 6 ^^^ rotate x.e 11 ^^^ rotate x.e 25
  let choice := (x.e &&& x.f) ^^^ (~~~x.e &&& x.g)
  let t1 := x.h + s1 + choice + constant + word
  let s0 := rotate x.a 2 ^^^ rotate x.a 13 ^^^ rotate x.a 22
  let majority := (x.a &&& x.b) ^^^ (x.a &&& x.c) ^^^ (x.b &&& x.c)
  ⟨t1 + (s0 + majority), x.a, x.b, x.c, x.d + t1, x.e, x.f, x.g⟩

def nextWord (before : List UInt32) : UInt32 :=
  let word (back : Nat) := before.getD (back - 1) 0
  let s0 := rotate (word 15) 7 ^^^ rotate (word 15) 18 ^^^ (word 15 >>> 3)
  let s1 := rotate (word 2) 17 ^^^ rotate (word 2) 19 ^^^ (word 2 >>> 10)
  word 16 + s0 + word 7 + s1

def extend : Nat → List UInt32 → List UInt32
  | 0, words => words
  | n + 1, words => extend n (nextWord words :: words)

def schedule (block : List UInt32) : List UInt32 := (extend 48 block.reverse).reverse

def Chain.block (x : Chain) (block : List UInt32) : Chain :=
  x.add ((roundConstants.zip (schedule block)).foldl (fun y (k, w) => y.round k w) x)

/-- A one bit, zeros up to eight bytes short of a block, and the length in bits. -/
def pad (bytes : List UInt8) : List UInt8 :=
  let fill := (119 - bytes.length % 64) % 64
  let bits := 8 * bytes.length
  bytes ++ [0x80] ++ List.replicate fill 0 ++
    (List.range 8).map fun i => (bits / Nat.pow 256 (7 - i)).toUInt8

def toWords : List UInt8 → List UInt32
  | a :: b :: c :: d :: rest =>
    ((a.toUInt32 <<< 24) ||| (b.toUInt32 <<< 16) ||| (c.toUInt32 <<< 8) ||| d.toUInt32) ::
      toWords rest
  | _ => []

def absorb : Nat → Chain → List UInt32 → Chain
  | 0, x, _ => x
  | blocks + 1, x, words => absorb blocks (x.block (words.take 16)) (words.drop 16)

def hexDigit (n : Nat) : Char := if n < 10 then Char.ofNat (48 + n) else Char.ofNat (87 + n)

def hexWord (w : UInt32) : List Char :=
  (List.range 8).map fun i => hexDigit (w.toNat / Nat.pow 16 (7 - i) % 16)

def hex (bytes : List UInt8) : String :=
  let words := toWords (pad bytes)
  String.ofList ((absorb (words.length / 16) Chain.start words).words.flatMap hexWord)

end PlcMonitor.Sha256
