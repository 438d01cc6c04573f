import Blueprint.Hash.Words

/-!
# SHA-1

The hash of a byte string, as name-based identifiers use it.
-/

namespace Blueprint.Hash.Sha1

structure State where
  a : UInt32
  b : UInt32
  c : UInt32
  d : UInt32
  e : UInt32

def initial : State := ⟨0x67452301, 0xEFCDAB89, 0x98BADCFE, 0x10325476, 0xC3D2E1F0⟩

/-- A one bit, zeros up to eight bytes short of a block, and the length in bits. -/
def pad (bs : List UInt8) : List UInt8 :=
  let zeros := (119 - bs.length % 64) % 64
  let bits := 8 * bs.length
  bs ++ (0x80 : UInt8) :: List.replicate zeros 0 ++
    bytesBig (bits >>> 32).toUInt32 ++ bytesBig bits.toUInt32

/-- Adds words to a message schedule that is kept last word first. -/
def extend : Nat → List UInt32 → List UInt32
  | 0, ws => ws
  | n + 1, ws =>
    let w := fun i => ws[i]?.getD 0
    extend n (rotateLeft (w 2 ^^^ w 7 ^^^ w 13 ^^^ w 15) 1 :: ws)

def choice (t : Nat) (s : State) : UInt32 :=
  if t < 20 then (s.b &&& s.c) ||| (~~~s.b &&& s.d)
  else if t < 40 then s.b ^^^ s.c ^^^ s.d
  else if t < 60 then (s.b &&& s.c) ||| (s.b &&& s.d) ||| (s.c &&& s.d)
  else s.b ^^^ s.c ^^^ s.d

def constant (t : Nat) : UInt32 :=
  if t < 20 then 0x5A827999 else if t < 40 then 0x6ED9EBA1 else if t < 60 then 0x8F1BBCDC
  else 0xCA62C1D6

def step (s : State) (t : Nat) (w : UInt32) : State :=
  ⟨rotateLeft s.a 5 + choice t s + s.e + w + constant t, s.a, rotateLeft s.b 30, s.c, s.d⟩

def steps (s : State) (t : Nat) : List UInt32 → State
  | [] => s
  | w :: ws => steps (step s t w) (t + 1) ws

def block (s : State) (bs : List UInt8) : State :=
  let ws := (blocks 4 bs).map bigEndian
  let r := steps s 0 (extend 64 ws.reverse).reverse
  ⟨s.a + r.a, s.b + r.b, s.c + r.c, s.d + r.d, s.e + r.e⟩

def hash (bs : List UInt8) : List UInt8 :=
  let s := (blocks 64 (pad bs)).foldl block initial
  [s.a, s.b, s.c, s.d, s.e].flatMap bytesBig

end Blueprint.Hash.Sha1
