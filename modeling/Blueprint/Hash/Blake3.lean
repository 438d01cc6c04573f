import Blueprint.Hash.Words

/-!
# BLAKE3

The hash of a byte string, in the unkeyed mode and with the default length of 32 bytes. Chunks of
1024 bytes are the leaves of a binary tree whose left subtrees hold the greatest power of two of
chunks that leaves something for the right.
-/

namespace Blueprint.Hash.Blake3

def initial : List UInt32 :=
  [0x6A09E667, 0xBB67AE85, 0x3C6EF372, 0xA54FF53A, 0x510E527F, 0x9B05688C, 0x1F83D9AB, 0x5BE0CD19]

def chunkStart : UInt32 := 1
def chunkEnd : UInt32 := 2
def parent : UInt32 := 4
def root : UInt32 := 8

abbrev State := Vector UInt32 16

/-- The quarter round on four places of the state with two message words. -/
def mix (v : State) (a b c d : Fin 16) (x y : UInt32) : State :=
  let va := v[a] + v[b] + x
  let vd := rotateRight (v[d] ^^^ va) 16
  let vc := v[c] + vd
  let vb := rotateRight (v[b] ^^^ vc) 12
  let va := va + vb + y
  let vd := rotateRight (vd ^^^ va) 8
  let vc := vc + vd
  let vb := rotateRight (vb ^^^ vc) 7
  (((v.set a va).set b vb).set c vc).set d vd

def round (v m : State) : State :=
  let v := mix v 0 4 8 12 m[0] m[1]
  let v := mix v 1 5 9 13 m[2] m[3]
  let v := mix v 2 6 10 14 m[4] m[5]
  let v := mix v 3 7 11 15 m[6] m[7]
  let v := mix v 0 5 10 15 m[8] m[9]
  let v := mix v 1 6 11 12 m[10] m[11]
  let v := mix v 2 7 8 13 m[12] m[13]
  mix v 3 4 9 14 m[14] m[15]

def schedule : Vector (Fin 16) 16 := #v[2, 6, 3, 10, 7, 0, 4, 13, 1, 11, 12, 5, 9, 14, 15, 8]

def permute (m : State) : State := schedule.map fun i => m[i]

def rounds : Nat → State → State → State
  | 0, v, _ => v
  | n + 1, v, m => rounds n (round v m) (permute m)

/-- What a node of the tree feeds to the compression function. -/
structure Node where
  chaining : List UInt32
  block : List UInt32
  counter : Nat
  length : Nat
  flags : UInt32

def word (ws : List UInt32) (i : Nat) : UInt32 := ws[i]?.getD 0

/-- The first half of the state after the rounds, folded with the second. -/
def Node.compress (n : Node) (flags : UInt32) : List UInt32 :=
  let m : State := Vector.ofFn fun i => word n.block i
  let tail :=
    [n.counter.toUInt32, (n.counter >>> 32).toUInt32, n.length.toUInt32, n.flags ||| flags]
  let v : State := Vector.ofFn fun i =>
    if i < 8 then word n.chaining i else if i < 12 then word initial (i - 8) else word tail (i - 12)
  let v := rounds 7 v m
  (Vector.ofFn fun i : Fin 8 => v[i.val] ^^^ v[i.val + 8]).toList

def wordsOf (bs : List UInt8) : List UInt32 := (blocks 4 bs).map littleEndian

/-- The last block of a chunk is left for its node to compress. -/
def chunkNode (counter : Nat) (chaining : List UInt32) (flags : UInt32) : List (List UInt8) → Node
  | [] => ⟨chaining, [], counter, 0, flags ||| chunkEnd⟩
  | [b] => ⟨chaining, wordsOf b, counter, b.length, flags ||| chunkEnd⟩
  | b :: bs =>
    chunkNode counter (Node.compress ⟨chaining, wordsOf b, counter, b.length, flags⟩ 0) 0 bs

def leaf (counter : Nat) (chunk : List UInt8) : Node :=
  chunkNode counter initial chunkStart (blocks 64 chunk)

def join (l r : Node) : Node := ⟨initial, l.compress 0 ++ r.compress 0, 0, 64, parent⟩

/-- The tree over `n` chunks with numbers from `start`; `fuel` bounds its height. -/
def tree (chunks : Array (List UInt8)) : Nat → Nat → Nat → Node
  | 0, start, _ => leaf start (chunks[start]?.getD [])
  | fuel + 1, start, n =>
    if n ≤ 1 then leaf start (chunks[start]?.getD [])
    else
      let half := Nat.pow 2 (Nat.log2 (n - 1))
      join (tree chunks fuel start half) (tree chunks fuel (start + half) (n - half))

def hash (bs : List UInt8) : List UInt8 :=
  let chunks := (blocks 1024 bs).toArray
  ((tree chunks 64 0 chunks.size).compress root).flatMap bytesLittle

end Blueprint.Hash.Blake3
