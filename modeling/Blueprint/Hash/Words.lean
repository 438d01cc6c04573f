import Blueprint.Text.Digits

/-!
# Bytes and words

Splitting bytes into blocks and 32-bit words in either byte order, and their hexadecimal text.
-/

namespace Blueprint.Hash

/-- Consecutive blocks of `n` items; the last may be shorter. -/
def blocks (n : Nat) (xs : List α) : List (List α) :=
  if _h : xs.isEmpty || n == 0 then []
  else xs.take n :: blocks n (xs.drop n)
termination_by xs.length
decreasing_by
  simp only [Bool.or_eq_true, List.isEmpty_iff, beq_iff_eq, not_or] at _h
  have : 0 < xs.length := List.length_pos_iff.2 _h.1
  simp only [List.length_drop]
  omega

def littleEndian : List UInt8 → UInt32
  | [] => 0
  | b :: bs => b.toUInt32 ||| (littleEndian bs <<< 8)

def bigEndian (bs : List UInt8) : UInt32 := littleEndian bs.reverse

def bytesLittle (w : UInt32) : List UInt8 :=
  [w.toUInt8, (w >>> 8).toUInt8, (w >>> 16).toUInt8, (w >>> 24).toUInt8]

def bytesBig (w : UInt32) : List UInt8 := (bytesLittle w).reverse

def rotateRight (w n : UInt32) : UInt32 := (w >>> n) ||| (w <<< (32 - n))

def rotateLeft (w n : UInt32) : UInt32 := (w <<< n) ||| (w >>> (32 - n))

def hex (bs : List UInt8) : String := String.join (bs.map fun b => Text.hexDigits 2 b.toNat)

end Blueprint.Hash
