import Blueprint.Hash.Sha1

/-!
# Universally unique identifiers

Identifiers of 16 bytes, their texts, and the name-based ones of version 5.
-/

namespace Blueprint

structure Uuid where
  bytes : List UInt8
  deriving DecidableEq, Repr, Inhabited

namespace Uuid

def nil : Uuid := ⟨List.replicate 16 0⟩

/-- Lower case, in groups of 8, 4, 4, 4 and 12 digits. -/
def text (u : Uuid) : String :=
  let h := (Hash.hex u.bytes).toList
  let group := fun start n => String.ofList ((h.drop start).take n)
  "-".intercalate [group 0 8, group 8 4, group 12 4, group 16 4, group 20 12]

/-- The first 16 bytes of the SHA-1 of namespace and name, with version and variant set. -/
def ofName (space : Uuid) (name : String) : Uuid :=
  let h := Hash.Sha1.hash (space.bytes ++ name.toUTF8.toList)
  ⟨(h.take 16).mapIdx fun i b =>
    if i = 6 then (b &&& 0x0F) ||| 0x50 else if i = 8 then (b &&& 0x3F) ||| 0x80 else b⟩

def bytesOfHex? : List Char → Option (List UInt8)
  | [] => some []
  | [_] => none
  | a :: b :: r => do
    let n ← Text.natural? 16 [a, b]
    let bs ← bytesOfHex? r
    return n.toUInt8 :: bs

/-- 32 digits. -/
def ofSimple? (cs : List Char) : Option Uuid :=
  if cs.length = 32 then (bytesOfHex? cs).map Uuid.mk else none

/-- The 36 characters of `text`, in either case. -/
def ofHyphenated? (cs : List Char) : Option Uuid :=
  if cs.length = 36 && [8, 13, 18, 23].all (fun i => cs[i]? == some '-') then
    ofSimple? (cs.take 8 ++ (cs.drop 9).take 4 ++ (cs.drop 14).take 4 ++ (cs.drop 19).take 4 ++
      cs.drop 24)
  else none

/-- Hyphenated, as plain digits, in braces, or as a URN. -/
def read? (s : String) : Option Uuid :=
  let cs := s.toList
  if cs.length = 32 then ofSimple? cs
  else if cs.length = 38 && cs.head? == some '\x7b' && cs.getLast? == some '\x7d' then
    ofHyphenated? (cs.tail.take 36)
  else if cs.length = 45 && cs.take 9 == "urn:uuid:".toList then ofHyphenated? (cs.drop 9)
  else ofHyphenated? cs

end Uuid

end Blueprint
