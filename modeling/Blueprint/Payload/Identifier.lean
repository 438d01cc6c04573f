import Blueprint.Data.OrderedMap
import Blueprint.Uuid

/-!
# Payload identifiers

Every identifier of a payload is made from the name of the root and a path inside the document, so
one path always has one identifier.
-/

namespace Blueprint

def payloadSpace : Uuid :=
  ⟨[0x3f, 0x1c, 0x9a, 0x52, 0x7b, 0xe4, 0x5d, 0x0e, 0xa8, 0xc6, 0x14, 0xf2, 0xb0, 0x9d, 0x6e, 0x71]⟩

def identifierAt (root path : String) : Uuid := Uuid.ofName payloadSpace (root ++ "/" ++ path)

/-- Remembers the identifiers that were given out under one root. -/
structure IdAllocator where
  root : String
  given : OrderedMap Uuid := ∅
  deriving Inhabited

namespace IdAllocator

def take (a : IdAllocator) (path : String) : Uuid × IdAllocator :=
  match a.given.get? path with
  | some id => (id, a)
  | none =>
    let id := identifierAt a.root path
    (id, { a with given := a.given.insert path id })

def size (a : IdAllocator) : Nat := a.given.size

end IdAllocator

end Blueprint
