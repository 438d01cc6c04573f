import Blueprint.Number.Double
import Blueprint.Data.OrderedMap

/-!
# JSON values

Objects keep the order of their fields. Integers and floating-point numbers are apart, as their
texts differ.
-/

namespace Blueprint

inductive Json where
  | null
  | bool (b : Bool)
  | int (i : Int)
  | float (x : Double)
  | str (s : String)
  | arr (items : List Json)
  | obj (fields : List (String × Json))
  deriving Inhabited

namespace Json

/-- The value of a field; anything but an object has none. -/
def get? (k : String) : Json → Option Json
  | .obj fields => Entries.get? k fields
  | _ => none

def asString? : Json → Option String
  | .str s => some s
  | _ => none

def asArray? : Json → Option (List Json)
  | .arr items => some items
  | _ => none

def isNull : Json → Bool
  | .null => true
  | _ => false

/-- Replaces a field of an object or adds it at the end. -/
def put (j : Json) (k : String) (v : Json) : Json :=
  match j with
  | .obj fields => .obj (Entries.put k v fields)
  | j => j

def ofStrings (ss : List String) : Json := .arr (ss.map .str)

def ofNat (n : Nat) : Json := .int n

def ofOption (f : α → Json) : Option α → Json
  | some a => f a
  | none => .null

end Json

end Blueprint
