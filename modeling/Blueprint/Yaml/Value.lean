import Blueprint.Yaml.Node
import Blueprint.Yaml.Scalar

/-!
# Values

What a text means: typed scalars, sequences, mappings with distinct keys, and values under a tag
of their own.
-/

namespace Blueprint.Yaml

inductive Value where
  | null
  | bool (b : Bool)
  | int (i : Int)
  | float (x : Double)
  | str (s : String)
  | sequence (items : List Value)
  | mapping (entries : List (Value × Value))
  | tagged (tag : String) (value : Value)
  deriving Inhabited

namespace Value

def ofScalar : Scalar → Value
  | .null => .null
  | .bool b => .bool b
  | .int i => .int i
  | .float x => .float x
  | .text s => .str s

/-! ### Equality -/

/-- A tag without its mark; the mark alone stays. -/
def bareTag (tag : String) : String :=
  match tag.toList with
  | '!' :: c :: cs => String.ofList (c :: cs)
  | _ => tag

mutual

/-- Equality of keys: the order of entries does not count, and an integer is no floating-point
number. -/
def same : Value → Value → Bool
  | .null, .null => true
  | .bool a, .bool b => a == b
  | .int a, .int b => a == b
  | .float a, .float b => a.same b
  | .str a, .str b => a == b
  | .sequence as, .sequence bs => sameItems as bs
  | .mapping as, .mapping bs => as.length == bs.length && within as bs
  | .tagged s a, .tagged t b => bareTag s == bareTag t && same a b
  | _, _ => false

def sameItems : List Value → List Value → Bool
  | [], [] => true
  | a :: as, b :: bs => same a b && sameItems as bs
  | _, _ => false

/-- Every entry of the first mapping is one of the second. -/
def within : List (Value × Value) → List (Value × Value) → Bool
  | [], _ => true
  | (k, v) :: es, fs => (fs.any fun f => same k f.1 && same v f.2) && within es fs

end

def distinctKeys : List (Value × Value) → Bool
  | [] => true
  | (k, _) :: es => !(es.any fun e => same k e.1) && distinctKeys es

/-! ### Reading -/

/-- The variant that a tag names, if it begins with the mark of local tags. -/
def variant? (tag : Option String) : Option String :=
  match tag with
  | some t => if t.toList.head? == some '!' then some (bareTag t) else none
  | none => none

def underTag (tag : Option String) (v : Value) : Value :=
  match variant? tag with
  | some t => .tagged t v
  | none => v

mutual

/-- The value of a node. A scalar under a variant has its plain type. -/
def ofNode? : Node → Option Value
  | .scalar tag text plain => do
    let tag' := if (variant? tag).isSome then none else tag
    return underTag tag (ofScalar (← Scalar.resolve? tag' text plain))
  | .sequence tag items => (ofItems? items).map fun vs => underTag tag (.sequence vs)
  | .mapping tag entries => do
    let es ← ofEntries? entries
    if distinctKeys es then return underTag tag (.mapping es) else none

def ofItems? : List Node → Option (List Value)
  | [] => some []
  | n :: ns => do return (← ofNode? n) :: (← ofItems? ns)

def ofEntries? : List (Node × Node) → Option (List (Value × Value))
  | [] => some []
  | (k, v) :: es => do return (← ofNode? k, ← ofNode? v) :: (← ofEntries? es)

end

def read? (s : String) : Option Value := do ofNode? (← Node.read? s)

def bare : Value → Value
  | .tagged _ v => v.bare
  | v => v

end Value

end Blueprint.Yaml
