import Blueprint.Yaml.Value
import Blueprint.Data.OrderedMap

/-!
# Typed reading of values

A record is a value with named fields. Values are read in one of two ways. The open way looks
through tags, and takes null for an empty list, map or record. The closed way admits no tag and no
null; a record may be a list of its fields in order, and a name may be its index.
-/

namespace Blueprint.Yaml

abbrev Record := List (String × Value)

namespace Record

def ofFields? (names : List String) (fields : Record) : Option Record :=
  let keys := Entries.keys fields
  if keys.all names.contains && decide keys.Nodup then some fields else none

variable {α : Type}

def field (r : Record) (name : String) (read : Value → Option α) (absent : α) : Option α :=
  match Entries.get? name r with
  | none => some absent
  | some v => read v

def optional (r : Record) (name : String) (read : Value → Option α) : Option (Option α) :=
  match Entries.get? name r with
  | none | some .null => some none
  | some v => (read v).map some

def required (r : Record) (name : String) (read : Value → Option α) : Option α := do
  read (← Entries.get? name r)

end Record

namespace Value

/-! ### The open way -/

def openText? (v : Value) : Option String :=
  match v.bare with
  | .str s => some s
  | _ => none

def openItems? (v : Value) : Option (List Value) :=
  match v.bare with
  | .sequence vs => some vs
  | .null => some []
  | _ => none

def openTexts? (v : Value) : Option (List String) := do (← v.openItems?).mapM openText?

def openEntries? (v : Value) : Option (List (String × Value)) :=
  match v.bare with
  | .mapping es => es.mapM fun (k, v) => do return (← k.openText?, v)
  | .null => some []
  | _ => none

def openMap? {α : Type} (read : Value → Option α) (v : Value) : Option (OrderedMap α) := do
  return .ofList (← (← v.openEntries?).mapM fun (k, v) => do return (k, ← read v))

def openRecord? (names : List String) (v : Value) : Option Record := do
  Record.ofFields? names (← v.openEntries?)

/-- A word, also as a tag on nothing. -/
def openWord? : Value → Option String
  | .str s => some s
  | .tagged tag .null => some tag
  | _ => none

/-! ### The closed way -/

mutual

def untagged : Value → Bool
  | .sequence vs => untaggedItems vs
  | .mapping es => untaggedEntries es
  | .tagged .. => false
  | .null | .bool _ | .int _ | .float _ | .str _ => true

def untaggedItems : List Value → Bool
  | [] => true
  | v :: vs => untagged v && untaggedItems vs

def untaggedEntries : List (Value × Value) → Bool
  | [] => true
  | (k, v) :: es => untagged k && untagged v && untaggedEntries es

end

def text? : Value → Option String
  | .str s => some s
  | _ => none

def flag? : Value → Option Bool
  | .bool b => some b
  | _ => none

def natural? (bound : Nat) : Value → Option Nat
  | .int i => if 0 ≤ i && i < bound then some i.toNat else none
  | _ => none

def items? : Value → Option (List Value)
  | .sequence vs => some vs
  | _ => none

def list? {α : Type} (read : Value → Option α) (v : Value) : Option (List α) := do
  (← v.items?).mapM read

def map? {α : Type} (read : Value → Option α) : Value → Option (OrderedMap α)
  | .mapping es => do return .ofList (← es.mapM fun (k, v) => do return (← k.text?, ← read v))
  | _ => none

/-- One of some names, by itself or by its index. -/
def nameOf? (names : List String) : Value → Option String
  | .str s => if names.contains s then some s else none
  | .int i => if 0 ≤ i then names[i.toNat]? else none
  | _ => none

/-- A record as a map or as a list of its first fields. -/
def record? (names : List String) : Value → Option Record
  | .mapping es => do
    Record.ofFields? names (← es.mapM fun (k, v) => do return (← k.nameOf? names, v))
  | .sequence vs => if vs.length ≤ names.length then some (names.zip vs) else none
  | _ => none

/-- A word on nothing, as a text or as the only key of a map with null. -/
def word? (names : List String) : Value → Option String
  | .str s => nameOf? names (.str s)
  | .mapping [(k, .null)] => k.nameOf? names
  | _ => none

/-- A word on a value, as the only key of a map. -/
def variantOf? (names : List String) : Value → Option (String × Value)
  | .mapping [(k, v)] => do return (← k.nameOf? names, v)
  | _ => none

end Value

end Blueprint.Yaml
