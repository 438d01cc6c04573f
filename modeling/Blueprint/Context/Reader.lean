import Blueprint.Context
import Blueprint.Error
import Blueprint.Toml.Reader

/-!
# Reading contexts

A context file is a TOML document without unknown fields. The tables of lookups may also be given
as a list, and an identifier as its bytes.
-/

namespace Blueprint

def Uuid.ofToml? : Toml → Option Uuid
  | .text s => read? s
  | .array items => do
    let bytes ← (items.take 16).mapM fun
      | .int i => if 0 ≤ i && i < 256 then some i.toNat.toUInt8 else none
      | _ => none
    if bytes.length = 16 then return ⟨bytes⟩ else none
  | _ => none

def uuidTable? : Toml → Option (OrderedMap Uuid)
  | .table _ es => do
    return .ofList (← es.mapM fun (name, v) => do return (name, ← Uuid.ofToml? v))
  | _ => none

namespace Lookups

def names : List String := ["project", "account", "environment", "user"]

def ofFields? (es : Toml.Entries) : Option Lookups := do
  let table := fun name => (Entries.get? name es).elim (some ∅) uuidTable?
  if (Entries.keys es).all names.contains then
    return ⟨← table "project", ← table "account", ← table "environment", ← table "user"⟩
  else none

def ofToml? : Toml → Option Lookups
  | .table _ es => ofFields? es
  | .array items => ofFields? (names.zip items)
  | .tables items => ofFields? (names.zip (items.map (.table .header)))
  | _ => none

end Lookups

namespace CompileContext

def names : List String := ["api_version", "strict_macros", "project", "lookups"]

def ofFields? (es : Toml.Entries) : Option CompileContext := do
  if !(Entries.keys es).all names.contains then none
  let text? : Toml → Option String := fun
    | .text s => some s
    | _ => none
  let flag? : Toml → Option Bool := fun
    | .flag b => some b
    | _ => none
  let standard : CompileContext := {}
  return {
    apiVersion := ← (Entries.get? "api_version" es).elim (some standard.apiVersion) text?
    strictMacros := ← (Entries.get? "strict_macros" es).elim (some false) flag?
    project := ← (Entries.get? "project" es).elim (some none) fun v => (text? v).map some
    lookups := ← (Entries.get? "lookups" es).elim (some {}) Lookups.ofToml? }

/-- The context of a file, which errors name by its source. -/
def read (source text : String) : Except CompileError CompileContext :=
  match (Toml.read? text).bind ofFields? with
  | some c => .ok c
  | none => .error (.parse source .badFormat)

end CompileContext

end Blueprint
