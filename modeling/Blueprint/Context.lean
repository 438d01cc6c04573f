import Blueprint.Data.OrderedMap
import Blueprint.Json.Value
import Blueprint.Uuid

/-!
# Compile contexts

What a compile may consult besides the graph: the version of the payload, how strict macros are
checked, and the identifiers of what lies outside the document.
-/

namespace Blueprint

inductive LookupTable where
  | project | account | environment | user
  deriving DecidableEq, Repr, Inhabited

/-- The kind that a reference through the table has. -/
def LookupTable.name : LookupTable → String
  | project => "project"
  | account => "account"
  | environment => "environment"
  | user => "user"

structure Lookups where
  project : OrderedMap Uuid := ∅
  account : OrderedMap Uuid := ∅
  environment : OrderedMap Uuid := ∅
  user : OrderedMap Uuid := ∅
  deriving Inhabited

def Lookups.table (l : Lookups) : LookupTable → OrderedMap Uuid
  | .project => l.project
  | .account => l.account
  | .environment => l.environment
  | .user => l.user

structure CompileContext where
  apiVersion : String := "3.0"
  /-- A macro that names nothing in scope is an error and no warning. -/
  strictMacros : Bool := false
  /-- The project that the document is filed under. -/
  project : Option String := none
  lookups : Lookups := {}
  deriving Inhabited

def CompileContext.lookup? (c : CompileContext) (t : LookupTable) (name : String) : Option Uuid :=
  (c.lookups.table t).get? name

end Blueprint
