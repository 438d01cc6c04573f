/-!
# Scopes of action bodies

The kinds of scopes that an author opens and closes while writing an action body.
-/

namespace Blueprint

/-- The two sides of a decision. -/
inductive Branch where
  | success | failure
  deriving DecidableEq, Repr, Inhabited

def Branch.name : Branch → String
  | success => "success"
  | failure => "failure"

inductive ScopeKind where
  | serial | parallel | decision | branch (b : Branch) | loop
  deriving DecidableEq, Repr, Inhabited

def ScopeKind.text : ScopeKind → String
  | serial => "serial"
  | parallel => "parallel"
  | decision => "decision"
  | branch b => b.name ++ " branch"
  | loop => "loop"

end Blueprint
