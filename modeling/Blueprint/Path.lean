import Blueprint.Text.Split

/-!
# Paths of files

A path keeps its text; two paths are the same if their components are. Empty components and points
inside a path count for nothing, but a leading point is a component.
-/

namespace Blueprint

structure Path where
  text : String
  deriving DecidableEq, Repr, Inhabited

inductive PathComponent where
  | root
  | here
  | up
  | name (s : String)
  deriving DecidableEq, Repr, Inhabited

namespace Path

def isAbsolute (p : Path) : Bool := p.text.toList.head? == some '/'

/-- A part between separators; `first` tells that none stands before it. -/
def component? (first : Bool) (s : String) : Option PathComponent :=
  if s.isEmpty then none
  else if s == "." then if first then some .here else none
  else if s == ".." then some .up
  else some (.name s)

def components (p : Path) : List PathComponent :=
  match Text.split '/' p.text with
  | [] => []
  | s :: ss =>
    (if p.isAbsolute then [.root] else (component? true s).toList) ++
      ss.filterMap (component? false)

def same (p q : Path) : Bool := p.components == q.components

/-- Drops separators and points from the end of a path that is written backwards. -/
def trimBack : List Char → List Char
  | [] => []
  | ['/'] => ['/']
  | '/' :: cs => trimBack cs
  | '.' :: '/' :: cs => trimBack ('/' :: cs)
  | cs => cs

/-- The path without its last component; the root and the empty path have none. -/
def parent? (p : Path) : Option Path :=
  match trimBack p.text.toList.reverse with
  | [] => none
  | ['/'] => none
  | cs => some ⟨String.ofList (trimBack (cs.dropWhile (· != '/'))).reverse⟩

/-- A path inside a directory; an absolute one stands for itself. -/
def join (dir p : Path) : Path :=
  if p.isAbsolute then p
  else
    match dir.text.toList.getLast? with
    | none => p
    | some '/' => ⟨dir.text ++ p.text⟩
    | some _ => ⟨dir.text ++ "/" ++ p.text⟩

def beside (file p : Path) : Path :=
  if p.isAbsolute then p
  else
    match file.parent? with
    | some dir => dir.join p
    | none => p

end Path

end Blueprint
