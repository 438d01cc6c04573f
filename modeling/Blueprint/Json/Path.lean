import Blueprint.Json.Value
import Blueprint.Text.Split

/-!
# Paths into a document

A path is a list of steps joined by points. A step is the name of a field, or `field[key]`, which
means the element called `key` of the list in that field. Points inside brackets do not count.
-/

namespace Blueprint

/-- A step of a path. -/
structure Selector where
  field : String
  key : Option String := none
  deriving DecidableEq, Repr, Inhabited

namespace Selector

/-- Splits at points outside brackets; `depth` counts the open ones. -/
def segments (depth : Nat) : List Char → List (List Char)
  | [] => [[]]
  | c :: cs =>
    if c = '.' && depth = 0 then [] :: segments 0 cs
    else
      Text.consFirst c <|
        segments (if c = '[' then depth + 1 else if c = ']' then depth - 1 else depth) cs

def ofSegment (cs : List Char) : Selector :=
  match cs.span (· != '[') with
  | (field, '[' :: rest) =>
    if rest.getLast? == some ']' then ⟨String.ofList field, some (String.ofList rest.dropLast)⟩
    else ⟨String.ofList cs, none⟩
  | _ => ⟨String.ofList cs, none⟩

def ofPath (path : String) : List Selector := (segments 0 path.toList).map ofSegment

def text (s : Selector) : String :=
  match s.key with
  | none => s.field
  | some key => s.field ++ "[" ++ key ++ "]"

def pathText (ss : List Selector) : String := ".".intercalate (ss.map text)

end Selector

namespace Json

def named? (key : String) (j : Json) : Option Json :=
  match j with
  | .arr items => items.find? fun i => (i.get? "name").bind asString? == some key
  | _ => none

def select? (s : Selector) (j : Json) : Option Json :=
  match s.key with
  | none => j.get? s.field
  | some key => (j.get? s.field).bind (named? key)

def navigate? (ss : List Selector) (j : Json) : Option Json :=
  match ss with
  | [] => some j
  | s :: ss => (j.select? s).bind (navigate? ss)

def lookup? (j : Json) (path : String) : Option Json := j.navigate? (Selector.ofPath path)

end Json

end Blueprint
