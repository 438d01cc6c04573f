import Blueprint.Data.OrderedMap

/-!
# TOML documents

Values, and the rules by which the lines of a document build its tables. A table may be written in
one place only: between braces, under a header of its own, or by dotted keys. A header may still
claim a table that so far only lay on the way to others.
-/

namespace Blueprint

/-- How a table came to be. -/
inductive TomlOrigin where
  /-- Between braces. -/
  | inline
  | header
  /-- On the way to a header. -/
  | implied
  /-- On the way of a dotted key. -/
  | dotted
  deriving DecidableEq, Repr, Inhabited

inductive Toml where
  | text (s : String)
  | int (i : Int)
  | flag (b : Bool)
  /-- Floating-point numbers, dates and times, whose values are not kept. -/
  | other
  | array (items : List Toml)
  | table (origin : TomlOrigin) (entries : List (String × Toml))
  /-- The tables of a repeated header. -/
  | tables (items : List (List (String × Toml)))
  deriving Inhabited

namespace Toml

abbrev Entries := List (String × Toml)

/-- A line with a key; the last part of the key is apart. -/
structure Assignment where
  path : List String
  key : String
  value : Toml
  deriving Inhabited

/-! ### Keys with values -/

/-- Sets a key in the table at the end of a dotted path. `origin` is how that table came to be, and
`fresh` whether nothing but dotted keys has made it. -/
def assign? (origin : TomlOrigin) (es : Entries) (key : String) (v : Toml) :
    List String → Option Entries
  | [] =>
    if origin = .implied || (Blueprint.Entries.get? key es).isSome then none
    else some (es ++ [(key, v)])
  | step :: path =>
    match Blueprint.Entries.get? step es with
    | none => do
      return es ++ [(step, .table .dotted (← assign? .dotted [] key v path))]
    | some (.table o inner) =>
      if o = .dotted || o = .implied then do
        return Blueprint.Entries.put step (.table o (← assign? o inner key v path)) es
      else none
    | some _ => none

def ofAssignments? (as : List Assignment) : Option Toml :=
  (as.foldlM (fun es a => assign? .inline es a.key a.value a.path) []).map (.table .inline)

/-! ### Headers -/

/-- Changes the table at the end of a path of headers; of a repeated header it is the last one. -/
def change? (f : Entries → Option Entries) (es : Entries) : List String → Option Entries
  | [] => f es
  | step :: path =>
    match Blueprint.Entries.get? step es with
    | none => do return es ++ [(step, .table .implied (← change? f [] path))]
    | some (.table .inline _) => none
    | some (.table o inner) => do
      return Blueprint.Entries.put step (.table o (← change? f inner path)) es
    | some (.tables items) => do
      let last ← items.getLast?
      return Blueprint.Entries.put step (.tables (items.dropLast ++ [← change? f last path])) es
    | some _ => none

/-- The table that a header begins with: a new one, or one that was on the way only. -/
def claim? (key : String) (es : Entries) : Option Entries :=
  match Blueprint.Entries.get? key es with
  | none => some []
  | some (.table .implied inner) => some inner
  | some _ => none

/-- A header with the lines below it. -/
structure Block where
  path : List String
  key : String
  repeated : Bool
  lines : List Assignment
  deriving Inhabited

def assignAll? (es : Entries) (lines : List Assignment) : Option Entries :=
  lines.foldlM (fun es a => assign? .header es a.key a.value a.path) es

/-- Adds the table of a block to the table that its header names. -/
def Block.addTo? (b : Block) (es : Entries) : Option Entries :=
  if b.repeated then
    match Blueprint.Entries.get? b.key es with
    | none => do return es ++ [(b.key, .tables [← assignAll? [] b.lines])]
    | some (.tables items) => do
      return Blueprint.Entries.put b.key (.tables (items ++ [← assignAll? [] b.lines])) es
    | some _ => none
  else do
    let inner ← assignAll? (← claim? b.key es) b.lines
    return Blueprint.Entries.put b.key (.table .header inner) es

/-- A document from the lines before its first header and its blocks. -/
def ofBlocks? (lines : List Assignment) (blocks : List Block) : Option Entries := do
  let es ← assignAll? [] lines
  blocks.foldlM (fun es b => change? b.addTo? es b.path) es

end Toml

end Blueprint
