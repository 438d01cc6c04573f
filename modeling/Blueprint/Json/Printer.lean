import Blueprint.Json.Value
import Blueprint.Number.Layout
import Blueprint.Text.Digits

/-!
# Writing JSON

`Json.compact` has no white space; `Json.pretty` indents by two blanks and keeps empty containers
on one line.
-/

namespace Blueprint.Json

/-- A positive exponent shows its sign, and what is no finite number is null. -/
def numberLayout : Double.Layout := ⟨"+", "null", "null"⟩

def floatText (x : Double) : String :=
  if x.isFinite then x.render numberLayout else "null"

/-- Escapes the quote, the backslash and the control characters below the blank. -/
def escape (c : Char) : List Char :=
  if c = '\x22' then ['\\', '\x22']
  else if c = '\\' then ['\\', '\\']
  else if c = '\x08' then ['\\', 'b']
  else if c = '\t' then ['\\', 't']
  else if c = '\n' then ['\\', 'n']
  else if c = '\x0c' then ['\\', 'f']
  else if c = '\r' then ['\\', 'r']
  else if c.toNat < 0x20 then '\\' :: 'u' :: (Text.hexDigits 4 c.toNat).toList
  else [c]

def quote (s : String) : String := "\"" ++ String.ofList (s.toList.flatMap escape) ++ "\""

mutual

def compact : Json → String
  | .null => "null"
  | .bool true => "true"
  | .bool false => "false"
  | .int i => toString i
  | .float x => floatText x
  | .str s => quote s
  | .arr items => "[" ++ ",".intercalate (compactItems items) ++ "]"
  | .obj fields => "\x7b" ++ ",".intercalate (compactFields fields) ++ "\x7d"

def compactItems : List Json → List String
  | [] => []
  | j :: js => compact j :: compactItems js

def compactFields : List (String × Json) → List String
  | [] => []
  | (k, j) :: fs => (quote k ++ ":" ++ compact j) :: compactFields fs

end

def indent (depth : Nat) : String := "\n" ++ String.ofList (List.replicate (2 * depth) ' ')

mutual

def prettyAt (depth : Nat) : Json → String
  | .arr (j :: js) =>
    "[" ++ ",".intercalate (prettyItems (depth + 1) (j :: js)) ++ indent depth ++ "]"
  | .obj (f :: fs) =>
    "\x7b" ++ ",".intercalate (prettyFields (depth + 1) (f :: fs)) ++ indent depth ++ "\x7d"
  | .arr [] => "[]"
  | .obj [] => "\x7b\x7d"
  | .null => "null"
  | .bool true => "true"
  | .bool false => "false"
  | .int i => toString i
  | .float x => floatText x
  | .str s => quote s

def prettyItems (depth : Nat) : List Json → List String
  | [] => []
  | j :: js => (indent depth ++ prettyAt depth j) :: prettyItems depth js

def prettyFields (depth : Nat) : List (String × Json) → List String
  | [] => []
  | (k, j) :: fs =>
    (indent depth ++ quote k ++ ": " ++ prettyAt depth j) :: prettyFields depth fs

end

def pretty (j : Json) : String := prettyAt 0 j

end Blueprint.Json
