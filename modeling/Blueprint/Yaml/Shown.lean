import Blueprint.Yaml.Value
import Blueprint.Number.Layout
import Blueprint.Unicode.Category
import Blueprint.Unicode.Property

/-!
# Values as text

A scalar is shown as its text and a null value as none; collections and tagged values are shown
with the kinds of their parts.
-/

namespace Blueprint.Yaml

def isShown (c : Char) : Bool :=
  (' ' ≤ c && c ≤ '~') ||
    (Unicode.Category.printable.contains c && !(Unicode.Property.named "graphemeextend").contains c)

/-- A character of quoted text; code points stand in braces. -/
def escapeShown (c : Char) : String :=
  match c with
  | '\x00' => "\\0"
  | '\t' => "\\t"
  | '\n' => "\\n"
  | '\r' => "\\r"
  | '\\' => "\\\\"
  | '\x22' => "\\\""
  | c =>
    if isShown c then c.toString
    else "\\u\x7b" ++ Text.hexDigits 0 c.toNat ++ "\x7d"

def quoteShown (s : String) : String := "\"" ++ String.join (s.toList.map escapeShown) ++ "\""

namespace Value

/-- No mark stands before a positive exponent. -/
def numberLayout : Double.Layout := ⟨"", ".inf", ".nan"⟩

def boolText (b : Bool) : String := if b then "true" else "false"

mutual

def shown : Value → String
  | .null => "Null"
  | .bool b => "Bool(" ++ boolText b ++ ")"
  | .int i => "Number(" ++ toString i ++ ")"
  | .float x => "Number(" ++ x.render numberLayout ++ ")"
  | .str s => "String(" ++ quoteShown s ++ ")"
  | .sequence items => "Sequence [" ++ ", ".intercalate (shownItems items) ++ "]"
  | .mapping entries => "Mapping \x7b" ++ ", ".intercalate (shownEntries entries) ++ "\x7d"
  | .tagged tag v => "TaggedValue \x7b tag: !" ++ bareTag tag ++ ", value: " ++ shown v ++ " \x7d"

def shownItems : List Value → List String
  | [] => []
  | v :: vs => shown v :: shownItems vs

def shownEntries : List (Value × Value) → List String
  | [] => []
  | (k, v) :: es => (shownKey k ++ ": " ++ shown v) :: shownEntries es

/-- Keys show scalars without their kind. -/
def shownKey : Value → String
  | .bool b => boolText b
  | .int i => toString i
  | .float x => x.render numberLayout
  | .str s => quoteShown s
  | .null => "Null"
  | .sequence items => "Sequence [" ++ ", ".intercalate (shownItems items) ++ "]"
  | .mapping entries => "Mapping \x7b" ++ ", ".intercalate (shownEntries entries) ++ "\x7d"
  | .tagged tag v => "TaggedValue \x7b tag: !" ++ bareTag tag ++ ", value: " ++ shown v ++ " \x7d"

end

def text : Value → String
  | .str s => s
  | .null => ""
  | .bool b => boolText b
  | .int i => toString i
  | .float x => x.render numberLayout
  | v => v.shown

end Value

end Blueprint.Yaml
