import Blueprint.Yaml.Token
import Blueprint.Yaml.Token.Text

/-!
# Reading tokens

`Token.scan?` takes the tokens of a text. What turns out to be the key of a mapping gets its mark
afterwards: a key stands on one line, is at most 1024 characters long, and is remembered until its
colon is found.
-/

namespace Blueprint.Yaml

/-- A token that may turn out to be a key. -/
structure KeyCandidate where
  /-- The number of its first token. -/
  token : Nat
  index : Nat
  line : Nat
  column : Nat
  /-- It stands where a key has to stand. -/
  required : Bool
  deriving Inhabited

structure Lexer where
  cursor : Cursor
  /-- More characters than the text has; no loop inside it takes as many steps. -/
  room : Nat
  flowLevel : Nat := 0
  /-- The column of the innermost block collection. -/
  indent : Int := -1
  indents : List Int := []
  keyAllowed : Bool := true
  /-- A candidate for each flow level, innermost first. -/
  keys : List (Option KeyCandidate) := [none]
  tokens : Array Token := #[]
  deriving Inhabited

namespace Lexer

def inFlow (l : Lexer) : Bool := 0 < l.flowLevel

def emit (l : Lexer) (t : Token) : Lexer := { l with tokens := l.tokens.push t }

def insertAt (l : Lexer) (n : Nat) (t : Token) : Lexer :=
  { l with tokens := l.tokens.insertIdxIfInBounds n t }

def skip (l : Lexer) (n : Nat) : Lexer := { l with cursor := l.cursor.skip n }

def column (l : Lexer) : Int := l.cursor.column

/-! ### Indentation and keys -/

def unrollFrom : List Int → Int → Lexer → Lexer
  | [], _, l => l
  | i :: is, column, l =>
    if column < l.indent then
      unrollFrom is column { l.emit .blockEnd with indent := i, indents := is }
    else l

def unroll (column : Int) (l : Lexer) : Lexer :=
  if l.inFlow then l else unrollFrom l.indents column l

/-- Begins a block collection if the column is a new one; `at?` is the number that its token
gets. -/
def roll (column : Int) (t : Token) (at? : Option Nat) (l : Lexer) : Lexer :=
  if l.inFlow || column ≤ l.indent then l
  else
    let l := { l with indents := l.indent :: l.indents, indent := column }
    match at? with
    | some n => l.insertAt n t
    | none => l.emit t

/-- Gives up the candidate of this level, which must not be required. -/
def dropKey? (l : Lexer) : Option Lexer :=
  match l.keys with
  | some k :: ks => if k.required then none else some { l with keys := none :: ks }
  | _ => some l

def saveKey? (l : Lexer) : Option Lexer :=
  if !l.keyAllowed then some l
  else do
    let l ← l.dropKey?
    let c := l.cursor
    let required := !l.inFlow && l.indent == l.column
    let key : KeyCandidate := ⟨l.tokens.size, c.index, c.line, c.column, required⟩
    return { l with keys := some key :: l.keys.tail }

def isStale (c : Cursor) (k : KeyCandidate) : Bool := k.line < c.line || k.index + 1024 < c.index

/-- Gives up candidates that are too long or on an earlier line. -/
def staleKeys? (l : Lexer) : Option Lexer := do
  let keys ← l.keys.mapM fun
    | some k =>
      if isStale l.cursor k then if k.required then none else some none else some (some k)
    | none => some none
  return { l with keys }

/-! ### Blanks and comments -/

/-- Passes what stands between tokens. A byte order mark before a text takes a column. In a block a
tab is no indentation. -/
def skipBetween : Nat → Lexer → Lexer
  | 0, l => l
  | fuel + 1, l =>
    let c := l.cursor
    let c := if c.index == 0 && c.head?.any isMark then c.skip 1 else c
    let tabs := l.inFlow || !l.keyAllowed
    let c := c.skipWhile fun d => d == ' ' || (tabs && d == '\t')
    let c := if c.headIs '#' then c.skipWhile (!isBreak ·) else c
    if c.onBreak then
      skipBetween fuel
        { l with cursor := c.skipBreak, keyAllowed := l.keyAllowed || !l.inFlow }
    else { l with cursor := c }

/-! ### Directives and tags -/

def isTagChar (verbatim : Bool) (c : Char) : Bool :=
  isWord c || ";/?:@&=+$.%!~*\x27()".toList.contains c ||
    (verbatim && (c == ',' || c == '[' || c == ']'))

def hexByte? (a b : Char) : Option UInt8 := (Text.natural? 16 [a, b]).map Nat.toUInt8

/-- How many bytes a character has that begins with a byte. -/
def encodedWidth? (b : UInt8) : Option Nat :=
  if b &&& 0x80 = 0 then some 1
  else if b &&& 0xE0 = 0xC0 then some 2
  else if b &&& 0xF0 = 0xE0 then some 3
  else if b &&& 0xF8 = 0xF0 then some 4
  else none

def escapedBytes? : Nat → List Char → Option (List UInt8 × List Char)
  | 0, cs => some ([], cs)
  | n + 1, '%' :: a :: b :: cs => do
    let byte ← hexByte? a b
    let (bytes, cs) ← escapedBytes? n cs
    return (byte :: bytes, cs)
  | _ + 1, _ => none

/-- A character that is escaped byte by byte, after its first percent sign. -/
def escapedChar? (cs : List Char) : Option (Char × Nat) := do
  let (first, _) ← escapedBytes? 1 cs
  let width ← encodedWidth? (← first.head?)
  let (bytes, _) ← escapedBytes? width cs
  let text ← String.fromUTF8? ⟨bytes.toArray⟩
  return (← text.toList.head?, 3 * width)

/-- Takes the characters of a tag, reversed onto `acc`. -/
def tagChars? (verbatim : Bool) : Nat → Cursor → List Char → Option (List Char × Cursor)
  | 0, _, _ => none
  | fuel + 1, c, acc =>
    match c.rest with
    | [] => some (acc.reverse, c)
    | d :: _ =>
      if !isTagChar verbatim d then some (acc.reverse, c)
      else if d == '%' then
        match escapedChar? c.rest with
        | some (e, n) => tagChars? verbatim fuel (c.skip n) (e :: acc)
        | none => none
      else tagChars? verbatim fuel (c.skip 1) (d :: acc)

def tagText? (verbatim : Bool) (c : Cursor) : Option (List Char × Cursor) :=
  tagChars? verbatim (c.rest.length + 1) c []

def tagHandle? (c : Cursor) : Option (List Char × Cursor) :=
  if !c.headIs '!' then none
  else
    let (name, c) := (c.skip 1).takeWhile isWord
    if c.headIs '!' then some ('!' :: name ++ ['!'], c.skip 1) else some ('!' :: name, c)

/-- A tag in angles, with a handle of its own, or with the primary one. -/
def tag? (inFlow : Bool) (c : Cursor) : Option (Token × Cursor) := do
  let (handle, suffix, c) ←
    if c.at? 1 == some '<' then do
      let (suffix, c) ← tagText? true (c.skip 2)
      if suffix.isEmpty || !c.headIs '>' then none
      else some ([], suffix, c.skip 1)
    else do
      let (handle, c) ← tagHandle? c
      let (suffix, c) ← tagText? false c
      if 1 < handle.length && handle.getLast? == some '!' then
        if suffix.isEmpty then none else some (handle, suffix, c)
      else
        let suffix := handle.tail ++ suffix
        if suffix.isEmpty then some ([], ['!'], c) else some (['!'], suffix, c)
  if (inFlow && c.headIs ',') || c.gapAt 0 then
    return (.tag (String.ofList handle) (String.ofList suffix), c)
  else none

def versionNumber? (c : Cursor) : Option (Nat × Cursor) :=
  let (ds, c) := c.takeWhile Text.isDigit
  if ds.length ≤ 9 then (Text.natural? 10 ds).map fun n => (n, c) else none

def versionDirective? (c : Cursor) : Option (Token × Cursor) := do
  let (major, c) ← versionNumber? (c.skipWhile isBlank)
  if !c.headIs '.' then none
  let (minor, c) ← versionNumber? (c.skip 1)
  return (.version major minor, c)

def tagDirective? (c : Cursor) : Option (Token × Cursor) := do
  let (handle, c) ← tagHandle? (c.skipWhile isBlank)
  if handle.getLast? != some '!' || !c.onBlank then none
  let (expansion, c) ← tagText? true (c.skipWhile isBlank)
  if expansion.isEmpty || !c.gapAt 0 then none
  return (.tagDirective (String.ofList handle) (String.ofList expansion), c)

def directive? (c : Cursor) : Option (Token × Cursor) := do
  let (name, c) := (c.skip 1).takeWhile isWord
  if !c.gapAt 0 then none
  let (t, c) ←
    match String.ofList name with
    | "YAML" => versionDirective? c
    | "TAG" => tagDirective? c
    | _ => none
  return (t, ← c.endLine?)

def anchorName? (c : Cursor) : Option (String × Cursor) :=
  let (name, c) := (c.skip 1).takeWhile isWord
  if !name.isEmpty && (c.gapAt 0 || c.head?.any "?:,]\x7d%@\x60".toList.contains) then
    some (String.ofList name, c)
  else none

/-! ### Tokens -/

/-- A token outside all blocks, after which no key may follow. -/
def atMargin? (l : Lexer) : Option Lexer := do
  let l ← (l.unroll (-1)).dropKey?
  return { l with keyAllowed := false }

def fetchDirective? (l : Lexer) : Option Lexer := do
  let l ← l.atMargin?
  let (t, c) ← directive? l.cursor
  return { l with cursor := c }.emit t

def fetchDocumentMark? (t : Token) (l : Lexer) : Option Lexer := do
  return ((← l.atMargin?).skip 3).emit t

def fetchFlowStart? (t : Token) (l : Lexer) : Option Lexer := do
  let l ← l.saveKey?
  return { l.skip 1 with keys := none :: l.keys, flowLevel := l.flowLevel + 1, keyAllowed := true
    }.emit t

def fetchFlowEnd? (t : Token) (l : Lexer) : Option Lexer := do
  let l ← l.dropKey?
  let l := if l.inFlow then { l with flowLevel := l.flowLevel - 1, keys := l.keys.tail } else l
  return { l.skip 1 with keyAllowed := false }.emit t

def fetchFlowComma? (l : Lexer) : Option Lexer := do
  let l ← l.dropKey?
  return { l.skip 1 with keyAllowed := true }.emit .flowEntry

/-- A token that begins a block of its own, which is allowed only where a key is. -/
def beginBlock? (t : Token) (l : Lexer) : Option Lexer :=
  if l.inFlow then some l
  else if l.keyAllowed then some (l.roll l.column t none)
  else none

def fetchBlockItem? (l : Lexer) : Option Lexer := do
  let l ← (← l.beginBlock? .blockSequenceStart).dropKey?
  return { l.skip 1 with keyAllowed := true }.emit .blockEntry

def fetchKey? (l : Lexer) : Option Lexer := do
  let l ← (← l.beginBlock? .blockMappingStart).dropKey?
  return { l.skip 1 with keyAllowed := !l.inFlow }.emit .key

/-- A colon: the candidate of this level becomes a key, with the start of a mapping before it. -/
def fetchValue? (l : Lexer) : Option Lexer :=
  match l.keys with
  | some k :: ks =>
    let l := (l.insertAt k.token .key).roll k.column .blockMappingStart (some k.token)
    some ({ l.skip 1 with keys := none :: ks, keyAllowed := false }.emit .value)
  | _ => do
    let l ← l.beginBlock? .blockMappingStart
    return { l.skip 1 with keyAllowed := !l.inFlow }.emit .value

def fetchContent? (read : Cursor → Option (Token × Cursor)) (l : Lexer) : Option Lexer := do
  let l ← l.saveKey?
  let (t, c) ← read l.cursor
  return { l with cursor := c, keyAllowed := false }.emit t

def fetchQuoted? (single : Bool) (l : Lexer) : Option Lexer :=
  l.fetchContent? fun c => do
    let c := c.skip 1
    let (text, c) ← quoted? single l.room c []
    return (.scalar (String.ofList text) false, c)

def fetchBlockScalar? (literal : Bool) (l : Lexer) : Option Lexer := do
  let l ← l.dropKey?
  let (text, c) ← block? literal l.indent l.room (l.cursor.skip 1)
  return { l with cursor := c, keyAllowed := true }.emit (.scalar (String.ofList text) false)

/-- A plain scalar; if it ends with a line, a key may follow. -/
def fetchPlain? (l : Lexer) : Option Lexer := do
  let l ← l.saveKey?
  let c := l.cursor
  let (text, folded, c) ← plain? l.inFlow (l.indent + 1) l.room c [] [] false
  return { l with cursor := c, keyAllowed := folded }.emit (.scalar (String.ofList text) true)

def beginsPlain (l : Lexer) (d : Char) : Bool :=
  let next := l.cursor.at? 1
  !(isBlank d || isBreak d || "-?:,[]\x7b\x7d#&*!|>\x27\x22%@\x60".toList.contains d) ||
    (d == '-' && !next.any isBlank) ||
    (!l.inFlow && (d == '?' || d == ':') && !l.cursor.gapAt 1)

/-- The next token, `none` inside at the end of the text. -/
def fetch? (l : Lexer) : Option Lexer :=
  let c := l.cursor
  match c.head? with
  | none => none
  | some d =>
    let gap := c.gapAt 1
    if c.column == 0 && d == '%' then l.fetchDirective?
    else if c.onDocumentMark '-' then l.fetchDocumentMark? .documentStart
    else if c.onDocumentMark '.' then l.fetchDocumentMark? .documentEnd
    else if d == '[' then l.fetchFlowStart? .flowSequenceStart
    else if d == '\x7b' then l.fetchFlowStart? .flowMappingStart
    else if d == ']' then l.fetchFlowEnd? .flowSequenceEnd
    else if d == '\x7d' then l.fetchFlowEnd? .flowMappingEnd
    else if d == ',' then l.fetchFlowComma?
    else if d == '-' && gap then l.fetchBlockItem?
    else if d == '?' && (l.inFlow || gap) then l.fetchKey?
    else if d == ':' && (l.inFlow || gap) then l.fetchValue?
    else if d == '*' then l.fetchContent? fun c => (anchorName? c).map fun (n, c) => (.alias n, c)
    else if d == '&' then l.fetchContent? fun c => (anchorName? c).map fun (n, c) => (.anchor n, c)
    else if d == '!' then l.fetchContent? (tag? l.inFlow)
    else if d == '|' && !l.inFlow then l.fetchBlockScalar? true
    else if d == '>' && !l.inFlow then l.fetchBlockScalar? false
    else if d == '\x27' then l.fetchQuoted? true
    else if d == '\x22' then l.fetchQuoted? false
    else if l.beginsPlain d then l.fetchPlain?
    else none

def finish? (l : Lexer) : Option (Array Token) := do
  let l ← (l.unroll (-1)).dropKey?
  return (l.emit .streamEnd).tokens

def run? : Nat → Lexer → Option (Array Token)
  | 0, _ => none
  | fuel + 1, l => do
    let l ← (l.skipBetween l.room).staleKeys?
    let l := l.unroll l.column
    if l.cursor.atEnd then l.finish? else run? fuel (← l.fetch?)

end Lexer

def Token.scan? (s : String) : Option (List Token) := do
  let cs := s.toList
  if !cs.all isAllowed then none
  let room := cs.length + 2
  let tokens ← Lexer.run? room { cursor := { rest := cs }, room }
  return tokens.toList

end Blueprint.Yaml
