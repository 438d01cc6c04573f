import Blueprint.Text.Digits

/-!
# Places in a text

A cursor is a place in a text with its line and column. Carriage return, line feed, both together,
and the three breaks of Unicode end a line.
-/

namespace Blueprint.Yaml

def isBreak (c : Char) : Bool :=
  c == '\n' || c == '\r' || c.toNat == 0x85 || c.toNat == 0x2028 || c.toNat == 0x2029

def isBlank (c : Char) : Bool := c == ' ' || c == '\t'

def isWord (c : Char) : Bool := Text.isLetter c || Text.isDigit c || c == '_' || c == '-'

def isAllowed (c : Char) : Bool :=
  let n := c.toNat
  n == 9 || n == 10 || n == 13 || (0x20 ≤ n && n ≤ 0x7E) || n == 0x85 ||
    (0xA0 ≤ n && n ≤ 0xD7FF) || (0xE000 ≤ n && n ≤ 0xFFFD) || 0x10000 ≤ n

def isMark (c : Char) : Bool := c.toNat == 0xFEFF

structure Cursor where
  rest : List Char
  index : Nat := 0
  line : Nat := 0
  column : Nat := 0
  deriving Inhabited

namespace Cursor

def head? (c : Cursor) : Option Char := c.rest.head?

def at? (c : Cursor) (n : Nat) : Option Char := c.rest[n]?

def headIs (c : Cursor) (d : Char) : Bool := c.head? == some d

def atEnd (c : Cursor) : Bool := c.rest.isEmpty

def onBreak (c : Cursor) : Bool := c.head?.any isBreak

def onBlank (c : Cursor) : Bool := c.head?.any isBlank

/-- At a break or at the end. -/
def lineDone (c : Cursor) : Bool := c.head?.all isBreak

def gapAt (c : Cursor) (n : Nat) : Bool := (c.at? n).all fun d => isBlank d || isBreak d

def skip (c : Cursor) (n : Nat) : Cursor :=
  { c with rest := c.rest.drop n, index := c.index + n, column := c.column + n }

/-- The characters of the line that pass, and what follows. -/
def takeWhile (c : Cursor) (p : Char → Bool) : List Char × Cursor :=
  let ds := c.rest.takeWhile p
  (ds, c.skip ds.length)

def skipWhile (c : Cursor) (p : Char → Bool) : Cursor := (c.takeWhile p).2

/-- Passes a break; its text is a line feed, or the separator itself for the two of Unicode. -/
def readBreak (c : Cursor) : List Char × Cursor :=
  let beyond := fun n r => { rest := r, index := c.index + n, line := c.line + 1, column := 0 }
  match c.rest with
  | '\r' :: '\n' :: r => (['\n'], beyond 2 r)
  | d :: r =>
    if d.toNat == 0x2028 || d.toNat == 0x2029 then ([d], beyond 1 r)
    else if isBreak d then (['\n'], beyond 1 r)
    else ([], c)
  | [] => ([], c)

def skipBreak (c : Cursor) : Cursor := c.readBreak.2

/-- At three of the same mark that begin a line. -/
def onDocumentMark (c : Cursor) (mark : Char) : Bool :=
  c.column == 0 && c.rest.take 3 == [mark, mark, mark] && c.gapAt 3

def onDocumentEdge (c : Cursor) : Bool := c.onDocumentMark '-' || c.onDocumentMark '.'

/-- Passes blanks and a comment up to the end of the line. -/
def skipLineEnd (c : Cursor) : Cursor :=
  let c := c.skipWhile isBlank
  if c.headIs '#' then c.skipWhile (!isBreak ·) else c

/-- Passes the end of a line on which nothing but a comment may stand. -/
def endLine? (c : Cursor) : Option Cursor :=
  let c := c.skipLineEnd
  if c.lineDone then some c.skipBreak else none

end Cursor

end Blueprint.Yaml
