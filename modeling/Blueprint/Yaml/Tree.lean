import Blueprint.Yaml.Token
import Blueprint.Data.OrderedMap

/-!
# Syntax trees of YAML

A tree is what a text says before aliases are followed and scalars get their types. Anchors are
numbered in the order in which they stand; `Tree.ofTokens?` reads the one document of a text.
-/

namespace Blueprint.Yaml

/-- What may stand before a node. -/
structure Marks where
  anchor : Option Nat := none
  tag : Option String := none
  deriving DecidableEq, Repr, Inhabited

inductive Tree where
  | alias (anchor : Nat)
  | scalar (marks : Marks) (text : String) (plain : Bool)
  | sequence (marks : Marks) (items : List Tree)
  | mapping (marks : Marks) (entries : List (Tree × Tree))
  deriving Inhabited

namespace Tree

def absent : Tree := .scalar {} "" true

/-! ### Documents under reading -/

/-- The tokens still to be read, and the number of each anchor so far. -/
structure Source where
  tokens : List Token
  anchors : List (String × Nat) := []

namespace Source

def next (s : Source) : Token := s.tokens.headD .streamEnd

def advance (s : Source) : Source := { s with tokens := s.tokens.tail }

def nextIs (s : Source) (ts : List Token) : Bool := ts.contains s.next

def expect? (s : Source) (t : Token) : Option Source := if s.next = t then some s.advance else none

/-- An anchor gets the number of distinct names so far, also when its name is known already. -/
def define (s : Source) (name : String) : Nat × Source :=
  let n := s.anchors.length
  (n, { s with anchors := Entries.put name n s.anchors })

end Source

/-- Tag handles and what they stand for. -/
abbrev Handles := List (String × String)

def Handles.standard : Handles := [("!", "!"), ("!!", "tag:yaml.org,2002:")]

/-- A tag in full; a tag without a handle is written in full already. -/
def Handles.expand? (hs : Handles) (handle suffix : String) : Option String :=
  if handle.isEmpty then some suffix else (Entries.get? handle hs).map (· ++ suffix)

def marks? (hs : Handles) (s : Source) : Option (Marks × Source) :=
  match s.next with
  | .anchor a =>
    let s := s.advance
    match s.next with
    | .tag h t => do
      let tag ← hs.expand? h t
      let (n, s) := s.advance.define a
      return (⟨n, tag⟩, s)
    | _ =>
      let (n, s) := s.define a
      some (⟨n, none⟩, s)
  | .tag h t => do
    let tag ← hs.expand? h t
    let s := s.advance
    match s.next with
    | .anchor a =>
      let (n, s) := s.advance.define a
      return (⟨n, tag⟩, s)
    | _ => return (⟨none, tag⟩, s)
  | _ => some ({}, s)

/-- A written scalar; the tag `!` says nothing about it. -/
def ofScalar (m : Marks) (text : String) (plain : Bool) : Tree :=
  .scalar { m with tag := m.tag.filter (· != "!") } text plain

/-! ### Nodes -/

mutual

/-- A node. Block collections may stand here if `block` holds, and a sequence that is no further
indented than its mapping if `flush` does. -/
def node? (hs : Handles) (block flush : Bool) : Nat → Source → Option (Tree × Source)
  | 0, _ => none
  | fuel + 1, s =>
    match s.next with
    | .alias name => (Entries.get? name s.anchors).map fun n => (.alias n, s.advance)
    | _ => do
      let (m, s) ← marks? hs s
      match s.next with
      | .scalar text plain => return (ofScalar m text plain, s.advance)
      | .flowSequenceStart =>
        let (items, s) ← flowItems? hs true fuel s.advance
        return (.sequence m items, s)
      | .flowMappingStart =>
        let (entries, s) ← flowEntries? hs true fuel s.advance
        return (.mapping m entries, s)
      | .blockEntry =>
        if flush then
          let (items, s) ← flushItems? hs fuel s
          return (.sequence m items, s)
        else unwritten? m s
      | .blockSequenceStart =>
        if block then
          let (items, s) ← blockItems? hs fuel s.advance
          return (.sequence m items, s)
        else unwritten? m s
      | .blockMappingStart =>
        if block then
          let (entries, s) ← blockEntries? hs fuel s.advance
          return (.mapping m entries, s)
        else unwritten? m s
      | _ => unwritten? m s

def unwritten? (m : Marks) (s : Source) : Option (Tree × Source) :=
  if m = {} then none else some (.scalar m "" true, s)

def nodeUnless? (hs : Handles) (block flush : Bool) (ends : List Token) :
    Nat → Source → Option (Tree × Source)
  | 0, _ => none
  | fuel + 1, s => if s.nextIs ends then some (absent, s) else node? hs block flush fuel s

def blockItems? (hs : Handles) : Nat → Source → Option (List Tree × Source)
  | 0, _ => none
  | fuel + 1, s =>
    match s.next with
    | .blockEntry => do
      let (item, s) ← nodeUnless? hs true false [.blockEntry, .blockEnd] fuel s.advance
      let (items, s) ← blockItems? hs fuel s
      return (item :: items, s)
    | .blockEnd => some ([], s.advance)
    | _ => none

def flushItems? (hs : Handles) : Nat → Source → Option (List Tree × Source)
  | 0, _ => none
  | fuel + 1, s =>
    match s.next with
    | .blockEntry => do
      let (item, s) ←
        nodeUnless? hs true false [.blockEntry, .key, .value, .blockEnd] fuel s.advance
      let (items, s) ← flushItems? hs fuel s
      return (item :: items, s)
    | _ => some ([], s)

def blockEntries? (hs : Handles) : Nat → Source → Option (List (Tree × Tree) × Source)
  | 0, _ => none
  | fuel + 1, s =>
    match s.next with
    | .key => do
      let (key, s) ← nodeUnless? hs true true [.key, .value, .blockEnd] fuel s.advance
      let (value, s) ←
        if s.next = .value then nodeUnless? hs true true [.key, .value, .blockEnd] fuel s.advance
        else some (absent, s)
      let (entries, s) ← blockEntries? hs fuel s
      return ((key, value) :: entries, s)
    | .blockEnd => some ([], s.advance)
    | _ => none

/-- The items of a flow sequence; one with a key is a mapping of that one entry. -/
def flowItems? (hs : Handles) (first : Bool) : Nat → Source → Option (List Tree × Source)
  | 0, _ => none
  | fuel + 1, s =>
    if s.next = .flowSequenceEnd then some ([], s.advance)
    else do
      let s ← if first then some s else s.expect? .flowEntry
      match s.next with
      | .flowSequenceEnd => return ([], s.advance)
      | .key =>
        let (entry, s) ← flowPair? hs fuel s.advance
        let (items, s) ← flowItems? hs false fuel s
        return (.mapping {} [entry] :: items, s)
      | _ =>
        let (item, s) ← node? hs false false fuel s
        let (items, s) ← flowItems? hs false fuel s
        return (item :: items, s)

/-- The one entry of a mapping without brackets. A token that comes instead of the key is passed
with it. -/
def flowPair? (hs : Handles) : Nat → Source → Option ((Tree × Tree) × Source)
  | 0, _ => none
  | fuel + 1, s => do
    let (key, s) ←
      if s.nextIs [.value, .flowEntry, .flowSequenceEnd] then some (absent, s.advance)
      else node? hs false false fuel s
    let (value, s) ←
      if s.next = .value then
        nodeUnless? hs false false [.flowEntry, .flowSequenceEnd] fuel s.advance
      else some (absent, s)
    return ((key, value), s)

/-- The entries of a flow mapping; a node without a key mark is a key without a value. -/
def flowEntries? (hs : Handles) (first : Bool) : Nat → Source → Option (List (Tree × Tree) × Source)
  | 0, _ => none
  | fuel + 1, s =>
    if s.next = .flowMappingEnd then some ([], s.advance)
    else do
      let s ← if first then some s else s.expect? .flowEntry
      match s.next with
      | .flowMappingEnd => return ([], s.advance)
      | .key =>
        let (key, s) ←
          nodeUnless? hs false false [.value, .flowEntry, .flowMappingEnd] fuel s.advance
        let (value, s) ←
          if s.next = .value then
            nodeUnless? hs false false [.flowEntry, .flowMappingEnd] fuel s.advance
          else some (absent, s)
        let (entries, s) ← flowEntries? hs false fuel s
        return ((key, value) :: entries, s)
      | _ =>
        let (key, s) ← node? hs false false fuel s
        let (entries, s) ← flowEntries? hs false fuel s
        return ((key, absent) :: entries, s)

end

/-! ### Documents -/

/-- Directives before a document: one version at most, and each handle once. -/
def directives? (version : Bool) (hs : Handles) : List Token → Option (Handles × List Token)
  | .version major minor :: ts =>
    if version || major != 1 || !(minor == 1 || minor == 2) then none else directives? true hs ts
  | .tagDirective handle expansion :: ts =>
    if (Entries.get? handle hs).isSome then none
    else directives? version (hs ++ [(handle, expansion)]) ts
  | ts => some (hs, ts)

/-- The handles of a document and its tokens, with whether its start is marked. -/
def opening? (ts : List Token) : Option (Handles × List Token × Bool) :=
  match ts with
  | .version .. :: _ | .tagDirective .. :: _ | .documentStart :: _ =>
    match directives? false [] ts with
    | some (hs, .documentStart :: rest) => some (hs ++ Handles.standard, rest, true)
    | _ => none
  | _ => some (Handles.standard, ts, false)

def isOutside : Token → Bool
  | .version .. | .tagDirective .. | .documentStart | .documentEnd | .streamEnd => true
  | _ => false

/-- The only document of a text; a text without one is an absent node. -/
def ofTokens? (ts : List Token) : Option Tree := do
  let (hs, body, marked) ← opening? ts
  let s : Source := { tokens := body }
  let (tree, s) ←
    if s.next = .streamEnd || (marked && isOutside s.next) then some (absent, s)
    else node? hs true false (3 * body.length + 10) s
  if (s.tokens.dropWhile (· = .documentEnd)).head? = some .streamEnd then return tree else none

end Tree

end Blueprint.Yaml
