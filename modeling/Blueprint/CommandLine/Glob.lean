import Blueprint.CommandLine.FileSystem

/-!
# File patterns

In a pattern `?` stands for one character, `*` for any, and brackets for one of some characters or
for none of them; two stars as a whole part stand for directories of any depth.
-/

namespace Blueprint

inductive GlobFault where
  | stars (position : Nat)
  | recursion (position : Nat)
  | range (position : Nat)
  deriving DecidableEq, Repr, Inhabited

def GlobFault.message (f : GlobFault) : String :=
  let at' := fun (p : Nat) text =>
    "Pattern syntax error near position " ++ toString p ++ ": " ++ text
  match f with
  | stars p => at' p "wildcards are either regular \x60*\x60 or recursive \x60**\x60"
  | recursion p => at' p "recursive wildcards must form a single path component"
  | range p => at' p "invalid range pattern"

inductive GlobToken where
  | char (c : Char)
  | anyChar
  | anyText
  | directories
  | within (ranges : List (Char × Char))
  | except (ranges : List (Char × Char))
  deriving DecidableEq, Repr, Inhabited

abbrev GlobPart := List GlobToken

namespace Glob

/-! ### Reading patterns -/

def ranges : List Char → List (Char × Char)
  | a :: '-' :: b :: cs => (a, b) :: ranges cs
  | a :: cs => (a, a) :: ranges cs
  | [] => []

/-- A bracket expression after its opening bracket; its first character may be a bracket. -/
def bracket? (cs : List Char) : Option (GlobToken × List Char) :=
  let close := fun (first : Char) (rest : List Char) =>
    match rest.dropWhile (· != ']') with
    | [] => none
    | _ :: after => some (ranges (first :: rest.takeWhile (· != ']')), after)
  match cs with
  | '!' :: first :: rest => (close first rest).map fun (rs, after) => (.except rs, after)
  | '!' :: [] => none
  | first :: rest => (close first rest).map fun (rs, after) => (.within rs, after)
  | [] => none

/-- The tokens of a text that begins at `position`; `fresh` tells that it begins a part. -/
def tokens : Nat → Nat → Bool → List Char → Except GlobFault (List GlobToken)
  | 0, _, _, _ => .ok []
  | _ + 1, _, _, [] => .ok []
  | fuel + 1, position, fresh, c :: cs =>
    if c = '*' then
      let stars := ((c :: cs).takeWhile (· = '*')).length
      let rest := (c :: cs).dropWhile (· = '*')
      if 2 < stars then .error (.stars (position + 2))
      else if stars = 1 then (.anyText :: ·) <$> tokens fuel (position + 1) false rest
      else if !fresh then .error (.recursion (position - 1))
      else
        match rest with
        | [] => .ok [.directories]
        | d :: more =>
          if d = '/' then (.directories :: ·) <$> tokens fuel (position + 3) true more
          else .error (.recursion (position + 2))
    else if c = '?' then (.anyChar :: ·) <$> tokens fuel (position + 1) false cs
    else if c = '[' then
      match bracket? cs with
      | some (t, rest) =>
        (t :: ·) <$> tokens fuel (position + 1 + (cs.length - rest.length)) false rest
      | none => .error (.range position)
    else (.char c :: ·) <$> tokens fuel (position + 1) (c = '/') cs

def part (cs : List Char) : Except GlobFault GlobPart := tokens (cs.length + 1) 0 true cs

/-- Where a pattern begins, its parts, and whether it asks for directories. -/
structure Pattern where
  start : Path
  parts : List GlobPart
  directory : Bool
  deriving Inhabited

/-- The parts between slashes; nothing after the last slash is no part. -/
def split (cs : List Char) : List (List Char) :=
  let parts := Text.splitChars '/' cs
  if parts.getLast? = some [] then parts.dropLast else parts

def read (pattern : String) : Except GlobFault Pattern := do
  let cs := pattern.toList
  let _ ← part cs
  let absolute := cs.head? = some '/'
  let body := if absolute then cs.tail else cs
  let parts ← (split body).mapM part
  return {
    start := ⟨if absolute then "/" else "."⟩, parts := if body.isEmpty then [[]] else parts
    directory := cs.getLast? = some '/' }

/-! ### Matching -/

def tokenAccepts (c : Char) : GlobToken → Bool
  | .char d => c = d
  | .anyChar => true
  | .within rs => rs.any fun r => r.1 ≤ c && c ≤ r.2
  | .except rs => !rs.any fun r => r.1 ≤ c && c ≤ r.2
  | .anyText | .directories => false

/-- Whether some end of a text passes. -/
def someEnd (p : List Char → Bool) : List Char → Bool
  | [] => p []
  | c :: cs => p (c :: cs) || someEnd p cs

def accepts : GlobPart → List Char → Bool
  | [], cs => cs.isEmpty
  | .anyText :: ts, cs => someEnd (accepts ts) cs
  | .directories :: ts, cs => someEnd (accepts ts) cs
  | t :: ts, cs =>
    match cs with
    | c :: cs => tokenAccepts c t && accepts ts cs
    | [] => false

def literal? (p : GlobPart) : Option String :=
  (p.mapM fun (t : GlobToken) =>
    match t with
    | .char c => some c
    | _ => none).map String.ofList

def isRecursive (p : GlobPart) : Bool := p.contains .directories

/-! ### Searching -/

/-- A path inside a directory; the working directory is not named. -/
def inside (dir : Path) (name : String) : Path :=
  if dir.same ⟨"."⟩ then ⟨name⟩ else dir.join ⟨name⟩

/-- Drops all but the last of the recursive parts in front. -/
def collapse : List GlobPart → List GlobPart
  | p :: q :: ps => if isRecursive p && isRecursive q then collapse (q :: ps) else p :: q :: ps
  | ps => ps

def byBytes (a b : String) : Bool := compare a.toUTF8.toList b.toUTF8.toList != .gt

section

variable {m : Type → Type} [Monad m] [FileSystem m]

def isDirectory (p : Path) : m Bool := do return (← kind? p) = some .directory

def exists? (p : Path) : m Bool := do return (← kind? p).isSome

mutual

/-- The paths below a directory that some parts stand for. -/
def fill (directory : Bool) : Nat → List GlobPart → Path → m (List Path)
  | 0, _, _ => return []
  | _ + 1, [], _ => return []
  | fuel + 1, p :: ps, path => do
    match literal? p with
    | some s =>
      let next := inside path s
      let special := s = "." || s = ".."
      let found ← if special then isDirectory path else exists? next
      if found then goOn directory fuel ps next else return []
    | none =>
      if !(← isDirectory path) then return []
      let specials := if p.head? = some (.char '.') then ["..", "."] else []
      let special := fun (s : String) => do
        if accepts p s.toList then goOn directory fuel ps (path.join ⟨s⟩) else return []
      let below := fun (name : String) => visit directory fuel (p :: ps) (inside path name) name
      let first ← specials.mapM special
      let names := (← list path).mergeSort byBytes
      return (first ++ (← names.mapM below)).flatten

/-- A path that a part has stood for, or what the other parts stand for below it. -/
def goOn (directory : Bool) : Nat → List GlobPart → Path → m (List Path)
  | 0, _, _ => return []
  | fuel + 1, ps, path => do
    if !ps.isEmpty then fill directory fuel ps path
    else if !directory || (← isDirectory path) then return [path]
    else return []

/-- What the parts stand for at an entry of a directory and below. -/
def visit (directory : Bool) : Nat → List GlobPart → Path → String → m (List Path)
  | 0, _, _, _ => return []
  | fuel + 1, ps, path, name => do
    match collapse ps with
    | [] => return []
    | p :: ps =>
      if !isRecursive p then
        if accepts p name.toList then goOn directory fuel ps path else return []
      else
        let inner ← isDirectory path
        let below ← if inner then fill directory fuel (p :: ps) path else pure []
        match ps with
        | [] => return if inner then path :: below else []
        | q :: qs =>
          let here ← if accepts q name.toList then goOn directory fuel qs path else pure []
          return here ++ below

end

/-- The paths that a pattern stands for. No path is longer than 4096 bytes. -/
def search (p : Pattern) : m (List Path) :=
  fill p.directory (3 * 4096 + 3 * p.parts.length) p.parts p.start

end

end Glob

end Blueprint
