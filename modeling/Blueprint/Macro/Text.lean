import Blueprint.Text.Blank
import Blueprint.Text.Bytes

/-!
# Macros in text

A macro is the text between `@@{` and `}@@`; the server expands it when a task runs. `scan` lists
the macros of a text from left to right, and `hasMacro` tells whether one is opened.
-/

namespace Blueprint.Macro

def opener : List Char := ['@', '@', '\x7b']

def closer : List Char := ['\x7d', '@', '@']

def body (cs : List Char) : String := String.ofList (Text.trimChars cs)

/-- The macro bodies from `position` on; the error is the byte position of an opener that is never
closed. -/
def scanFrom (position : Nat) (cs : List Char) : Except Nat (List String) :=
  match _ : Text.cut? opener cs with
  | none => .ok []
  | some (before, inside) =>
    let start := position + Text.byteLength before
    match _ : Text.cut? closer inside with
    | none => .error start
    | some (inner, after) => do
      let rest ← scanFrom (start + opener.length + Text.byteLength inner + closer.length) after
      return body inner :: rest
termination_by cs.length
decreasing_by
  have h₁ := Text.length_of_cut? ‹Text.cut? opener cs = _›
  have h₂ := Text.length_of_cut? ‹Text.cut? closer inside = _›
  simp only [opener, closer, List.length_cons, List.length_nil] at h₁ h₂
  omega

def scan (s : String) : Except Nat (List String) := scanFrom 0 s.toList

def hasMacro (s : String) : Bool := Text.occurs opener s.toList

/-- The first name of a macro body: what stands before a point or a bracket. -/
def head (body : String) : String :=
  String.ofList (body.toList.takeWhile fun c => c != '.' && c != '[')

/-- Why a text is no good where it stands. -/
inductive Fault where
  | unclosed (position : Nat)
  | unknown (body : String)
  deriving DecidableEq, Repr, Inhabited

def Fault.message : Fault → String
  | .unclosed position => "unclosed macro at position " ++ toString position
  | .unknown body => "macro '@@\x7b" ++ body ++ "\x7d@@' names nothing in scope"

end Blueprint.Macro
