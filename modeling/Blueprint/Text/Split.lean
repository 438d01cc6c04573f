/-!
# Splitting at a character

`split sep s` is what stands between the occurrences of `sep`; there is one part more than
occurrences.
-/

namespace Blueprint.Text

def consFirst (c : Char) : List (List Char) → List (List Char)
  | [] => [[c]]
  | w :: ws => (c :: w) :: ws

def splitChars (sep : Char) : List Char → List (List Char)
  | [] => [[]]
  | c :: cs => if c = sep then [] :: splitChars sep cs else consFirst c (splitChars sep cs)

def split (sep : Char) (s : String) : List String := (splitChars sep s.toList).map String.ofList

def splitOnce? (sep : Char) (s : String) : Option (String × String) :=
  match s.toList.span (· != sep) with
  | (before, _ :: after) => some (String.ofList before, String.ofList after)
  | (_, []) => none

theorem splitChars_ne_nil (sep : Char) (cs : List Char) : splitChars sep cs ≠ [] := by
  induction cs with
  | nil => simp [splitChars]
  | cons c cs ih =>
    simp only [splitChars]
    split
    · simp
    · cases h : splitChars sep cs <;> simp [consFirst]

end Blueprint.Text
