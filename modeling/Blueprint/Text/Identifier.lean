/-!
# Identifiers

Names of variables, actions and tasks: ASCII letters, digits and underscores, no digit first.
-/

namespace Blueprint.Text

def isLetter (c : Char) : Bool := ('a' ≤ c && c ≤ 'z') || ('A' ≤ c && c ≤ 'Z')

def isDigit (c : Char) : Bool := '0' ≤ c && c ≤ '9'

def isIdentifierChars : List Char → Bool
  | [] => false
  | c :: cs => (isLetter c || c == '_') && cs.all fun d => isLetter d || isDigit d || d == '_'

def isIdentifier (s : String) : Bool := isIdentifierChars s.toList

theorem mem_identifier {s : String} (h : isIdentifier s = true) {c : Char} (mem : c ∈ s.toList) :
    (isLetter c || isDigit c || c == '_') = true := by
  unfold isIdentifier at h
  cases chars : s.toList with
  | nil => simp [chars] at mem
  | cons d ds =>
    rw [chars] at h mem
    obtain ⟨first, rest⟩ := (Bool.and_eq_true _ _).mp h
    rcases List.mem_cons.mp mem with rfl | mem
    · rw [Bool.or_right_comm, first, Bool.true_or]
    · exact List.all_eq_true.mp rest c mem

end Blueprint.Text
