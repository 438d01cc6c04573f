import Blueprint.Text.Cut

/-!
# Places in a text

A place in a text is told by the bytes that stand before it in UTF-8. At the end of a part of a text,
`takeBytes` and `dropBytes` give the text before that place and the text from there on.
-/

namespace Blueprint.Text

def byteLength : List Char → Nat
  | [] => 0
  | c :: cs => c.utf8Size + byteLength cs

def takeBytes : Nat → List Char → List Char
  | _, [] => []
  | n, c :: cs => if n = 0 then [] else c :: takeBytes (n - c.utf8Size) cs

def dropBytes : Nat → List Char → List Char
  | _, [] => []
  | n, c :: cs => if n = 0 then c :: cs else dropBytes (n - c.utf8Size) cs

/-- The text from one place to another. -/
def slice (start stop : Nat) (cs : List Char) : List Char :=
  takeBytes (stop - start) (dropBytes start cs)

/-- Puts another text between two places. -/
def splice (start stop : Nat) (new cs : List Char) : List Char :=
  takeBytes start cs ++ new ++ dropBytes stop cs

/-- The place of the first occurrence of a mark. -/
def find? (mark cs : List Char) : Option Nat := (cut? mark cs).map fun (before, _) => byteLength before

@[simp] theorem byteLength_append (as bs : List Char) :
    byteLength (as ++ bs) = byteLength as + byteLength bs := by
  induction as with
  | nil => simp [byteLength]
  | cons a as ih => simp [byteLength, ih, Nat.add_assoc]

theorem byteLength_eq (cs : List Char) : byteLength cs = (String.ofList cs).utf8ByteSize := by
  induction cs with
  | nil => simp [byteLength]
  | cons c cs ih =>
    have split : String.ofList (c :: cs) = String.singleton c ++ String.ofList cs := by
      rw [String.singleton_eq_ofList, ← String.ofList_append]
      rfl
    rw [byteLength, ih, split, String.utf8ByteSize_append, String.utf8ByteSize_singleton]

@[simp] theorem takeBytes_append (as bs : List Char) : takeBytes (byteLength as) (as ++ bs) = as := by
  induction as with
  | nil => cases bs <;> simp [byteLength, takeBytes]
  | cons a as ih =>
    have wide := a.utf8Size_pos
    rw [List.cons_append, byteLength, takeBytes, if_neg (by omega), Nat.add_sub_cancel_left, ih]

@[simp] theorem dropBytes_append (as bs : List Char) : dropBytes (byteLength as) (as ++ bs) = bs := by
  induction as with
  | nil => cases bs <;> simp [byteLength, dropBytes]
  | cons a as ih =>
    have wide := a.utf8Size_pos
    rw [List.cons_append, byteLength, dropBytes, if_neg (by omega), Nat.add_sub_cancel_left, ih]

theorem slice_append (as bs cs : List Char) :
    slice (byteLength as) (byteLength as + byteLength bs) (as ++ (bs ++ cs)) = bs := by
  rw [slice, dropBytes_append, Nat.add_sub_cancel_left, takeBytes_append]

theorem splice_append (as bs cs new : List Char) :
    splice (byteLength as) (byteLength as + byteLength bs) new (as ++ (bs ++ cs)) =
      as ++ new ++ cs := by
  rw [splice, takeBytes_append, ← byteLength_append, ← List.append_assoc, dropBytes_append]

end Blueprint.Text
