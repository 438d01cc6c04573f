/-!
# Cutting a text at a mark

`cut? mark s` is what stands before and after the first occurrence of `mark` in `s`.
`cut?_eq_some` gives the text back from the two parts.
-/

namespace Blueprint.Text

def cut? (mark : List Char) : List Char → Option (List Char × List Char)
  | [] => if mark.isEmpty then some ([], []) else none
  | c :: cs =>
    if mark.isPrefixOf (c :: cs) then some ([], (c :: cs).drop mark.length)
    else (cut? mark cs).map fun (before, after) => (c :: before, after)

def occurs (mark s : List Char) : Bool := (cut? mark s).isSome

theorem drop_of_isPrefixOf {mark s : List Char} (h : mark.isPrefixOf s = true) :
    s = mark ++ s.drop mark.length := by
  obtain ⟨t, rfl⟩ := List.isPrefixOf_iff_prefix.1 h
  simp

theorem cut?_eq_some {mark s before after : List Char} (h : cut? mark s = some (before, after)) :
    s = before ++ mark ++ after := by
  induction s generalizing before with
  | nil =>
    simp only [cut?] at h
    split at h
    · rename_i hm
      simp only [Option.some.injEq, Prod.mk.injEq] at h
      simp [← h.1, ← h.2, List.isEmpty_iff.1 hm]
    · simp at h
  | cons c cs ih =>
    simp only [cut?] at h
    split at h
    · rename_i hm
      simp only [Option.some.injEq, Prod.mk.injEq] at h
      rw [← h.1, ← h.2, List.nil_append]
      exact drop_of_isPrefixOf hm
    · obtain ⟨⟨b, a⟩, hb, he⟩ := Option.map_eq_some_iff.1 h
      simp only [Prod.mk.injEq] at he
      rw [he.2] at hb
      rw [← he.1, ih hb]
      simp

theorem length_of_cut? {mark s before after : List Char} (h : cut? mark s = some (before, after)) :
    s.length = before.length + mark.length + after.length := by
  rw [cut?_eq_some h]
  simp; omega

end Blueprint.Text
