import Blueprint.Text.Cut
import Mathlib.Data.List.Infix

/-!
# First occurrences

A text is cut at the first place where the mark stands, and nowhere if it stands nowhere
(`cut?_eq_some_iff`, `cut?_eq_none_iff`). What follows a text does not move its first occurrences.
-/

namespace Blueprint.Text

variable {mark s t before after : List Char}

/-- A mark stands between two parts of a text, and nowhere earlier. -/
structure First (mark s before after : List Char) : Prop where
  whole : s = before ++ mark ++ after
  least : ∀ b a, s = b ++ mark ++ a → before.length ≤ b.length

namespace First

theorem unique {before' after' : List Char} (h : First mark s before after)
    (h' : First mark s before' after') : before = before' ∧ after = after' := by
  have lengths := Nat.le_antisymm (h.least _ _ h'.whole) (h'.least _ _ h.whole)
  have same := h.whole.symm.trans h'.whole
  rw [List.append_assoc, List.append_assoc] at same
  obtain ⟨rfl, rest⟩ := List.append_inj same lengths
  exact ⟨rfl, List.append_cancel_left rest⟩

theorem append (h : First mark s before after) (t : List Char) :
    First mark (s ++ t) before (after ++ t) where
  whole := by rw [h.whole, List.append_assoc]
  least := by
    intro b a here
    by_contra earlier
    -- An earlier occurrence would end inside the first text.
    have inside : (b ++ mark).length ≤ s.length := by
      rw [h.whole]
      simp only [List.length_append]
      omega
    have front : b ++ mark <+: s :=
      List.prefix_of_prefix_length_le ⟨a, here.symm⟩ (List.prefix_append s t) inside
    obtain ⟨a', there⟩ := front
    exact earlier (h.least b a' there.symm)

theorem fresh (h : First mark s before after) (some : mark ≠ []) : ¬mark <:+: before := by
  rintro ⟨b, a, rfl⟩
  have early := h.least b (a ++ mark ++ after) (by rw [h.whole]; simp)
  have long := List.length_pos_iff.mpr some
  simp only [List.length_append] at early
  omega

end First

theorem cut?_first (h : cut? mark s = some (before, after)) : First mark s before after where
  whole := cut?_eq_some h
  least := by
    induction s generalizing before with
    | nil =>
      obtain rfl : before = [] := (List.append_eq_nil_iff.mp
        (List.append_eq_nil_iff.mp (cut?_eq_some h).symm).1).1
      exact fun _ _ _ => Nat.zero_le _
    | cons c cs ih =>
      intro b a here
      rw [cut?] at h
      split at h
      · obtain ⟨rfl, -⟩ := Prod.mk.inj (Option.some.inj h)
        exact Nat.zero_le _
      · rename_i other
        obtain ⟨⟨before', after'⟩, first, same⟩ := Option.map_eq_some_iff.mp h
        obtain ⟨rfl, rfl⟩ := Prod.mk.inj same
        cases b with
        | nil => exact absurd (List.isPrefixOf_iff_prefix.mpr ⟨a, here.symm⟩) other
        | cons d b =>
          obtain ⟨-, here⟩ := List.cons.inj here
          exact Nat.succ_le_succ (ih first b a here)

theorem cut?_eq_none_iff (some : mark ≠ []) : cut? mark s = none ↔ ¬mark <:+: s := by
  induction s with
  | nil => simp [cut?, some]
  | cons c cs ih =>
    rw [cut?, List.infix_cons_iff, not_or, ← List.isPrefixOf_iff_prefix]
    split
    · rename_i here
      simp [here]
    · rename_i other
      simp [other, ih]

theorem First.occurs (h : First mark s before after) : mark <:+: s :=
  ⟨before, after, h.whole.symm⟩

theorem cut?_eq_some_iff (some : mark ≠ []) :
    cut? mark s = .some (before, after) ↔ First mark s before after := by
  constructor
  · exact cut?_first
  · intro h
    cases found : cut? mark s with
    | none => exact absurd h.occurs ((cut?_eq_none_iff some).mp found)
    | some parts =>
      obtain ⟨rfl, rfl⟩ := h.unique (cut?_first found)
      rfl

theorem exists_first (some : mark ≠ []) (occurs : mark <:+: s) :
    ∃ before after, First mark s before after := by
  cases found : cut? mark s with
  | none => exact absurd occurs ((cut?_eq_none_iff some).mp found)
  | some parts => exact ⟨_, _, cut?_first found⟩

/-- A mark that does not begin earlier, not even with its own help. -/
theorem first_of_not_infix (fresh : ¬mark <:+: before ++ mark.dropLast) (after : List Char) :
    First mark (before ++ mark ++ after) before after where
  whole := rfl
  least := by
    intro b a here
    by_contra earlier
    have inside : (b ++ mark).length ≤ (before ++ mark.dropLast).length := by
      simp only [List.length_append, List.length_dropLast]
      omega
    have front : before ++ mark.dropLast <+: before ++ mark ++ after := by
      rw [List.append_assoc]
      exact (List.prefix_append_right_inj before).mpr
        ((List.dropLast_prefix mark).trans (List.prefix_append mark after))
    obtain ⟨t, same⟩ := List.prefix_of_prefix_length_le ⟨a, here.symm⟩ front inside
    exact fresh ⟨b, t, same⟩

/-- No text both begins and ends a mark, but the mark itself. -/
def Borderless (mark : List Char) : Prop := ∀ b ∈ mark.inits, b <:+ mark → b = [] ∨ b = mark

instance (mark : List Char) : Decidable (Borderless mark) :=
  List.decidableBAll (fun b => b <:+ mark → b = [] ∨ b = mark) mark.inits

/-- Such a mark does not begin in what stands before it. -/
theorem Borderless.first (borderless : Borderless mark) (fresh : ¬mark <:+: before)
    (after : List Char) : First mark (before ++ mark ++ after) before after where
  whole := rfl
  least := by
    intro b a here
    by_contra earlier
    rw [List.append_assoc, List.append_assoc] at here
    rcases List.append_eq_append_iff.mp here with ⟨x, rfl, -⟩ | ⟨x, rfl, rest⟩
    · simp at earlier
    · -- The earlier occurrence begins with `x`, and ends before the later one or inside it.
      rcases List.append_eq_append_iff.mp rest with ⟨y, rfl, -⟩ | ⟨y, whole, rest⟩
      · exact fresh ⟨b, y, by simp⟩
      · have back : y <:+ mark := ⟨x, whole.symm⟩
        have front : y <+: mark := List.prefix_of_prefix_length_le ⟨a, rest.symm⟩
          (List.prefix_append mark after) back.length_le
        rcases borderless y ((List.mem_inits _ _).mpr front) back with rfl | rfl
        · exact fresh ⟨b, [], by simp [whole]⟩
        · obtain rfl : x = [] := by simpa using whole
          simp at earlier

/-- A mark stands on one side of a character that it does not hold. -/
theorem infix_split {c : Char} (other : c ∉ mark) (h : mark <:+: s ++ c :: t) :
    mark <:+: s ∨ mark <:+: t := by
  obtain ⟨b, a, same⟩ := h
  rcases List.append_eq_append_iff.mp same with ⟨x, whole, -⟩ | ⟨x, whole, rest⟩
  · exact .inl ⟨b, x, whole.symm⟩
  · cases x with
    | nil => exact .inl ⟨b, [], by rw [List.append_nil, whole, List.append_nil]⟩
    | cons d x =>
      obtain ⟨rfl, rfl⟩ := List.cons.inj rest
      rcases List.append_eq_append_iff.mp whole with ⟨y, -, inner⟩ | ⟨y, -, inner⟩
      · exact absurd (inner ▸ List.mem_append_right y List.mem_cons_self) other
      · cases y with
        | nil => exact absurd ((List.nil_append mark ▸ inner) ▸ List.mem_cons_self) other
        | cons e y =>
          obtain ⟨-, rfl⟩ := List.cons.inj inner
          exact .inr ⟨y, a, rfl⟩

end Blueprint.Text
