import Blueprint.Text.Split
import Mathlib.Data.List.TakeDrop
import Mathlib.Data.List.TakeWhile

/-!
# Paths with slashes

A path can be read back up to its first slash, and so can a path with free text behind it.
-/

namespace Blueprint.Text

def Plain (s : String) : Prop := '/' ∉ s.toList

instance (s : String) : Decidable (Plain s) := inferInstanceAs (Decidable ('/' ∉ s.toList))

theorem cons_slash_inj {a b c d : List Char} (ha : '/' ∉ a) (hb : '/' ∉ b)
    (h : a ++ '/' :: c = b ++ '/' :: d) : a = b ∧ c = d := by
  rcases List.append_eq_append_iff.mp h with ⟨m, rfl, rest⟩ | ⟨m, rfl, rest⟩ <;> cases m with
  | nil => simp_all
  | cons x m => simp_all

/-- A text is cut at the first separator, and stays whole if it has none. -/
theorem span_apart {sep : Char} {cs : List Char} (free : sep ∉ cs) :
    (∀ rest, (cs ++ sep :: rest).span (· != sep) = (cs, sep :: rest)) ∧
      cs.span (· != sep) = (cs, []) := by
  have other : ∀ c ∈ cs, (c != sep) = true := by
    intro c mem
    exact bne_iff_ne.mpr fun same => free (same ▸ mem)
  constructor
  · intro rest
    rw [List.span_eq_takeWhile_dropWhile, List.takeWhile_append_of_pos other,
      List.dropWhile_append_of_pos other, List.takeWhile_cons, List.dropWhile_cons, bne_self_eq_false]
    simp
  · rw [List.span_eq_takeWhile_dropWhile, List.takeWhile_eq_self_iff.mpr other,
      List.dropWhile_eq_nil_iff.mpr other]

theorem Plain.splitOnce? {s : String} (plain : Plain s) : splitOnce? '/' s = none := by
  unfold Text.splitOnce?
  rw [(span_apart plain).2]

theorem Plain.splitOnce?_segment {a : String} (plain : Plain a) (b : String) :
    Text.splitOnce? '/' (a ++ "/" ++ b) = some (a, b) := by
  have chars : (a ++ "/" ++ b).toList = a.toList ++ '/' :: b.toList := by simp
  unfold Text.splitOnce?
  rw [chars, (span_apart plain).1]
  simp

theorem plain_or_segment (s : String) : Plain s ∨ ∃ a b, Plain a ∧ s = a ++ "/" ++ b := by
  by_cases plain : Plain s
  · exact .inl plain
  · obtain ⟨as, bs, chars, first⟩ := List.eq_append_cons_of_mem (not_not.mp plain)
    refine .inr ⟨String.ofList as, String.ofList bs, by simpa [Plain] using first, ?_⟩
    exact String.toList_inj.mp (by simp [chars])

theorem Plain.segment_inj {a b c d : String} (ha : Plain a) (hb : Plain b)
    (h : a ++ "/" ++ c = b ++ "/" ++ d) : a = b ∧ c = d := by
  have chars := congrArg String.toList h
  simp only [String.toList_append, List.append_assoc] at chars
  obtain ⟨first, rest⟩ := cons_slash_inj ha hb chars
  exact ⟨String.toList_inj.mp first, String.toList_inj.mp rest⟩

theorem append_inj_right {p x y : String} (h : p ++ x = p ++ y) : x = y := by
  have chars := congrArg String.toList h
  rw [String.toList_append, String.toList_append] at chars
  exact String.toList_inj.mp (List.append_cancel_left chars)

theorem Plain.ne_segments {a b c : String} (ha : Plain a) : a ≠ b ++ "/" ++ c := by
  rintro rfl
  exact ha (by simp)

def Lead (p w : String) : Prop := Plain w ∧ p = w ++ "/"

instance (p w : String) : Decidable (Lead p w) := inferInstanceAs (Decidable (Plain w ∧ p = w ++ "/"))

theorem Lead.ne_plain {p w a x : String} (h : Lead p w) (ha : Plain a) : a ≠ p ++ x :=
  h.2 ▸ ha.ne_segments

theorem Lead.ne_lead {p w p' w' x y : String} (h : Lead p w) (h' : Lead p' w') (apart : w ≠ w') :
    p ++ x ≠ p' ++ y := by
  rw [h.2, h'.2]
  exact fun same => apart (h.1.segment_inj h'.1 same).1

/-- Nothing, or a slash and one of these words with more behind it. -/
def Tail (words : List String) (s : String) : Prop :=
  s = "" ∨ ∃ w ∈ words, ∃ x, s = "/" ++ (w ++ "/" ++ x)

/-- One text goes on where another ends, with one of these words as its next step. -/
def Continues (words : List String) (a b : String) : Prop :=
  ∃ w ∈ words, b = a ++ ("/" ++ w) ∨ ∃ r, b = a ++ ("/" ++ w ++ "/" ++ r)

theorem prefix_of_tail {w x m t : List Char} (hw : '/' ∉ w) (ht : t = [] ∨ ∃ r, t = '/' :: r)
    (some : m ≠ []) (h : '/' :: (w ++ '/' :: x) = m ++ t) :
    m = '/' :: w ∨ ∃ r, m = '/' :: (w ++ '/' :: r) := by
  cases m with
  | nil => exact (some rfl).elim
  | cons c m =>
    obtain ⟨rfl, rest⟩ := List.cons.inj h
    rcases List.append_eq_append_iff.mp rest with ⟨k, rfl, tail⟩ | ⟨k, rfl, tail⟩
    · cases k with
      | nil => exact .inl (by rw [List.append_nil])
      | cons c k =>
        obtain ⟨rfl, -⟩ := List.cons.inj tail
        exact .inr ⟨k, rfl⟩
    · cases k with
      | nil => exact .inl (by rw [List.append_nil])
      | cons c k =>
        rcases ht with rfl | ⟨r, rfl⟩
        · cases tail
        · obtain ⟨rfl, -⟩ := List.cons.inj tail
          exact (hw (by simp)).elim

theorem Tail.toList {words : List String} {s : String} (h : Tail words s) :
    s.toList = [] ∨ ∃ r, s.toList = '/' :: r := by
  rcases h with rfl | ⟨w, -, x, rfl⟩
  · exact Or.inl rfl
  · exact Or.inr ⟨(w ++ "/" ++ x).toList, by simp⟩

theorem Tail.continues {words : List String} (plain : ∀ w ∈ words, Plain w) {a b s t : String}
    {m : List Char} (hs : Tail words s) (ht : Tail words t) (some : m ≠ [])
    (longer : b.toList = a.toList ++ m) (h : s.toList = m ++ t.toList) : Continues words a b := by
  rcases hs with rfl | ⟨w, mem, x, rfl⟩
  · cases m with
    | nil => exact (some rfl).elim
    | cons c m => cases h
  · have shape : '/' :: (w.toList ++ '/' :: x.toList) = m ++ t.toList := by
      rw [← h]
      simp
    rcases prefix_of_tail (plain w mem) ht.toList some shape with rfl | ⟨r, rfl⟩
    · refine ⟨w, mem, .inl (String.toList_inj.mp ?_)⟩
      rw [longer]
      simp
    · refine ⟨w, mem, .inr ⟨String.ofList r, String.toList_inj.mp ?_⟩⟩
      rw [longer]
      simp

/-- Texts with tails agree in both parts unless one text reaches into the tail of the other. -/
theorem Tail.overlap {words : List String} (plain : ∀ w ∈ words, Plain w) {a b s t : String}
    (hs : Tail words s) (ht : Tail words t) (h : a ++ s = b ++ t) :
    a = b ∧ s = t ∨ Continues words a b ∨ Continues words b a := by
  have chars := congrArg String.toList h
  rw [String.toList_append, String.toList_append] at chars
  by_cases same : a.toList = b.toList
  · rw [same] at chars
    exact Or.inl ⟨String.toList_inj.mp same, String.toList_inj.mp (List.append_cancel_left chars)⟩
  · rcases List.append_eq_append_iff.mp chars with ⟨m, longer, rest⟩ | ⟨m, longer, rest⟩
    · refine Or.inr (Or.inl (hs.continues plain ht ?_ longer rest))
      rintro rfl
      exact same (by simpa using longer.symm)
    · refine Or.inr (Or.inr (ht.continues plain hs ?_ longer rest))
      rintro rfl
      exact same (by simpa using longer)

end Blueprint.Text
