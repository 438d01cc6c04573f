import Blueprint.Entity.Attribute
import Blueprint.Json.Path
import Blueprint.Proofs.Json.Objects
import Blueprint.Proofs.Text.Slash

/-!
# Reading paths

A path that is put together from parts is read part by part, as long as every part closes the
brackets that it opens.
-/

namespace Blueprint

namespace Selector

/-! ### Splitting into segments -/

/-- How many brackets are open after a character. -/
def deepen (depth : Nat) (c : Char) : Nat :=
  if c = '[' then depth + 1 else if c = ']' then depth - 1 else depth

def depthAfter (depth : Nat) (cs : List Char) : Nat := cs.foldl deepen depth

theorem segments_cons (depth : Nat) (c : Char) (cs : List Char) : segments depth (c :: cs) =
    if c = '.' ∧ depth = 0 then [] :: segments (deepen depth c) cs
    else Text.consFirst c (segments (deepen depth c) cs) := by
  rw [segments]
  by_cases point : c = '.' ∧ depth = 0
  · obtain ⟨rfl, rfl⟩ := point
    rfl
  · rw [if_neg point, if_neg (by simpa using point)]
    rfl

theorem segments_ne_nil (depth : Nat) (cs : List Char) : segments depth cs ≠ [] := by
  cases cs with
  | nil => simp [segments]
  | cons c cs =>
    rw [segments_cons]
    split
    · simp
    · cases segments (deepen depth c) cs <;> simp [Text.consFirst]

theorem consFirst_append {c : Char} {ws vs : List (List Char)} (some : ws ≠ []) :
    Text.consFirst c (ws ++ vs) = Text.consFirst c ws ++ vs := by
  cases ws with
  | nil => exact (some rfl).elim
  | cons w ws => rfl

theorem segments_point {depth : Nat} {cs : List Char} (closed : depthAfter depth cs = 0)
    (rest : List Char) : segments depth (cs ++ '.' :: rest) = segments depth cs ++ segments 0 rest := by
  induction cs generalizing depth with
  | nil =>
    obtain rfl : depth = 0 := closed
    rfl
  | cons c cs ih =>
    rw [List.cons_append, segments_cons, segments_cons, ih closed]
    split
    · rfl
    · exact consFirst_append (segments_ne_nil _ _)

/-- Characters that stay together if `depth` brackets are open before them. -/
def Whole (depth : Nat) (cs : List Char) : Prop := segments depth cs = [cs]

instance (depth : Nat) (cs : List Char) : Decidable (Whole depth cs) :=
  inferInstanceAs (Decidable (_ = _))

theorem whole_cons {depth : Nat} {c : Char} {cs : List Char} :
    Whole depth (c :: cs) ↔ ¬(c = '.' ∧ depth = 0) ∧ Whole (deepen depth c) cs := by
  rw [Whole, Whole, segments_cons]
  split
  · simp [*]
  · cases found : segments (deepen depth c) cs with
    | nil => exact (segments_ne_nil _ _ found).elim
    | cons w ws => simp [*, Text.consFirst]

theorem Whole.append {depth : Nat} {cs ds : List Char} (first : Whole depth cs)
    (rest : Whole (depthAfter depth cs) ds) : Whole depth (cs ++ ds) := by
  induction cs generalizing depth with
  | nil => exact rest
  | cons c cs ih =>
    obtain ⟨inside, first⟩ := whole_cons.mp first
    exact whole_cons.mpr ⟨inside, ih first rest⟩

/-! ### Steps as texts -/

def isMark (c : Char) : Bool := c == '.' || c == '[' || c == ']'

/-- A text without points and brackets. -/
def Word (s : String) : Prop := ∀ c ∈ s.toList, isMark c = false

instance (s : String) : Decidable (Word s) :=
  List.decidableBAll (fun c => isMark c = false) s.toList

/-- A text that stays together between brackets and opens no more than it closes. -/
def Enclosed (s : String) : Prop := Whole 1 s.toList ∧ depthAfter 1 s.toList ≤ 1

instance (s : String) : Decidable (Enclosed s) := inferInstanceAs (Decidable (_ ∧ _))

theorem plain_whole {cs : List Char} (plain : ∀ c ∈ cs, isMark c = false) (depth : Nat) :
    Whole depth cs ∧ depthAfter depth cs = depth := by
  induction cs generalizing depth with
  | nil => exact ⟨rfl, rfl⟩
  | cons c cs ih =>
    obtain ⟨first, rest⟩ := List.forall_mem_cons.mp plain
    simp only [isMark, Bool.or_eq_false_iff, beq_eq_false_iff_ne] at first
    obtain ⟨⟨point, left⟩, right⟩ := first
    have same : deepen depth c = depth := by rw [deepen, if_neg left, if_neg right]
    obtain ⟨whole, after⟩ := ih rest depth
    refine ⟨whole_cons.mpr ⟨fun here => point here.1, same.symm ▸ whole⟩, ?_⟩
    rw [depthAfter, List.foldl_cons, same]
    exact after

theorem Word.enclosed {s : String} (h : Word s) : Enclosed s :=
  ⟨(plain_whole h 1).1, Nat.le_of_eq (plain_whole h 1).2⟩

theorem identifier_word {s : String} (h : Text.isIdentifier s = true) : Word s := by
  intro c mem
  have letter := Text.mem_identifier h mem
  by_contra mark
  simp only [isMark, Bool.or_eq_false_iff, not_and_or, Bool.not_eq_false, beq_iff_eq] at mark
  rcases mark with (rfl | rfl) | rfl <;> exact absurd letter (by decide)

theorem Word.unbracketed {s : String} (h : Word s) : '[' ∉ s.toList :=
  fun mem => absurd (h '[' mem) (by decide)

theorem ofSegment_unbracketed {cs : List Char} (free : '[' ∉ cs) :
    ofSegment cs = ⟨String.ofList cs, none⟩ := by
  rw [ofSegment, (Text.span_apart free).2]

/-! ### Paths -/

/-- A path with no bracket left open. -/
def Closed (path : String) : Prop := depthAfter 0 path.toList = 0

instance (path : String) : Decidable (Closed path) := inferInstanceAs (Decidable (_ = _))

theorem ofPath_point {a : String} (closed : Closed a) (b : String) :
    ofPath (a ++ "." ++ b) = ofPath a ++ ofPath b := by
  have chars : (a ++ "." ++ b).toList = a.toList ++ '.' :: b.toList := by simp
  rw [ofPath, chars, segments_point closed, List.map_append]
  rfl

theorem Closed.point {a b : String} (ha : Closed a) (hb : Closed b) : Closed (a ++ "." ++ b) := by
  have chars : (a ++ "." ++ b).toList = a.toList ++ '.' :: b.toList := by simp
  rw [Closed, chars, depthAfter, List.foldl_append]
  have first : a.toList.foldl deepen 0 = 0 := ha
  rw [first]
  exact hb

theorem Word.closed {s : String} (h : Word s) : Closed s := (plain_whole h 0).2

theorem Word.ofPath {s : String} (h : Word s) : ofPath s = [⟨s, none⟩] := by
  have whole : segments 0 s.toList = [s.toList] := (plain_whole h 0).1
  rw [Selector.ofPath, whole, List.map_singleton,
    ofSegment_unbracketed h.unbracketed, String.ofList_toList]

/-- What a step with a key is printed as. -/
def keyed (field key : String) : String := (Selector.mk field (some key)).text

theorem toList_keyed (field key : String) :
    (keyed field key).toList = field.toList ++ '[' :: (key.toList ++ [']']) := by
  simp [keyed, text]

variable {field key : String}

theorem closed_keyed (word : Word field) (enclosed : Enclosed key) : Closed (keyed field key) := by
  have first : field.toList.foldl deepen 0 = 0 := word.closed
  have inner : key.toList.foldl deepen 1 ≤ 1 := enclosed.2
  rw [Closed, toList_keyed, depthAfter, List.foldl_append, first, List.foldl_cons]
  rw [show deepen 0 '[' = 1 from rfl, List.foldl_append, List.foldl_cons, List.foldl_nil]
  exact Nat.sub_eq_zero_of_le inner

theorem whole_keyed (word : Word field) (enclosed : Enclosed key) :
    Whole 0 (keyed field key).toList := by
  have outer := plain_whole word 0
  have last : Whole (depthAfter 1 key.toList) [']'] := rfl
  rw [toList_keyed]
  refine outer.1.append ?_
  rw [outer.2]
  exact whole_cons.mpr ⟨by decide, enclosed.1.append last⟩

theorem ofPath_keyed (word : Word field) (enclosed : Enclosed key) :
    ofPath (keyed field key) = [⟨field, some key⟩] := by
  have same : segments 0 (keyed field key).toList = [(keyed field key).toList] :=
    whole_keyed word enclosed
  rw [Selector.ofPath, same, List.map_singleton, toList_keyed, ofSegment,
    (Text.span_apart word.unbracketed).1]
  simp

/-! ### Paths of fields -/

/-- A path that is read as nothing but fields, as it is split at its points. -/
def Flat (path : String) : Prop :=
  ofPath path = (Text.split '.' path).map fun field => ⟨field, none⟩

instance (path : String) : Decidable (Flat path) := inferInstanceAs (Decidable (_ = _))

end Selector

namespace Json

open Selector

theorem navigate?_append (ss ts : List Selector) (j : Json) :
    j.navigate? (ss ++ ts) = (j.navigate? ss).bind (navigate? ts) := by
  induction ss generalizing j with
  | nil => rfl
  | cons s ss ih =>
    simp only [List.cons_append, navigate?]
    cases j.select? s with
    | none => rfl
    | some j => exact ih j

theorem lookup?_point {a : String} (closed : Closed a) (b : String) (j : Json) :
    j.lookup? (a ++ "." ++ b) = (j.lookup? a).bind (·.lookup? b) := by
  rw [lookup?, ofPath_point closed, navigate?_append]
  rfl

theorem lookup?_word {s : String} (word : Word s) (j : Json) : j.lookup? s = j.get? s := by
  rw [lookup?, word.ofPath, navigate?, select?]
  exact Option.bind_fun_some _

theorem lookup?_words {a b : String} (ha : Word a) (hb : Word b) (j : Json) :
    j.lookup? (a ++ "." ++ b) = (j.get? a).bind (·.get? b) := by
  rw [lookup?_point ha.closed, lookup?_word ha]
  exact congrArg _ (funext fun j => lookup?_word hb j)

/-- A step with a key leads to the first item of that name. -/
theorem lookup?_keyed {field key : String} (word : Word field) (enclosed : Enclosed key) (j : Json) :
    j.lookup? (keyed field key) =
      (j.items field).find? fun i => i.text? "name" == some key := by
  rw [lookup?, ofPath_keyed word enclosed, navigate?, select?]
  dsimp only
  rw [items]
  cases j.get? field with
  | none => rfl
  | some list =>
    cases list with
    | arr items => exact Option.bind_fun_some _
    | _ => rfl

theorem lookup?_flat {path : String} (flat : Flat path) (j : Json) :
    j.lookup? path = j.follow? (Text.split '.' path) := by
  rw [lookup?, flat]
  generalize Text.split '.' path = fields
  induction fields generalizing j with
  | nil => rfl
  | cons field fields ih =>
    simp only [List.map_cons, navigate?, select?, follow?]
    cases j.get? field with
    | none => rfl
    | some j => exact ih j

end Json

end Blueprint
