import Blueprint.Proofs.Json.Address
import Mathlib.Data.List.Infix

/-!
# Printed paths

Steps are printed one after the other with points between them. Where no field holds a point or a
bracket and every key closes the brackets that it opens, the path is read back as these steps, and
it leads to where they lead one by one (`pathText_exact`).
-/

namespace Blueprint

namespace Selector

/-! ### Keys with brackets -/

/-- Brackets are never closed before they are opened, and all of them are closed. -/
structure Balanced (key : String) : Prop where
  opened : ∀ front, front <+: key.toList → front.count ']' ≤ front.count '['
  closed : key.toList.count ']' = key.toList.count '['

instance (key : String) : Decidable (Balanced key) :=
  decidable_of_iff ((∀ front ∈ key.toList.inits, front.count ']' ≤ front.count '[') ∧
      key.toList.count ']' = key.toList.count '[')
    ⟨fun h => ⟨fun front mem => h.1 front ((List.mem_inits _ _).mpr mem), h.2⟩,
      fun h => ⟨fun front mem => h.opened front ((List.mem_inits _ _).mp mem), h.closed⟩⟩

theorem deepen_count {depth : Nat} {c : Char} (some : 0 < depth) :
    deepen depth c + [c].count ']' = depth + [c].count '[' := by
  by_cases left : c = '['
  · subst left
    simp [deepen]
  · by_cases right : c = ']'
    · subst right
      simp [deepen]
      omega
    · simp [deepen, left, right]

/-- With brackets open around it, a text stays together as long as it closes none of them. -/
theorem whole_of_opened {depth : Nat} {cs : List Char}
    (opened : ∀ front, front <+: cs → front.count ']' ≤ depth + front.count '[') :
    Whole (depth + 1) cs ∧
      depthAfter (depth + 1) cs + cs.count ']' = depth + 1 + cs.count '[' := by
  induction cs generalizing depth with
  | nil => exact ⟨rfl, rfl⟩
  | cons c cs ih =>
    have split : ∀ (x : Char) (front : List Char),
        (c :: front).count x = [c].count x + front.count x := by
      intro x front
      rw [← List.singleton_append, List.count_append]
    have longer : ∀ front, front <+: cs →
        [c].count ']' + front.count ']' ≤ depth + ([c].count '[' + front.count '[') := by
      intro front before
      rw [← split ']' front, ← split '[' front]
      exact opened _ ((List.prefix_cons_inj c).mpr before)
    have next : deepen (depth + 1) c + [c].count ']' = depth + 1 + [c].count '[' :=
      deepen_count (Nat.succ_pos depth)
    -- The brackets around the text stay open behind its first character.
    obtain ⟨depth', deeper⟩ : ∃ depth', deepen (depth + 1) c = depth' + 1 := by
      have first := longer [] List.nil_prefix
      simp only [List.count_nil, Nat.add_zero] at first
      exact ⟨deepen (depth + 1) c - 1, by omega⟩
    have inside : ∀ front, front <+: cs → front.count ']' ≤ depth' + front.count '[' := by
      intro front before
      have count := longer front before
      omega
    obtain ⟨whole, after⟩ := ih inside
    refine ⟨whole_cons.mpr ⟨fun here => absurd here.2 (Nat.succ_ne_zero depth), ?_⟩, ?_⟩
    · rw [deeper]
      exact whole
    · have rest : depthAfter (depth + 1) (c :: cs) = depthAfter (depth' + 1) cs := by
        rw [← deeper]
        rfl
      rw [rest, split ']' cs, split '[' cs]
      omega

theorem Balanced.enclosed {key : String} (balanced : Balanced key) : Enclosed key := by
  have opened : ∀ front, front <+: key.toList → front.count ']' ≤ 0 + front.count '[' := by
    intro front before
    rw [Nat.zero_add]
    exact balanced.opened front before
  obtain ⟨whole, after⟩ := whole_of_opened opened
  have closed := balanced.closed
  rw [Nat.zero_add] at whole after
  exact ⟨whole, by omega⟩

/-! ### Steps and paths -/

/-- A step that can be read back: no point or bracket in its field, and brackets in its key only in
pairs. -/
structure Plain (s : Selector) : Prop where
  field : Word s.field
  key : ∀ key ∈ s.key, Balanced key

instance (s : Selector) : Decidable (Plain s) :=
  decidable_of_iff (Word s.field ∧ ∀ key ∈ s.key, Balanced key)
    ⟨fun h => ⟨h.1, h.2⟩, fun h => ⟨h.field, h.key⟩⟩

namespace Plain

variable {s : Selector}

theorem whole (plain : Plain s) : segments 0 s.text.toList = [s.text.toList] := by
  obtain ⟨field, key⟩ := s
  cases key with
  | none => exact (plain_whole plain.field 0).1
  | some key => exact whole_keyed plain.field (plain.key key rfl).enclosed

theorem closed (plain : Plain s) : Closed s.text := by
  obtain ⟨field, key⟩ := s
  cases key with
  | none => exact plain.field.closed
  | some key => exact closed_keyed plain.field (plain.key key rfl).enclosed

theorem ofSegment (plain : Plain s) : ofSegment s.text.toList = s := by
  have read : ofPath s.text = [s] := by
    obtain ⟨field, key⟩ := s
    cases key with
    | none => exact plain.field.ofPath
    | some key => exact ofPath_keyed plain.field (plain.key key rfl).enclosed
  rw [ofPath, plain.whole] at read
  exact List.singleton_inj.mp read

end Plain

theorem pathText_cons (s t : Selector) (ss : List Selector) :
    pathText (s :: t :: ss) = s.text ++ "." ++ pathText (t :: ss) :=
  String.intercalate_cons_cons

theorem pathText_singleton (s : Selector) : pathText [s] = s.text := String.intercalate_singleton

variable {ss : List Selector}

/-- The points of a printed path are those between its steps. -/
theorem segments_pathText (some : ss ≠ []) (plain : ∀ s ∈ ss, Plain s) :
    segments 0 (pathText ss).toList = ss.map (·.text.toList) := by
  induction ss with
  | nil => exact absurd rfl some
  | cons s ss ih =>
    obtain ⟨first, rest⟩ := List.forall_mem_cons.mp plain
    cases ss with
    | nil =>
      rw [pathText_singleton, first.whole]
      rfl
    | cons t ss =>
      have chars : (pathText (s :: t :: ss)).toList =
          s.text.toList ++ '.' :: (pathText (t :: ss)).toList := by
        rw [pathText_cons]
        simp
      rw [chars, segments_point first.closed, first.whole, ih (List.cons_ne_nil t ss) rest]
      rfl

theorem ofPath_pathText (some : ss ≠ []) (plain : ∀ s ∈ ss, Plain s) :
    ofPath (pathText ss) = ss := by
  rw [ofPath, segments_pathText some plain, List.map_map]
  calc ss.map (ofSegment ∘ (·.text.toList))
      = ss.map id := List.map_congr_left fun s mem => (plain s mem).ofSegment
    _ = ss := List.map_id ss

end Selector

namespace Json

open Selector

/-! ### Where steps lead -/

/-- A step takes the value of a field, or from the list there the first item with a name. -/
inductive Takes : Selector → Json → Json → Prop where
  | field {name : String} {j k : Json} (member : j.get? name = some k) : Takes ⟨name, none⟩ j k
  | keyed {name key : String} {j k : Json} {front back : List Json}
      (member : j.get? name = some (.arr (front ++ k :: back)))
      (named : k.get? "name" = some (.str key))
      (first : ∀ i ∈ front, i.get? "name" ≠ some (.str key)) : Takes ⟨name, some key⟩ j k

inductive Leads : List Selector → Json → Json → Prop where
  | here {j : Json} : Leads [] j j
  | step {s : Selector} {ss : List Selector} {j k l : Json} (first : Takes s j k)
      (rest : Leads ss k l) : Leads (s :: ss) j l

variable {s : Selector} {ss : List Selector} {j k : Json}

theorem text?_eq_some_iff {name key : String} :
    (j.get? name).bind asString? = some key ↔ j.get? name = some (.str key) := by
  rw [Option.bind_eq_some_iff]
  constructor
  · rintro ⟨value, found, text⟩
    cases value with
    | str s => rw [found, Option.some.inj text]
    | _ => cases text
  · intro found
    exact ⟨_, found, rfl⟩

theorem named?_eq_some_iff {key : String} : named? key j = some k ↔
    ∃ front back, j = .arr (front ++ k :: back) ∧ k.get? "name" = some (.str key) ∧
      ∀ i ∈ front, i.get? "name" ≠ some (.str key) := by
  cases j with
  | arr items =>
    rw [named?, List.find?_eq_some_iff_append]
    simp only [beq_iff_eq, text?_eq_some_iff, arr.injEq, Bool.not_eq_true', beq_eq_false_iff_ne,
      ne_eq]
    constructor
    · rintro ⟨named, front, back, rfl, first⟩
      exact ⟨front, back, rfl, named, first⟩
    · rintro ⟨front, back, rfl, named, first⟩
      exact ⟨named, front, back, rfl, first⟩
  | _ => simp [named?]

theorem select?_eq_some_iff : j.select? s = some k ↔ Takes s j k := by
  obtain ⟨name, key⟩ := s
  constructor
  · intro found
    cases key with
    | none => exact .field found
    | some key =>
      obtain ⟨list, member, found⟩ := Option.bind_eq_some_iff.mp found
      obtain ⟨front, back, rfl, named, first⟩ := named?_eq_some_iff.mp found
      exact .keyed member named first
  · intro takes
    cases takes with
    | field member => exact member
    | keyed member named first =>
      exact Option.bind_eq_some_iff.mpr
        ⟨_, member, named?_eq_some_iff.mpr ⟨_, _, rfl, named, first⟩⟩

theorem navigate?_eq_some_iff : j.navigate? ss = some k ↔ Leads ss j k := by
  induction ss generalizing j with
  | nil =>
    constructor
    · intro same
      obtain rfl := Option.some.inj same
      exact .here
    · intro leads
      cases leads
      rfl
  | cons s ss ih =>
    rw [navigate?, Option.bind_eq_some_iff]
    constructor
    · rintro ⟨l, taken, rest⟩
      exact .step (select?_eq_some_iff.mp taken) (ih.mp rest)
    · intro leads
      cases leads with
      | step taken rest => exact ⟨_, select?_eq_some_iff.mpr taken, ih.mpr rest⟩

/-- Nothing is found as soon as a step is impossible. -/
theorem navigate?_eq_none_iff : j.navigate? ss = none ↔
    ∃ front s back k, ss = front ++ s :: back ∧ Leads front j k ∧ ∀ l, ¬Takes s k l := by
  induction ss generalizing j with
  | nil => simp [navigate?]
  | cons s ss ih =>
    rw [navigate?]
    cases taken : j.select? s with
    | none =>
      refine iff_of_true rfl ⟨[], s, ss, j, rfl, .here, fun l takes => ?_⟩
      rw [select?_eq_some_iff.mpr takes] at taken
      cases taken
    | some l =>
      rw [Option.bind_some, ih]
      have first := select?_eq_some_iff.mp taken
      constructor
      · rintro ⟨front, t, back, k, rfl, leads, stuck⟩
        exact ⟨s :: front, t, back, k, rfl, .step first leads, stuck⟩
      · rintro ⟨front, t, back, k, same, leads, stuck⟩
        cases leads with
        | here =>
          obtain ⟨rfl, rfl⟩ := List.cons.inj same
          exact absurd first (stuck l)
        | @step s' front _ l' _ first' rest =>
          obtain ⟨rfl, rfl⟩ := List.cons.inj same
          have again := select?_eq_some_iff.mpr first'
          obtain rfl := Option.some.inj (taken.symm.trans again)
          exact ⟨front, t, back, k, rfl, rest, stuck⟩

end Json

namespace Selector

/-- **Reading a path undoes printing it.** The path of one step or more, with no point or bracket in
their fields and balanced brackets in their keys, is split into the texts of its steps and read as
these steps. In every document it leads to what is found step by step, and to nothing as soon as a
step is impossible. -/
theorem pathText_exact (ss : List Selector) (some : ss ≠ []) (plain : ∀ s ∈ ss, Plain s) :
    segments 0 (pathText ss).toList = ss.map (·.text.toList) ∧ ofPath (pathText ss) = ss ∧
      ∀ doc : Json,
        (∀ found, doc.lookup? (pathText ss) = .some found ↔ Json.Leads ss doc found) ∧
        (doc.lookup? (pathText ss) = none ↔ ∃ front s back reached, ss = front ++ s :: back ∧
          Json.Leads front doc reached ∧ ∀ next, ¬Json.Takes s reached next) := by
  have read := ofPath_pathText some plain
  refine ⟨segments_pathText some plain, read, fun doc => ?_⟩
  rw [Json.lookup?, read]
  exact ⟨fun found => Json.navigate?_eq_some_iff, Json.navigate?_eq_none_iff⟩

/-- A key with a point and brackets of its own. -/
def nested : List Selector := [⟨"spec", none⟩, ⟨"list", some "b.[c]"⟩, ⟨"v", none⟩]

/-- Two items of the list have that key for a name. -/
def nestedDocument : Json :=
  let item (name : String) (v : Int) : Json := .obj [("name", .str name), ("v", .int v)]
  .obj [("spec", .obj [("list", .arr [item "b" 0, item "b.[c]" 1, item "b.[c]" 2])])]

theorem pathText_exact_nested : nested ≠ [] ∧ (∀ s ∈ nested, Plain s) ∧
    pathText nested = "spec.list[b.[c]].v" ∧
    segments 0 (pathText nested).toList = nested.map (·.text.toList) ∧
    ofPath (pathText nested) = nested ∧
    nestedDocument.lookup? (pathText nested) = some (.int 1) ∧
    ∀ found, Json.Leads nested nestedDocument found → found = .int 1 := by
  have some : nested ≠ [] := List.cons_ne_nil _ _
  have plain : ∀ s ∈ nested, Plain s := by decide +kernel
  obtain ⟨split, read, leads⟩ := pathText_exact nested some plain
  obtain ⟨exact, -⟩ := leads nestedDocument
  have found : nestedDocument.lookup? (pathText nested) = .some (.int 1) := by
    apply (exact _).mpr
    have first : ∀ i ∈ [Json.obj [("name", .str "b"), ("v", .int 0)]],
        i.get? "name" ≠ .some (.str "b.[c]") := by
      intro i mem
      obtain rfl := List.mem_singleton.mp mem
      simp [Json.get?, Entries.get?]
    exact .step (.field rfl) (.step (.keyed rfl rfl first) (.step (.field rfl) .here))
  refine ⟨some, plain, by decide +kernel, split, read, found, fun other reached => ?_⟩
  have same := (exact other).mpr reached
  exact (Option.some.inj (found.symm.trans same)).symm

end Selector

end Blueprint
