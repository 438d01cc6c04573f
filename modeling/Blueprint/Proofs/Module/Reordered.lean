import Blueprint.Module.Load
import Blueprint.Proofs.Data.Partners
import Blueprint.Proofs.Data.Shuffled
import Blueprint.Proofs.Except

/-!
# Modules with their sections in another order

The entries of a section change places. Such a module reads as the same module but for the order of
its declarations, and so do all modules that are read from files in which some are reordered.
-/

namespace Blueprint

open Yaml (Value Record)

/-! ### Values -/

/-- A section whose entries change places, perhaps under tags. A key that is no text names nothing. -/
inductive SectionReordered : Value → Value → Prop where
  | mapping {es fs : List (Value × Value)} (h : Shuffled (fun e => e.1.openText?) es fs) :
      SectionReordered (.mapping es) (.mapping fs)
  | tagged (tag : String) {v w : Value} (h : SectionReordered v w) :
      SectionReordered (.tagged tag v) (.tagged tag w)

theorem SectionReordered.symm {v w : Value} (h : SectionReordered v w) : SectionReordered w v := by
  induction h with
  | mapping h => exact .mapping h.symm
  | tagged tag _ ih => exact .tagged tag ih

namespace ModuleSource

def sectionNames : List String := sections.map (·.1)

/-- A value in a module: it stays as it is, or it is a section that is reordered. -/
def Keeps (name : Option String) (v w : Value) : Prop :=
  w = v ∨ (∃ s ∈ sectionNames, name = some s) ∧ SectionReordered v w

/-- An entry of a module and what stands in its place. -/
structure KeepsEntry (e f : Value × Value) : Prop where
  key : f.1 = e.1
  value : Keeps e.1.openText? e.2 f.2

/-- The data of a module with reordered sections, perhaps under tags. -/
inductive Reordered : Value → Value → Prop where
  | mapping {es fs : List (Value × Value)}
      (h : List.Forall₂ KeepsEntry es fs) :
      Reordered (.mapping es) (.mapping fs)
  | tagged (tag : String) {v w : Value} (h : Reordered v w) :
      Reordered (.tagged tag v) (.tagged tag w)

end ModuleSource

/-! ### Filling in parameters -/

namespace Params

variable {ps : Params} {es fs : List (Value × Value)} {v v' w : Value}

/-- An entry whose value is filled in. -/
def Filled (ps : Params) (e f : Value × Value) : Prop := f.1 = e.1 ∧ ps.fillValue e.2 = .ok f.2

theorem fillEntries_ok_iff : ps.fillEntries es = .ok fs ↔ List.Forall₂ (Filled ps) es fs := by
  induction es generalizing fs with
  | nil =>
    rw [fillEntries, List.forall₂_nil_left_iff, Except.ok.injEq, eq_comm]
  | cons e es ih =>
    obtain ⟨k, v⟩ := e
    rw [fillEntries, List.forall₂_cons_left_iff]
    constructor
    · intro h
      obtain ⟨w, first, h⟩ := bind_ok h
      obtain ⟨rest, others, h⟩ := bind_ok h
      exact ⟨(k, w), rest, ⟨rfl, first⟩, ih.mp others, pure_ok h⟩
    · rintro ⟨⟨_, w⟩, rest, ⟨rfl, first⟩, others, rfl⟩
      dsimp only at first
      rw [first, ih.mpr others]
      rfl

theorem fillValue_section (h : SectionReordered v w) (filled : ps.fillValue v = .ok v') :
    ∃ w', ps.fillValue w = .ok w' ∧ SectionReordered v' w' := by
  induction h generalizing v' with
  | mapping shuffled =>
    rw [fillValue] at filled
    obtain ⟨es', made, rfl⟩ := map_ok filled
    obtain ⟨fs, made, shuffled⟩ := shuffled.forall₂ (fun e => e.1.openText?)
      (fun e f made => congrArg Value.openText? made.1.symm) (fillEntries_ok_iff.mp made)
    refine ⟨.mapping fs, ?_, .mapping shuffled⟩
    rw [fillValue, fillEntries_ok_iff.mpr made]
    rfl
  | tagged tag _ ih =>
    rw [fillValue] at filled
    obtain ⟨x, inner, rfl⟩ := map_ok filled
    obtain ⟨y, made, reordered⟩ := ih inner
    refine ⟨.tagged tag y, ?_, .tagged tag reordered⟩
    rw [fillValue, made]
    rfl

theorem fillValue_keeps {name : Option String} (h : ModuleSource.Keeps name v w)
    (filled : ps.fillValue v = .ok v') :
    ∃ w', ps.fillValue w = .ok w' ∧ ModuleSource.Keeps name v' w' := by
  rcases h with rfl | ⟨named, reordered⟩
  · exact ⟨v', filled, .inl rfl⟩
  · obtain ⟨w', made, reordered⟩ := fillValue_section reordered filled
    exact ⟨w', made, .inr ⟨named, reordered⟩⟩

theorem fillValue_reordered (h : ModuleSource.Reordered v w) (filled : ps.fillValue v = .ok v') :
    ∃ w', ps.fillValue w = .ok w' ∧ ModuleSource.Reordered v' w' := by
  induction h generalizing v' with
  | mapping kept =>
    rw [fillValue] at filled
    obtain ⟨es', entries, rfl⟩ := map_ok filled
    have made := fillEntries_ok_iff.mp entries
    suffices ∃ fs', List.Forall₂ (Filled ps) _ fs' ∧
        List.Forall₂ ModuleSource.KeepsEntry es' fs' by
      obtain ⟨fs', made, kept⟩ := this
      refine ⟨.mapping fs', ?_, .mapping kept⟩
      rw [fillValue, fillEntries_ok_iff.mpr made]
      rfl
    clear filled entries
    induction kept generalizing es' with
    | nil =>
      cases made
      exact ⟨[], .nil, .nil⟩
    | @cons e f es fs first _ ih =>
      cases made with
      | @cons _ e' _ es' filled made =>
        obtain ⟨fs', rest, kept⟩ := ih es' made
        obtain ⟨w', here, keeps⟩ := fillValue_keeps first.value filled.2
        refine ⟨(f.1, w') :: fs', .cons ⟨rfl, here⟩ rest, .cons ⟨?_, ?_⟩ kept⟩
        · exact first.key.trans filled.1.symm
        · rw [filled.1]
          exact keeps
  | tagged tag _ ih =>
    rw [fillValue] at filled
    obtain ⟨x, inner, rfl⟩ := map_ok filled
    obtain ⟨y, made, reordered⟩ := ih inner
    refine ⟨.tagged tag y, ?_, .tagged tag reordered⟩
    rw [fillValue, made]
    rfl

end Params

/-! ### Taking out the parameters -/

namespace ModuleSource

variable {es fs : List (Value × Value)} {v w : Value}

theorem key_of_same {k : Value} {name : String} (h : k.same (.str name) = true) : k = .str name := by
  cases k with
  | str s =>
    rw [Value.same, beq_iff_eq] at h
    rw [h]
  | null | bool | int | float | sequence | mapping | tagged => simp [Value.same] at h

section Partners

variable {α β : Type} {R : α → β → Prop} {xs : List α} {ys : List β}

theorem find?_eq_some_iff_dropWhile {p : α → Bool} {x : α} :
    xs.find? p = some x ↔ ∃ after, xs.dropWhile (fun y => !p y) = x :: after := by
  induction xs with
  | nil => simp
  | cons y xs ih =>
    cases here : p y with
    | true => simp [here]
    | false => simp [here, ih]

/-- A list with its last item in front. -/
def lastFirst (xs : List α) : List α :=
  match xs.getLast? with
  | some x => x :: xs.dropLast
  | none => []

theorem lastFirst_concat (xs : List α) (x : α) : lastFirst (xs.concat x) = x :: xs := by
  rw [List.concat_eq_append, lastFirst, List.getLast?_concat, List.dropLast_concat]

theorem forall₂_lastFirst (h : List.Forall₂ R xs ys) :
    List.Forall₂ R (lastFirst xs) (lastFirst ys) := by
  rcases List.eq_nil_or_concat xs with rfl | ⟨init, x, rfl⟩
  · cases h
    exact .nil
  · rcases List.eq_nil_or_concat ys with rfl | ⟨init', y, rfl⟩
    · simp at h
    · rw [lastFirst_concat, lastFirst_concat]
      have turned := List.forall₂_reverse_iff.mpr h
      simp only [List.concat_eq_append, List.reverse_append, List.reverse_singleton,
        List.singleton_append] at turned
      obtain ⟨first, rest⟩ := List.forall₂_cons.mp turned
      exact .cons first (List.forall₂_reverse_iff.mp rest)

end Partners

theorem takeField?_eq_some {key : String} {p : Value} {rest : List (Value × Value)} :
    takeField? key es = some (p, rest) ↔ ∃ k after,
      es.dropWhile (fun e => !e.1.same (.str key)) = (k, p) :: after ∧
        rest = es.takeWhile (fun e => !e.1.same (.str key)) ++ lastFirst after := by
  have found := @find?_eq_some_iff_dropWhile _ es (fun e => e.1.same (.str key))
  unfold takeField? lastFirst
  dsimp only
  cases first : es.find? fun e => e.1.same (.str key) with
  | none =>
    simp only [reduceCtorEq, false_iff]
    rintro ⟨k, after, split, -⟩
    rw [found.mpr ⟨after, split⟩] at first
    cases first
  | some e =>
    obtain ⟨k, v⟩ := e
    obtain ⟨after, split⟩ := found.mp first
    simp only [split, List.tail_cons]
    constructor
    · intro taken
      refine ⟨k, after, ?_, ?_⟩ <;> cases last : after.getLast? <;> simp_all
    · rintro ⟨k', after', same, rfl⟩
      obtain ⟨⟨rfl, rfl⟩, rfl⟩ : (k = k' ∧ v = p) ∧ after = after' := by simpa using same
      cases after.getLast? <;> simp

theorem takeField?_reordered {key : String} {p : Value} {rest : List (Value × Value)}
    (other : key ∉ sectionNames)
    (h : List.Forall₂ KeepsEntry es fs)
    (taken : takeField? key es = some (p, rest)) :
    ∃ rest', takeField? key fs = some (p, rest') ∧
      List.Forall₂ KeepsEntry rest rest' := by
  obtain ⟨k, after, split, rfl⟩ := takeField?_eq_some.mp taken
  have keys : ∀ e f : Value × Value, KeepsEntry e f →
      (!e.1.same (.str key)) = !f.1.same (.str key) := fun e f same => by rw [same.key]
  obtain ⟨before, following⟩ := forall₂_takeWhile keys h
  rw [split] at following
  obtain ⟨⟨k', p'⟩, after', ⟨same, kept⟩, rest, split'⟩ := List.forall₂_cons_left_iff.mp following
  dsimp only at same kept
  have found := find?_eq_some_iff_dropWhile.mpr ⟨after, split⟩
  have named : k = .str key := key_of_same (by simpa using List.find?_some found)
  obtain rfl : p' = p := by
    rcases kept with same | ⟨⟨s, known, there⟩, -⟩
    · exact same
    · rw [named] at there
      exact absurd (Option.some.inj there ▸ known) other
  exact ⟨_, takeField?_eq_some.mpr ⟨k', after', split', rfl⟩,
    List.rel_append before (forall₂_lastFirst rest)⟩

theorem takeParams?_reordered {ps body : Value} (h : Reordered v w)
    (taken : takeParams? v = some (ps, body)) :
    ∃ body', takeParams? w = some (ps, body') ∧ Reordered body body' := by
  induction h generalizing body with
  | mapping kept =>
    obtain ⟨⟨ps', es'⟩, found, same⟩ := Option.map_eq_some_iff.mp taken
    obtain ⟨rfl, rfl⟩ := Prod.mk.inj same
    obtain ⟨rest, found, kept⟩ := takeField?_reordered (by decide) kept found
    refine ⟨.mapping rest, ?_, .mapping kept⟩
    rw [takeParams?, found]
    rfl
  | tagged tag _ ih =>
    obtain ⟨⟨ps', v'⟩, found, same⟩ := Option.map_eq_some_iff.mp taken
    obtain ⟨rfl, rfl⟩ := Prod.mk.inj same
    obtain ⟨body', found, reordered⟩ := ih found
    refine ⟨.tagged tag body', ?_, .tagged tag reordered⟩
    rw [takeParams?, found]
    rfl

end ModuleSource

/-! ### Reading -/

open ModuleSource (sectionNames Keeps)

variable {v w : Value}

theorem openEntries?_section {es : List (String × Value)} (h : SectionReordered v w)
    (opened : v.openEntries? = some es) :
    ∃ fs, w.openEntries? = some fs ∧ Shuffled (fun e => some e.1) es fs := by
  induction h with
  | mapping shuffled =>
    have made := mapM_eq_some_iff.mp (show List.mapM _ _ = some es from opened)
    obtain ⟨fs, made, shuffled⟩ := shuffled.forall₂ (fun e => some e.1) (fun e f made => by
      obtain ⟨name, read, made⟩ := Option.bind_eq_some_iff.mp made
      rw [read, ← Option.some.inj made]) made
    exact ⟨fs, mapM_eq_some_iff.mpr made, shuffled⟩
  | tagged tag _ ih => exact ih opened

theorem openMap?_section {α : Type} {read : Value → Option α} {m : OrderedMap α}
    (h : SectionReordered v w) (opened : v.openMap? read = some m) :
    ∃ m', w.openMap? read = some m' ∧ m.entries.Perm m'.entries := by
  obtain ⟨es, entries, opened⟩ := Option.bind_eq_some_iff.mp opened
  obtain ⟨xs, made, opened⟩ := Option.bind_eq_some_iff.mp opened
  obtain ⟨fs, entries', shuffled⟩ := openEntries?_section h entries
  obtain ⟨ys, made, shuffled⟩ := shuffled.forall₂ (fun e => some e.1) (fun e f made => by
    obtain ⟨a, read, made⟩ := Option.bind_eq_some_iff.mp made
    rw [← Option.some.inj made]) (mapM_eq_some_iff.mp made)
  refine ⟨.ofList ys, ?_, Option.some.inj opened ▸ OrderedMap.ofList_shuffled shuffled⟩
  rw [Value.openMap?, entries', Option.bind_eq_bind, Option.bind_some, mapM_eq_some_iff.mpr made]
  rfl

/-- The fields of a module, in which sections are reordered. -/
def FieldsReordered (r r' : Record) : Prop :=
  List.Forall₂ (fun a b => b.1 = a.1 ∧ Keeps (some a.1) a.2 b.2) r r'

theorem openEntries?_reordered {r : Record} (h : ModuleSource.Reordered v w)
    (opened : v.openEntries? = some r) :
    ∃ r', w.openEntries? = some r' ∧ FieldsReordered r r' := by
  induction h with
  | @mapping es fs kept =>
    have made := mapM_eq_some_iff.mp (show List.mapM _ _ = some r from opened)
    suffices ∃ r', List.Forall₂ (fun (e : Value × Value) b =>
        (do return (← e.1.openText?, e.2)) = some b) fs r' ∧ FieldsReordered r r' by
      obtain ⟨r', made, kept⟩ := this
      exact ⟨r', mapM_eq_some_iff.mpr made, kept⟩
    clear opened
    induction kept generalizing r with
    | nil =>
      cases made
      exact ⟨[], .nil, .nil⟩
    | @cons e f es fs first _ ih =>
      cases made with
      | @cons _ a _ r here made =>
        obtain ⟨r', rest, kept⟩ := ih made
        obtain ⟨name, read, here⟩ := Option.bind_eq_some_iff.mp here
        obtain rfl := Option.some.inj here
        refine ⟨(name, f.2) :: r', .cons ?_ rest, .cons ⟨rfl, read ▸ first.value⟩ kept⟩
        rw [first.key, read]
        rfl
  | tagged tag _ ih => exact ih opened

namespace FieldsReordered

variable {r r' : Record} {α : Type} {read : Value → Option α} {absent : α} {name : String}

theorem openRecord? {names : List String} (h : ModuleSource.Reordered v w)
    (opened : v.openRecord? names = some r) :
    ∃ r', w.openRecord? names = some r' ∧ FieldsReordered r r' := by
  obtain ⟨es, entries, opened⟩ := Option.bind_eq_some_iff.mp opened
  obtain ⟨fs, entries', kept⟩ := openEntries?_reordered h entries
  have keys : Entries.keys fs = Entries.keys es := map_eq_of_forall₂ (fun _ _ same => same.1) kept
  unfold Record.ofFields? at opened
  dsimp only at opened
  split at opened
  · rename_i known
    obtain rfl := Option.some.inj opened
    refine ⟨fs, ?_, kept⟩
    rw [Value.openRecord?, entries', Option.bind_eq_bind, Option.bind_some, Record.ofFields?, keys]
    exact if_pos known
  · cases opened

theorem get? (h : FieldsReordered r r') (name : String) :
    (Entries.get? name r = none ∧ Entries.get? name r' = none) ∨
      ∃ a b, Entries.get? name r = some a ∧ Entries.get? name r' = some b ∧
        Keeps (some name) a b := by
  induction h with
  | nil => exact .inl ⟨rfl, rfl⟩
  | @cons a b r r' first _ ih =>
    rw [Entries.get?, Entries.get?, first.1]
    by_cases here : a.1 = name
    · rw [if_pos here, if_pos here]
      exact .inr ⟨a.2, b.2, rfl, rfl, here ▸ first.2⟩
    · rw [if_neg here, if_neg here]
      exact ih

/-- All fields but the sections are as they were. -/
theorem get?_other (h : FieldsReordered r r') (other : name ∉ sectionNames) :
    Entries.get? name r' = Entries.get? name r := by
  rcases h.get? name with ⟨here, there⟩ | ⟨a, b, here, there, rfl | ⟨⟨s, known, same⟩, -⟩⟩
  · rw [here, there]
  · rw [here, there]
  · exact absurd (Option.some.inj same ▸ known) other

theorem field (h : FieldsReordered r r') (other : name ∉ sectionNames) :
    r'.field name read absent = r.field name read absent := by
  rw [Record.field, Record.field, h.get?_other other]

theorem optional (h : FieldsReordered r r') (other : name ∉ sectionNames) :
    r'.optional name read = r.optional name read := by
  rw [Record.optional, Record.optional, h.get?_other other]

theorem section? {kind : EntityKind} {ds : List (EntityKind × String × EntitySource)}
    (h : FieldsReordered r r') (made : ModuleSource.section? r name kind = some ds) :
    ∃ ds', ModuleSource.section? r' name kind = some ds' ∧ ds.Perm ds' := by
  obtain ⟨m, here, made⟩ := Option.bind_eq_some_iff.mp made
  have same : ∃ m', r'.field name (Value.openMap? EntitySource.ofValue?) ∅ = some m' ∧
      m.entries.Perm m'.entries := by
    unfold Record.field at here ⊢
    rcases h.get? name with ⟨none, none'⟩ | ⟨a, b, found, found', rfl | ⟨-, reordered⟩⟩
    · rw [none] at here
      exact ⟨m, by rw [none']; exact here, .refl _⟩
    · rw [found] at here
      exact ⟨m, by rw [found']; exact here, .refl _⟩
    · rw [found] at here
      rw [found']
      exact openMap?_section reordered here
  obtain ⟨m', there, perm⟩ := same
  refine ⟨_, ?_, Option.some.inj made ▸ perm.map _⟩
  rw [ModuleSource.section?, there]
  rfl

theorem sections? {ss : List (String × EntityKind)}
    {dss : List (List (EntityKind × String × EntitySource))} (h : FieldsReordered r r')
    (made : ss.mapM (fun (name, kind) => ModuleSource.section? r name kind) = some dss) :
    ∃ dss', ss.mapM (fun (name, kind) => ModuleSource.section? r' name kind) = some dss' ∧
      dss.flatten.Perm dss'.flatten := by
  have each := mapM_eq_some_iff.mp made
  clear made
  induction each with
  | nil => exact ⟨[], rfl, .nil⟩
  | cons first _ ih =>
    obtain ⟨ds', here, perm⟩ := h.section? first
    obtain ⟨dss', others, perms⟩ := ih
    refine ⟨ds' :: dss', mapM_eq_some_iff.mpr (.cons here (mapM_eq_some_iff.mp others)), ?_⟩
    rw [List.flatten_cons, List.flatten_cons]
    exact perm.append perms

end FieldsReordered

namespace ModuleSource

/-- The declarations of a module in another order. -/
def Permuted (m m' : ModuleSource) : Prop :=
  ∃ ds, m.declarations.Perm ds ∧ m' = { m with declarations := ds }

theorem ofValue?_reordered {m : ModuleSource} (h : Reordered v w) (read : ofValue? v = some m) :
    ∃ m', ofValue? w = some m' ∧ m.Permuted m' := by
  obtain ⟨r, opened, read⟩ := Option.bind_eq_some_iff.mp read
  obtain ⟨version, hasVersion, read⟩ := Option.bind_eq_some_iff.mp read
  obtain ⟨kind, hasKind, read⟩ := Option.bind_eq_some_iff.mp read
  obtain ⟨name, hasName, read⟩ := Option.bind_eq_some_iff.mp read
  obtain ⟨description, hasDescription, read⟩ := Option.bind_eq_some_iff.mp read
  obtain ⟨imports, hasImports, read⟩ := Option.bind_eq_some_iff.mp read
  obtain ⟨dss, declared, read⟩ := Option.bind_eq_some_iff.mp read
  obtain ⟨root, hasRoot, read⟩ := Option.bind_eq_some_iff.mp read
  obtain rfl := Option.some.inj read
  obtain ⟨r', opened', kept⟩ := FieldsReordered.openRecord? h opened
  obtain ⟨dss', declared', perm⟩ := kept.sections? declared
  refine ⟨_, ?_, dss'.flatten, perm, rfl⟩
  rw [← kept.field (by decide)] at hasVersion hasDescription hasImports
  rw [← kept.optional (by decide)] at hasKind hasName hasRoot
  simp only [ofValue?, opened', hasVersion, hasKind, hasName, hasDescription, hasImports, declared',
    hasRoot, Option.bind_eq_bind, Option.bind_some]
  rfl

/-! ### Reading reordered modules -/

theorem Keeps.symm {name : Option String} (h : Keeps name v w) : Keeps name w v :=
  h.imp Eq.symm fun ⟨named, reordered⟩ => ⟨named, reordered.symm⟩

theorem Reordered.symm (h : Reordered v w) : Reordered w v := by
  induction h with
  | mapping kept =>
    refine .mapping (kept.flip.imp fun f e same => ⟨same.key.symm, ?_⟩)
    rw [same.key]
    exact same.2.symm
  | tagged tag _ ih => exact .tagged tag ih

theorem takeParams?_none (h : Reordered v w) (missing : takeParams? v = none) :
    takeParams? w = none := by
  cases taken : takeParams? w with
  | none => rfl
  | some taken' =>
    obtain ⟨body, taken', -⟩ := takeParams?_reordered h.symm taken
    cases missing.symm.trans taken'

/-- Two texts of a module: they read as the same data but for the order in the sections. -/
def Alike (text text' : String) : Prop :=
  ∃ v w, Value.read? text = some v ∧ Value.read? text' = some w ∧ Reordered v w

theorem Alike.symm {text text' : String} (h : Alike text text') : Alike text' text := by
  obtain ⟨v, w, read, read', reordered⟩ := h
  exact ⟨w, v, read', read, reordered.symm⟩

/-- What is left of reading a module when its own parameters are taken out. -/
def readBody (body : Value) (ps : Params) : Except ParseFault (ModuleSource × Params) := do
  let body ← (Params.fillValue ps body).mapError .unknownParam
  let source ← (ofValue? body).elim (.error .badFormat) .ok
  if source.version == moduleVersion then return (source, ps) else .error (.version source.version)

theorem readBody_reordered {body body' : Value} {ps ps' : Params} {m : ModuleSource}
    (h : Reordered body body') (made : readBody body ps = .ok (m, ps')) :
    ∃ m', readBody body' ps = .ok (m', ps') ∧ m.Permuted m' := by
  obtain ⟨v, filled, made⟩ := bind_ok made
  obtain ⟨source, read, made⟩ := bind_ok made
  have filled := mapError_ok filled
  obtain ⟨w, filled', reordered⟩ := Params.fillValue_reordered h filled
  cases opened : ofValue? v with
  | none =>
    rw [opened] at read
    cases read
  | some source' =>
    rw [opened] at read
    obtain rfl := Except.ok.inj read
    obtain ⟨_, opened', ds, perm, rfl⟩ := ofValue?_reordered reordered opened
    split at made
    · rename_i version
      obtain ⟨rfl, rfl⟩ := Prod.mk.inj (pure_ok made)
      refine ⟨_, ?_, ds, perm, rfl⟩
      rw [readBody, filled', Except.mapError, ok_bind, opened']
      exact if_pos version
    · cases made

theorem read_alike {text text' : String} {inherited ps : Params} {m : ModuleSource}
    (h : Alike text text') (made : ModuleSource.read text inherited = .ok (m, ps)) :
    ∃ m', ModuleSource.read text' inherited = .ok (m', ps) ∧ m.Permuted m' := by
  obtain ⟨v, w, whole, whole', reordered⟩ := h
  unfold ModuleSource.read at made ⊢
  rw [whole] at made
  rw [whole']
  simp only [Option.elim_some, ok_bind] at made ⊢
  cases taken : takeParams? v with
  | none =>
    rw [taken] at made
    rw [takeParams?_none reordered taken]
    exact readBody_reordered reordered made
  | some taken' =>
    obtain ⟨ps₀, body⟩ := taken'
    obtain ⟨body', taken', reordered⟩ := takeParams?_reordered reordered taken
    rw [taken] at made
    rw [taken']
    dsimp only at made ⊢
    cases own : ps₀.openMap? some with
    | none =>
      rw [own] at made
      cases made
    | some own' =>
      rw [own] at made
      exact readBody_reordered reordered made

end ModuleSource

/-! ### Files -/

/-- The files of a document, some of them modules with sections in another order. -/
structure Files.Reordered (files files' : Files) : Prop where
  count : files'.count = files.count
  read : ∀ p, files'.read p = files.read p ∨ ∃ text text',
    files.read p = .ok text ∧ files'.read p = .ok text' ∧ ModuleSource.Alike text text'

namespace Files.Reordered

variable {files files' : Files}

theorem symm (h : files.Reordered files') : files'.Reordered files where
  count := h.count.symm
  read p := by
    rcases h.read p with same | ⟨text, text', here, there, alike⟩
    · exact .inl same.symm
    · exact .inr ⟨text', text, there, here, alike.symm⟩

theorem source {p : Path} {text : String} {inherited : Params} {r : ModuleSource × Params}
    (h : files.Reordered files') (here : files.readAt p = .ok text)
    (made : ModuleSource.read text inherited = .ok r) :
    ∃ text' m', files'.readAt p = .ok text' ∧
      ModuleSource.read text' inherited = .ok (m', r.2) ∧ r.1.Permuted m' := by
  have read := mapError_ok here
  rcases h.read p with same | ⟨text₁, text', first, there, alike⟩
  · refine ⟨text, r.1, ?_, made, r.1.declarations, .refl _, rfl⟩
    rw [readAt, same, read]
    rfl
  · obtain rfl := Except.ok.inj (read.symm.trans first)
    obtain ⟨m', made', permuted⟩ := ModuleSource.read_alike alike made
    refine ⟨text', m', ?_, made', permuted⟩
    rw [readAt, there]
    rfl

theorem collect {v : Visit} {declared : List Declaration} {imports : List Visit}
    (h : files.Reordered files') (collected : v.collect files = .ok (declared, imports)) :
    ∃ declared', v.collect files' = .ok (declared', imports) ∧ declared.Perm declared' := by
  obtain ⟨text, here, collected⟩ := bind_ok collected
  obtain ⟨⟨m, params⟩, made, collected⟩ := bind_ok collected
  obtain ⟨roots, root, collected⟩ := bind_ok collected
  obtain ⟨rfl, rfl⟩ := Prod.mk.inj (pure_ok collected)
  obtain ⟨text', m', there, made', ds, perm, rfl⟩ := h.source here (mapError_ok made)
  refine ⟨_, ?_, (perm.map _).append_right roots⟩
  rw [Visit.collect, there, ok_bind, made', Except.mapError, ok_bind]
  dsimp only
  rw [show v.root { m with declarations := ds } = .ok roots from root]
  rfl

theorem collectAll {left : Nat} {done : List Path} {found found' ds : List Declaration}
    {queue : List Visit} (h : files.Reordered files') (perm : found.Perm found')
    (collected : Blueprint.collectAll files left done found queue = .ok ds) :
    ∃ ds', Blueprint.collectAll files' left done found' queue = .ok ds' ∧ ds.Perm ds' := by
  fun_induction Blueprint.collectAll files left done found queue generalizing found' with
  | case1 left done found =>
    refine ⟨found', ?_, Except.ok.inj collected ▸ perm⟩
    unfold Blueprint.collectAll
    rfl
  | case2 left done found v queue seen ih =>
    obtain ⟨ds', rest, perm⟩ := ih perm collected
    refine ⟨ds', ?_, perm⟩
    unfold Blueprint.collectAll
    rw [if_pos seen, rest]
  | case3 => cases collected
  | case4 done found v queue fresh left ih =>
    obtain ⟨⟨declared, imports⟩, first, rest⟩ := bind_ok collected
    obtain ⟨declared', first', perm'⟩ := h.collect first
    obtain ⟨ds', rest', perm⟩ := ih declared imports (perm.append perm') rest
    refine ⟨ds', ?_, perm⟩
    unfold Blueprint.collectAll
    rw [if_neg fresh]
    dsimp only
    rw [first', ok_bind, rest']

end Files.Reordered

end Blueprint
