import Blueprint.Proofs.Builder.Run

/-!
# Outlines

An outline is the tree of scopes that the calls of a task builder open and close. `script` writes an
outline as calls; by `scriptOf_unique` the same calls write no other outline.
-/

namespace Blueprint

/-- A member of a scope. A level of tasks is a list of outlines, one after the other. -/
inductive Outline where
  | step (s : Step)
  | serial (members : List Outline)
  | parallel (members : List Outline)
  | decision (d : DecisionHeader) (first : Branch) (success failure : List Outline)
  | loop (l : LoopHeader) (body : List Outline)

namespace Outline

/-! ### What a level declares -/

mutual

/-- The steps, decisions and loops that an outline declares on its own level. -/
def tasks : Outline → List Outline
  | step s => [step s]
  | serial ms => tasksOf ms
  | parallel ms => tasksOf ms
  | decision d first s f => [decision d first s f]
  | loop l b => [loop l b]

def tasksOf : List Outline → List Outline
  | [] => []
  | m :: ms => tasks m ++ tasksOf ms

end

mutual

def names : Outline → List String
  | step s => [s.name]
  | serial ms => namesOf ms
  | parallel ms => namesOf ms
  | decision d _ _ _ => [d.name]
  | loop l _ => [l.name]

def namesOf : List Outline → List String
  | [] => []
  | m :: ms => names m ++ namesOf ms

end

mutual

/-- The names of all tasks of an outline, those of nested levels included. -/
def allNames : Outline → List String
  | step s => [s.name]
  | serial ms => allNamesOf ms
  | parallel ms => allNamesOf ms
  | decision d _ s f => d.name :: (allNamesOf s ++ allNamesOf f)
  | loop l b => l.name :: allNamesOf b

def allNamesOf : List Outline → List String
  | [] => []
  | m :: ms => allNames m ++ allNamesOf ms

end

theorem namesOf_append (ms ns : List Outline) : namesOf (ms ++ ns) = namesOf ms ++ namesOf ns := by
  induction ms with
  | nil => rfl
  | cons m ms ih => rw [List.cons_append, namesOf, namesOf, ih, List.append_assoc]

theorem allNamesOf_append (ms ns : List Outline) :
    allNamesOf (ms ++ ns) = allNamesOf ms ++ allNamesOf ns := by
  induction ms with
  | nil => rfl
  | cons m ms ih => rw [List.cons_append, allNamesOf, allNamesOf, ih, List.append_assoc]

theorem mem_namesOf {ms : List Outline} {x : String} : x ∈ namesOf ms ↔ ∃ m ∈ ms, x ∈ m.names := by
  induction ms with
  | nil => simp [namesOf]
  | cons m ms ih => simp [namesOf, ih]

mutual

theorem names_sublist : ∀ o : Outline, o.names.Sublist o.allNames
  | step _ => List.Sublist.refl _
  | serial ms => namesOf_sublist ms
  | parallel ms => namesOf_sublist ms
  | decision _ _ _ _ => (List.nil_sublist _).cons_cons _
  | loop _ _ => (List.nil_sublist _).cons_cons _

theorem namesOf_sublist : ∀ ms : List Outline, (namesOf ms).Sublist (allNamesOf ms)
  | [] => List.Sublist.refl _
  | m :: ms => (names_sublist m).append (namesOf_sublist ms)

end

/-! ### The calls of an outline -/

mutual

def script : Outline → List (Call Unit)
  | step s => [.step s]
  | serial ms => .openSerial :: (scriptOf ms ++ [.close ()])
  | parallel ms => .openParallel :: (scriptOf ms ++ [.close ()])
  | decision d .success s f =>
    .openDecision d :: .openBranch .success :: (scriptOf s ++ .close () ::
      .openBranch .failure :: (scriptOf f ++ [.close (), .close ()]))
  | decision d .failure s f =>
    .openDecision d :: .openBranch .failure :: (scriptOf f ++ .close () ::
      .openBranch .success :: (scriptOf s ++ [.close (), .close ()]))
  | loop l b => .openLoop l :: (scriptOf b ++ [.close ()])

def scriptOf : List Outline → List (Call Unit)
  | [] => []
  | m :: ms => script m ++ scriptOf ms

end

theorem scriptOf_append (ms ns : List Outline) :
    scriptOf (ms ++ ns) = scriptOf ms ++ scriptOf ns := by
  induction ms with
  | nil => rfl
  | cons m ms ih => rw [List.cons_append, scriptOf, scriptOf, ih, List.append_assoc]

/-- What can follow a level: its end, or the end of everything. -/
def Ends (r : List (Call Unit)) : Prop := ∀ c ∈ r.head?, c = .close ()

theorem ends_nil : Ends [] := by simp [Ends]

theorem ends_close (r : List (Call Unit)) : Ends (.close () :: r) := by simp [Ends]

theorem not_ends_script (o : Outline) (r : List (Call Unit)) : ¬Ends (o.script ++ r) := by
  intro h
  cases o with
  | decision d first s f => cases first <;> simp [Ends, script] at h
  | _ => simp [Ends, script] at h

mutual

theorem script_unique : ∀ (o o' : Outline) {r r' : List (Call Unit)},
    o.script ++ r = o'.script ++ r' → o = o' ∧ r = r'
  | step s, o', r, r', h => by
    cases o' with
    | step s' => simpa [script] using h
    | decision d first s' f' => cases first <;> simp [script] at h
    | _ => simp [script] at h
  | serial ms, o', r, r', h => by
    cases o' with
    | serial ms' =>
      simp only [script, List.cons_append, List.append_assoc, List.cons.injEq, true_and] at h
      obtain ⟨rfl, rest⟩ := scriptOf_unique ms ms' (ends_close _) (ends_close _) h
      exact ⟨rfl, by simpa using rest⟩
    | decision d first s' f' => cases first <;> simp [script] at h
    | _ => simp [script] at h
  | parallel ms, o', r, r', h => by
    cases o' with
    | parallel ms' =>
      simp only [script, List.cons_append, List.append_assoc, List.cons.injEq, true_and] at h
      obtain ⟨rfl, rest⟩ := scriptOf_unique ms ms' (ends_close _) (ends_close _) h
      exact ⟨rfl, by simpa using rest⟩
    | decision d first s' f' => cases first <;> simp [script] at h
    | _ => simp [script] at h
  | decision d first s f, o', r, r', h => by
    cases o' with
    | decision d' first' s' f' =>
      cases first <;> cases first' <;>
        simp only [script, List.cons_append, List.append_assoc, List.cons.injEq,
          Call.openDecision.injEq, Call.openBranch.injEq, reduceCtorEq, true_and, false_and,
          and_false] at h
      · obtain ⟨rfl, h⟩ := h
        obtain ⟨rfl, rest⟩ := scriptOf_unique s s' (ends_close _) (ends_close _) h
        simp only [List.cons.injEq, true_and] at rest
        obtain ⟨rfl, tail⟩ := scriptOf_unique f f' (ends_close _) (ends_close _) rest
        exact ⟨rfl, by simpa using tail⟩
      · obtain ⟨rfl, h⟩ := h
        obtain ⟨rfl, rest⟩ := scriptOf_unique f f' (ends_close _) (ends_close _) h
        simp only [List.cons.injEq, true_and] at rest
        obtain ⟨rfl, tail⟩ := scriptOf_unique s s' (ends_close _) (ends_close _) rest
        exact ⟨rfl, by simpa using tail⟩
    | _ => cases first <;> simp [script] at h
  | loop l b, o', r, r', h => by
    cases o' with
    | loop l' b' =>
      simp only [script, List.cons_append, List.append_assoc, List.cons.injEq,
        Call.openLoop.injEq] at h
      obtain ⟨rfl, h⟩ := h
      obtain ⟨rfl, rest⟩ := scriptOf_unique b b' (ends_close _) (ends_close _) h
      exact ⟨rfl, by simpa using rest⟩
    | decision d first s' f' => cases first <;> simp [script] at h
    | _ => simp [script] at h

theorem scriptOf_unique : ∀ (ms ms' : List Outline) {r r' : List (Call Unit)}, Ends r → Ends r' →
    scriptOf ms ++ r = scriptOf ms' ++ r' → ms = ms' ∧ r = r'
  | [], [], _, _, _, _, h => ⟨rfl, h⟩
  | [], m :: ms, r, r', hr, _, h => by
    rw [scriptOf, scriptOf, List.nil_append, List.append_assoc] at h
    rw [h] at hr
    exact (not_ends_script _ _ hr).elim
  | m :: ms, [], r, r', _, hr, h => by
    rw [scriptOf, scriptOf, List.nil_append, List.append_assoc] at h
    rw [← h] at hr
    exact (not_ends_script _ _ hr).elim
  | m :: ms, m' :: ms', r, r', hr, hr', h => by
    rw [scriptOf, scriptOf, List.append_assoc, List.append_assoc] at h
    obtain ⟨rfl, rest⟩ := script_unique m m' h
    obtain ⟨rfl, tail⟩ := scriptOf_unique ms ms' hr hr' rest
    exact ⟨rfl, tail⟩

end

theorem scriptOf_injective : Function.Injective scriptOf := by
  intro ms ms' h
  exact (scriptOf_unique ms ms' ends_nil ends_nil (by rw [h])).1

end Outline

end Blueprint
