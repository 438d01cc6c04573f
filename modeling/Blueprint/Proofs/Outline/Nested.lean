import Blueprint.Proofs.Outline.Layout
import Blueprint.Proofs.Task.Levels

/-!
# Levels inside a layout

Every level of a laid out tree is itself the layout of something that was written on the way.
-/

namespace Blueprint.Outline

/-- A level that was written among these calls and takes no names but these. -/
def Written (calls : List (Call Unit)) (names : List String) (t : TaskTree) : Prop :=
  ∃ level, t = layoutSerial [] level ∧ (scriptOf level).Sublist calls ∧
    (allNamesOf level).Sublist names

theorem Written.mono {calls calls' : List (Call Unit)} {names names' : List String} {t : TaskTree}
    (h : Written calls names t) (more : calls.Sublist calls') (taken : names.Sublist names') :
    Written calls' names' t := by
  obtain ⟨level, same, script, inner⟩ := h
  exact ⟨level, same, script.trans more, inner.trans taken⟩

theorem written_self (level : List Outline) :
    Written (scriptOf level) (allNamesOf level) (layoutSerial [] level) :=
  ⟨level, rfl, List.Sublist.refl _, List.Sublist.refl _⟩

theorem branch_sublist (d : DecisionHeader) (first : Branch) (s f : List Outline) :
    (scriptOf s).Sublist (decision d first s f).script ∧
      (scriptOf f).Sublist (decision d first s f).script := by
  have within : ∀ {whole calls : List (Call Unit)} (before rest : List (Call Unit)),
      whole = before ++ (calls ++ rest) → calls.Sublist whole := by
    rintro whole calls before rest rfl
    exact (List.sublist_append_left _ _).trans (List.sublist_append_right _ _)
  cases first with
  | success =>
    exact ⟨within [.openDecision d, .openBranch .success] _ rfl,
      within (.openDecision d :: .openBranch .success :: (scriptOf s ++ [.close (),
        .openBranch .failure])) [.close (), .close ()] (by simp [script])⟩
  | failure =>
    exact ⟨within (.openDecision d :: .openBranch .failure :: (scriptOf f ++ [.close (),
        .openBranch .success])) [.close (), .close ()] (by simp [script]),
      within [.openDecision d, .openBranch .failure] _ rfl⟩

theorem body_sublist (c : Call Unit) (ms : List Outline) :
    (scriptOf ms).Sublist (c :: (scriptOf ms ++ [.close ()])) :=
  (List.sublist_append_left _ _).trans (List.sublist_cons_self _ _)

variable {n : TaskNode} {sub : TaskTree}

mutual

theorem layout_levels : ∀ (o : Outline) (entry : List String), n ∈ TaskNode.allOf (o.layout entry) →
    sub ∈ n.levels → Written o.script o.allNames sub
  | step s, entry, mem, holds => by
    rw [List.mem_singleton.mp mem] at holds
    cases holds
  | serial ms, entry, mem, holds =>
    (layoutSerial_levels ms entry mem holds).mono (body_sublist _ ms) (List.Sublist.refl _)
  | parallel ms, entry, mem, holds =>
    (layoutParallel_levels ms entry mem holds).mono (body_sublist _ ms) (List.Sublist.refl _)
  | decision d first s f, entry, mem, holds => by
    have success := fun {t : TaskTree} (h : Written (scriptOf s) (allNamesOf s) t) =>
      h.mono (branch_sublist d first s f).1
        ((List.sublist_append_left _ (allNamesOf f)).trans (List.sublist_cons_self d.name _))
    have failure := fun {t : TaskTree} (h : Written (scriptOf f) (allNamesOf f) t) =>
      h.mono (branch_sublist d first s f).2
        ((List.sublist_append_right (allNamesOf s) _).trans (List.sublist_cons_self d.name _))
    simp only [layout, DecisionHeader.node, TaskNode.allOf, TaskNode.all, List.append_nil] at mem
    rcases List.mem_cons.mp mem with rfl | mem
    · rcases List.mem_pair.mp holds with rfl | rfl
      · exact success (written_self s)
      · exact failure (written_self f)
    · rcases List.mem_append.mp mem with mem | mem
      · exact success (layoutSerial_levels s [] mem holds)
      · exact failure (layoutSerial_levels f [] mem holds)
  | loop l b, entry, mem, holds => by
    have body := fun {t : TaskTree} (h : Written (scriptOf b) (allNamesOf b) t) =>
      h.mono (body_sublist (.openLoop l) b) (List.sublist_cons_self l.name _)
    simp only [layout, LoopHeader.node, TaskNode.allOf, TaskNode.all, List.append_nil] at mem
    rcases List.mem_cons.mp mem with rfl | mem
    · rw [List.mem_singleton.mp holds]
      exact body (written_self b)
    · exact body (layoutSerial_levels b [] mem holds)

theorem layoutSerial_levels : ∀ (ms : List Outline) (entry : List String),
    n ∈ TaskNode.allOf (layoutSerial entry ms) → sub ∈ n.levels →
    Written (scriptOf ms) (allNamesOf ms) sub
  | m :: ms, entry, mem, holds => by
    rw [layoutSerial, allOf_append] at mem
    rcases List.mem_append.mp mem with mem | mem
    · exact (layout_levels m entry mem holds).mono (List.sublist_append_left _ _)
        (List.sublist_append_left _ _)
    · exact (layoutSerial_levels ms _ mem holds).mono (List.sublist_append_right _ _)
        (List.sublist_append_right _ _)

theorem layoutParallel_levels : ∀ (ms : List Outline) (entry : List String),
    n ∈ TaskNode.allOf (layoutParallel entry ms) → sub ∈ n.levels →
    Written (scriptOf ms) (allNamesOf ms) sub
  | m :: ms, entry, mem, holds => by
    rw [layoutParallel, allOf_append] at mem
    rcases List.mem_append.mp mem with mem | mem
    · exact (layout_levels m entry mem holds).mono (List.sublist_append_left _ _)
        (List.sublist_append_left _ _)
    · exact (layoutParallel_levels ms entry mem holds).mono (List.sublist_append_right _ _)
        (List.sublist_append_right _ _)

end

theorem written_of_levels {body : List Outline} (mem : sub ∈ TaskTree.levels (layoutSerial [] body)) :
    Written (scriptOf body) (allNamesOf body) sub := by
  rcases List.mem_cons.mp mem with rfl | mem
  · exact written_self body
  · obtain ⟨n, mem, holds⟩ := List.mem_flatMap.mp mem
    exact layoutSerial_levels body [] mem holds

/-! ### The order of declaration -/

mutual

theorem names_declared : ∀ o : Outline, o.names.Sublist (o.script.filterMap Call.declares?)
  | step _ => List.Sublist.refl _
  | serial ms => (namesOf_declared ms).trans ((body_sublist .openSerial ms).filterMap _)
  | parallel ms => (namesOf_declared ms).trans ((body_sublist .openParallel ms).filterMap _)
  | decision d first s f => by
    have head : ∃ rest, (decision d first s f).script = .openDecision d :: rest := by
      cases first <;> exact ⟨_, rfl⟩
    obtain ⟨rest, same⟩ := head
    rw [same]
    exact (List.nil_sublist _).cons_cons d.name
  | loop l b => (List.nil_sublist _).cons_cons l.name

theorem namesOf_declared :
    ∀ ms : List Outline, (namesOf ms).Sublist ((scriptOf ms).filterMap Call.declares?)
  | [] => List.Sublist.refl _
  | m :: ms => by
    rw [scriptOf, List.filterMap_append]
    exact (names_declared m).append (namesOf_declared ms)

end

end Blueprint.Outline
