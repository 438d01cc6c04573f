import Blueprint.Proofs.Compile.Redeclared
import Blueprint.Proofs.Graph.Fixed
import Blueprint.Proofs.Macro.Check

/-!
# Strict and lenient compiles

A strict compile differs from a lenient one in its macro check alone. `compile_strict`: it succeeds
with what the lenient one makes if that gives no warning, and its check ends at the first warning of
the lenient check.
-/

namespace Blueprint

variable {g : EntityGraph} {context : CompileContext} {strict : Bool} {c : Compiled}

/-- The graph of a payload that is rendered has its root among its declarations. -/
theorem rooted_of_document {r : ResolvedGraph} {editables : EditableTree} {document : Json}
    (resolved : resolveGraph g = .ok r)
    (rendered : (Payload.mk r context).document editables = .ok document) : g.Rooted := by
  obtain ⟨root, -, found, -⟩ := Payload.document_ok rendered
  obtain ⟨start, first, walk⟩ := resolve_walk resolved
  intro root' first'
  obtain rfl := Option.some.inj (first.symm.trans first')
  have declared := EntityGraph.entity_ok.mp found
  dsimp only at declared
  rw [walk.graph, walk.start] at declared
  exact EntityGraph.lt_size_of_entity? declared

/-- Strictness leaves no trace in a payload. -/
theorem document_strict {r : ResolvedGraph} (rooted : g.Rooted) (resolved : resolveGraph g = .ok r)
    (context : CompileContext) (editables : EditableTree) (strict : Bool) :
    (Payload.mk r { context with strictMacros := strict }).document editables =
      (Payload.mk r context).document editables := by
  obtain ⟨r', resolved', moved⟩ := resolveGraph_redeclared (.refl g) rooted resolved
  rw [Except.ok.inj (resolved'.symm.trans resolved)] at moved
  have moves : Payload.Moved id ⟨r, context⟩ ⟨r, { context with strictMacros := strict }⟩ :=
    ⟨moved, rfl⟩
  exact moves.document editables

/-- A compile is repeated in another mode if its macro check finds the same there. -/
theorem compile_in_mode {mode : Bool}
    (compiled : compile g { context with strictMacros := mode } = .ok c)
    (checked : Macro.check c.resolved strict = .ok c.warnings) :
    compile g { context with strictMacros := strict } = .ok c := by
  obtain ⟨-, resolved, -, -, rendered⟩ := compile_passes compiled
  have rooted := rooted_of_document resolved rendered
  obtain ⟨_, valid, compiled⟩ := bind_ok compiled
  obtain ⟨l₁, bound, compiled⟩ := bind_ok compiled
  obtain ⟨l₂, open_, compiled⟩ := bind_ok compiled
  obtain ⟨r, resolved', compiled⟩ := bind_ok compiled
  obtain ⟨l₃, closed, compiled⟩ := bind_ok compiled
  obtain ⟨warnings, -, compiled⟩ := bind_ok compiled
  obtain ⟨editables, extracted, compiled⟩ := bind_ok compiled
  obtain ⟨l₄, edited, compiled⟩ := bind_ok compiled
  obtain ⟨document, rendered, compiled⟩ := bind_ok compiled
  obtain ⟨l₅, serialized, compiled⟩ := bind_ok compiled
  obtain rfl := pure_ok compiled
  dsimp only at checked
  rw [document_strict rooted resolved, ← document_strict rooted resolved context editables strict]
    at rendered
  simp only [compile, valid, bound, open_, resolved', closed, checked, extracted, edited, rendered,
    serialized, ok_bind]
  rfl

/-- **Strict and lenient compiles agree.** A strict compile succeeds exactly when the lenient one
succeeds without a warning, and then they make the same; and where the lenient check of a graph
warns, the strict one refuses the graph with the first of the warnings. -/
theorem compile_strict (g : EntityGraph) (context : CompileContext) :
    (∀ c, compile g { context with strictMacros := true } = .ok c ↔
      compile g { context with strictMacros := false } = .ok c ∧ c.warnings = []) ∧
    ∀ r w ws, Macro.check r false = .ok (w :: ws) →
      ∃ subject reason, Macro.check r true = .error (.validation subject reason) ∧
        subject ++ ": " ++ reason.message = w.text := by
  refine ⟨fun c => ⟨fun compiled => ?_, fun ⟨compiled, clean⟩ => ?_⟩, fun r w ws warned => ?_⟩
  · obtain ⟨-, -, checked, -⟩ := compile_passes compiled
    obtain ⟨lenient, clean⟩ := Macro.check_strict_ok_iff.mp checked
    exact ⟨compile_in_mode compiled lenient, clean⟩
  · obtain ⟨-, -, checked, -⟩ := compile_passes compiled
    exact compile_in_mode compiled (Macro.check_strict_ok_iff.mpr ⟨checked, clean⟩)
  · exact ⟨w.site, .badMacro w.fault, Macro.check_strict_error warned, rfl⟩

theorem compile_strict_checking :
    (∃ c, compile checkingFirst { strictMacros := true } = .ok c ∧
      compile checkingFirst { strictMacros := false } = .ok c ∧ c.warnings = []) ∧
    ∃ r w ws, resolveGraph Macro.probing = .ok r ∧ Macro.check r false = .ok (w :: ws) ∧
      w.text = "Ops.run.use: macro '@@\x7bPORT.x\x7d@@' names nothing in scope" ∧
      ∃ subject reason, Macro.check r true = .error (.validation subject reason) ∧
        subject ++ ": " ++ reason.message = w.text := by
  constructor
  · obtain ⟨c, compiled, clean⟩ := ok_of_test (x := compile checkingFirst { strictMacros := false })
      (P := fun c => c.warnings = []) (by decide +kernel)
    exact ⟨c, ((compile_strict checkingFirst {}).1 c).mpr ⟨compiled, clean⟩, compiled, clean⟩
  · let w : Macro.Warning := ⟨"Ops.run.use", .unknown "PORT.x"⟩
    obtain ⟨r, resolved, tested⟩ := ok_of_test (x := resolveGraph Macro.probing)
      (P := fun r => (Macro.check r false).toOption.any (fun ws => ws.head? = some w) = true)
      (by decide +kernel)
    obtain ⟨ws, checked, first⟩ := ok_of_test tested
    obtain ⟨rest, rfl⟩ := List.head?_eq_some_iff.mp first
    exact ⟨r, w, rest, resolved, checked, by decide +kernel,
      (compile_strict Macro.probing {}).2 r w rest checked⟩

end Blueprint
