import Blueprint.Proofs.Compile.Strict
import Blueprint.Proofs.Module.Renumbered
import Blueprint.Proofs.Yaml.Value

/-!
# Sections in another order

The order of the entries in the sections of modules is no part of what they say. `load_reordered`:
modules with reordered sections load as the same graph, renumbered, and compile to the same.
-/

namespace Blueprint

variable {files files' : Files} {file : Path} {g g' : EntityGraph} {ρ : Equiv.Perm EntityId}

/-! ### Compiling -/

/-- What a compile hands out. -/
def Compiled.shown (c : Compiled) : Json × EditableTree × List Macro.Warning :=
  (c.document, c.editables, c.warnings)

theorem compile_renumbered_ok {context : CompileContext} {c : Compiled} (h : g.Renumbered ρ g')
    (plain : ∀ x ∈ g.declared, x.entity.Plain) (compiled : compile g context = .ok c) :
    ∃ c', compile g' context = .ok c' ∧ c'.shown = c.shown := by
  have same := h.redeclared plain
  obtain ⟨valid, resolved, checked, extracted, rendered⟩ := compile_passes compiled
  have rooted := rooted_of_document resolved rendered
  obtain ⟨r', resolved', moved⟩ := resolveGraph_redeclared same rooted resolved
  have moves : Payload.Moved ρ ⟨c.resolved, context⟩ ⟨r', context⟩ := ⟨moved, rfl⟩
  obtain ⟨_, -, visited⟩ := (resolveGraph_ok_iff (same.rooted rooted)).mp resolved'
  have search := visited.breadthFirst
  obtain ⟨c', compiled', document, editables, warnings⟩ :=
    compile_of_passes (forM_eq_ok (same.valid (forM_ok valid))) resolved'
      ((Macro.check_moved moved _).trans checked) ((EditableTree.extract_moved moved).trans extracted)
      ((moves.document c.editables).trans rendered) search.distinct fun id met => by
        obtain ⟨e, declared, -⟩ := search.bound id met
        exact EntityGraph.mem_ids.mpr (EntityGraph.lt_size_of_entity? declared)
  exact ⟨c', compiled', by rw [Compiled.shown, document, editables, warnings, Compiled.shown]⟩

/-- The numbers of entities leave no trace in what is compiled, nor in whether it is. -/
theorem compile_renumbered (h : g.Renumbered ρ g') (plain : ∀ x ∈ g.declared, x.entity.Plain)
    (context : CompileContext) : (compile g' context).toOption.map Compiled.shown =
      (compile g context).toOption.map Compiled.shown := by
  cases here : compile g context with
  | ok c =>
    obtain ⟨c', there, shown⟩ := compile_renumbered_ok h plain here
    rw [there]
    exact congrArg some shown
  | error e =>
    cases there : compile g' context with
    | error e' => rfl
    | ok c' =>
      obtain ⟨c, back, -⟩ := compile_renumbered_ok h.symm (h.plain plain) there
      cases here.symm.trans back

/-! ### Modules in memory -/

theorem Files.ofList_reordered {fs fs' : List (Path × String)}
    (h : List.Forall₂ (fun f f' => f'.1 = f.1 ∧ (f'.2 = f.2 ∨ ModuleSource.Alike f.2 f'.2)) fs fs') :
    (ofList fs).Reordered (ofList fs') where
  count := h.length_eq.symm
  read p := by
    unfold ofList
    dsimp only
    rcases find?_partners (p := fun f => f.1.same p) (q := fun f => f.1.same p)
        (fun f f' same => by rw [same.1]) (List.rel_reverse h) with
      ⟨here, there⟩ | ⟨f, f', here, there, -, same | alike⟩
    · rw [here, there]
      exact .inl rfl
    · rw [here, there]
      exact .inl (congrArg Except.ok same)
    · rw [here, there]
      exact .inr ⟨f.2, f'.2, rfl, rfl, alike⟩

/-- What loads from modules in memory if reading them takes at most so many steps. -/
def loadWithin? (fs : List (Path × String)) (file : Path) (n : Nat) :
    Option (Except CompileError EntityGraph) :=
  (Loading.run? (.ofList fs) n (.start file)).map fun r => r >>= loadCollected (.ofList fs)

theorem load_of_loadWithin? {fs : List (Path × String)} {n : Nat}
    {r : Except CompileError EntityGraph} (h : loadWithin? fs file n = some r) :
    load (.ofList fs) file = r := by
  obtain ⟨read, ran, rfl⟩ := Option.map_eq_some_iff.mp h
  have collected := collectAll_start_iff.mpr (Loading.runs_of_run? ran)
  change (collectAll (.ofList fs) fs.length [] [] [⟨file, 0, ∅⟩] >>= loadCollected (.ofList fs)) = _
  rw [collected]

theorem load_of_test (fs : List (Path × String)) (file : Path) (n : Nat) {P : EntityGraph → Prop}
    [DecidablePred P] (h : ((loadWithin? fs file n).any fun r =>
      r.toOption.any fun g => decide (P g)) = true) : ∃ g, load (.ofList fs) file = .ok g ∧ P g := by
  obtain ⟨r, loaded, tested⟩ := (Option.any_eq_true _ _).mp h
  rw [load_of_loadWithin? loaded]
  exact ok_of_test tested

/-- Modules that name no files are read alike with anything. -/
theorem Files.namedAlike_of_test {fs : List (Path × String)} (n : Nat)
    (h : ((Loading.run? (.ofList fs) n (.start file)).any fun r =>
      r.toOption.all fun ds => ds.all (·.paths.isEmpty)) = true) (files' : Files) :
    (ofList fs).NamedAlike files' file := by
  intro ds collected d mem p named
  obtain ⟨r, ran, tested⟩ := (Option.any_eq_true _ _).mp h
  obtain rfl := (collectAll_start_iff.mpr (Loading.runs_of_run? ran)).symm.trans collected
  have none : d.paths = [] := List.isEmpty_iff.mp (List.all_eq_true.mp tested d mem)
  rw [none] at named
  cases named

/-! ### Loading -/

/-- **The order of declarations does not count.** Modules with reordered sections load or fail like
the modules as they were, as long as no declaration names a file whose text is another one now. The
graphs hold the same entities at the same depths, and every compile gives the same of both. -/
theorem load_reordered (reordered : files.Reordered files') (named : files.NamedAlike files' file) :
    ((∃ g, load files file = .ok g) ↔ ∃ g', load files' file = .ok g') ∧
      ∀ g g', load files file = .ok g → load files' file = .ok g' →
        ∃ ρ, g.Renumbered ρ g' ∧ ∀ context, (compile g' context).toOption.map Compiled.shown =
          (compile g context).toOption.map Compiled.shown := by
  refine ⟨⟨fun ⟨g, loaded⟩ => ?_, fun ⟨g', loaded'⟩ => ?_⟩, fun g g' loaded loaded' => ?_⟩
  · obtain ⟨g', -, loaded', -⟩ := load_moved loaded reordered named
    exact ⟨g', loaded'⟩
  · obtain ⟨g, -, loaded, -⟩ := load_moved loaded' reordered.symm (named.symm reordered)
    exact ⟨g, loaded⟩
  · obtain ⟨g₁, ρ, moved, renumbered⟩ := load_moved loaded reordered named
    obtain rfl := Except.ok.inj (moved.symm.trans loaded')
    exact ⟨ρ, renumbered, compile_renumbered renumbered (load_plain loaded)⟩

/-- A document whose substrates stand in a module of their own, in this order. -/
def shelf (substrates : List String) : List (Path × String) :=
  [(⟨"bp.yaml"⟩, "kind: environment\nname: Lab\nimports: [lib.yaml]\n" ++
      "root:\n  refs:\n    substrates: [b]\n"),
    (⟨"lib.yaml"⟩, "substrates:\n" ++ String.join substrates)]

def ascending : List String := ["  a:\n", "  b:\n    extends: [a]\n", "  c:\n"]

def descending : List String := ["  c:\n", "  b:\n    extends: [a]\n", "  a:\n"]

open Yaml (Value) in
theorem shelf_alike : ModuleSource.Alike ("substrates:\n" ++ String.join descending)
    ("substrates:\n" ++ String.join ascending) := by
  let a : Value × Value := (.str "a", .null)
  let b : Value × Value := (.str "b", .mapping [(.str "extends", .sequence [.str "a"])])
  let c : Value × Value := (.str "c", .null)
  have turned : [c, b, a].Perm [a, b, c] := List.reverse_perm [a, b, c]
  refine ⟨.mapping [(.str "substrates", .mapping [c, b, a])],
    .mapping [(.str "substrates", .mapping [a, b, c])],
    by decide +kernel, by decide +kernel, .mapping (.cons ⟨rfl, .inr ⟨?_, ?_⟩⟩ .nil)⟩
  · exact ⟨"substrates", by decide, rfl⟩
  · exact .mapping (.of_perm turned (by decide))

theorem load_reordered_shelf : ∃ g g' ρ c,
    load (.ofList (shelf descending)) ⟨"bp.yaml"⟩ = .ok g ∧
    load (.ofList (shelf ascending)) ⟨"bp.yaml"⟩ = .ok g' ∧
    (g.declared.map (·.entity.name)) = ["Lab", "c", "a", "b"] ∧
    (g'.declared.map (·.entity.name)) = ["Lab", "a", "b", "c"] ∧
    g.Renumbered ρ g' ∧ compile g {} = .ok c ∧
    ∀ context, (compile g' context).toOption.map Compiled.shown =
      (compile g context).toOption.map Compiled.shown := by
  have reordered : (Files.ofList (shelf descending)).Reordered (.ofList (shelf ascending)) :=
    Files.ofList_reordered (.cons ⟨rfl, .inl rfl⟩ (.cons ⟨rfl, .inr shelf_alike⟩ .nil))
  have named : (Files.ofList (shelf descending)).NamedAlike (.ofList (shelf ascending)) ⟨"bp.yaml"⟩ :=
    Files.namedAlike_of_test 3 (by decide +kernel) _
  obtain ⟨g, loaded, names, compiles⟩ := load_of_test (shelf descending) ⟨"bp.yaml"⟩ 3
    (P := fun g => (g.declared.map (·.entity.name)) = ["Lab", "c", "a", "b"] ∧
      (compile g {}).toOption.any (fun _ => True) = true) (by decide +kernel)
  obtain ⟨g', loaded', names'⟩ := load_of_test (shelf ascending) ⟨"bp.yaml"⟩ 3
    (P := fun g => (g.declared.map (·.entity.name)) = ["Lab", "a", "b", "c"]) (by decide +kernel)
  obtain ⟨c, compiled, -⟩ := ok_of_test compiles
  obtain ⟨ρ, renumbered, same⟩ := (load_reordered reordered named).2 g g' loaded loaded'
  exact ⟨g, g', ρ, c, loaded, loaded', names, names', renumbered, compiled, same⟩

/-! ### Where the order does count -/

def vaultText (credentials : List String) : String :=
  "kind: environment\nname: Lab\nroot:\n  refs:\n    credentials: [a]\ncredentials:\n" ++
    String.join credentials

/-- A document with its credentials in this order. -/
def vault (credentials : List String) : List (Path × String) :=
  [(⟨"bp.yaml"⟩, vaultText credentials)]

/-- What the document shows of the credential that it refers to. -/
def VaultShows (credentials : List String) (field shown : String) : Prop :=
  ∃ g c, load (.ofList (vault credentials)) ⟨"bp.yaml"⟩ = .ok g ∧ compile g {} = .ok c ∧
    c.document.lookup? ("spec.resources.credential_definition_list[a]." ++ field) = some (.str shown)

theorem vaultShows_of_test {credentials : List String} {field shown : String}
    (h : ((loadWithin? (vault credentials) ⟨"bp.yaml"⟩ 2).any fun r => r.toOption.any fun g =>
      (compile g {}).toOption.any fun c => decide ((c.document.lookup?
        ("spec.resources.credential_definition_list[a]." ++ field)).bind Json.asString? =
          some shown)) = true) : VaultShows credentials field shown := by
  obtain ⟨g, loaded, tested⟩ :=
    load_of_test (vault credentials) ⟨"bp.yaml"⟩ 2 (P := fun g => Option.any _ _ = true)
      (by simpa using h)
  obtain ⟨c, compiled, same⟩ := ok_of_test tested
  obtain ⟨j, found, text⟩ := Option.bind_eq_some_iff.mp same
  refine ⟨g, c, loaded, compiled, ?_⟩
  cases j with
  | str s => rw [found, Option.some.inj text]
  | null | bool | int | float | arr | obj => cases text

/-- The document compiles with two credentials in both orders, but not to the same. -/
def OrderShows (first second : String) : Prop :=
  ∃ g g' c c', load (.ofList (vault [first, second])) ⟨"bp.yaml"⟩ = .ok g ∧
    load (.ofList (vault [second, first])) ⟨"bp.yaml"⟩ = .ok g' ∧ compile g {} = .ok c ∧
    compile g' {} = .ok c' ∧ c'.document ≠ c.document

theorem VaultShows.order {first second field x y : String} (h : VaultShows [first, second] field x)
    (h' : VaultShows [second, first] field y) (apart : x ≠ y) : OrderShows first second := by
  obtain ⟨g, c, loaded, compiled, shown⟩ := h
  obtain ⟨g', c', loaded', compiled', shown'⟩ := h'
  refine ⟨g, g', c, c', loaded, loaded', compiled, compiled', fun same => apart ?_⟩
  rw [same, shown] at shown'
  exact Json.str.inj (Option.some.inj shown')

/-- Entries whose order does count: a module may be the text that one of them names, two keys may be
one name under different tags, and an entry may repeat another one by an anchor. -/
theorem order_shows_vault :
    OrderShows "  a:\n    secret_file: bp.yaml\n" "  b:\n" ∧
    OrderShows "  a:\n    description: x\n" "  !t a:\n    description: y\n" ∧
    (∃ g, load (.ofList (vault ["  a: &x\n    description: y\n", "  b: *x\n"])) ⟨"bp.yaml"⟩ = .ok g) ∧
    ¬∃ g, load (.ofList (vault ["  b: *x\n", "  a: &x\n    description: y\n"])) ⟨"bp.yaml"⟩ = .ok g := by
  refine ⟨?_, ?_, ?_, ?_⟩
  · let own := "  a:\n    secret_file: bp.yaml\n"
    let spare := "  b:\n"
    have above : VaultShows [own, spare] "secret.value" (Text.trimEnd (vaultText [own, spare])) :=
      vaultShows_of_test (by decide +kernel)
    have below : VaultShows [spare, own] "secret.value" (Text.trimEnd (vaultText [spare, own])) :=
      vaultShows_of_test (by decide +kernel)
    exact above.order below (by decide +kernel)
  · let plain := "  a:\n    description: x\n"
    let tagged := "  !t a:\n    description: y\n"
    have above : VaultShows [plain, tagged] "description" "y" := vaultShows_of_test (by decide +kernel)
    have below : VaultShows [tagged, plain] "description" "x" := vaultShows_of_test (by decide +kernel)
    exact above.order below (by decide)
  · obtain ⟨g, loaded, -⟩ := load_of_test (vault ["  a: &x\n    description: y\n", "  b: *x\n"])
      ⟨"bp.yaml"⟩ 2 (P := fun _ => True) (by decide +kernel)
    exact ⟨g, loaded⟩
  · rintro ⟨g, loaded⟩
    have refused : ((loadWithin? (vault ["  b: *x\n", "  a: &x\n    description: y\n"]) ⟨"bp.yaml"⟩
        2).any fun r => !r.toOption.isSome) = true := by decide +kernel
    obtain ⟨r, ran, none⟩ := (Option.any_eq_true _ _).mp refused
    rw [load_of_loadWithin? ran] at loaded
    rw [loaded] at none
    cases none

end Blueprint
