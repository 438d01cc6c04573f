import Blueprint.Proofs.Data.Layers
import Blueprint.Proofs.Module.Reordered
import Blueprint.Proofs.Module.Template
import Blueprint.Proofs.Module.Visits
import Blueprint.Proofs.Yaml.Value

/-!
# Parameters along imports

A module that is read has been asked for by the modules before it in a chain of imports (`Chain`).
The queue carries parameters from each of them to the next, merged anew every time, and may hold a
file several times with other parameters; what arrives are the parameters of that one chain, those
of a module nearer to the root before those of a later one (`load_params`).
-/

namespace Blueprint

open Relation (ReflTransGen)
open Yaml (Value)

/-! ### Own parameters -/

namespace ModuleSource

/-- The parameters that a module declares, and what is left of it. -/
def parts (text : String) : Except ParseFault (Params × Value) := do
  let whole ← (Value.read? text).elim (.error .badFormat) .ok
  match takeParams? whole with
  | none => return (∅, whole)
  | some (ps, body) =>
    match ps.openMap? some with
    | some ps => return (ps, body)
    | none => .error .badParams

theorem read_eq (text : String) (inherited : Params) : read text inherited =
    parts text >>= fun (own, body) => readBody body (own.insertAll inherited) := by
  unfold read parts
  cases Value.read? text with
  | none => rfl
  | some whole =>
    simp only [Option.elim_some, ok_bind]
    cases takeParams? whole with
    | none => rfl
    | some taken =>
      dsimp only
      cases taken.1.openMap? some <;> rfl

theorem readBody_params {body : Value} {ps ps' : Params} {m : ModuleSource}
    (h : readBody body ps = .ok (m, ps')) : ps' = ps := by
  obtain ⟨_, -, h⟩ := bind_ok h
  obtain ⟨source, -, h⟩ := bind_ok h
  split at h
  · exact (Prod.mk.inj (pure_ok h)).2
  · cases h

/-- Only a placeholder without a value is such a fault. -/
theorem readBody_unknown {body : Value} {ps : Params} {k : String} :
    readBody body ps = .error (.unknownParam k) ↔ ps.fillValue body = .error k := by
  unfold readBody
  cases ps.fillValue body with
  | error k' =>
    constructor
    · intro h
      exact congrArg Except.error (ParseFault.unknownParam.inj (Except.error.inj h))
    · intro h
      rw [Except.error.inj h]
      rfl
  | ok filled =>
    refine ⟨fun h => ?_, nofun⟩
    rw [Except.mapError, ok_bind] at h
    cases read : ofValue? filled with
    | none =>
      rw [read] at h
      cases h
    | some source =>
      rw [read, Option.elim_some, ok_bind] at h
      split at h <;> cases h

end ModuleSource

/-- The parameters that the module in a file declares. -/
def Files.own (files : Files) (p : Path) : Params :=
  match files.read p with
  | .error _ => ∅
  | .ok text =>
    match ModuleSource.parts text with
    | .error _ => ∅
    | .ok (own, _) => own

/-- The value of a parameter in the first of some modules that declares it. -/
def Files.given (files : Files) (chain : List Visit) (k : String) : Option Value :=
  chain.findSome? fun u => (files.own u.file).get? k

variable {files : Files} {fs : List (Path × String)} {file : Path} {u v w : Visit} {k : String}

theorem Files.own_eq {p : Path} {text : String} {own : Params} {body : Value}
    (here : files.read p = .ok text) (split : ModuleSource.parts text = .ok (own, body)) :
    files.own p = own := by
  rw [Files.own, here]
  dsimp only
  rw [split]

theorem Files.given_append (files : Files) (chain : List Visit) (u : Visit) (k : String) :
    files.given (chain ++ [u]) k = (files.given chain k).or ((files.own u.file).get? k) := by
  rw [given, List.findSome?_append, List.findSome?_singleton]
  rfl

theorem Files.given_eq_none {chain : List Visit} :
    files.given chain k = none ↔ ∀ u ∈ chain, k ∉ (files.own u.file).keys := by
  rw [given, List.findSome?_eq_none_iff]
  refine forall₂_congr fun u _ => ?_
  rw [← OrderedMap.contains_iff, OrderedMap.contains, Bool.not_eq_true, Option.isSome_eq_false_iff,
    Option.isNone_iff_eq_none]

/-! ### What a module hands on -/

namespace Visit

theorem hands_params (h : w ∈ v.hands files) (k : String) :
    w.params.get? k = (v.params.get? k).or ((files.own v.file).get? k) := by
  unfold hands at h
  split at h
  · rename_i collected
    obtain ⟨text, read, collected⟩ := bind_ok collected
    obtain ⟨⟨m, ps⟩, parsed, collected⟩ := bind_ok collected
    obtain ⟨_, -, collected⟩ := bind_ok collected
    obtain ⟨-, rfl⟩ := Prod.mk.inj (pure_ok collected)
    obtain ⟨_, -, rfl⟩ := List.mem_map.mp h
    have read := mapError_ok read
    have parsed := mapError_ok parsed
    rw [ModuleSource.read_eq] at parsed
    obtain ⟨⟨own, body⟩, split, parsed⟩ := bind_ok parsed
    obtain rfl := ModuleSource.readBody_params parsed
    rw [Files.own_eq read split]
    exact OrderedMap.get?_insertAll ..
  · cases h

/-- The first import of a module that is this file. -/
def import? (v : Visit) (files : Files) (p : Path) : Option Visit :=
  (v.hands files).find? (·.file.same p)

theorem import?_same {p q : Path} (same : p.same q = true) : v.import? files p = v.import? files q := by
  have alike : (fun w : Visit => w.file.same p) = fun w => w.file.same q := funext fun w =>
    Bool.eq_iff_iff.mpr
      ⟨fun h => Path.same_trans h same, fun h => Path.same_trans h (Path.same_symm same)⟩
  rw [import?, import?, alike]

theorem mem_of_import? {p : Path} (h : v.import? files p = some w) : w ∈ v.hands files :=
  List.mem_of_find?_eq_some h

end Visit

/-! ### Chains of imports -/

/-- The modules that import one another down to this visit, the root module first: each is the first
module read that imports the next one, with its first import of it. -/
inductive Chain (files : Files) (file : Path) (read : List Visit) : List Visit → Visit → Prop where
  | root : Chain files file read [] ⟨file, 0, ∅⟩
  | next {chain : List Visit} {u w : Visit} (importers : Chain files file read chain u)
      (other : ¬w.file.same file = true)
      (first : read.find? (fun x => (x.import? files w.file).isSome) = some u)
      (entry : u.import? files w.file = some w) : Chain files file read (chain ++ [u]) w

namespace Chain

variable {read : List Visit} {chain : List Visit}

/-- A file is first reached along one chain. -/
theorem unique {chain' : List Visit} (h : Chain files file read chain v)
    (h' : Chain files file read chain' w) (same : v.file.same w.file = true) :
    chain = chain' ∧ v = w := by
  induction h generalizing chain' w with
  | root =>
    cases h' with
    | root => exact ⟨rfl, rfl⟩
    | next _ other => exact absurd (Path.same_symm same) other
  | next _ other first entry ih =>
    cases h' with
    | root => exact absurd same other
    | next importers' _ first' entry' =>
      simp only [Visit.import?_same same] at first entry
      obtain rfl := Option.some.inj (first.symm.trans first')
      obtain ⟨rfl, -⟩ := ih importers' (Path.same_refl _)
      exact ⟨rfl, Option.some.inj (entry.symm.trans entry')⟩

theorem mem (h : Chain files file read chain v) : ∀ x ∈ chain, x ∈ read := by
  induction h with
  | root => exact List.forall_mem_nil _
  | next _ _ first _ ih =>
    intro x mem
    rcases List.mem_append.mp mem with mem | mem
    · exact ih x mem
    · exact List.mem_singleton.mp mem ▸ List.mem_of_find?_eq_some first

/-- What is read later changes no chain. -/
theorem append (h : Chain files file read chain v) (more : List Visit) :
    Chain files file (read ++ more) chain v := by
  induction h with
  | root => exact .root
  | next _ other first entry ih =>
    refine .next ih other ?_ entry
    rw [List.find?_append, first, Option.some_or]

/-- A visit brings the parameters of its chain. -/
theorem params (h : Chain files file read chain v) (k : String) :
    v.params.get? k = files.given chain k := by
  induction h with
  | root => rfl
  | next _ _ _ entry ih =>
    rw [Visit.hands_params (Visit.mem_of_import? entry), ih, Files.given_append]

end Chain

namespace Loading

variable {s t : Loading} {queue : List Visit}

/-- All visits that were asked for: the one of the root module, and the imports of what is read. -/
def asked (files : Files) (file : Path) (s : Loading) : List Visit :=
  ⟨file, 0, ∅⟩ :: s.read.flatMap (·.hands files)

/-- What is asked for waits in the queue, unless its file has been read; and all that has been read
was reached along a chain. -/
structure Chained (files : Files) (file : Path) (s : Loading) : Prop where
  queued : ∃ past, s.asked files file = past ++ s.queue ∧ ∀ x ∈ past, s.Seen x.file
  chains : ∀ u ∈ s.read, ∃ chain, Chain files file s.read chain u

theorem Chained.start : (start file).Chained files file :=
  ⟨⟨[], rfl, List.forall_mem_nil _⟩, List.forall_mem_nil _⟩

/-- A module that is read next is the first one of its file that was asked for. -/
theorem Chained.exists_chain (h : s.Chained files file) (next : s.queue = v :: queue)
    (fresh : ¬s.Seen v.file) : ∃ chain, Chain files file s.read chain v := by
  obtain ⟨past, asked, seen⟩ := h.queued
  -- What was asked for before has been read, so none of it was this file.
  have first : (s.asked files file).find? (·.file.same v.file) = some v := by
    have none : past.find? (·.file.same v.file) = none := by
      refine List.find?_eq_none.mpr fun x mem same => fresh ?_
      obtain ⟨y, read, same'⟩ := seen x mem
      exact ⟨y, read, Path.same_trans (Path.same_symm same) same'⟩
    rw [asked, next, List.find?_append, none, Option.none_or]
    exact List.find?_cons_of_pos (Path.same_refl v.file)
  rw [Loading.asked, List.find?_cons] at first
  split at first
  · -- It is the root module.
    obtain rfl := Option.some.inj first
    exact ⟨[], .root⟩
  · -- It is an import, and the module with that import was the first to import this file.
    rename_i other
    rw [List.find?_flatMap, List.findSome?_eq_some_iff] at first
    obtain ⟨before, u, after, place, entry, none⟩ := first
    have importer : s.read.find? (fun x => (x.import? files v.file).isSome) = some u := by
      refine List.find?_eq_some_iff_append.mpr
        ⟨Option.isSome_of_eq_some entry, before, after, place, fun x mem => ?_⟩
      rw [Visit.import?, none x mem]
      rfl
    obtain ⟨chain, importers⟩ := h.chains u (List.mem_of_find?_eq_some importer)
    refine ⟨chain ++ [u], .next importers (fun same => ?_) importer entry⟩
    rw [Path.same_symm same] at other
    cases other

theorem Chained.step (h : s.Chained files file) (step : Step files s t) : t.Chained files file := by
  obtain ⟨past, asked, seen⟩ := h.queued
  cases step with
  | @skip v queue next known =>
    refine ⟨⟨past ++ [v], ?_, fun x mem => ?_⟩, h.chains⟩
    · rw [next] at asked
      simpa [Loading.asked, Loading.skip] using asked
    · rcases List.mem_append.mp mem with mem | mem
      · exact seen x mem
      · exact List.mem_singleton.mp mem ▸ known
  | @visit v queue next fresh =>
    refine ⟨⟨past ++ [v], ?_, fun x mem => seen_visit.mpr ?_⟩, fun u mem => ?_⟩
    · have longer : (s.visit files v queue).asked files file = s.asked files file ++ v.hands files := by
        simp [Loading.asked, Loading.visit]
      rw [longer, asked, next]
      simp [Loading.visit]
    · rcases List.mem_append.mp mem with mem | mem
      · exact .inl (seen x mem)
      · exact .inr (List.mem_singleton.mp mem ▸ Path.same_refl _)
    · rcases List.mem_append.mp mem with mem | mem
      · obtain ⟨chain, reached⟩ := h.chains u mem
        exact ⟨chain, reached.append [v]⟩
      · obtain ⟨chain, reached⟩ := h.exists_chain next fresh
        exact ⟨chain, List.mem_singleton.mp mem ▸ reached.append [v]⟩

theorem Chained.steps (h : s.Chained files file) (steps : ReflTransGen (Step files) s t) :
    t.Chained files file := by
  induction steps with
  | refl => exact h
  | tail _ step ih => exact ih.step step

/-- The state after so many steps, or where loading stops before, for evaluation. -/
def after (files : Files) : Nat → Loading → Loading
  | 0, s => s
  | n + 1, s =>
    match s.queue with
    | [] => s
    | v :: queue =>
      if s.Seen v.file then after files n (s.skip queue)
      else
        match v.collect files with
        | .ok _ => after files n (s.visit files v queue)
        | .error _ => s

theorem steps_after (n : Nat) (s : Loading) : ReflTransGen (Step files) s (after files n s) := by
  induction n generalizing s with
  | zero => exact .refl
  | succ n ih =>
    rw [after]
    split
    · exact .refl
    · rename_i v queue next
      split
      · rename_i seen
        exact .head (.skip next seen) (ih _)
      · rename_i fresh
        split
        · rename_i result collected
          exact .head (.visit next fresh (Visit.collects_of_ok collected).2.2) (ih _)
        · exact .refl

/-- What cannot be read stops loading. -/
theorem load_refused {e : CompileError} (steps : ReflTransGen (Step (.ofList fs)) (start file) s)
    (next : s.queue = v :: queue) (fresh : ¬s.Seen v.file) (error : v.collect (.ofList fs) = .error e) :
    load (.ofList fs) file = .error e := by
  have collected : collectAll (.ofList fs) fs.length [] [] [⟨file, 0, ∅⟩] = .error e :=
    collectAll_start_iff.mpr ⟨s, steps, .refused next fresh error⟩
  have count : (Files.ofList fs).count = fs.length := rfl
  rw [load, count, collected]
  rfl

end Loading

/-! ### Placeholders of a module -/

namespace Visit

theorem root_error {m : ModuleSource} {name : String} {fault : ParseFault}
    (h : v.root m = .error (.parse name fault)) :
    fault ≠ .unknownParam k := by
  rintro rfl
  unfold root at h
  split at h
  · split at h <;> cases h
  · split at h <;> cases h

variable {text : String} {own : Params} {body : Value}

theorem collect_unknown (here : files.read v.file = .ok text)
    (split : ModuleSource.parts text = .ok (own, body)) :
    v.collect files = .error (.parse v.file.text (.unknownParam k)) ↔
      Params.fillValue (own.insertAll v.params) body = .error k := by
  have at_ : files.readAt v.file = .ok text := by rw [Files.readAt, here]; rfl
  have read : ModuleSource.read text v.params =
      ModuleSource.readBody body (own.insertAll v.params) := by
    rw [ModuleSource.read_eq, split]
    rfl
  rw [collect, at_, ok_bind, read, ← ModuleSource.readBody_unknown]
  cases filled : ModuleSource.readBody body (own.insertAll v.params) with
  | error fault =>
    constructor
    · intro h
      rw [(CompileError.parse.inj (Except.error.inj h)).2]
    · intro h
      rw [Except.error.inj h]
      rfl
  | ok result =>
    constructor
    · intro h
      rcases bind_error (x := v.root result.1) h with error | ⟨_, -, done⟩
      · exact (root_error error rfl).elim
      · cases done
    · intro h
      cases h

/-- How a module is filled that was reached along a chain of imports. -/
structure Fills (v : Visit) (files : Files) (chain : List Visit) (text : String) (body : Value)
    (ps : Params) : Prop where
  /-- A value is the one of the first module down the chain that declares the parameter. -/
  given : ∀ k, ps.get? k = files.given (chain ++ [v]) k
  read : ModuleSource.read text v.params = ModuleSource.readBody body ps
  /-- Filling fails at the first placeholder of a parameter that no module of the chain declares. -/
  unknown : ∀ k, v.collect files = .error (.parse v.file.text (.unknownParam k)) ↔
    ∃ before after, Params.keysIn body = before ++ k :: after ∧
      (∀ u ∈ chain ++ [v], k ∉ (files.own u.file).keys) ∧
      ∀ k' ∈ before, ∃ u ∈ chain ++ [v], k' ∈ (files.own u.file).keys

theorem fills {read chain : List Visit} (reached : Chain files file read chain v)
    (here : files.read v.file = .ok text) (split : ModuleSource.parts text = .ok (own, body)) :
    v.Fills files chain text body (own.insertAll v.params) := by
  have given : ∀ k, (own.insertAll v.params).get? k = files.given (chain ++ [v]) k := by
    intro k
    rw [Files.given_append, ← reached.params, Files.own_eq here split]
    exact OrderedMap.get?_insertAll ..
  refine ⟨given, by rw [ModuleSource.read_eq, split]; rfl, fun k => ?_⟩
  have none : ∀ k, ((own.insertAll v.params).get? k).isNone = true ↔
      ∀ u ∈ chain ++ [v], k ∉ (files.own u.file).keys := by
    intro k
    rw [given, Option.isNone_iff_eq_none, Files.given_eq_none]
  rw [collect_unknown here split, Params.fillValue_needs _ body k, List.find?_eq_some_iff_append, none]
  constructor
  · rintro ⟨missing, before, after, place, all⟩
    refine ⟨before, after, place, missing, fun k' mem => ?_⟩
    by_contra other
    have valued := all k' mem
    rw [(none k').mpr fun u inside declared => other ⟨u, inside, declared⟩] at valued
    cases valued
  · rintro ⟨before, after, place, missing, all⟩
    refine ⟨missing, before, after, place, fun k' mem => ?_⟩
    obtain ⟨u, inside, declared⟩ := all k' mem
    rw [Bool.not_eq_true', Bool.eq_false_iff]
    exact fun lacks => (none k').mp lacks u inside declared

end Visit

/-! ### The law -/

/-- **Parameters go along imports, and importers win.** Whenever loading comes to a module that it
has not read, this module was first reached along one chain of imports, and what it is filled with
comes from the modules of that chain alone. A parameter that none of them declares stops loading. -/
theorem load_params {s : Loading} {queue : List Visit}
    (steps : ReflTransGen (Loading.Step (.ofList fs)) (.start file) s)
    (next : s.queue = v :: queue) (fresh : ¬s.Seen v.file) :
    ∃ chain, Chain (.ofList fs) file s.read chain v ∧
      (∀ chain' w, Chain (.ofList fs) file s.read chain' w → w.file.same v.file = true →
        chain' = chain ∧ w = v) ∧
      (∀ u ∈ chain, u ∈ s.read) ∧
      (∀ k, v.params.get? k = (Files.ofList fs).given chain k) ∧
      (∀ text own body, (Files.ofList fs).read v.file = .ok text →
        ModuleSource.parts text = .ok (own, body) →
        ∃ ps, v.Fills (.ofList fs) chain text body ps) ∧
      ∀ e, v.collect (.ofList fs) = .error e → load (.ofList fs) file = .error e := by
  obtain ⟨chain, reached⟩ := (Loading.Chained.start.steps steps).exists_chain next fresh
  refine ⟨chain, reached, ?_, reached.mem, reached.params, ?_, ?_⟩
  · exact fun chain' w other same => other.unique reached same
  · exact fun text own body here split => ⟨_, Visit.fills reached here split⟩
  · exact fun e => Loading.load_refused steps next fresh

/-- Two modules import a third one, which asks for parameters and imports the first of them again.
-/
def shared : List (Path × String) :=
  [(⟨"app.yaml"⟩, "kind: blueprint\nname: App\nparams: \x7benv: PROD\x7d\n" ++
      "imports: [west.yaml, east.yaml]\n"),
    (⟨"west.yaml"⟩, "params: \x7benv: dev, port: \"80\"\x7d\nimports: [web.yaml]\n"),
    (⟨"east.yaml"⟩, "params: \x7bport: \"8080\", zone: e\x7d\nimports: [web.yaml]\n"),
    (⟨"web.yaml"⟩, "params: \x7bport: \"1\", path: home\x7d\nimports: [west.yaml]\n" ++
      "services: \x7bweb: \x7bdescription: " ++
      "\"\x7b\x7bparams.env\x7d\x7d \x7b\x7bparams.port\x7d\x7d \x7b\x7bparams.zone\x7d\x7d\"\x7d\x7d\n")]

/-- The state of loading when the third module comes up, for the first time. -/
def beforeWeb : Loading := .after (.ofList shared) 3 (.start ⟨"app.yaml"⟩)

/-- The port is the one of the west, which comes to the shared module first, and the zone of the east
does not reach it. -/
theorem load_params_shared : ∃ v chain, v.file = ⟨"web.yaml"⟩ ∧
    Chain (.ofList shared) ⟨"app.yaml"⟩ beforeWeb.read chain v ∧
    (Files.ofList shared).given chain "port" = some (.str "80") ∧
    load (.ofList shared) ⟨"app.yaml"⟩ = .error (.parse "web.yaml" (.unknownParam "zone")) := by
  have tested : (beforeWeb.queue.head?.any fun v => decide (v.file = ⟨"web.yaml"⟩ ∧
      ¬beforeWeb.Seen v.file ∧ v.params.get? "port" = some (.str "80")) &&
      failsWith (v.collect (.ofList shared)) (.parse "web.yaml" (.unknownParam "zone"))) = true := by
    decide +kernel
  obtain ⟨v, next, tested⟩ := (Option.any_eq_true _ _).mp tested
  obtain ⟨queue, next⟩ := List.head?_eq_some_iff.mp next
  obtain ⟨facts, error⟩ := Bool.and_eq_true_iff.mp tested
  obtain ⟨file, fresh, port⟩ := of_decide_eq_true facts
  obtain ⟨chain, reached, -, -, arrives, -, refused⟩ :=
    load_params (Loading.steps_after 3 (.start ⟨"app.yaml"⟩)) next fresh
  exact ⟨v, chain, file, reached, (arrives "port").symm.trans port, refused _ (error_of_test error)⟩

end Blueprint
