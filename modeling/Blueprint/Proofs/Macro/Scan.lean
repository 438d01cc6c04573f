import Blueprint.Proofs.Macro.Check
import Blueprint.Proofs.Text.Cut
import Blueprint.Proofs.Variable.Canonical
import Blueprint.Proofs.Variable.Declare

/-!
# How a text is taken apart

A text is free text with macros in it, in one way only (`Outline`): nothing outside the macros opens
one, and nothing inside a macro closes one. `scan` lists the macros of this outline, or finds the
first one that is left open (`scan_eq_ok_iff`, `scan_eq_error_iff`). Texts that open a macro pass
their declaration unchecked, and are the ones that the macro check has something to say about
(`scan_exact`).
-/

namespace Blueprint

namespace Macro

open Text (First)

/-- What stands before the macros of a text, and each macro with what stands behind it. -/
structure Outline where
  first : List Char
  macros : List (List Char × List Char)

namespace Outline

/-- The text with its macros in their marks. -/
def chars (o : Outline) : List Char :=
  o.first ++ o.macros.flatMap fun (inner, after) => opener ++ inner ++ closer ++ after

def bodies (o : Outline) : List String :=
  o.macros.map fun (inner, _) => Text.trim (String.ofList inner)

/-- Outside its macros a text opens none, and inside them it closes none. -/
structure Plain (o : Outline) : Prop where
  first : ¬opener <:+: o.first
  inside : ∀ m ∈ o.macros, ¬closer <:+: m.1
  after : ∀ m ∈ o.macros, ¬opener <:+: m.2

variable {first inner after : List Char} {macros : List (List Char × List Char)}

theorem chars_nil (first : List Char) : (Outline.mk first []).chars = first := by simp [chars]

theorem chars_cons (first inner after : List Char) (macros : List (List Char × List Char)) :
    (Outline.mk first ((inner, after) :: macros)).chars =
      first ++ opener ++ (inner ++ closer ++ (Outline.mk after macros).chars) := by
  simp [chars]

theorem plain_nil : (Outline.mk first []).Plain ↔ ¬opener <:+: first := by
  constructor
  · intro plain
    exact plain.first
  · intro fresh
    exact ⟨fresh, by simp, by simp⟩

theorem plain_cons : (Outline.mk first ((inner, after) :: macros)).Plain ↔
    ¬opener <:+: first ∧ ¬closer <:+: inner ∧ (Outline.mk after macros).Plain := by
  constructor
  · intro plain
    obtain ⟨closed, inside⟩ := List.forall_mem_cons.mp plain.inside
    obtain ⟨next, behind⟩ := List.forall_mem_cons.mp plain.after
    exact ⟨plain.first, closed, next, inside, behind⟩
  · rintro ⟨fresh, closed, next, inside, behind⟩
    exact ⟨fresh, List.forall_mem_cons.mpr ⟨closed, inside⟩,
      List.forall_mem_cons.mpr ⟨next, behind⟩⟩

end Outline

theorem first_opener {before : List Char} (fresh : ¬opener <:+: before) (rest : List Char) :
    First opener (before ++ opener ++ rest) before rest :=
  Text.Borderless.first (by decide) fresh rest

theorem first_closer {inner : List Char} (fresh : ¬closer <:+: inner) (rest : List Char) :
    First closer (inner ++ closer ++ rest) inner rest :=
  Text.Borderless.first (by decide) fresh rest

variable {o o' : Outline} {cs before inside inner after rest : List Char} {position : Nat}

/-- A text has one outline. -/
theorem Outline.Plain.unique (plain : o.Plain) (plain' : o'.Plain) (same : o.chars = o'.chars) :
    o = o' := by
  obtain ⟨first, macros⟩ := o
  obtain ⟨first', macros'⟩ := o'
  induction macros generalizing first first' macros' with
  | nil =>
    rw [Outline.chars_nil] at same
    cases macros' with
    | nil =>
      rw [Outline.chars_nil] at same
      rw [same]
    | cons m macros' =>
      obtain ⟨inner, after⟩ := m
      rw [Outline.chars_cons] at same
      have opens : opener <:+: first := by
        rw [same, List.append_assoc]
        exact ⟨first', _, List.append_assoc ..⟩
      exact absurd opens plain.first
  | cons m macros ih =>
    obtain ⟨inner, after⟩ := m
    obtain ⟨fresh, closed, next⟩ := Outline.plain_cons.mp plain
    rw [Outline.chars_cons] at same
    cases macros' with
    | nil =>
      rw [Outline.chars_nil] at same
      exact absurd ((first_opener fresh _).occurs) (same ▸ plain'.first)
    | cons m' macros' =>
      obtain ⟨inner', after'⟩ := m'
      obtain ⟨fresh', closed', next'⟩ := Outline.plain_cons.mp plain'
      rw [Outline.chars_cons] at same
      obtain ⟨rfl, inside⟩ := (first_opener fresh _).unique (same ▸ first_opener fresh' _)
      obtain ⟨rfl, behind⟩ := (first_closer closed _).unique (inside ▸ first_closer closed' _)
      obtain ⟨rfl, rfl⟩ := Outline.mk.inj (ih _ next _ _ next' behind)
      rfl

/-! ### Scanning -/

/-- A round of a scan goes up to the first macro, and on behind it. -/
theorem scanFrom_eq (position : Nat) (cs : List Char) : scanFrom position cs =
    match Text.cut? opener cs with
    | none => .ok []
    | some (before, inside) =>
      match Text.cut? closer inside with
      | none => .error (position + Text.byteLength before)
      | some (inner, after) =>
        (scanFrom (position + Text.byteLength (before ++ opener ++ inner ++ closer)) after).map
          (Text.trim (String.ofList inner) :: ·) := by
  have marks : Text.byteLength opener = opener.length ∧ Text.byteLength closer = closer.length := by
    decide
  have trimmed : ∀ inner, body inner = Text.trim (String.ofList inner) := by
    intro inner
    simp [body, Text.trim]
  rw [scanFrom]
  split
  · rename_i none
    rw [none]
  · rename_i before inside opens
    rw [opens]
    dsimp only
    split
    · rename_i none
      rw [none]
    · rename_i inner after closes
      simp only [closes, Text.byteLength_append, marks, trimmed, ← Nat.add_assoc]
      generalize scanFrom _ after = scanned
      cases scanned <;> rfl

theorem scanFrom_closed (fresh : ¬opener <:+: cs) (position : Nat) :
    scanFrom position cs = .ok [] := by
  rw [scanFrom_eq, (Text.cut?_eq_none_iff (by decide)).mpr fresh]

theorem scanFrom_open (opens : First opener cs before inside) (never : ¬closer <:+: inside)
    (position : Nat) : scanFrom position cs = .error (position + Text.byteLength before) := by
  rw [scanFrom_eq, (Text.cut?_eq_some_iff (by decide)).mpr opens]
  dsimp only
  rw [(Text.cut?_eq_none_iff (by decide)).mpr never]

theorem scanFrom_macro (opens : First opener cs before inside)
    (closes : First closer inside inner after) (position : Nat) : scanFrom position cs =
      (scanFrom (position + Text.byteLength (before ++ opener ++ inner ++ closer)) after).map
        (Text.trim (String.ofList inner) :: ·) := by
  rw [scanFrom_eq, (Text.cut?_eq_some_iff (by decide)).mpr opens]
  dsimp only
  rw [(Text.cut?_eq_some_iff (by decide)).mpr closes]

/-- The macros of an outline are the ones that a scan lists. -/
theorem Outline.Plain.scanFrom (plain : o.Plain) (position : Nat) :
    scanFrom position o.chars = .ok o.bodies := by
  obtain ⟨first, macros⟩ := o
  induction macros generalizing first position with
  | nil =>
    rw [Outline.chars_nil]
    exact scanFrom_closed plain.first position
  | cons m macros ih =>
    obtain ⟨inner, after⟩ := m
    obtain ⟨fresh, closed, next⟩ := Outline.plain_cons.mp plain
    rw [Outline.chars_cons, scanFrom_macro (first_opener fresh _) (first_closer closed _),
      ih _ _ next]
    rfl

/-- An opener that nothing closes is the one that a scan names. -/
theorem Outline.Plain.scanFrom_open (plain : o.Plain) (never : ¬closer <:+: rest) (position : Nat) :
    Macro.scanFrom position (o.chars ++ opener ++ rest) =
      .error (position + Text.byteLength o.chars) := by
  obtain ⟨first, macros⟩ := o
  induction macros generalizing first position with
  | nil =>
    rw [Outline.chars_nil]
    exact Macro.scanFrom_open (first_opener plain.first rest) never position
  | cons m macros ih =>
    obtain ⟨inner, after⟩ := m
    obtain ⟨fresh, closed, next⟩ := Outline.plain_cons.mp plain
    have text : (Outline.mk first ((inner, after) :: macros)).chars ++ opener ++ rest =
        first ++ opener ++
          (inner ++ closer ++ ((Outline.mk after macros).chars ++ opener ++ rest)) := by
      rw [Outline.chars_cons]
      simp
    rw [text, scanFrom_macro (first_opener fresh _) (first_closer closed _), ih _ _ next,
      Outline.chars_cons]
    simp [Except.map, Nat.add_assoc]

/-- Every text has an outline, up to an opener that nothing closes if there is one. -/
theorem exists_outline (cs : List Char) : ∃ o : Outline, o.Plain ∧
    (cs = o.chars ∨ ∃ rest, ¬closer <:+: rest ∧ cs = o.chars ++ opener ++ rest) := by
  -- The text behind a macro is shorter.
  induction size : cs.length using Nat.strong_induction_on generalizing cs with
  | _ n ih =>
    by_cases opens : opener <:+: cs
    · obtain ⟨before, inside, opens⟩ := Text.exists_first (by decide) opens
      have fresh : ¬opener <:+: before := opens.fresh (by decide)
      by_cases closes : closer <:+: inside
      · obtain ⟨inner, after, closes⟩ := Text.exists_first (by decide) closes
        have closed : ¬closer <:+: inner := closes.fresh (by decide)
        have shorter : after.length < n := by
          rw [← size, opens.whole, closes.whole]
          simp [opener]
          omega
        obtain ⟨o, plain, whole⟩ := ih after.length shorter after rfl
        refine ⟨⟨before, (inner, o.first) :: o.macros⟩,
          Outline.plain_cons.mpr ⟨fresh, closed, plain⟩, ?_⟩
        rw [Outline.chars_cons, opens.whole, closes.whole]
        rcases whole with rfl | ⟨rest, never, rfl⟩
        · exact .inl rfl
        · exact .inr ⟨rest, never, by simp⟩
      · exact ⟨⟨before, []⟩, Outline.plain_nil.mpr fresh,
          .inr ⟨inside, closes, by rw [Outline.chars_nil, opens.whole]⟩⟩
    · exact ⟨⟨cs, []⟩, Outline.plain_nil.mpr opens, .inl (Outline.chars_nil cs).symm⟩

variable {text : String} {bodies : List String}

theorem scan_of_outline (plain : o.Plain) (whole : text.toList = o.chars) :
    scan text = .ok o.bodies := by
  rw [scan, whole, plain.scanFrom]

theorem scan_of_open (plain : o.Plain) (never : ¬closer <:+: rest)
    (whole : text.toList = o.chars ++ opener ++ rest) :
    scan text = .error (String.ofList o.chars).utf8ByteSize := by
  rw [scan, whole, plain.scanFrom_open never, Nat.zero_add, Text.byteLength_eq]

theorem scan_eq_ok_iff : scan text = .ok bodies ↔
    ∃ o : Outline, o.Plain ∧ text.toList = o.chars ∧ o.bodies = bodies := by
  constructor
  · intro scanned
    obtain ⟨o, plain, whole | ⟨rest, never, whole⟩⟩ := exists_outline text.toList
    · rw [scan_of_outline plain whole] at scanned
      exact ⟨o, plain, whole, Except.ok.inj scanned⟩
    · rw [scan_of_open plain never whole] at scanned
      cases scanned
  · rintro ⟨o, plain, whole, rfl⟩
    exact scan_of_outline plain whole

theorem scan_eq_error_iff : scan text = .error position ↔
    ∃ (o : Outline) (rest : List Char), o.Plain ∧ ¬closer <:+: rest ∧
      text.toList = o.chars ++ opener ++ rest ∧
      (String.ofList o.chars).utf8ByteSize = position := by
  constructor
  · intro scanned
    obtain ⟨o, plain, whole | ⟨rest, never, whole⟩⟩ := exists_outline text.toList
    · rw [scan_of_outline plain whole] at scanned
      cases scanned
    · rw [scan_of_open plain never whole] at scanned
      exact ⟨o, rest, plain, never, whole, Except.error.inj scanned⟩
  · rintro ⟨o, rest, plain, never, whole, rfl⟩
    exact scan_of_open plain never whole

/-- A text has a macro, open or closed, unless a scan finds it empty of them. -/
theorem hasMacro_eq_false_iff : hasMacro text = false ↔ scan text = .ok [] := by
  rw [hasMacro, Text.occurs, Option.isSome_eq_false_iff, Option.isNone_iff_eq_none,
    Text.cut?_eq_none_iff (by decide), scan_eq_ok_iff]
  constructor
  · intro fresh
    exact ⟨⟨text.toList, []⟩, Outline.plain_nil.mpr fresh, (Outline.chars_nil _).symm, rfl⟩
  · rintro ⟨⟨first, macros⟩, plain, whole, none⟩
    obtain rfl : macros = [] := List.map_eq_nil_iff.mp none
    rw [whole, Outline.chars_nil]
    exact plain.first

/-! ### Texts that are declared unchecked -/

end Macro

namespace Variable

/-- The texts that a declaration checks. -/
def declaredTexts (value : String) (kind : VarKind) (c : Constraints) : List String :=
  candidates value c.default ++
    match kind with
    | .options choices => choices
    | _ => []

/-- A text that passes for every pattern and type, so that neither is looked at. -/
def Skipped (text : String) : Prop := ∀ pattern t, checkText pattern t text = .ok ()

variable {text name value : String} {kind : VarKind} {c : Constraints} {v : Variable}

theorem skipped_iff : Skipped text ↔ Macro.hasMacro text = true := by
  constructor
  · intro skipped
    by_contra plain
    rw [Bool.not_eq_true] at plain
    -- No text stands for an integer and for a minute.
    have int := (checkText_ok_iff.mp (skipped none .int)).2.coerced_of plain
    have time := (checkText_ok_iff.mp (skipped none .time)).2.coerced_of plain
    rw [← VarType.coerce_eq_ok_iff, VarType.coerce_ok_iff rfl] at int time
    obtain ⟨i, int, -⟩ := int
    obtain ⟨m, time, -⟩ := time
    exact time.not_int int
  · intro opens pattern t
    exact checkText_ok_iff.mpr ⟨.inl opens, (VarType.Shows.verbatim opens rfl).self⟩

theorem mem_texts (declared : declare name value kind c = .ok v)
    (mem : text ∈ declaredTexts value kind c) : text ∈ v.texts := by
  obtain rfl := eq_ofParts declared
  rcases List.mem_append.mp mem with mem | mem
  · exact List.mem_append_left _ (List.mem_of_mem_filter mem)
  · cases kind with
    | options choices => exact List.mem_append_right _ mem
    | simple | secret | computed => cases mem

end Variable

/-- The variables of an entity and those of its actions. -/
inductive Entity.Declares (e : Entity) : Variable → Prop where
  | own {v : Variable} (mem : v ∈ e.vars.values) : Declares e v
  | inAction {a : Action} {v : Variable} (action : a ∈ e.actions.values)
      (mem : v ∈ a.vars.values) : Declares e v

namespace Macro

/-- A text is reported as a whole, or it has macros and each of them is in scope or reported. -/
inductive Examined (r : ResolvedGraph) (ws : List Warning) (p : Passage) : Prop where
  | reported {position : Nat} (scanned : scan p.text = .error position)
      (warned : ⟨p.site, .unclosed position⟩ ∈ ws)
  | examined {bodies : List String} (scanned : scan p.text = .ok bodies) (some : bodies ≠ [])
      (each : ∀ body ∈ bodies, InScope r p body ∨ ⟨p.site, .unknown body⟩ ∈ ws)

variable {r : ResolvedGraph} {id : EntityId} {e : Entity} {v : Variable} {p : Passage}

theorem exists_passage (met : id ∈ r.reachable) (found : r.graph.entity? id = some e)
    (declares : e.Declares v) (mem : text ∈ v.texts) :
    ∃ p ∈ passages r, p.owner = id ∧ p.text = text := by
  have reached : ∀ p ∈ passagesOf id e, p ∈ passages r := by
    intro p mem
    apply List.mem_flatMap.mpr
    refine ⟨id, met, ?_⟩
    rw [found]
    exact mem
  cases declares with
  | own own =>
    refine ⟨⟨id, none, e.name ++ "." ++ v.name, text⟩, reached _ ?_, rfl, rfl⟩
    exact List.mem_append_left _ (List.mem_flatMap.mpr ⟨v, own, List.mem_map_of_mem mem⟩)
  | @inAction a _ action inside =>
    refine ⟨⟨id, some a, e.name ++ "." ++ a.name ++ "." ++ v.name, text⟩, reached _ ?_, rfl, rfl⟩
    refine List.mem_append_right _ (List.mem_flatMap.mpr ⟨a, action, ?_⟩)
    exact List.mem_append_left _ (List.mem_flatMap.mpr ⟨v, inside, List.mem_map_of_mem mem⟩)

open Classical in
theorem examined_of_hasMacro (opens : hasMacro p.text = true) (mem : p ∈ passages r) :
    Examined r ((passages r).flatMap (Passage.warnings r)) p := by
  have listed : ∀ f ∈ p.faults r, ⟨p.site, f⟩ ∈ (passages r).flatMap (Passage.warnings r) := by
    intro f fault
    exact List.mem_flatMap.mpr ⟨p, mem, List.mem_map_of_mem fault⟩
  cases scanned : scan p.text with
  | error position =>
    apply Examined.reported scanned
    apply listed
    rw [Passage.faults, scanned]
    exact List.mem_singleton_self _
  | ok bodies =>
    apply Examined.examined scanned
    · rintro rfl
      rw [hasMacro_eq_false_iff.mpr scanned] at opens
      cases opens
    · intro body inside
      by_cases known : InScope r p body
      · exact .inl known
      · right
        apply listed
        rw [Passage.faults, scanned]
        exact List.mem_map_of_mem (List.mem_filter.mpr ⟨inside, by simpa using known⟩)

/-- Whatever variable is declared with a text and reached from a root, the macro check reports the
text or examines its macros. -/
def Watched (text : String) : Prop :=
  ∀ (name value : String) (kind : VarKind) (c : Constraints) (v : Variable) (g : EntityGraph)
    (r : ResolvedGraph) (id : EntityId) (e : Entity),
    Variable.declare name value kind c = .ok v → text ∈ Variable.declaredTexts value kind c →
    g.Rooted → resolveGraph g = .ok r → id ∈ r.reachable → r.graph.entity? id = some e →
    e.Declares v →
    ∃ ws, check r false = .ok ws ∧
      ∃ p ∈ passages r, p.owner = id ∧ p.text = text ∧ Examined r ws p

theorem watched_of_hasMacro (opens : hasMacro text = true) : Watched text := by
  intro name value kind c v g r id e declared mem rooted resolved met found declares
  refine ⟨_, check_lenient_ok (ResolvedGraph.closed_of_resolveGraph rooted resolved), ?_⟩
  obtain ⟨p, passage, owner, same⟩ :=
    exists_passage met found declares (Variable.mem_texts declared mem)
  exact ⟨p, passage, owner, same, examined_of_hasMacro (same ▸ opens) passage⟩

/-- **Scanning is exact.** A text has one outline at most. If it has one, the scan lists its macros,
trimmed; if it has none, the scan names the byte position of the first opener, from left to right,
with no closer behind it. A text opens no macro exactly if the scan lists none; the texts that a
declaration passes over are those that open one, and the macro check reports or examines each of
them wherever it can be reached. -/
theorem scan_exact (text : String) :
    (∀ bodies, scan text = .ok bodies ↔
      ∃ o : Outline, o.Plain ∧ text.toList = o.chars ∧ o.bodies = bodies) ∧
    (∀ o o' : Outline, o.Plain → o'.Plain → text.toList = o.chars → text.toList = o'.chars →
      o = o') ∧
    (∀ position, scan text = .error position ↔
      ∃ (o : Outline) (rest : List Char), o.Plain ∧ ¬closer <:+: rest ∧
        text.toList = o.chars ++ opener ++ rest ∧
        (String.ofList o.chars).utf8ByteSize = position) ∧
    (hasMacro text = false ↔ scan text = .ok []) ∧
    (Variable.Skipped text ↔ hasMacro text = true) ∧ (Variable.Skipped text → Watched text) := by
  refine ⟨fun bodies => scan_eq_ok_iff, ?_, fun position => scan_eq_error_iff,
    hasMacro_eq_false_iff, Variable.skipped_iff, ?_⟩
  · intro o o' plain plain' whole whole'
    exact plain.unique plain' (whole.symm.trans whole')
  · intro skipped
    exact watched_of_hasMacro (Variable.skipped_iff.mp skipped)

/-- An at sign too many before a macro, and braces behind it that only seem to open another one. -/
def abutting : Outline := ⟨['é', '@'], [(" a.b ".toList, "\x7bc\x7d@@".toList)]⟩

theorem scan_exact_abutting :
    scan "é@@@\x7b a.b \x7d@@\x7bc\x7d@@" = .ok ["a.b"] ∧
    scan "é@@@\x7b a.b \x7d@@\x7bc\x7d@@@@\x7bd" = .error 19 ∧
    (∀ o : Outline, o.Plain → "é@@@\x7b a.b \x7d@@\x7bc\x7d@@".toList = o.chars → o = abutting) ∧
    Variable.Skipped "8 @@\x7bENV" ∧
    ∃ r ws p, resolveGraph probing = .ok r ∧ check r false = .ok ws ∧ p ∈ passages r ∧
      p.text = "8 @@\x7bENV" ∧ Examined r ws p := by
  have plain : abutting.Plain := ⟨by decide, by decide, by decide⟩
  have whole : "é@@@\x7b a.b \x7d@@\x7bc\x7d@@".toList = abutting.chars := by decide +kernel
  obtain ⟨lists, unique, -⟩ := scan_exact "é@@@\x7b a.b \x7d@@\x7bc\x7d@@"
  obtain ⟨-, -, names, -⟩ := scan_exact "é@@@\x7b a.b \x7d@@\x7bc\x7d@@@@\x7bd"
  obtain ⟨-, -, -, -, skips, watches⟩ := scan_exact "8 @@\x7bENV"
  have skipped : Variable.Skipped "8 @@\x7bENV" := skips.mpr (by decide +kernel)
  refine ⟨(lists _).mpr ⟨abutting, plain, whole, by decide +kernel⟩,
    (names 19).mpr ⟨abutting, ['d'], plain, by decide, by decide +kernel, by decide +kernel⟩,
    fun o plain' whole' => unique o abutting plain' plain whole' whole, skipped, ?_⟩
  have rooted : probing.Rooted := by
    intro root start
    obtain rfl : 1 = root := Option.some.inj start
    decide
  obtain ⟨v, declared, port⟩ := ok_of_test (x := Variable.declare "PORT" "8 @@\x7bENV" .simple {})
    (P := fun v => some [v] = (probing.entity? 0).map (·.vars.values)) (by decide +kernel)
  obtain ⟨r, resolved, met, graph⟩ := ok_of_test (x := resolveGraph probing)
    (P := fun r => 0 ∈ r.reachable ∧
      (r.graph.entity? 0).map (·.vars.values) = (probing.entity? 0).map (·.vars.values))
    (by decide +kernel)
  rw [← port] at graph
  obtain ⟨e, found, values⟩ := Option.map_eq_some_iff.mp graph
  have declares : e.Declares v := .own (by rw [values]; exact List.mem_singleton_self v)
  obtain ⟨ws, checked, p, passage, -, text, examined⟩ := watches skipped "PORT" "8 @@\x7bENV"
    .simple {} v probing r 0 e declared (by decide +kernel) rooted resolved met found declares
  exact ⟨r, ws, p, resolved, checked, passage, text, examined⟩

end Macro

end Blueprint
